import StyledText.Binary32.Shortest
import StyledText.Color.Json
import StyledText.Json.Printer
import StyledText.Layout.Typesetter

/-!
# Reports

A report tells the bounds and the fragments of a layout in JSON. Lengths are written with the
fewest digits that read back as the same number; one that is infinite or not a number is `null`.
-/

namespace StyledText

namespace Binary32

/-- The number in JSON. -/
def toJson (x : Binary32) : Json :=
  match x.shortest? with
  | some d => .decimal d
  | none => .null

end Binary32

namespace Coordinate

/-- The coordinate in JSON. -/
def toJson (a : Coordinate) : Json := .integer a.toInt

end Coordinate

namespace Bounds

/-- The box in JSON. -/
def toJson (b : Bounds) : Json :=
  .object [("x", b.x.toJson), ("y", b.y.toJson), ("width", b.width.toJson),
    ("height", b.height.toJson)]

end Bounds

namespace Snapshot

/-- The snapshot in JSON. -/
def toJson (s : Snapshot) : Json :=
  let shown := match s.text with
    | some t => [("kind", .string "text"), ("text", .string t.content),
        ("color", t.color.toJson), ("pointSize", .integer t.pointSize)]
    | none => [("kind", .string "image")]
  .object (shown ++ [("x", s.x.toJson), ("y", s.y.toJson), ("width", s.width.toJson),
    ("height", s.height.toJson)])

end Snapshot

/-- The bounds and the fragments of a layout. -/
structure Report where
  bounds : Bounds
  fragments : List Snapshot

namespace Report

/-- The report of the last layout of a typesetter. -/
def ofTypesetter {F : Type} [FontFace F] (t : Typesetter F) : Report :=
  ⟨t.bounds, t.fragments.map Fragment.snapshot⟩

/-- The report in JSON. -/
def toJson (report : Report) : Json :=
  .object [("bounds", report.bounds.toJson),
    ("fragments", .array (report.fragments.map Snapshot.toJson))]

/-- The text of the report. -/
def text (report : Report) : String := report.toJson.pretty

end Report
end StyledText
