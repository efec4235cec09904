import StyledText.Color.Json
import StyledText.Json.Record
import StyledText.Layout.Pass

/-!
# Typesetters

A typesetter lays out lists of commands one after another and keeps the fragments of the last one.
Its slots are used again, so there are as many of them as the largest layout has needed. Each
layout begins anew with the default font and the size and color of the configuration; after one
that fails the typesetter has no fragments.
-/

namespace StyledText

/-- How a typesetter is set up. -/
structure Typesetter.Config where
  maxFragments : Nat := 128
  /-- The point size with which a layout begins. -/
  defaultFontSize : Nat := 12
  /-- The color with which a layout begins. -/
  defaultColor : Color := .white
deriving DecidableEq

namespace Typesetter.Config

instance : Inhabited Typesetter.Config := ⟨⟨128, 12, .white⟩⟩

/-- A configuration from a JSON record. A count has 64 bits and a size 32. -/
def ofJson? (value : Json) : Option Typesetter.Config := do
  let given ← value.record? ["maxFragments", "defaultFontSize", "defaultColor"]
  let standard : Typesetter.Config := default
  let count ← Json.field? given "maxFragments" (some standard.maxFragments)
    (·.natBelow? UInt64.size)
  let size ← Json.field? given "defaultFontSize" (some standard.defaultFontSize)
    (·.natBelow? UInt32.size)
  let color ← Json.field? given "defaultColor" (some standard.defaultColor)
    fun value => (Color.ofJson value).toOption
  return { maxFragments := count, defaultFontSize := size, defaultColor := color }

end Typesetter.Config

/-- A typesetter with the outcome of its last layout. -/
structure Typesetter (F : Type) where
  config : Typesetter.Config
  /-- All slots that were ever needed. -/
  slots : Array (Fragment F) := #[]
  /-- How many slots the last layout has written. -/
  written : Nat := 0
  /-- The state at the end of the last layout, unless that failed. -/
  state : Option (LayoutState F) := none

/-- What drawing a fragment means to a surface. -/
inductive DrawCall (F : Type) where
  | text (font : F) (content : String) (color : Color) (x y : Binary32)
  | image (image : Image) (target : Rect)

namespace Typesetter

variable {F : Type}

/-- A typesetter that has laid out nothing. -/
def new (config : Typesetter.Config) : Typesetter F := { config }

/-- The fragments of the last layout, in order. -/
def fragments (t : Typesetter F) : List (Fragment F) := t.slots.toList.take t.written

/-- The bounds of the last layout, and those of nothing if it failed. -/
def bounds (t : Typesetter F) : Bounds :=
  match t.state with
  | some state => state.bounds
  | none => .empty

/-- How many slots there are. -/
def allocated (t : Typesetter F) : Nat := t.slots.size

/-- The call that draws a fragment when the layout has its origin at a place of the surface. -/
def drawCall (x y : Binary32) : Fragment F → DrawCall F
  | .text run =>
    .text run.font run.content run.color (x + run.position.x.toBinary32)
      (y + run.position.y.toBinary32)
  | .image i =>
    .image i.image ⟨x + i.position.x.toBinary32, y + i.position.y.toBinary32,
      i.size.width, i.size.height⟩

/-- The calls that draw the last layout with its origin at a place of the surface. -/
def drawCalls (t : Typesetter F) (x y : Binary32) : List (DrawCall F) :=
  t.fragments.map (drawCall x y)

/-- The typesetter without a layout, with the slots that it has. -/
def clear (t : Typesetter F) (slots : Array (Fragment F)) : Typesetter F :=
  { config := t.config, slots }

section Typeset

variable [FontFace F]

/-- The state with which a layout begins in the default font at the given size. -/
def initialState (config : Typesetter.Config) (font : F) (fontName : String) : LayoutState F where
  color := config.defaultColor
  font
  fontSize := config.defaultFontSize
  fontName
  cursor := ⟨0, 0⟩
  bounds := .empty

/-- The pass with which a layout begins, and the resources if there is none. -/
def start (t : Typesetter F) (resources : Resources F) :
    Except (LayoutError × Resources F) (Pass F) :=
  match resources.defaultFont with
  | none => .error (.noDefaultFont, resources)
  | some fontName =>
    match resources.faceAt fontName t.config.defaultFontSize with
    | none => .error (.noDefaultFont, resources)
    | some (.error cause, resources) => .error (.resource cause, resources)
    | some (.ok font, resources) =>
      .ok {
        resources
        slots := t.slots
        written := 0
        state := initialState t.config font fontName }

/-- Lays out a list of commands: the bounds or the error, the typesetter and the resources
afterwards. The typesetter is without a layout from the beginning, and is so again after an error,
when slots have been taken. -/
def typeset (t : Typesetter F) (resources : Resources F) (list : CommandList) :
    Except LayoutError Bounds × Typesetter F × Resources F :=
  let t := t.clear t.slots
  match t.start resources with
  | .error (e, resources) => (.error e, t, resources)
  | .ok pass =>
    match pass.applyAll t.config.maxFragments list with
    | (.ok _, last) =>
      (.ok last.state.bounds,
        { t with slots := last.slots, written := last.written, state := some last.state },
        last.resources)
    | (.error e, last) =>
      (.error e, { t with slots := last.slots, written := last.written }.clear last.slots,
        last.resources)

end Typeset
end Typesetter
end StyledText
