import StyledText.Proofs.Hull
import StyledText.Proofs.Values

/-!
# What the bounds enclose

A fragment is shown in a rectangle with real extents, and the bounds are extended by its box, which
has integer ones. The left and the top edge of the two are the same. The right and the bottom edge
of the box are those of the rectangle without their fraction, so an image of fractional size can
jut out of the bounds of its layout.

Results:
1. `Typesetter.within_bounds_iff`: exactly which fragments lie in the bounds. All those of whole
   extents do, and images on the grid jut out by less than one.
2. `Typesetter.within_bounds_iff_fraction`: an image of fractional size that does jut out.
-/

namespace StyledText

namespace Snapshot

/-- The right edge of the rectangle, if it is finite. -/
def right? (s : Snapshot) : Option ℚ := s.width.value?.map (s.x.toInt + ·)

/-- The bottom edge of the rectangle, if it is finite. -/
def bottom? (s : Snapshot) : Option ℚ := s.height.value?.map (s.y.toInt + ·)

/-- The rectangle of the snapshot, in real numbers, lies in that of a box. -/
structure Within (s : Snapshot) (b : Bounds) : Prop where
  left : b.x.toInt ≤ s.x.toInt
  top : b.y.toInt ≤ s.y.toInt
  right : ∃ edge, s.right? = some edge ∧ edge ≤ b.rightEdge
  bottom : ∃ edge, s.bottom? = some edge ∧ edge ≤ b.bottomEdge

end Snapshot

variable {F : Type}

namespace Fragment

/-- The extents of the fragment are kept by its box and by its snapshot: those of an image are
coordinates, and those of a text have at most 24 binary digits. -/
def Whole : Fragment F → Prop
  | text t => t.metrics.width.toInt.natAbs ≤ 0x1000000 ∧ t.metrics.height.toInt.natAbs ≤ 0x1000000
  | image i => ∃ width height : Coordinate,
    i.size.width.value? = some (width.toInt : ℚ) ∧ i.size.height.value? = some (height.toInt : ℚ)

variable [FontFace F]

theorem snapshot_x (f : Fragment F) : f.snapshot.x = f.box.x := by
  cases f <;> rfl

theorem snapshot_y (f : Fragment F) : f.snapshot.y = f.box.y := by
  cases f <;> rfl

theorem value?_of_whole {f : Fragment F} (h : f.Whole) :
    f.snapshot.width.value? = some (f.box.width.toInt : ℚ) ∧
      f.snapshot.height.value? = some (f.box.height.toInt : ℚ) := by
  cases f with
  | text t => exact ⟨Binary32.value?_ofInt h.1, Binary32.value?_ofInt h.2⟩
  | image i =>
    obtain ⟨width, height, hasWidth, hasHeight⟩ := h
    have boxWidth := Binary32.toInt_truncate hasWidth (Coordinate.toInt_inRange width)
    have boxHeight := Binary32.toInt_truncate hasHeight (Coordinate.toInt_inRange height)
    constructor
    · rw [box, boxWidth]
      exact hasWidth
    · rw [box, boxHeight]
      exact hasHeight

/-- A fragment of whole extents is shown just in its box. -/
theorem edges_of_whole {f : Fragment F} (h : f.Whole) :
    f.snapshot.right? = some (f.box.rightEdge : ℚ) ∧
      f.snapshot.bottom? = some (f.box.bottomEdge : ℚ) := by
  obtain ⟨width, height⟩ := value?_of_whole h
  rw [Snapshot.right?, Snapshot.bottom?, width, height, snapshot_x, snapshot_y]
  constructor
  · rw [Bounds.rightEdge, Int.cast_add]
    rfl
  · rw [Bounds.bottomEdge, Int.cast_add]
    rfl

theorem within_of_whole {f : Fragment F} {b : Bounds} (h : f.Whole) (encloses : b.Encloses f.box) :
    f.snapshot.Within b := by
  obtain ⟨right, bottom⟩ := edges_of_whole h
  refine ⟨?_, ?_, ⟨_, right, ?_⟩, ⟨_, bottom, ?_⟩⟩
  · rw [snapshot_x]
    exact encloses.left
  · rw [snapshot_y]
    exact encloses.top
  · exact_mod_cast encloses.right
  · exact_mod_cast encloses.bottom

/-- A fragment of a hull lies in it exactly if its right and its bottom edge are within zero or
within those of some box. -/
theorem within_iff {f : Fragment F} {fragments : List (Fragment F)} {b : Bounds}
    (hull : Bounds.IsHull (fragments.map box) b) (inside : f ∈ fragments) :
    f.snapshot.Within b ↔
      (∃ edge, f.snapshot.right? = some edge ∧
        (edge ≤ 0 ∨ ∃ other ∈ fragments, edge ≤ other.box.rightEdge)) ∧
      ∃ edge, f.snapshot.bottom? = some edge ∧
        (edge ≤ 0 ∨ ∃ other ∈ fragments, edge ≤ other.box.bottomEdge) := by
  have encloses := hull.encloses (List.mem_map_of_mem inside)
  simp only [← hull.le_rightEdge_iff, ← hull.le_bottomEdge_iff]
  constructor
  · intro within
    exact ⟨within.right, within.bottom⟩
  · rintro ⟨right, bottom⟩
    refine ⟨?_, ?_, right, bottom⟩
    · rw [snapshot_x]
      exact encloses.left
    · rw [snapshot_y]
      exact encloses.top

end Fragment

/-- What is as far as the whole part of a number is within one of the number itself. -/
theorem add_lt_of_truncate_le {x : Binary32} {value : ℚ} {start edge : Int}
    (has : x.value? = some value) (small : value < 0x80000000)
    (reached : start + x.truncate.toInt ≤ edge) : (start : ℚ) + value < edge + 1 := by
  have whole := Binary32.lt_truncate has small
  have reached' : (start : ℚ) + x.truncate.toInt ≤ edge := by exact_mod_cast reached
  linarith

namespace Typesetter

variable [FontFace F]

/-- Of what a layout shows, exactly those fragments lie in the bounds whose right and bottom edge,
as real numbers, are within zero or within the edge of some box. That holds of all fragments of
whole extents. An image that is not larger than the grid juts out by less than one. -/
theorem within_bounds_iff {t next : Typesetter F} {resources after : Resources F}
    {list : CommandList} {bounds : Bounds}
    (done : t.typeset resources list = (.ok bounds, next, after)) :
    (∀ fragment ∈ next.fragments, fragment.snapshot.Within bounds ↔
      (∃ edge, fragment.snapshot.right? = some edge ∧
        (edge ≤ 0 ∨ ∃ other ∈ next.fragments, edge ≤ other.box.rightEdge)) ∧
      ∃ edge, fragment.snapshot.bottom? = some edge ∧
        (edge ≤ 0 ∨ ∃ other ∈ next.fragments, edge ≤ other.box.bottomEdge)) ∧
    (∀ fragment ∈ next.fragments, fragment.Whole → fragment.snapshot.Within bounds) ∧
    ∀ image, .image image ∈ next.fragments →
      (∀ width : ℚ, image.size.width.value? = some width → width < 0x80000000 →
        image.position.x.toInt + width < bounds.rightEdge + 1) ∧
      ∀ height : ℚ, image.size.height.value? = some height → height < 0x80000000 →
        image.position.y.toInt + height < bounds.bottomEdge + 1 := by
  obtain ⟨draft, made, rfl, shown⟩ := draft_of_typeset done
  have hull := (Draft.bounded_of_ofList made).hull
  rw [← shown.fragments] at hull
  refine ⟨?_, ?_, ?_⟩
  · intro fragment inside
    exact Fragment.within_iff hull inside
  · intro fragment inside whole
    exact Fragment.within_of_whole whole (hull.encloses (List.mem_map_of_mem inside))
  · intro image inside
    have encloses := hull.encloses (List.mem_map_of_mem inside)
    constructor
    · intro width has small
      exact add_lt_of_truncate_le has small encloses.right
    · intro height has small
      exact add_lt_of_truncate_le has small encloses.bottom

/-- An image of whole size, and one of a size of one and a half. -/
def icons : Resources FixedPitch :=
  Resources.registered default
    [.font { family := some "Mono", pointSize := 12 } none,
      .image "tile" { size := ⟨.ofInt 8, .ofInt 8⟩ },
      .image "icon" { size := ⟨.ofBits 0x3fc00000, .ofBits 0x3fc00000⟩ }]

/-- The image of whole size, at the beginning of a line. -/
def tile : ImageFragment where
  image := { size := ⟨.ofInt 8, .ofInt 8⟩ }
  position := ⟨0, 2⟩
  size := ⟨.ofInt 8, .ofInt 8⟩

/-- The image of fractional size, behind the other one. -/
def icon : ImageFragment where
  image := { size := ⟨.ofBits 0x3fc00000, .ofBits 0x3fc00000⟩ }
  position := ⟨8, 5⟩
  size := ⟨.ofBits 0x3fc00000, .ofBits 0x3fc00000⟩

theorem value?_icon : icon.size.width.value? = some (3 / 2) := by
  have units : icon.size.width =
      .finite false (3 * 2 ^ 148) ⟨by decide, 3, 148, by decide, rfl⟩ := by decide +kernel
  rw [units]
  show some ((((3 * 2 ^ 148 : Nat) : Int) : ℚ) / (2 ^ 149 : Nat)) = _
  norm_num

/-- The image of whole size lies in the bounds. The other one juts out by one half. -/
theorem within_bounds_iff_fraction :
    ∃ next after,
      (new default).typeset icons [.drawImage "tile", .drawImage "icon"] =
        (.ok ⟨0, 0, 9, 10⟩, next, after) ∧
      next.fragments = [.image tile, .image icon] ∧
      (.image tile : Fragment FixedPitch).Whole ∧
      (.image tile : Fragment FixedPitch).snapshot.Within ⟨0, 0, 9, 10⟩ ∧
      (.image icon : Fragment FixedPitch).snapshot.right? = some (19 / 2) ∧
      ¬(.image icon : Fragment FixedPitch).snapshot.Within ⟨0, 0, 9, 10⟩ := by
  have found : ((new default).typeset icons
      [.drawImage "tile", .drawImage "icon"]).1.toOption = some ⟨0, 0, 9, 10⟩ := by
    decide +kernel
  have shown : ((new default).typeset icons
      [.drawImage "tile", .drawImage "icon"]).2.1.fragments = [.image tile, .image icon] := by
    decide +kernel
  obtain ⟨next, after, done⟩ := typeset_of_toOption found
  rw [done] at shown
  obtain ⟨within, kept, -⟩ := within_bounds_iff done
  rw [shown] at within kept
  have whole : (.image tile : Fragment FixedPitch).Whole :=
    ⟨8, 8, Binary32.value?_ofInt (n := 8) (by decide), Binary32.value?_ofInt (n := 8) (by decide)⟩
  have right : (.image icon : Fragment FixedPitch).snapshot.right? = some (19 / 2) := by
    show icon.size.width.value?.map (((8 : Int) : ℚ) + ·) = _
    rw [value?_icon]
    norm_num
  refine ⟨next, after, done, shown, whole, kept _ List.mem_cons_self whole, right, ?_⟩
  rw [within _ (List.mem_cons_of_mem _ List.mem_cons_self)]
  rintro ⟨⟨edge, same, reached⟩, -⟩
  cases right.symm.trans same
  -- The box of the image itself reaches furthest, and it ends at the whole part.
  have tileEdge : (.image tile : Fragment FixedPitch).box.rightEdge = 8 := by decide +kernel
  have iconEdge : (.image icon : Fragment FixedPitch).box.rightEdge = 9 := by decide +kernel
  simp only [List.mem_cons, List.not_mem_nil, or_false, exists_eq_or_imp, exists_eq_left, tileEdge,
    iconEdge] at reached
  norm_num at reached

end Typesetter
end StyledText
