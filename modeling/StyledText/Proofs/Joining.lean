import StyledText.Proofs.Edges

/-!
# Extending a box by many others

A box that is extended by others one after another fails at the first one that leaves the grid, and
which one that is depends on their order. Whether it fails does not: extents only grow on the way,
so every box on the way is there if the last one is. What is reached in the end is the box around
all of them, whose edges do not depend on the order or on how often a box is among the others.

Results:
1. `Bounds.extendAll?_eq_some_iff`: what extending a box by many gives, and when it gives anything.
2. `Bounds.extendAll?_congr`: it depends only on which boxes there are.
3. `Bounds.extendAll?_of_rearranged`: the order does not matter, and neither does a box that is
   there twice.
-/

namespace StyledText
namespace Bounds

/-- The box extended by those of a list one after another, if each of these steps gives a box. -/
def extendAll? (b : Bounds) (boxes : List Bounds) : Option Bounds := boxes.foldlM extend? b

/-- The box around one and those of a list: each of its edges is the outermost of theirs. -/
structure Spans (b : Bounds) (boxes : List Bounds) (c : Bounds) : Prop where
  left : c.x.toInt = (b.x.toInt :: boxes.map (·.x.toInt)).min (List.cons_ne_nil _ _)
  top : c.y.toInt = (b.y.toInt :: boxes.map (·.y.toInt)).min (List.cons_ne_nil _ _)
  right : c.rightEdge = (b.rightEdge :: boxes.map rightEdge).max (List.cons_ne_nil _ _)
  bottom : c.bottomEdge = (b.bottomEdge :: boxes.map bottomEdge).max (List.cons_ne_nil _ _)

/-! ## One step -/

theorem spans_nil_iff {b c : Bounds} : b.Spans [] c ↔ b = c := by
  constructor
  · intro spans
    exact (eq_of_edges spans.left spans.top spans.right spans.bottom).symm
  · rintro rfl
    exact ⟨rfl, rfl, rfl, rfl⟩

/-- The box around two can take their place. -/
theorem spans_cons_iff {b box d c : Bounds} {rest : List Bounds} (joins : b.Joins box d) :
    b.Spans (box :: rest) c ↔ d.Spans rest c := by
  have left : (b.x.toInt :: (box :: rest).map (·.x.toInt)).min (List.cons_ne_nil _ _) =
      (d.x.toInt :: rest.map (·.x.toInt)).min (List.cons_ne_nil _ _) := by
    rw [joins.left, List.map_cons, List.min_cons_cons]
  have top : (b.y.toInt :: (box :: rest).map (·.y.toInt)).min (List.cons_ne_nil _ _) =
      (d.y.toInt :: rest.map (·.y.toInt)).min (List.cons_ne_nil _ _) := by
    rw [joins.top, List.map_cons, List.min_cons_cons]
  have right : (b.rightEdge :: (box :: rest).map rightEdge).max (List.cons_ne_nil _ _) =
      (d.rightEdge :: rest.map rightEdge).max (List.cons_ne_nil _ _) := by
    rw [joins.right, List.map_cons, List.max_cons_cons]
  have bottom : (b.bottomEdge :: (box :: rest).map bottomEdge).max (List.cons_ne_nil _ _) =
      (d.bottomEdge :: rest.map bottomEdge).max (List.cons_ne_nil _ _) := by
    rw [joins.bottom, List.map_cons, List.max_cons_cons]
  constructor
  · intro spans
    exact ⟨spans.left.trans left, spans.top.trans top, spans.right.trans right,
      spans.bottom.trans bottom⟩
  · intro spans
    exact ⟨spans.left.trans left.symm, spans.top.trans top.symm, spans.right.trans right.symm,
      spans.bottom.trans bottom.symm⟩

theorem Spans.encloses {b c : Bounds} {boxes : List Bounds} (spans : b.Spans boxes c) :
    c.Encloses b where
  left := spans.left ▸ List.min_le_of_mem List.mem_cons_self
  top := spans.top ▸ List.min_le_of_mem List.mem_cons_self
  right := spans.right ▸ List.le_max_of_mem List.mem_cons_self
  bottom := spans.bottom ▸ List.le_max_of_mem List.mem_cons_self

theorem Spans.encloses_of_mem {b box c : Bounds} {boxes : List Bounds} (spans : b.Spans boxes c)
    (inside : box ∈ boxes) : c.Encloses box where
  left := spans.left ▸ List.min_le_of_mem (List.mem_cons_of_mem _ (List.mem_map_of_mem inside))
  top := spans.top ▸ List.min_le_of_mem (List.mem_cons_of_mem _ (List.mem_map_of_mem inside))
  right := spans.right ▸ List.le_max_of_mem (List.mem_cons_of_mem _ (List.mem_map_of_mem inside))
  bottom := spans.bottom ▸ List.le_max_of_mem (List.mem_cons_of_mem _ (List.mem_map_of_mem inside))

/-- Two boxes within a third have a box around them: its extents are between those of the first and
of the third. -/
theorem exists_joins_of_encloses {b box c : Bounds} (around : c.Encloses b)
    (around' : c.Encloses box) : ∃ d, b.Joins box d := by
  obtain ⟨left, top, right, bottom⟩ := around
  obtain ⟨left', top', right', bottom'⟩ := around'
  have width := Coordinate.toInt_inRange b.width
  have height := Coordinate.toInt_inRange b.height
  have width' := Coordinate.toInt_inRange c.width
  have height' := Coordinate.toInt_inRange c.height
  simp only [rightEdge, bottomEdge] at right bottom right' bottom'
  refine exists_joins_iff.2 ⟨?_, ?_⟩
  · simp only [Coordinate.InRange, joinedWidth, rightEdge] at width width' ⊢
    omega
  · simp only [Coordinate.InRange, joinedHeight, bottomEdge] at height height' ⊢
    omega

/-! ## All steps -/

/-- A box whose edges are coordinates is extended exactly by boxes whose edges are coordinates too,
to the box around all of them if that has an extent. The induction is on the list: on the way to a
box around all there is one around the first two. -/
theorem extendAll?_eq_some_iff {b c : Bounds} (h : b.Fits) {boxes : List Bounds} :
    b.extendAll? boxes = some c ↔ (∀ box ∈ boxes, box.Fits) ∧ b.Spans boxes c := by
  induction boxes generalizing b with
  | nil => simp [extendAll?, spans_nil_iff]
  | cons box rest ih =>
    rw [extendAll?, List.foldlM_cons, Option.bind_eq_bind, Option.bind_eq_some_iff,
      List.forall_mem_cons]
    constructor
    · rintro ⟨d, extended, folded⟩
      obtain ⟨fits, joins⟩ := (extend?_eq_some_iff h).1 extended
      obtain ⟨all, spans⟩ := (ih (joins.fits h fits)).1 folded
      exact ⟨⟨fits, all⟩, (spans_cons_iff joins).2 spans⟩
    · rintro ⟨⟨fits, all⟩, spans⟩
      obtain ⟨d, joins⟩ :=
        exists_joins_of_encloses spans.encloses (spans.encloses_of_mem List.mem_cons_self)
      exact ⟨d, (extend?_eq_some_iff h).2 ⟨fits, joins⟩,
        (ih (joins.fits h fits)).2 ⟨all, (spans_cons_iff joins).1 spans⟩⟩

/-! ## The same boxes -/

section

variable {first : Int} {numbers others : List Int} (same : ∀ n, n ∈ numbers ↔ n ∈ others)

include same

theorem min_cons_congr :
    (first :: numbers).min (List.cons_ne_nil _ _) =
      (first :: others).min (List.cons_ne_nil _ _) := by
  rw [List.min_eq_iff]
  have least := List.min_eq_iff (l := first :: others) (List.cons_ne_nil _ _) |>.1 rfl
  simpa only [List.mem_cons, same] using least

theorem max_cons_congr :
    (first :: numbers).max (List.cons_ne_nil _ _) =
      (first :: others).max (List.cons_ne_nil _ _) := by
  rw [List.max_eq_iff]
  have greatest := List.max_eq_iff (l := first :: others) (List.cons_ne_nil _ _) |>.1 rfl
  simpa only [List.mem_cons, same] using greatest

end

theorem Spans.congr {b c : Bounds} {boxes others : List Bounds} (spans : b.Spans boxes c)
    (same : ∀ box, box ∈ boxes ↔ box ∈ others) : b.Spans others c := by
  have edges (edge : Bounds → Int) (n : Int) : n ∈ boxes.map edge ↔ n ∈ others.map edge := by
    simp only [List.mem_map, same]
  obtain ⟨left, top, right, bottom⟩ := spans
  exact ⟨left.trans (min_cons_congr (edges _)), top.trans (min_cons_congr (edges _)),
    right.trans (max_cons_congr (edges _)), bottom.trans (max_cons_congr (edges _))⟩

/-- Extending a box by many depends only on which boxes these are, also where it fails. -/
theorem extendAll?_congr {b : Bounds} (h : b.Fits) {boxes others : List Bounds}
    (same : ∀ box, box ∈ boxes ↔ box ∈ others) : b.extendAll? boxes = b.extendAll? others := by
  have spans (c : Bounds) : b.Spans boxes c ↔ b.Spans others c :=
    ⟨fun h => h.congr same, fun h => h.congr fun box => (same box).symm⟩
  refine Option.ext fun c => ?_
  rw [extendAll?_eq_some_iff h, extendAll?_eq_some_iff h, spans]
  simp only [same]

/-- A box whose edges are coordinates is extended by boxes in any order to the same box, or in every
order to none, and a box that is among them may be there once more anywhere. -/
theorem extendAll?_of_rearranged {b : Bounds} (fits : b.Fits) (boxes : List Bounds) :
    (∀ others, others.Perm boxes → b.extendAll? others = b.extendAll? boxes) ∧
      ∀ box ∈ boxes, ∀ front back, boxes = front ++ back →
        b.extendAll? (front ++ box :: back) = b.extendAll? boxes := by
  constructor
  · intro others rearranged
    exact extendAll?_congr fits fun box => rearranged.mem_iff
  · rintro box inside front back rfl
    refine extendAll?_congr fits fun other => ?_
    simp only [List.mem_append, List.mem_cons] at inside ⊢
    constructor
    · rintro (before | rfl | behind)
      · exact .inl before
      · exact inside
      · exact .inr behind
    · rintro (before | behind)
      · exact .inl before
      · exact .inr (.inr behind)

/-- Two boxes that are too far from each other, around one with a negative extent: whichever comes
second has no place. -/
theorem extendAll?_of_rearranged_apart :
    let b : Bounds := ⟨4, 0, -6, 3⟩
    let near : Bounds := ⟨-7, -2, 3, -5⟩
    let far : Bounds := ⟨2147483647, 0, 0, 1⟩
    b.Fits ∧ [far, near].Perm [near, far] ∧
      b.extendAll? [far, near] = b.extendAll? [near, far] ∧ b.extendAll? [near, far] = none ∧
      near ∈ [near] ∧ b.extendAll? [near, near] = b.extendAll? [near] ∧
      b.extendAll? [near] = some ⟨-7, -2, 5, 5⟩ := by
  intro b near far
  have fits : b.Fits := ⟨by decide, by decide⟩
  have swapped : [far, near].Perm [near, far] := .swap near far []
  exact ⟨fits, swapped, (extendAll?_of_rearranged fits [near, far]).1 _ swapped, by decide,
    List.mem_cons_self,
    (extendAll?_of_rearranged fits [near]).2 near List.mem_cons_self [] [near] rfl, by decide⟩

end Bounds
end StyledText
