import StyledText.Font.FixedPitch
import StyledText.Proofs.Commands
import StyledText.Proofs.Edges
import StyledText.Proofs.Registrations

/-!
# The bounds of a layout

The bounds of a layout are built up fragment by fragment, as a corner and an extent. After every
command they are the hull of the origin and of the boxes of the fragments so far, and their edges
are coordinates, so the next fragment extends them without a wrap.

Results:
1. `Draft.bounded_of_ofList`: the bounds of a draft are that hull.
2. `Typesetter.bounds_of_typeset`: the bounds that a layout returns are the hull of what it shows,
   and commands behind the last one that draws have no part in them.
-/

namespace StyledText

/-- The command draws something, if what it refers to is there. -/
def Command.draws : Command → Bool
  | .drawText _ | .useString _ | .drawImage _ => true
  | .setColor _ | .setFont _ | .setSize _ | .newline => false

variable {F : Type}

namespace Draft

/-! ## Fragments and bounds -/

/-- The same fragments and the same bounds. -/
structure Keeps (draft next : Draft F) : Prop where
  fragments : next.fragments = draft.fragments
  bounds : next.state.bounds = draft.state.bounds

namespace Keeps

theorem refl (draft : Draft F) : draft.Keeps draft := ⟨rfl, rfl⟩

theorem trans {first second third : Draft F} (h : first.Keeps second) (h' : second.Keeps third) :
    first.Keeps third :=
  ⟨h'.fragments.trans h.fragments, h'.bounds.trans h.bounds⟩

end Keeps

/-- The bounds are the hull of the fragments so far, and their edges are coordinates. -/
structure Bounded (draft : Draft F) : Prop where
  hull : Bounds.IsHull (draft.fragments.map Fragment.box) draft.state.bounds
  fits : draft.state.bounds.Fits

theorem bounded_of_place {draft next : Draft F} {fragment : Fragment F} (h : draft.Bounded)
    (placed : draft.place fragment = .ok next) : next.Bounded := by
  obtain ⟨fragments, extended, -⟩ := place_eq_ok placed
  obtain ⟨fits, joins⟩ := (Bounds.extend?_eq_some_iff h.fits).1 extended
  refine ⟨?_, joins.fits h.fits fits⟩
  rw [fragments, List.map_append]
  exact h.hull.extend joins

theorem bounded_of_keeps {draft next : Draft F} (h : draft.Bounded) (keeps : draft.Keeps next) :
    next.Bounded := by
  constructor
  · rw [keeps.fragments, keeps.bounds]
    exact h.hull
  · rw [keeps.bounds]
    exact h.fits

/-! ## Commands -/

variable [FontFace F] {resources : Resources F} {maxFragments : Nat}

theorem drawing?_of_quiet {command : Command} (quiet : command.draws = false) :
    resources.drawing? command = none := by
  cases command with
  | drawText content => cases quiet
  | useString key => cases quiet
  | drawImage key => cases quiet
  | _ => rfl

/-- A command places a fragment that it draws, or it keeps the fragments and the bounds. -/
theorem place_or_keeps_of_step {draft next : Draft F} {command : Command}
    (stepped : draft.step resources maxFragments command = .ok next) :
    (∃ drawing fragment, resources.drawing? command = some drawing ∧
      draft.place fragment = .ok next) ∨ draft.Keeps next := by
  rcases draft.step_cases resources maxFragments command with
    ⟨drawing, drawn, does⟩ | ⟨rfl, does⟩ | ⟨-, -, does⟩
  · rw [does] at stepped
    obtain ⟨-, fragment, -, placed⟩ := draw_eq_ok_iff.1 stepped
    exact .inl ⟨drawing, fragment, drawn, placed⟩
  · rw [does] at stepped
    obtain ⟨fragments, bounds, -⟩ := newline_eq_ok stepped
    exact .inr ⟨fragments, bounds⟩
  · rw [does] at stepped
    cases stepped
    exact .inr ⟨rfl, rfl⟩

/-- A command that does not draw keeps the fragments and the bounds. -/
theorem keeps_of_step {draft next : Draft F} {command : Command} (quiet : command.draws = false)
    (stepped : draft.step resources maxFragments command = .ok next) : draft.Keeps next := by
  rcases place_or_keeps_of_step stepped with ⟨drawing, fragment, drawn, placed⟩ | keeps
  · rw [drawing?_of_quiet quiet] at drawn
    cases drawn
  · exact keeps

/-! ## Runs -/

theorem bounded_of_step {draft next : Draft F} {command : Command} (h : draft.Bounded)
    (stepped : draft.step resources maxFragments command = .ok next) : next.Bounded := by
  rcases place_or_keeps_of_step stepped with ⟨drawing, fragment, drawn, placed⟩ | keeps
  · exact bounded_of_place h placed
  · exact bounded_of_keeps h keeps

theorem bounded_of_run {draft last : Draft F} {list : CommandList} (h : draft.Bounded)
    (ran : draft.run resources maxFragments list = .ok last) : last.Bounded :=
  run_preserves (fun _ _ _ _ kept stepped => bounded_of_step kept stepped) h ran

theorem bounded_of_start {config : Typesetter.Config} {draft : Draft F}
    (started : start config resources = .ok draft) : draft.Bounded := by
  unfold start at started
  split at started
  · cases started
  · split at started
    · cases started
    · cases started
    · cases started
      exact ⟨.empty, Bounds.fits_empty⟩

theorem bounded_of_ofList {config : Typesetter.Config} {list : CommandList} {draft : Draft F}
    (made : ofList config resources list = .ok draft) : draft.Bounded := by
  obtain ⟨first, started, ran⟩ := ofList_eq_ok_iff.1 made
  exact bounded_of_run (bounded_of_start started) ran

/-- Commands behind the last one that draws have no part in the fragments and the bounds. -/
theorem ofList_quiet {config : Typesetter.Config} {front back : CommandList} {last : Draft F}
    (quiet : ∀ command ∈ back, command.draws = false)
    (made : ofList config resources (front ++ back) = .ok last) :
    ∃ draft, ofList config resources front = .ok draft ∧ draft.Keeps last := by
  obtain ⟨first, started, ran⟩ := ofList_eq_ok_iff.1 made
  rw [run_append] at ran
  -- The whole list succeeds, so its front does.
  obtain ⟨draft, middle, ran⟩ := bind_eq_ok_iff.1 ran
  refine ⟨draft, ofList_eq_ok_iff.2 ⟨first, started, middle⟩, ?_⟩
  refine run_preserves ?_ (Keeps.refl draft) ran
  intro command inside next after kept stepped
  exact kept.trans (keeps_of_step (quiet command inside) stepped)

end Draft

/-! ## Layouts -/

namespace Typesetter

variable [FontFace F]

/-- The bounds that a layout returns are the hull of the origin and of the boxes of its fragments,
those of nothing if it has none, and the typesetter keeps them. Commands that do not draw behind
the last one that does leave the bounds and the fragments as they are. -/
theorem bounds_of_typeset {t next : Typesetter F} {resources after : Resources F}
    {list : CommandList} {bounds : Bounds}
    (done : t.typeset resources list = (.ok bounds, next, after)) :
    Bounds.IsHull (next.fragments.map Fragment.box) bounds ∧ next.bounds = bounds ∧
      (next.fragments = [] → bounds = .empty) ∧
      ∀ front back, list = front ++ back → (∀ command ∈ back, command.draws = false) →
        ∃ next' after', t.typeset resources front = (.ok bounds, next', after') ∧
          next'.fragments = next.fragments := by
  obtain ⟨draft, made, rfl, shown⟩ := draft_of_typeset done
  have hull := (Draft.bounded_of_ofList made).hull
  rw [← shown.fragments] at hull
  refine ⟨hull, ?_, ?_, ?_⟩
  · rw [Typesetter.bounds, shown.state]
  · intro nothing
    rw [nothing] at hull
    exact hull.unique .empty
  · rintro front back rfl quiet
    obtain ⟨earlier, made', keeps⟩ := Draft.ofList_quiet quiet made
    obtain ⟨next', after', done', shown'⟩ := typeset_of_ok made'
    refine ⟨next', after', ?_, ?_⟩
    · rw [done', keeps.bounds]
    · rw [shown'.fragments, shown.fragments, keeps.fragments]

/-- A font that runs to the left, and an image that is higher than a line. -/
def leaning : Resources FixedPitch :=
  Resources.registered default
    [.font { family := some "Mono", pointSize := 12, advance := ⟨-1, 2⟩ } none,
      .image "tower" { size := ⟨.ofInt 4, .ofInt 41⟩ }]

theorem bounds_of_typeset_leaning :
    ∃ next after next' after',
      (new default).typeset leaning [.drawText "ab", .drawImage "tower", .newline] =
        (.ok ⟨-12, -14, 12, 41⟩, next, after) ∧
      Bounds.IsHull (next.fragments.map Fragment.box) ⟨-12, -14, 12, 41⟩ ∧
      next.bounds = ⟨-12, -14, 12, 41⟩ ∧
      (∀ command ∈ [Command.newline], command.draws = false) ∧
      (new default).typeset leaning [.drawText "ab", .drawImage "tower"] =
        (.ok ⟨-12, -14, 12, 41⟩, next', after') ∧
      next'.fragments = next.fragments := by
  have found : ((new default).typeset leaning
      [.drawText "ab", .drawImage "tower", .newline]).1.toOption = some ⟨-12, -14, 12, 41⟩ := by
    decide +kernel
  obtain ⟨next, after, done⟩ := typeset_of_toOption found
  have quiet : ∀ command ∈ [Command.newline], command.draws = false := by decide
  obtain ⟨hull, kept, -, earlier⟩ := bounds_of_typeset done
  obtain ⟨next', after', done', same⟩ := earlier [.drawText "ab", .drawImage "tower"] _ rfl quiet
  exact ⟨next, after, next', after', done, hull, kept, quiet, done', same⟩

end Typesetter
end StyledText
