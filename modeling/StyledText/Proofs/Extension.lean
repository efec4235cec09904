import StyledText.Proofs.Hull

/-!
# Longer lists

Commands behind a list never change what the list has laid out: the fragments that are there stay,
with their places and styles, and the bounds only grow. A list that fails does so whatever is behind
it.

Results:
1. `Draft.extends_of_run`: what the rest of a list leaves of the fragments and the bounds.
2. `Draft.ofList_append`: a list behind another one goes on from its draft, or fails with it.
3. `Typesetter.typeset_append`: the same for what a layout shows.
-/

namespace StyledText

variable {F : Type}

namespace Draft

/-- The fragments of a draft are the first ones of another, whose bounds are around its own. -/
structure Extends (draft next : Draft F) : Prop where
  fragments : draft.fragments <+: next.fragments
  bounds : next.state.bounds.Encloses draft.state.bounds

namespace Extends

theorem refl (draft : Draft F) : draft.Extends draft := ⟨List.prefix_rfl, .refl _⟩

theorem trans {first second third : Draft F} (h : first.Extends second)
    (h' : second.Extends third) : first.Extends third :=
  ⟨h.fragments.trans h'.fragments, h.bounds.trans h'.bounds⟩

theorem of_keeps {draft next : Draft F} (keeps : draft.Keeps next) : draft.Extends next := by
  constructor
  · rw [keeps.fragments]
  · rw [keeps.bounds]
    exact .refl _

theorem of_place {draft next : Draft F} {fragment : Fragment F} (h : draft.Bounded)
    (placed : draft.place fragment = .ok next) : draft.Extends next := by
  obtain ⟨fragments, extended, -⟩ := place_eq_ok placed
  obtain ⟨-, joins⟩ := (Bounds.extend?_eq_some_iff h.fits).1 extended
  refine ⟨?_, joins.encloses⟩
  rw [fragments]
  exact List.prefix_append _ _

end Extends

variable [FontFace F] {resources : Resources F} {maxFragments : Nat}

theorem extends_of_step {draft next : Draft F} {command : Command} (h : draft.Bounded)
    (stepped : draft.step resources maxFragments command = .ok next) : draft.Extends next := by
  rcases place_or_keeps_of_step stepped with ⟨drawing, fragment, -, placed⟩ | keeps
  · exact .of_place h placed
  · exact .of_keeps keeps

/-- A run leaves the fragments in front and the bounds inside. -/
theorem extends_of_run {draft last : Draft F} {list : CommandList} (h : draft.Bounded)
    (ran : draft.run resources maxFragments list = .ok last) : draft.Extends last := by
  -- That the edges are in range is what lets the next fragment extend the bounds without a wrap.
  have step : ∀ command ∈ list, ∀ middle next : Draft F,
      middle.Bounded ∧ draft.Extends middle →
        middle.step resources maxFragments command = .ok next →
          next.Bounded ∧ draft.Extends next := by
    rintro command - middle next ⟨bounded, extended⟩ stepped
    exact ⟨bounded_of_step bounded stepped, extended.trans (extends_of_step bounded stepped)⟩
  exact (run_preserves step ⟨h, .refl draft⟩ ran).2

variable {config : Typesetter.Config}

/-- A list with another one in front goes on from the draft of that one, and fails if that fails. -/
theorem ofList_append (front back : CommandList) :
    ofList config resources (front ++ back) =
      (ofList config resources front).bind fun draft =>
        draft.run resources config.maxFragments back := by
  unfold ofList
  cases start config resources with
  | error e => rfl
  | ok draft => exact draft.run_append front back

theorem extends_of_append {front back : CommandList} {last : Draft F}
    (made : ofList config resources (front ++ back) = .ok last) :
    ∃ draft, ofList config resources front = .ok draft ∧ draft.Extends last := by
  rw [ofList_append] at made
  obtain ⟨draft, earlier, ran⟩ := bind_eq_ok_iff.1 made
  exact ⟨draft, earlier, extends_of_run (bounded_of_ofList earlier) ran⟩

end Draft

/-! ## Layouts -/

namespace Typesetter

variable [FontFace F]

/-- A layout that succeeds has done so for every list in front of its own: the fragments of that are
its first ones, and its bounds are around the bounds of that. If the list in front fails, so does
the layout, with the same error. The layouts are of any two typesetters of one configuration, with
resources of the same registrations. -/
theorem typeset_append {t u : Typesetter F} {resources others : Resources F}
    (config : u.config = t.config) (kept : others.pristine = resources.pristine)
    (front back : CommandList) :
    (∀ bounds next after, t.typeset resources (front ++ back) = (.ok bounds, next, after) →
      ∃ bounds' next' after', u.typeset others front = (.ok bounds', next', after') ∧
        next'.fragments <+: next.fragments ∧ bounds.Encloses bounds') ∧
    ∀ e, (u.typeset others front).1 = .error e →
      (t.typeset resources (front ++ back)).1 = .error e := by
  have same : Draft.ofList u.config others front = Draft.ofList t.config resources front := by
    rw [config, (Draft.alike_of_pristine kept).ofList]
  constructor
  · intro bounds next after done
    obtain ⟨last, made, rfl, shown⟩ := draft_of_typeset done
    obtain ⟨draft, earlier, extended⟩ := Draft.extends_of_append made
    obtain ⟨next', after', done', shown'⟩ := typeset_of_ok (same.trans earlier)
    refine ⟨_, next', after', done', ?_, extended.bounds⟩
    rw [shown'.fragments, shown.fragments]
    exact extended.fragments
  · intro e failed
    rw [outcome_eq_error_iff, same] at failed
    rw [outcome_eq_error_iff, Draft.ofList_append, failed]
    rfl

/-- A font that runs to the left and cannot measure a word, and an image that is higher than a
line. -/
def leftward : Resources FixedPitch :=
  Resources.registered default
    [.font { family := some "Mono", pointSize := 12, advance := ⟨-1, 2⟩, refusedText := some "no" }
        none,
      .image "tower" { size := ⟨.ofInt 4, .ofInt 41⟩ }]

/-- The second typesetter has laid out an image before, whose slot it uses again. -/
theorem typeset_append_leftward :
    ∃ (u : Typesetter FixedPitch) (others : Resources FixedPitch),
      u.config = (new default : Typesetter FixedPitch).config ∧
      others.pristine = leftward.pristine ∧
      (∃ next after bounds' next' after',
        (new default).typeset leftward ([.drawText "ab"] ++ [.drawImage "tower", .newline]) =
          (.ok ⟨-12, -14, 12, 41⟩, next, after) ∧
        u.typeset others [.drawText "ab"] = (.ok bounds', next', after') ∧
        next'.fragments <+: next.fragments ∧ Bounds.Encloses ⟨-12, -14, 12, 41⟩ bounds') ∧
      (u.typeset others [.drawText "no"]).1 = .error (.font (.measureFailed "no")) ∧
      ((new default).typeset leftward ([.drawText "no"] ++ [.newline])).1 =
        .error (.font (.measureFailed "no")) := by
  obtain ⟨_, _, _, u, others, laid, shown⟩ :=
    (new default).typeset_shows leftward [.drawImage "tower"]
  have found : ((new default).typeset leftward
      ([.drawText "ab"] ++ [.drawImage "tower", .newline])).1.toOption =
      some ⟨-12, -14, 12, 41⟩ := by
    decide +kernel
  have refused : (((new default).typeset leftward [.drawImage "tower"]).2.1.typeset
      ((new default).typeset leftward [.drawImage "tower"]).2.2 [.drawText "no"]).1 =
      .error (.font (.measureFailed "no")) := by
    decide +kernel
  rw [laid] at refused
  obtain ⟨next, after, done⟩ := typeset_of_toOption found
  obtain ⟨stays, -⟩ := typeset_append shown.config shown.resources [.drawText "ab"]
    [.drawImage "tower", .newline]
  obtain ⟨-, fails⟩ := typeset_append shown.config shown.resources [.drawText "no"] [.newline]
  obtain ⟨bounds', next', after', earlier, fragments, bounds⟩ := stays _ _ _ done
  exact ⟨u, others, shown.config, shown.resources,
    ⟨next, after, bounds', next', after', done, earlier, fragments, bounds⟩, refused,
    fails _ refused⟩

end Typesetter
end StyledText
