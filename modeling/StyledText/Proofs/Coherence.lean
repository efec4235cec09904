import StyledText.Proofs.Commands
import StyledText.Proofs.Consistency
import StyledText.Proofs.History

/-!
# The font of a layout

A layout keeps the name of its font, a size, and the face that it draws with. Two commands change
two of the three each, and may be refused by a font that does not have the size. At every point the
face is nevertheless the one that the named font gives at the size.

Results:
1. `Style.Coherent.next`: every command keeps it so.
2. `Session.font_coherent`: in any session it is so at every point of every layout and in every
   state that a typesetter keeps, and the font still gives the face after anything that happens
   later. A font or a size that is refused changes nothing.
-/

namespace StyledText

variable {F : Type} [FontFace F]

/-! ## One style -/

/-- The face of the style is the one that its font gives at its size. -/
def Style.Coherent (resources : Resources F) (style : Style F) : Prop :=
  resources.face? style.fontName style.fontSize = some (.ok style.font)

namespace Style.Coherent

variable {resources : Resources F} {style : Style F}

theorem setFont (h : style.Coherent resources) (name : String) :
    (style.setFont resources name).Coherent resources := by
  unfold Style.setFont
  split
  · next given => exact given
  · exact h

theorem setSize (h : style.Coherent resources) (fontSize : Nat) :
    (style.setSize resources fontSize).Coherent resources := by
  unfold Style.setSize
  split
  · next given => exact given
  · exact h

theorem next (h : style.Coherent resources) (command : Command) :
    (style.next resources command).Coherent resources := by
  cases command with
  | setColor key =>
    simp only [Style.next]
    split
    · exact h
    · exact h
  | setFont name => exact h.setFont name
  | setSize key =>
    simp only [Style.next]
    split
    · exact h.setSize _
    · exact h
  | _ => exact h

theorem after (h : style.Coherent resources) (list : CommandList) :
    (style.after resources list).Coherent resources := by
  induction list generalizing style with
  | nil => exact h
  | cons command rest ih => exact ih (h.next command)

theorem congr {others : Resources F} (h : style.Coherent resources)
    (same : others.pristine = resources.pristine) : style.Coherent others := by
  unfold Style.Coherent
  rw [Resources.face?_congr same]
  exact h

end Style.Coherent

theorem Typeface.answer_eq_ok_iff {typeface : Typeface F} {size : Nat} {face : F} :
    typeface.answer size = .ok face ↔
      typeface.InRange size ∧ FontFace.variant typeface.base size = .ok face := by
  unfold answer
  split
  · next inRange =>
    rw [and_iff_right inRange]
    cases FontFace.variant typeface.base size with
    | error cause =>
      constructor
      · intro refused
        cases refused
      · intro refused
        cases refused
    | ok found =>
      constructor
      · intro same
        cases same
        rfl
      · intro same
        cases same
        rfl
  · next outside => simp [outside]

/-- A coherent style has a registered font, at a size that is in range. -/
theorem Style.Coherent.exists_typeface {resources : Resources F} {style : Style F}
    (h : style.Coherent resources) (consistent : resources.Consistent) :
    ∃ typeface, resources.font? style.fontName = some typeface ∧ 0 < style.fontSize ∧
      style.fontSize ≤ resources.config.maxPointSize ∧
      FontFace.variant typeface.base style.fontSize = .ok style.font := by
  obtain ⟨typeface, found, answered⟩ := Option.map_eq_some_iff.1 h
  obtain ⟨⟨positive, within⟩, given⟩ := Typeface.answer_eq_ok_iff.1 answered
  rw [consistent.ceiling _ typeface found] at within
  exact ⟨typeface, found, positive, within, given⟩

/-- A face has the size that it is asked for, if the copies of its font have. -/
theorem FontFace.pointSize_of_variant {base face : F} {size : Nat}
    (copies : ∀ size copy, FontFace.copyAt base size = .ok copy → FontFace.pointSize copy = size)
    (given : FontFace.variant base size = .ok face) : FontFace.pointSize face = size := by
  unfold variant at given
  split at given
  · next own =>
    cases given
    exact own.symm
  · exact copies size face given

/-! ## Drafts and passes -/

namespace Draft

theorem coherent_of_start {config : Typesetter.Config} {resources : Resources F} {draft : Draft F}
    (started : start config resources = .ok draft) : draft.state.style.Coherent resources := by
  obtain ⟨fontName, font, -, given, rfl⟩ := start_eq_ok_iff.1 started
  exact given

theorem coherent_of_ofList {config : Typesetter.Config} {resources : Resources F}
    {list : CommandList} {last : Draft F} (made : ofList config resources list = .ok last) :
    last.state.style.Coherent resources := by
  obtain ⟨first, started, ran⟩ := ofList_eq_ok_iff.1 made
  rw [style_of_run ran]
  exact (coherent_of_start started).after list

end Draft

namespace Pass

theorem coherent_of_step {pass next : Pass F} {maxFragments : Nat} {command : Command}
    (sound : pass.Sound) (h : pass.state.style.Coherent pass.resources)
    (stepped : pass.step maxFragments command = .ok next) :
    next.state.style.Coherent next.resources := by
  have drafted := step_draft sound maxFragments command
  rw [stepped] at drafted
  have style : next.state.style = pass.state.style.next pass.resources command :=
    Draft.style_of_step drafted.symm
  rw [style]
  exact (h.next command).congr (step_continues sound stepped).resources

/-- The induction is on the list, so the end of the run is any point at which a command may yet
fail. -/
theorem coherent_of_run {pass : Pass F} {maxFragments : Nat} (sound : pass.Sound)
    (h : pass.state.style.Coherent pass.resources) (list : CommandList) :
    (pass.run maxFragments list).1.state.style.Coherent
      (pass.run maxFragments list).1.resources := by
  induction list generalizing pass with
  | nil => exact h
  | cons command rest ih =>
    unfold run
    cases stepped : pass.step maxFragments command with
    | error e => exact h
    | ok next => exact ih (step_continues sound stepped).sound (coherent_of_step sound h stepped)

theorem setFont_of_refused {pass : Pass F} {maxFragments : Nat} {name : String}
    {cause : ResourceError} {after : Resources F}
    (refused : pass.resources.faceAt name pass.state.fontSize = some (.error cause, after)) :
    pass.step maxFragments (.setFont name) = .ok { pass with resources := after } := by
  simp only [step_eq, setFont, refused]

theorem setSize_of_refused {pass : Pass F} {maxFragments : Nat} {key : String} {size : Nat}
    {cause : ResourceError} {after : Resources F}
    (registered : pass.resources.get? key = some (.size size))
    (refused : pass.resources.faceAt pass.state.fontName size = some (.error cause, after)) :
    pass.step maxFragments (.setSize key) = .ok { pass with resources := after } := by
  simp only [step_eq, registered, setSize, refused]

end Pass

theorem Typesetter.coherent_of_typeset {t next : Typesetter F} {resources after : Resources F}
    {list : CommandList} {outcome : Except LayoutError Bounds} {state : LayoutState F}
    (done : t.typeset resources list = (outcome, next, after)) (kept : next.state = some state) :
    state.style.Coherent after := by
  cases made : Draft.ofList t.config resources list with
  | ok draft =>
    obtain ⟨_, _, laid, shown⟩ := typeset_of_ok made
    rw [done] at laid
    cases laid
    rw [shown.state] at kept
    cases kept
    exact (Draft.coherent_of_ofList made).congr shown.resources
  | error e =>
    obtain ⟨_, _, failed, shown⟩ := typeset_of_error made
    rw [done] at failed
    cases failed
    rw [shown.state] at kept
    cases kept

/-! ## Sessions -/

namespace Session

theorem built_after (config : Resources.Config) (events : List (Event F)) :
    (after config events).resources.Built := by
  refine (Resources.built_registered config (events.filterMap Event.registration?)).congr ?_
  rw [resources_after, Resources.pristine_registered]

/-- What a font gives it gives after any further events. -/
theorem face?_foldl (session : Session F) {name : String} {size : Nat}
    {answer : Except ResourceError F} (given : session.resources.face? name size = some answer)
    (later : List (Event F)) :
    (later.foldl next session).resources.face? name size = some answer := by
  rw [← Resources.face?_pristine, resources_foldl]
  refine Resources.face?_foldl_after ?_ _
  rw [Resources.face?_pristine]
  exact given

/-- The states that the typesetters keep are coherent. -/
def KeepsCoherent (session : Session F) : Prop :=
  ∀ typesetter ∈ session.typesetters, ∀ state, typesetter.state = some state →
    state.style.Coherent session.resources

theorem keepsCoherent_of_typeset {session reached : Session F} {index : Nat} {list : CommandList}
    {outcome : Except LayoutError Bounds} (h : session.KeepsCoherent)
    (done : session.typeset index list = some (outcome, reached)) : reached.KeepsCoherent := by
  have kept := (typeset_keeps done).resources
  unfold typeset at done
  split at done
  · next inside =>
    cases laid : session.typesetters[index].typeset session.resources list with
    | mk result rest =>
      obtain ⟨typesetter, after⟩ := rest
      rw [laid] at done
      cases done
      intro other member state has
      rcases Array.mem_or_eq_of_mem_set (w := inside) member with old | rfl
      · exact (h other old state has).congr kept
      · exact Typesetter.coherent_of_typeset laid has
  · cases done

theorem keepsCoherent_of_layout {session reached : Session F} {index : Nat}
    {options : Markup.Options} {text : String} {outcome : Except Error Bounds}
    (h : session.KeepsCoherent)
    (done : session.layout index options text = some (outcome, reached)) :
    reached.KeepsCoherent := by
  unfold layout at done
  split at done
  · split at done
    · cases done
      exact h
    · obtain ⟨⟨laid, last⟩, typeset, same⟩ := Option.map_eq_some_iff.1 done
      cases same
      exact keepsCoherent_of_typeset h typeset
  · cases done

theorem keepsCoherent_elim {α : Type} {session : Session F} {answer : Option (α × Session F)}
    (h : session.KeepsCoherent)
    (kept : ∀ {outcome : α} {reached : Session F}, answer = some (outcome, reached) →
      reached.KeepsCoherent) : (answer.elim session (·.2)).KeepsCoherent := by
  cases answer with
  | none => exact h
  | some result => exact kept rfl

theorem keepsCoherent_next {session : Session F} (h : session.KeepsCoherent) (event : Event F) :
    (session.next event).KeepsCoherent := by
  cases event with
  | register registration =>
    intro typesetter member state has
    exact Resources.face?_after (h typesetter member state has) registration
  | add config =>
    intro typesetter member state has
    rcases Array.mem_push.1 member with old | rfl
    · exact h typesetter old state has
    · cases has
  | typeset index list => exact keepsCoherent_elim h (keepsCoherent_of_typeset h)
  | layout index options text => exact keepsCoherent_elim h (keepsCoherent_of_layout h)
  | ask name size =>
    refine keepsCoherent_elim h fun {_ reached} asked => ?_
    have kept := (faceAt_keeps asked).resources
    obtain ⟨⟨found, after⟩, done, same⟩ := Option.map_eq_some_iff.1 asked
    cases same
    intro typesetter member state has
    exact (h typesetter member state has).congr kept

theorem keepsCoherent_foldl {session : Session F} (h : session.KeepsCoherent)
    (events : List (Event F)) : (events.foldl next session).KeepsCoherent := by
  induction events generalizing session with
  | nil => exact h
  | cons event rest ih => exact ih (keepsCoherent_next h event)

theorem keepsCoherent_after (config : Resources.Config) (events : List (Event F)) :
    (after config events).KeepsCoherent := by
  refine keepsCoherent_foldl ?_ events
  intro typesetter member
  exact absurd member (Array.not_mem_empty typesetter)

end Session

/-! ## At every time -/

/-- What holds of the state of a layout now and at any later time: its font is registered and its
size in range, the font answers with the face of the state, whatever happens in between, and the
face has the size if the copies of the font have theirs. -/
structure LayoutState.Coherent (resources : Resources F) (state : LayoutState F) : Prop where
  registered : ∃ typeface, resources.font? state.fontName = some typeface
  positive : 0 < state.fontSize
  within : state.fontSize ≤ resources.config.maxPointSize
  answered : ∀ typesetters (later : List (Session.Event F)), ∃ reached,
    (later.foldl Session.next ⟨resources, typesetters⟩).faceAt state.fontName state.fontSize =
      some (.ok state.font, reached)
  pointSize : ∀ typeface, resources.font? state.fontName = some typeface →
    (∀ size copy, FontFace.copyAt typeface.base size = .ok copy → FontFace.pointSize copy = size) →
    FontFace.pointSize state.font = state.fontSize

theorem LayoutState.coherent_of_style {resources : Resources F} {state : LayoutState F}
    (built : resources.Built) (h : state.style.Coherent resources) : state.Coherent resources := by
  obtain ⟨typeface, found, positive, within, given⟩ := h.exists_typeface built.consistent
  refine ⟨⟨typeface, found⟩, positive, within, ?_, ?_⟩
  · intro typesetters later
    obtain ⟨after, asked⟩ := Resources.faceAt_of_face?
      (Session.face?_foldl ⟨resources, typesetters⟩ h later)
    exact ⟨_, Option.map_eq_some_iff.2 ⟨_, asked, rfl⟩⟩
  · intro other same copies
    cases found.symm.trans same
    exact FontFace.pointSize_of_variant copies given

namespace Session

/-- In a session with any history, at every point of every layout, which is the end of a run of the
commands so far, and in every state that a typesetter keeps, the font, its size and its face belong
together now and later. At any such point a font or a size that is refused changes nothing but what
fonts keep, and the layout goes on. -/
theorem font_coherent (config : Resources.Config) (events : List (Event F)) :
    (∀ (t : Typesetter F) first, t.start (after config events).resources = .ok first →
      ∀ list, let point := (first.run t.config.maxFragments list).1
        point.state.Coherent point.resources ∧
        (∀ name cause asked,
          point.resources.faceAt name point.state.fontSize = some (.error cause, asked) →
          point.step t.config.maxFragments (.setFont name) =
            .ok { point with resources := asked }) ∧
        ∀ key size cause asked, point.resources.get? key = some (.size size) →
          point.resources.faceAt point.state.fontName size = some (.error cause, asked) →
          point.step t.config.maxFragments (.setSize key) =
            .ok { point with resources := asked }) ∧
    ∀ typesetter ∈ (after config events).typesetters, ∀ state, typesetter.state = some state →
      state.Coherent (after config events).resources := by
  have built := built_after config events
  constructor
  · intro t first started list
    have begun := t.start_draft (after config events).resources
    rw [started] at begun
    obtain ⟨drafted, sound, kept⟩ := begun
    have coherent : first.state.style.Coherent first.resources :=
      (Draft.coherent_of_start drafted).congr kept
    have continued := (Pass.run_continues sound t.config.maxFragments list).resources
    refine ⟨?_, ?_, ?_⟩
    · exact LayoutState.coherent_of_style (built.congr (continued.trans kept))
        (Pass.coherent_of_run sound coherent list)
    · intro name cause asked refused
      exact Pass.setFont_of_refused refused
    · intro key size cause asked registered refused
      exact Pass.setSize_of_refused registered refused
  · intro typesetter member state has
    exact LayoutState.coherent_of_style built (keepsCoherent_after config events _ member _ has)

/-- Two fonts that each refuse a size of the other. The second one is left at the size that the
first one refuses. -/
def refusingHistory : List (Event FixedPitch) :=
  [.register (.font { family := some "Mono", pointSize := 12, refusedSizes := [24] } none),
    .register (.font { family := some "Serif", pointSize := 10, refusedSizes := [36] } none),
    .register (.size "big" 24), .register (.size "huge" 36), .add default,
    .typeset 0 [.setSize "big", .drawText "a", .setFont "Serif", .setSize "big", .setSize "huge",
      .setFont "Mono", .drawText "b"]]

theorem font_coherent_refusing :
    (∃ first cause asked,
      (Typesetter.new default).start (after default refusingHistory).resources = .ok first ∧
      let point := (first.run 128 [.setFont "Serif", .setSize "big"]).1
      point.state.fontName = "Serif" ∧ point.state.fontSize = 24 ∧
      point.state.Coherent point.resources ∧
      point.resources.faceAt "Mono" point.state.fontSize = some (.error cause, asked) ∧
      point.step 128 (.setFont "Mono") = .ok { point with resources := asked }) ∧
    ∃ typesetter ∈ (after default refusingHistory).typesetters, ∃ state,
      typesetter.state = some state ∧ state.fontName = "Serif" ∧
        state.Coherent (after default refusingHistory).resources := by
  obtain ⟨points, states⟩ := font_coherent default refusingHistory
  constructor
  · have reached : ((Typesetter.new default).start
        (after default refusingHistory).resources).toOption.map (fun first =>
          let point := (first.run 128 [.setFont "Serif", .setSize "big"]).1
          (point.state.fontName, point.state.fontSize,
            (point.resources.faceAt "Mono" point.state.fontSize).map (·.1.isOk))) =
        some ("Serif", 24, some false) := by
      decide +kernel
    cases started : (Typesetter.new default).start (after default refusingHistory).resources with
    | error e =>
      rw [started] at reached
      cases reached
    | ok first =>
      rw [started] at reached
      obtain ⟨coherent, refused, -⟩ := points (.new default) first started
        [.setFont "Serif", .setSize "big"]
      simp only [Except.toOption, Option.map_some, Option.some.injEq, Prod.mk.injEq,
        Option.map_eq_some_iff] at reached
      obtain ⟨font, size, ⟨⟨answer, asked⟩, given, notOk⟩⟩ := reached
      cases answer with
      | ok face => cases notOk
      | error cause =>
        exact ⟨first, cause, asked, rfl, font, size, coherent, given, refused _ _ _ given⟩
  · have kept : ((after default refusingHistory).typesetters[0]?.bind (·.state)).map (·.fontName) =
        some "Serif" := by
      decide +kernel
    obtain ⟨state, has, font⟩ := Option.map_eq_some_iff.1 kept
    obtain ⟨typesetter, found, has⟩ := Option.bind_eq_some_iff.1 has
    have member := Array.mem_of_getElem? found
    exact ⟨typesetter, member, state, has, font, states typesetter member state has⟩

end Session
end StyledText
