import StyledText.Font.FixedPitch
import StyledText.Proofs.Draft
import StyledText.Proofs.Registrations
import StyledText.Session

/-!
# Histories of sessions

Two things in a session outlive a layout: the slots of the typesetters, which hold the fragments of
earlier layouts, and the faces that the fonts keep, which all typesetters share. Neither is ever
seen. A history is any sequence of registrations, new typesetters, layouts that succeed or fail,
and questions for faces, in any order.

Results:
1. `Session.resources_after`: after a history the resources are those of its registrations, but
   for the faces that the fonts keep.
2. `Session.configs_after`: its typesetters keep the configurations that they were added with.
3. `Session.typeset_after_history`: the next layout of a typesetter is that of a new typesetter
   with new resources.
-/

namespace StyledText

/-- What can happen in a session. -/
inductive Session.Event (F : Type) where
  | register (registration : Registration F)
  /-- One more typesetter. -/
  | add (config : Typesetter.Config)
  /-- The typesetter at the index lays out commands. -/
  | typeset (index : Nat) (list : CommandList)
  /-- The typesetter at the index lays out a markup text. -/
  | layout (index : Nat) (options : Markup.Options) (text : String)
  /-- A font is asked for the face at a size. -/
  | ask (name : String) (size : Nat)

variable {F : Type} [FontFace F]

namespace Session

/-- What the event registers. -/
def Event.registration? : Event F → Option (Registration F)
  | .register registration => some registration
  | _ => none

/-- The configuration of the typesetter that the event adds. -/
def Event.config? : Event F → Option Typesetter.Config
  | .add config => some config
  | _ => none

/-- The session after an event. One that names no typesetter or no font does nothing. -/
def next (session : Session F) : Event F → Session F
  | .register registration => { session with resources := session.resources.after registration }
  | .add config => session.addTypesetter config
  | .typeset index list => (session.typeset index list).elim session (·.2)
  | .layout index options text => (session.layout index options text).elim session (·.2)
  | .ask name size => (session.faceAt name size).elim session (·.2)

/-- The session after a history that begins with nothing registered. -/
def after (config : Resources.Config) (events : List (Event F)) : Session F :=
  events.foldl next { resources := .empty config }

/-- The configurations of the typesetters. -/
def configs (session : Session F) : List Typesetter.Config :=
  session.typesetters.toList.map (·.config)

/-! ## One event -/

/-- What a layout or a question keeps of a session. -/
structure Keeps (session next : Session F) : Prop where
  resources : next.resources.pristine = session.resources.pristine
  configs : next.configs = session.configs

theorem Keeps.refl (session : Session F) : session.Keeps session := ⟨rfl, rfl⟩

theorem configs_set {typesetters : Array (Typesetter F)} {index : Nat}
    (h : index < typesetters.size) {typesetter : Typesetter F}
    (same : typesetter.config = typesetters[index].config) (resources after : Resources F) :
    configs ⟨after, typesetters.set index typesetter h⟩ = configs ⟨resources, typesetters⟩ := by
  unfold configs
  rw [Array.toList_set, List.map_set, same]
  refine List.ext_getElem? fun i => ?_
  rw [List.getElem?_set]
  split
  · next equal =>
    subst equal
    simp [h]
  · rfl

theorem typeset_keeps {session next : Session F} {index : Nat} {list : CommandList}
    {outcome : Except LayoutError Bounds}
    (h : session.typeset index list = some (outcome, next)) : session.Keeps next := by
  unfold typeset at h
  split at h
  · next inside =>
    obtain ⟨_, _, _, typesetter, after, done, shown⟩ :=
      session.typesetters[index].typeset_shows session.resources list
    rw [done] at h
    cases h
    exact ⟨shown.resources, configs_set inside shown.config _ _⟩
  · cases h

theorem layout_keeps {session next : Session F} {index : Nat} {options : Markup.Options}
    {text : String} {outcome : Except Error Bounds}
    (h : session.layout index options text = some (outcome, next)) : session.Keeps next := by
  unfold layout at h
  split at h
  · split at h
    · cases h
      exact .refl session
    · obtain ⟨⟨laid, reached⟩, done, same⟩ := Option.map_eq_some_iff.1 h
      cases same
      exact typeset_keeps done
  · cases h

theorem faceAt_keeps {session next : Session F} {name : String} {size : Nat}
    {answer : Except ResourceError F} (h : session.faceAt name size = some (answer, next)) :
    session.Keeps next := by
  unfold faceAt at h
  obtain ⟨⟨found, reached⟩, done, same⟩ := Option.map_eq_some_iff.1 h
  cases same
  exact ⟨(Resources.face?_of_faceAt done).2, rfl⟩

theorem keeps_elim {α : Type} {session : Session F} {answer : Option (α × Session F)}
    (h : ∀ {outcome : α} {next : Session F}, answer = some (outcome, next) → session.Keeps next) :
    session.Keeps (answer.elim session (·.2)) := by
  cases answer with
  | none => exact .refl session
  | some result => exact h rfl

/-- Only a registration changes what is registered, and nothing but what it registers. -/
theorem resources_next (session : Session F) (event : Event F) :
    (session.next event).resources.pristine =
      event.registration?.toList.foldl Resources.after session.resources.pristine := by
  cases event with
  | register registration => exact session.resources.pristine_after registration
  | add config => rfl
  | typeset index list => exact (keeps_elim typeset_keeps).resources
  | layout index options text => exact (keeps_elim layout_keeps).resources
  | ask name size => exact (keeps_elim faceAt_keeps).resources

/-- A typesetter is added behind the others, and keeps its configuration. -/
theorem configs_next (session : Session F) (event : Event F) :
    (session.next event).configs = session.configs ++ event.config?.toList := by
  have none (next : Session F) (h : session.Keeps next) : next.configs = session.configs ++ [] :=
    h.configs.trans (List.append_nil _).symm
  cases event with
  | register registration => exact (List.append_nil _).symm
  | add config => simp [next, configs, addTypesetter, Event.config?, Typesetter.new]
  | typeset index list => exact none _ (keeps_elim typeset_keeps)
  | layout index options text => exact none _ (keeps_elim layout_keeps)
  | ask name size => exact none _ (keeps_elim faceAt_keeps)

/-! ## Histories -/

theorem resources_foldl (events : List (Event F)) (session : Session F) :
    (events.foldl next session).resources.pristine =
      (events.filterMap Event.registration?).foldl Resources.after session.resources.pristine := by
  induction events generalizing session with
  | nil => rfl
  | cons event rest ih =>
    rw [List.foldl_cons, ih, resources_next, List.filterMap_cons]
    cases event.registration? <;> rfl

theorem configs_foldl (events : List (Event F)) (session : Session F) :
    (events.foldl next session).configs =
      session.configs ++ events.filterMap Event.config? := by
  induction events generalizing session with
  | nil => exact (List.append_nil _).symm
  | cons event rest ih =>
    rw [List.foldl_cons, ih, configs_next, List.filterMap_cons, List.append_assoc]
    cases event.config? <;> rfl

/-- But for the faces that the fonts keep, the resources are those of the registrations. -/
theorem resources_after (config : Resources.Config) (events : List (Event F)) :
    (after config events).resources.pristine =
      Resources.registered config (events.filterMap Event.registration?) := by
  unfold after
  rw [resources_foldl, Resources.pristine_empty]
  rfl

theorem alike_after (config : Resources.Config) (events : List (Event F)) :
    Draft.Alike (Resources.registered config (events.filterMap Event.registration?))
      (after config events).resources :=
  Draft.alike_of_pristine (by rw [resources_after, Resources.pristine_registered])

theorem configs_after (config : Resources.Config) (events : List (Event F)) :
    (after config events).configs = events.filterMap Event.config? := by
  unfold after
  rw [configs_foldl]
  rfl

/-- The typesetter at an index has its configuration, and its next layout is that of the session. -/
theorem typeset_at {session : Session F} {index : Nat} {chosen : Typesetter.Config}
    (added : session.configs[index]? = some chosen) (list : CommandList) :
    ∃ typesetter : Typesetter F, typesetter.config = chosen ∧ ∀ {outcome next resources},
      typesetter.typeset session.resources list = (outcome, next, resources) →
      ∃ reached, session.typeset index list = some (outcome, reached) ∧
        reached.typesetters[index]? = some next := by
  rw [configs, List.getElem?_map] at added
  obtain ⟨typesetter, found, own⟩ := Option.map_eq_some_iff.1 added
  rw [Array.getElem?_toList] at found
  obtain ⟨inside, rfl⟩ := Array.getElem?_eq_some_iff.1 found
  refine ⟨session.typesetters[index], own, fun {outcome next resources} done => ?_⟩
  refine ⟨⟨resources, session.typesetters.set index next inside⟩, ?_,
    Array.getElem?_set_self inside⟩
  rw [typeset, dif_pos inside, done]

/-- After any history, the next layout of any typesetter gives what a new typesetter of the same
configuration gives with new resources of the same registrations: the same bounds or error, the
same fragments, state and bounds, and so the same calls to draw it. Nothing that the slots or the
fonts held before shows. -/
theorem typeset_after_history (config : Resources.Config) (events : List (Event F)) (index : Nat)
    {chosen : Typesetter.Config}
    (added : (events.filterMap Event.config?)[index]? = some chosen) (list : CommandList) :
    ∃ outcome reached typesetter fresh resources,
      (after config events).typeset index list = some (outcome, reached) ∧
      reached.typesetters[index]? = some typesetter ∧
      (Typesetter.new chosen).typeset
          (Resources.registered config (events.filterMap Event.registration?)) list =
        (outcome, fresh, resources) ∧
      typesetter.config = fresh.config ∧ typesetter.fragments = fresh.fragments ∧
      typesetter.state = fresh.state ∧ typesetter.bounds = fresh.bounds ∧
      ∀ x y, typesetter.drawCalls x y = fresh.drawCalls x y := by
  -- The typesetter at the index still has the configuration that it was added with.
  rw [← configs_after config] at added
  obtain ⟨typesetter, own, shows⟩ := typeset_at added list
  have kept : (after config events).resources.pristine =
      (Resources.registered config (events.filterMap Event.registration?)).pristine := by
    rw [resources_after, Resources.pristine_registered]
  obtain ⟨outcome, fragments, state, fresh, resources, next, others, done, shown, done', shown'⟩ :=
    Typesetter.typeset_congr (t := .new chosen) own kept list
  obtain ⟨reached, laid, found⟩ := shows done'
  have sameFragments := shown'.fragments.trans shown.fragments.symm
  have sameState := shown'.state.trans shown.state.symm
  refine ⟨outcome, reached, next, fresh, resources, laid, found, done, ?_, sameFragments, sameState,
    ?_, ?_⟩
  · rw [shown'.config, shown.config]
    exact own
  · rw [Typesetter.bounds, Typesetter.bounds, sameState]
  · intro x y
    rw [Typesetter.drawCalls, Typesetter.drawCalls, sameFragments]

/-- Two typesetters share a font and an image. Texts and images follow each other in the slots of
the first; one layout of each fails, by a text that has no measures and by a pool of two slots. -/
def crowdedHistory : List (Event FixedPitch) :=
  [.register (.font { family := some "Mono", pointSize := 10, refusedText := some "no" } none),
    .register (.image "icon" { handle := 7, size := ⟨.ofInt 16, .ofInt 9⟩ }),
    .add default, .typeset 0 [.drawText "first", .drawImage "icon"],
    .register (.size "big" 24), .ask "Mono" 300, .ask "Mono" 24,
    .add { maxFragments := 2 }, .layout 1 default "a\x7b\x7bimage:icon\x7d\x7db",
    .typeset 0 [.drawImage "icon", .setSize "big", .drawText "no"]]

theorem typeset_after_crowded_history :
    (crowdedHistory.filterMap Event.config?)[1]? = some { maxFragments := 2 } ∧
    ∃ outcome reached typesetter fresh resources,
      (after default crowdedHistory).typeset 1 [.drawText "b"] = some (outcome, reached) ∧
      reached.typesetters[1]? = some typesetter ∧
      (Typesetter.new { maxFragments := 2 }).typeset
          (Resources.registered default (crowdedHistory.filterMap Event.registration?))
          [.drawText "b"] =
        (outcome, fresh, resources) ∧
      typesetter.config = fresh.config ∧ typesetter.fragments = fresh.fragments ∧
      typesetter.state = fresh.state ∧ typesetter.bounds = fresh.bounds ∧
      ∀ x y, typesetter.drawCalls x y = fresh.drawCalls x y :=
  ⟨rfl, typeset_after_history default crowdedHistory 1 rfl [.drawText "b"]⟩

end Session
end StyledText
