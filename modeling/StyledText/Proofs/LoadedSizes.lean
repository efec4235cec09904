import Mathlib.Data.List.Forall2
import StyledText.Font.FixedPitch
import StyledText.Proofs.History
import StyledText.Proofs.Keys
import StyledText.Proofs.PlainFonts

/-!
# The size that a font is loaded at

A font file is loaded at a size, but a layout asks for its face at sizes of its own. The size that
it was loaded at decides whether such a face is the loaded one or a copy of it, and the two are the
same; at a size that is not to be had, the loaded face is not given away either. So nothing of a
layout tells at which sizes its fonts were loaded.

Results:
1. `TrueTypeFont.akin_of_load`: two faces of one file are of one font.
2. `Resources.Akin.foldl_after`: resources whose fonts are the same, but for the sizes that they
   were loaded at, give the same faces and the same entries.
3. `Session.typeset_of_reloaded`: in any session the layouts do not depend on these sizes.
-/

namespace StyledText

variable {F : Type} [FontFace F]

/-! ## One font -/

/-- Two faces of one font: they tell the same family, and the same face at every size. -/
structure FontFace.Akin (base other : F) : Prop where
  family : FontFace.family? other = FontFace.family? base
  variant : ∀ size, FontFace.variant other size = FontFace.variant base size

theorem FontFace.Akin.refl (base : F) : FontFace.Akin base base := ⟨rfl, fun _ => rfl⟩

/-- Two faces of one font answer alike, each in its own typeface. -/
theorem FontFace.Akin.answer_ofBase {base other : F} (h : FontFace.Akin base other) (name : String)
    (maxPointSize size : Nat) :
    (Typeface.ofBase name other maxPointSize).answer size =
      (Typeface.ofBase name base maxPointSize).answer size := by
  have variant : FontFace.variant (Typeface.ofBase name other maxPointSize).base size =
      FontFace.variant (Typeface.ofBase name base maxPointSize).base size := h.variant size
  rw [Typeface.answer, Typeface.answer, variant]
  rfl

variable {parser : FontParser}

namespace TrueTypeFont

/-- A file that can be loaded at one size can be loaded at any, to the same face. -/
theorem ofBytes_resized {data : ByteArray} {index size : Nat} {font : TrueTypeFont parser}
    (loaded : ofBytes parser data index size = .ok font) (size' : Nat) :
    ofBytes parser data index size' = .ok { font with pointSize := size' } := by
  unfold ofBytes at loaded ⊢
  split at loaded
  · cases loaded
  · next face =>
    cases loaded
    rfl

/-- The face at a size is a copy that says so, also at the size of the font itself. -/
theorem variant_eq (font : TrueTypeFont parser) (size : Nat) :
    FontFace.variant font size = .ok { font with pointSize := size } := by
  unfold FontFace.variant
  split
  · next own =>
    rw [own]
    rfl
  · rfl

end TrueTypeFont

section

variable {G : Type} [FontFace G]

theorem FontFace.variant_inl (font : F) (size : Nat) :
    FontFace.variant (.inl font : F ⊕ G) size = (FontFace.variant font size).map .inl := by
  have own : FontFace.pointSize (.inl font : F ⊕ G) = FontFace.pointSize font := rfl
  rw [variant, variant, own]
  split <;> rfl

/-- Two faces of one file are of one font, whatever sizes they were loaded at. -/
theorem TrueTypeFont.akin_of_ofBytes {data : ByteArray} {index size size' : Nat}
    {font font' : TrueTypeFont parser} (loaded : ofBytes parser data index size = .ok font)
    (loaded' : ofBytes parser data index size' = .ok font') :
    FontFace.Akin (.inl font : TrueTypeFont parser ⊕ G) (.inl font') := by
  obtain rfl := Except.ok.inj ((ofBytes_resized loaded size').symm.trans loaded')
  refine ⟨rfl, fun size => ?_⟩
  rw [FontFace.variant_inl, FontFace.variant_inl, variant_eq, variant_eq]

end

/-! ## Resources -/

/-- Two registrations are the same, but that one font may be given by different faces of it. -/
inductive Registration.Akin : Registration F → Registration F → Prop where
  | font {base other : F} (name? : Option String) :
      FontFace.Akin base other → Akin (.font base name?) (.font other name?)
  | same (registration : Registration F) : Akin registration registration

namespace Resources

/-- Resources with the same entries, and with fonts under the same names that give the same
faces. -/
structure Akin (resources others : Resources F) : Prop where
  same_config : others.config = resources.config
  registry : others.registry = resources.registry
  default : others.defaultFont = resources.defaultFont
  face : ∀ name size, others.face? name size = resources.face? name size

namespace Akin

variable {resources others : Resources F}

theorem refl (resources : Resources F) : resources.Akin resources := ⟨rfl, rfl, rfl, fun _ _ => rfl⟩

theorem alike (h : resources.Akin others) : Draft.Alike resources others where
  default := h.default
  entry key := by rw [get?, get?, h.registry]
  face := h.face

theorem isSome (h : resources.Akin others) (name : String) :
    (others.font? name).isSome = (resources.font? name).isSome := by
  have asked := congrArg Option.isSome (h.face name 0)
  simpa only [face?, Option.isSome_map] using asked

theorem withFont (h : resources.Akin others) {base other : F} (akin : FontFace.Akin base other)
    (name : String) : (resources.withFont name base).Akin (others.withFont name other) where
  same_config := h.same_config
  registry := h.registry
  default := by simp only [Resources.withFont, h.default]
  face other size := by
    simp only [face?, font?_withFont]
    split
    · rw [Option.map_some, Option.map_some, h.same_config, akin.answer_ofBase]
    · exact h.face other size

theorem insert (h : resources.Akin others) (key : String) (entry : Entry) :
    Akin { resources with registry := resources.registry.insert key entry }
      { others with registry := others.registry.insert key entry } where
  same_config := h.same_config
  registry := by simp only [h.registry]
  default := h.default
  face := h.face

theorem after_font (h : resources.Akin others) {base other : F} (akin : FontFace.Akin base other)
    (name? : Option String) :
    (resources.after (.font base name?)).Akin (others.after (.font other name?)) := by
  have named : fontName other name? = fontName base name? := by
    cases name? with
    | some name => rfl
    | none => simp only [fontName, akin.family]
  rw [Resources.after_font, Resources.after_font, named]
  cases fontName base name? with
  | error e => exact h
  | ok name =>
    simp only [h.isSome]
    split
    · exact h
    · exact h.withFont akin name

theorem after_register (h : resources.Akin others) {registration : Registration F} {key : String}
    {entry : Entry} (registers : ∀ resources : Resources F,
      registration.apply resources = resources.register key entry) :
    (resources.after registration).Akin (others.after registration) := by
  rw [Resources.after, Resources.after, registers, registers, register, register]
  by_cases empty : key = ""
  · rw [if_pos empty, if_pos empty]
    exact h
  · rw [if_neg empty, if_neg empty]
    exact h.insert key entry

/-- A registration does the same to resources of the same fonts: it fails on both, or both are of
the same fonts again. -/
theorem after (h : resources.Akin others) {registration registration' : Registration F}
    (akin : registration.Akin registration') :
    (resources.after registration).Akin (others.after registration') := by
  cases akin with
  | font name? akin => exact h.after_font akin name?
  | same =>
    cases registration with
    | font base name? => exact h.after_font (.refl base) name?
    | string key text => exact h.after_register fun _ => rfl
    | color key value => exact h.after_register fun _ => rfl
    | size key pointSize =>
      by_cases zero : pointSize = 0
      · subst zero
        exact h
      · exact h.after_register fun _ => if_neg zero
    | image key value => exact h.after_register fun _ => rfl
    | palette =>
      refine ⟨h.same_config, ?_, h.default, h.face⟩
      show others.registerPalette.registry = resources.registerPalette.registry
      simp only [registerPalette, h.registry]

theorem foldl_after (h : resources.Akin others)
    {registrations registrations' : List (Registration F)}
    (akin : List.Forall₂ Registration.Akin registrations registrations') :
    (registrations.foldl Resources.after resources).Akin
      (registrations'.foldl Resources.after others) := by
  induction akin generalizing resources others with
  | nil => exact h
  | cons first _ ih => exact ih (h.after first)

end Akin

/-- The same registrations, but for the faces that fonts are given by, come to resources of the same
fonts. -/
theorem akin_registered (config : Config) {registrations registrations' : List (Registration F)}
    (akin : List.Forall₂ Registration.Akin registrations registrations') :
    (registered config registrations).Akin (registered config registrations') :=
  (Akin.refl _).foldl_after akin

end Resources

/-! ## Sessions -/

namespace Session

/-- Two events are the same, but that one file may be loaded at different sizes to be registered. -/
inductive Event.Reloaded {G : Type} [FontFace G] :
    Event (TrueTypeFont parser ⊕ G) → Event (TrueTypeFont parser ⊕ G) → Prop where
  | font {data : ByteArray} {index size size' : Nat} {font font' : TrueTypeFont parser}
      (name? : Option String) :
      TrueTypeFont.ofBytes parser data index size = .ok font →
      TrueTypeFont.ofBytes parser data index size' = .ok font' →
      Reloaded (.register (.font (.inl font) name?)) (.register (.font (.inl font') name?))
  | same (event : Event (TrueTypeFont parser ⊕ G)) : Reloaded event event

section

variable {G : Type} [FontFace G] {events events' : List (Event (TrueTypeFont parser ⊕ G))}

theorem akin_of_reloaded (reloaded : List.Forall₂ Event.Reloaded events events') :
    List.Forall₂ Registration.Akin (events.filterMap Event.registration?)
      (events'.filterMap Event.registration?) := by
  induction reloaded with
  | nil => exact .nil
  | @cons event _ _ _ first _ ih =>
    cases first with
    | font name? loaded loaded' =>
      exact .cons (.font name? (TrueTypeFont.akin_of_ofBytes loaded loaded')) ih
    | same =>
      cases event with
      | register registration => exact .cons (.same registration) ih
      | _ => exact ih

theorem configs_of_reloaded (reloaded : List.Forall₂ Event.Reloaded events events') :
    events'.filterMap Event.config? = events.filterMap Event.config? := by
  induction reloaded with
  | nil => rfl
  | cons first _ ih =>
    cases first with
    | font => exact ih
    | same => simp only [List.filterMap_cons, ih]

/-- Whatever the parser makes of font files: in two sessions of the same events, but with files
loaded at other sizes, the next layout of every typesetter gives the same: the bounds or the error,
the fragments with their faces, and the state. -/
theorem typeset_of_reloaded (config : Resources.Config)
    (reloaded : List.Forall₂ Event.Reloaded events events') (index : Nat)
    {chosen : Typesetter.Config}
    (added : (events.filterMap Event.config?)[index]? = some chosen) (list : CommandList) :
    ∃ outcome reached reached' typesetter typesetter',
      (after config events).typeset index list = some (outcome, reached) ∧
      (after config events').typeset index list = some (outcome, reached') ∧
      reached.typesetters[index]? = some typesetter ∧
      reached'.typesetters[index]? = some typesetter' ∧
      typesetter'.fragments = typesetter.fragments ∧ typesetter'.state = typesetter.state := by
  have added' : (after config events').configs[index]? = some chosen := by
    rw [configs_after, configs_of_reloaded reloaded, added]
  rw [← configs_after config] at added
  obtain ⟨t, own, shows⟩ := typeset_at added list
  obtain ⟨u, own', shows'⟩ := typeset_at added' list
  -- The faces that fonts keep in the two sessions may differ, but not the faces that they give.
  have akin := Resources.akin_registered config (akin_of_reloaded reloaded)
  have same : Draft.ofList u.config (after config events').resources list =
      Draft.ofList t.config (after config events).resources list := by
    rw [own, own', (alike_after config events).ofList, (alike_after config events').ofList,
      akin.alike.ofList]
  obtain ⟨outcome, fragments, state, next, _, next', _, done, shown, done', shown'⟩ :=
    Typesetter.typeset_of_same same
  obtain ⟨reached, laid, found⟩ := shows done
  obtain ⟨reached', laid', found'⟩ := shows' done'
  exact ⟨outcome, reached, reached', next, next', laid, laid', found, found',
    shown'.fragments.trans shown.fragments.symm, shown'.state.trans shown.state.symm⟩

end

/-- A font and another one beside it. The font is asked for a size that is too large, and a layout
has changed its size. -/
def resizedHistory (font : TrueTypeFont Sfnt.parse) :
    List (Event (TrueTypeFont Sfnt.parse ⊕ FixedPitch)) :=
  [.register (.font (.inl font) (some "main")),
    .register (.font (.inr { family := some "Mono", pointSize := 10 }) none),
    .register (.size "big" 24), .ask "main" 300, .add default,
    .typeset 0 [.drawText "a", .setSize "big", .drawText "b"]]

/-- The font is loaded at the size with which a layout begins, and at one that is too large. -/
theorem typeset_of_reloaded_plain :
    ∃ font font', TrueTypeFont.ofBytes Sfnt.parse Sfnt.wideFile 0 12 = .ok font ∧
      TrueTypeFont.ofBytes Sfnt.parse Sfnt.wideFile 0 300 = .ok font' ∧
      List.Forall₂ Event.Reloaded (resizedHistory font) (resizedHistory font') ∧
      ((resizedHistory font).filterMap Event.config?)[0]? = some default ∧
      ∃ outcome reached reached' typesetter typesetter',
        (after default (resizedHistory font)).typeset 0
            [.setFont "Mono", .setSize "big", .setFont "main", .drawText "ab"] =
          some (outcome, reached) ∧
        (after default (resizedHistory font')).typeset 0
            [.setFont "Mono", .setSize "big", .setFont "main", .drawText "ab"] =
          some (outcome, reached') ∧
        reached.typesetters[0]? = some typesetter ∧
        reached'.typesetters[0]? = some typesetter' ∧
        typesetter'.fragments = typesetter.fragments ∧ typesetter'.state = typesetter.state := by
  obtain ⟨font, loaded⟩ := Sfnt.exists_ofBytes_wideFile 12
  have loaded' := TrueTypeFont.ofBytes_resized loaded 300
  have reloaded : List.Forall₂ Event.Reloaded (resizedHistory font)
      (resizedHistory { font with pointSize := 300 }) :=
    .cons (.font _ loaded loaded') (List.forall₂_same.2 fun event _ => .same event)
  exact ⟨font, _, loaded, loaded', reloaded, rfl, typeset_of_reloaded default reloaded 0 rfl _⟩

end Session
end StyledText
