import StyledText.Font.FixedPitch
import StyledText.Proofs.Consistency

/-!
# Empty keys

No entry is ever registered under an empty key, and no font is given an empty name. But a font that
is registered without a name takes that of its family, and a family name may be empty: this is the
one way in which the empty name comes to be a key.

Results:
1. `Resources.font?_foldl_after`, `Resources.defaultFont_foldl_after`: the names of fonts, and which
   one is the default, are those that the registrations ask for.
2. `Registration.apply_of_keyless`: what comes without a key is refused, and with which error.
3. `Resources.empty_key_iff`: exactly when something is under the empty key.
-/

namespace StyledText

theorem Registry.get?_insertAll_of_others {r : Registry} {entries : List (String × Entry)}
    {key : String} (others : ∀ entry ∈ entries, entry.1 ≠ key) :
    (r.insertAll entries).get? key = r.get? key := by
  have unlisted : entries.reverse.lookup key = none := by
    rw [List.lookup_eq_none_iff]
    intro entry inside
    exact bne_iff_ne.2 (others entry (List.mem_reverse.1 inside)).symm
  rw [get?_insertAll, unlisted, Option.none_or]

variable {F : Type} [FontFace F]

/-! ## Names and keys that are asked for -/

namespace Registration

/-- The name under which a registration wants to put a font, if it has one. -/
def fontName? : Registration F → Option String
  | .font base name? => (Resources.fontName base name?).toOption
  | .string _ _ | .color _ _ | .size _ _ | .image _ _ | .palette => none

/-- A font without a name, of a family whose name is empty. -/
def Blank : Registration F → Prop
  | .font base none => FontFace.family? base = some ""
  | _ => False

/-- The registration has no key: the given one is empty, or none is given for a font without a
family. -/
def Keyless : Registration F → Prop
  | .font base none => FontFace.family? base = none
  | .font _ (some name) => name = ""
  | .string key _ | .color key _ | .size key _ | .image key _ => key = ""
  | .palette => False

/-- What a registration without a key is refused with. The size is looked at before the key. -/
def refusal (config : Resources.Config) : Registration F → ResourceError
  | .font _ none => .unnamedFont
  | .size _ 0 => .pointSizeOutOfRange 0 config.maxPointSize
  | _ => .emptyKey

/-- Nothing but a blank font asks for the empty name. -/
theorem fontName?_eq_empty_iff {registration : Registration F} :
    registration.fontName? = some "" ↔ registration.Blank := by
  cases registration with
  | font base name? =>
    cases name? with
    | none =>
      simp only [fontName?, Resources.fontName, Blank]
      cases FontFace.family? base <;> simp [Except.toOption]
    | some name =>
      simp only [fontName?, Resources.fontName, Blank]
      split <;> simp [Except.toOption, *]
  | _ => simp [fontName?, Blank]

/-- What comes without a key is refused, whatever is registered already. -/
theorem apply_of_keyless (resources : Resources F) {registration : Registration F}
    (keyless : registration.Keyless) :
    (registration.apply resources).1 = .error (registration.refusal resources.config) := by
  cases registration with
  | font base name? =>
    cases name? with
    | none =>
      have family : FontFace.family? base = none := keyless
      simp only [apply, Resources.registerFont, Resources.fontName, family]
      rfl
    | some name =>
      cases keyless
      rfl
  | size key pointSize =>
    cases keyless
    cases pointSize <;> rfl
  | palette => cases keyless
  | _ =>
    cases keyless
    rfl

end Registration

namespace Resources

/-! ## Fonts by their names -/

/-- What a registration of a font leaves: the font is there if it has a name that no font has. -/
theorem after_font (resources : Resources F) (base : F) (name? : Option String) :
    resources.after (.font base name?) =
      match fontName base name? with
      | .ok name => if (resources.font? name).isSome then resources else resources.withFont name base
      | .error _ => resources := by
  have contains (name : String) : resources.fonts.contains name = (resources.font? name).isSome :=
    Std.ExtTreeMap.contains_eq_isSome_getElem?
  simp only [after, Registration.apply, registerFont, contains]
  cases fontName base name? with
  | error e => rfl
  | ok name =>
    by_cases taken : (resources.font? name).isSome = true
    · simp only [if_pos taken]
    · simp only [if_neg taken]
      rfl

theorem fonts_after_of_entries (resources : Resources F) {registration : Registration F}
    {entries : List (String × Entry)} (listed : registration.entries? = some entries) :
    (resources.after registration).fonts = resources.fonts ∧
      (resources.after registration).defaultFont = resources.defaultFont := by
  refine after_induction
    (fun next => next.fonts = resources.fonts ∧ next.defaultFont = resources.defaultFont)
    ⟨rfl, rfl⟩ fun {next} yields => ?_
  cases yields with
  | font => cases listed
  | entries => exact ⟨rfl, rfl⟩

/-- A registration adds the name that it asks for to those of the fonts. -/
theorem font?_isSome_after (resources : Resources F) (registration : Registration F)
    (name : String) :
    ((resources.after registration).font? name).isSome ↔
      (resources.font? name).isSome ∨ registration.fontName? = some name := by
  have entered {entries : List (String × Entry)} (listed : registration.entries? = some entries)
      (unnamed : registration.fontName? = none) :
      ((resources.after registration).font? name).isSome ↔
        (resources.font? name).isSome ∨ registration.fontName? = some name := by
    rw [font?, (fonts_after_of_entries resources listed).1, unnamed]
    simp [font?]
  cases registration with
  | font base name? =>
    rw [after_font, Registration.fontName?]
    cases fontName base name? with
    | error e => simp [Except.toOption]
    | ok asked =>
      simp only [Except.toOption, Option.some.injEq]
      split
      · next taken =>
        constructor
        · exact .inl
        · rintro (found | rfl)
          · exact found
          · exact taken
      · rw [font?_withFont]
        split
        · next same => simp [same]
        · next other => simp [other]
  | _ => exact entered rfl rfl

theorem font?_foldl_after (registrations : List (Registration F)) (resources : Resources F)
    (name : String) :
    ((registrations.foldl after resources).font? name).isSome ↔
      (resources.font? name).isSome ∨ name ∈ registrations.filterMap Registration.fontName? := by
  induction registrations generalizing resources with
  | nil => simp
  | cons registration rest ih =>
    rw [List.foldl_cons, ih, font?_isSome_after, or_assoc]
    simp only [List.mem_filterMap, List.mem_cons, or_and_right, exists_or, exists_eq_left]

/-- The default font, if there is none yet, is the one that is registered. -/
theorem defaultFont_after {resources : Resources F} (consistent : resources.Consistent)
    (registration : Registration F) :
    (resources.after registration).defaultFont =
      (resources.defaultFont <|> registration.fontName?) := by
  have entered {entries : List (String × Entry)} (listed : registration.entries? = some entries)
      (unnamed : registration.fontName? = none) :
      (resources.after registration).defaultFont =
        (resources.defaultFont <|> registration.fontName?) := by
    rw [(fonts_after_of_entries resources listed).2, unnamed]
    simp
  cases registration with
  | font base name? =>
    rw [after_font, Registration.fontName?]
    cases fontName base name? with
    | error e => simp [Except.toOption]
    | ok asked =>
      dsimp only
      split
      · next taken =>
        obtain ⟨first, isDefault⟩ :=
          Option.isSome_iff_exists.1 (consistent.default_of_font asked taken)
        rw [isDefault]
        rfl
      · rfl
  | _ => exact entered rfl rfl

theorem defaultFont_foldl_after (registrations : List (Registration F)) {resources : Resources F}
    (consistent : resources.Consistent) :
    (registrations.foldl after resources).defaultFont =
      (resources.defaultFont <|> registrations.findSome? Registration.fontName?) := by
  induction registrations generalizing resources with
  | nil => simp
  | cons registration rest ih =>
    have later : (resources.after registration).Consistent :=
      after_induction Consistent consistent consistent.of_yields
    rw [List.foldl_cons, ih later, defaultFont_after consistent, List.findSome?_cons]
    cases resources.defaultFont <;> cases registration.fontName? <;> rfl

/-! ## The empty key -/

theorem get?_empty_of_yields {resources next : Resources F} {registration : Registration F}
    (vacant : resources.get? "" = none) (yields : registration.Yields resources next) :
    next.get? "" = none := by
  cases yields with
  | font => exact vacant
  | entries _ ne_empty => exact (Registry.get?_insertAll_of_others ne_empty).trans vacant

/-- Exactly when something is under the empty key: never an entry, and a font if and only if a
blank one is registered, which is the default if it is the first of all fonts with a name. What
comes without a key is refused and changes nothing. -/
theorem empty_key_iff (config : Config) (registrations : List (Registration F)) :
    let resources := registered config registrations
    resources.get? "" = none ∧
      ((resources.font? "").isSome ↔ ∃ registration ∈ registrations, registration.Blank) ∧
      (resources.defaultFont = some "" ↔
        ∃ front first back, registrations = front ++ first :: back ∧ first.Blank ∧
          ∀ earlier ∈ front, earlier.fontName? = none) ∧
      ∀ registration : Registration F, registration.Keyless →
        registration.apply resources = (.error (registration.refusal config), resources) := by
  have consistent : (empty config : Resources F).Consistent := .empty config
  refine ⟨?_, ?_, ?_, ?_⟩
  · exact foldl_after_induction (·.get? "" = none) (Registry.get?_empty "") fun _ _ _ _ vacant
      yields => get?_empty_of_yields vacant yields
  · rw [registered, font?_foldl_after, List.mem_filterMap]
    simp [empty, font?, Registration.fontName?_eq_empty_iff]
  · rw [registered, defaultFont_foldl_after registrations consistent]
    simp [empty, List.findSome?_eq_some_iff, Registration.fontName?_eq_empty_iff]
  · intro registration keyless
    have refused := Registration.apply_of_keyless (registered config registrations) keyless
    rw [config_registered] at refused
    exact Prod.ext refused (Registration.apply_of_error refused)

/-- Two registrations without a key, and a blank font in front of a font with a family. -/
def blankRegistrations : List (Registration FixedPitch) :=
  [.string "" "text", .font { family := none, pointSize := 12 } none,
    .font { family := some "", pointSize := 12 } none,
    .font { family := some "Mono", pointSize := 10 } none]

theorem empty_key_iff_blank :
    (registered default blankRegistrations).get? "" = none ∧
      ((registered default blankRegistrations).font? "").isSome ∧
      (registered default blankRegistrations).defaultFont = some "" ∧
      (Registration.size "" 0 : Registration FixedPitch).Keyless ∧
      (Registration.size "" 0).apply (registered default blankRegistrations) =
        (.error (.pointSizeOutOfRange 0 256), registered default blankRegistrations) := by
  obtain ⟨vacant, named, isDefault, refused⟩ := empty_key_iff default blankRegistrations
  refine ⟨vacant, named.2 ?_, isDefault.2 ?_, rfl, refused (.size "" 0) rfl⟩
  · exact ⟨.font { family := some "", pointSize := 12 } none, by simp [blankRegistrations], rfl⟩
  · refine ⟨[.string "" "text", .font { family := none, pointSize := 12 } none], _, _, rfl, rfl, ?_⟩
    simp [Registration.fontName?, fontName, FontFace.family?, Except.toOption]

end Resources
end StyledText
