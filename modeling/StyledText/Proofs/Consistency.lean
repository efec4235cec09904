import StyledText.Proofs.Registrations

/-!
# What registrations guarantee

Resources that come about by registrations keep rules that a layout relies on: there is a default
font as soon as there is any font, all fonts end at the same largest size, and no registered size
is zero. Nothing that is registered later takes a font away.

Results:
1. `Registration.yields_of_apply`: all that a registration which succeeds can do.
2. `Resources.Built.consistent`: resources of registrations keep the rules, whatever faces their
   fonts have been asked for.
3. `Resources.face?_foldl_after`: a face that a font gives is given after further registrations too.
-/

namespace StyledText

theorem lookup_pair {α : Type} (own key : String) (value : α) :
    [(own, value)].lookup key = if own = key then some value else none := by
  by_cases same : own = key
  · simp [same]
  · have unequal : (key == own) = false := beq_false_of_ne (Ne.symm same)
    rw [List.lookup_cons, unequal, if_neg same]
    rfl

/-- No size in the registry is zero. -/
def Registry.SizesPositive (r : Registry) : Prop :=
  ∀ key size, r.get? key = some (.size size) → 0 < size

namespace Registry

theorem sizesPositive_empty : empty.SizesPositive := by
  intro key size found
  rw [get?_empty] at found
  cases found

theorem SizesPositive.insert {r : Registry} (h : r.SizesPositive) (key : String) {entry : Entry}
    (positive : ∀ size, entry = .size size → 0 < size) : (r.insert key entry).SizesPositive := by
  intro other size found
  rw [get?_insert] at found
  split at found
  · exact positive size (Option.some.inj found)
  · exact h other size found

/-- The registry with entries under their keys, one after another. -/
def insertAll (r : Registry) (entries : List (String × Entry)) : Registry :=
  entries.foldl (fun r entry => r.insert entry.1 entry.2) r

/-- Of the entries under one key the last one counts, and then the one that was there before. -/
theorem get?_insertAll (r : Registry) (entries : List (String × Entry)) (key : String) :
    (r.insertAll entries).get? key = (entries.reverse.lookup key).or (r.get? key) := by
  induction entries generalizing r with
  | nil => rfl
  | cons entry rest ih =>
    obtain ⟨own, entry⟩ := entry
    have later : (r.insertAll ((own, entry) :: rest)).get? key =
        (rest.reverse.lookup key).or ((r.insert own entry).get? key) := ih _
    rw [later, get?_insert, List.reverse_cons, List.lookup_append, lookup_pair, Option.or_assoc]
    split <;> simp

theorem SizesPositive.insertAll {r : Registry} (h : r.SizesPositive)
    {entries : List (String × Entry)}
    (positive : ∀ key size, (key, .size size) ∈ entries → 0 < size) :
    (r.insertAll entries).SizesPositive := by
  induction entries generalizing r with
  | nil => exact h
  | cons entry rest ih =>
    obtain ⟨key, entry⟩ := entry
    have first : ∀ size, entry = .size size → 0 < size := by
      rintro size rfl
      exact positive key size List.mem_cons_self
    exact ih (h.insert key first) fun key size inside =>
      positive key size (List.mem_cons_of_mem _ inside)

end Registry

variable {F : Type} [FontFace F]

namespace Resources

/-- The resources are those of some registrations, whatever faces their fonts have been asked
for. -/
def Built (resources : Resources F) : Prop :=
  ∃ registrations, resources.pristine = registered resources.config registrations

/-- The rules that registrations keep. -/
structure Consistent (resources : Resources F) : Prop where
  default_of_font : ∀ name, (resources.font? name).isSome → resources.defaultFont.isSome
  font_of_default : ∀ name, resources.defaultFont = some name → (resources.font? name).isSome
  ceiling : ∀ name typeface, resources.font? name = some typeface →
    typeface.maxPointSize = resources.config.maxPointSize
  sizes : resources.registry.SizesPositive

/-! ## One registration -/

/-- The resources with a font under a name, which becomes the default if there is none. -/
def withFont (resources : Resources F) (name : String) (font : F) : Resources F :=
  { resources with
    fonts := resources.fonts.insert name (.ofBase name font resources.config.maxPointSize)
    defaultFont := resources.defaultFont <|> some name }

theorem font?_withFont (resources : Resources F) (name : String) (font : F) (other : String) :
    (resources.withFont name font).font? other =
      if name = other then some (.ofBase name font resources.config.maxPointSize)
      else resources.font? other := by
  simp [withFont, font?, Std.ExtTreeMap.getElem?_insert]

end Resources

namespace Registration

/-- The entries that a registration puts into the registry, unless it is of a font. -/
def entries? : Registration F → Option (List (String × Entry))
  | .font _ _ => none
  | .string key text => some [(key, .string text)]
  | .color key value => some [(key, .color value)]
  | .size key pointSize => some [(key, .size pointSize)]
  | .image key value => some [(key, .image value)]
  | .palette => some (Color.palette.map fun named => (named.1, .color named.2))

/-- What a registration that succeeds leaves behind. -/
inductive Yields (resources : Resources F) : Registration F → Resources F → Prop
  /-- A font gets a name that no font has. -/
  | font {base : F} {name? : Option String} {name : String} :
      Resources.fontName base name? = .ok name → resources.font? name = none →
      Yields resources (.font base name?) (resources.withFont name base)
  /-- Entries get their keys, none of which is empty, and no size is zero. -/
  | entries {registration : Registration F} {entries : List (String × Entry)} :
      registration.entries? = some entries → (∀ entry ∈ entries, entry.1 ≠ "") →
      (∀ key size, (key, .size size) ∈ entries → 0 < size) →
      Yields resources registration
        { resources with registry := resources.registry.insertAll entries }

variable {resources : Resources F}

theorem yields_of_registerFont {font : F} {name? : Option String} {name : String}
    (done : (resources.registerFont font name?).1 = .ok name) :
    (Registration.font font name?).Yields resources (resources.registerFont font name?).2 := by
  unfold Resources.registerFont at done ⊢
  split
  · next unnamed =>
    rw [unnamed] at done
    cases done
  · next named =>
    rw [named] at done
    dsimp only at done ⊢
    split
    · next taken =>
      rw [if_pos taken] at done
      cases done
    · next absent =>
      rw [Std.ExtTreeMap.contains_eq_isSome_getElem?] at absent
      exact .font named (by simpa [Resources.font?] using absent)

theorem yields_of_register {registration : Registration F} {key : String} {entry : Entry}
    (entries : registration.entries? = some [(key, entry)])
    (positive : ∀ size, entry = .size size → 0 < size)
    (done : (resources.register key entry).1 = .ok ()) :
    registration.Yields resources (resources.register key entry).2 := by
  unfold Resources.register at done ⊢
  split
  · next empty =>
    rw [if_pos empty] at done
    cases done
  · next ne_empty =>
    refine .entries entries ?_ ?_
    · intro entry inside
      rw [List.mem_singleton] at inside
      rw [inside]
      exact ne_empty
    · intro key size inside
      rw [List.mem_singleton] at inside
      exact positive size (congrArg Prod.snd inside).symm

theorem palette_names_ne_empty : ∀ named ∈ Color.palette, named.1 ≠ "" := by decide +kernel

theorem yields_palette (resources : Resources F) :
    Registration.palette.Yields resources resources.registerPalette := by
  have registered : resources.registerPalette =
      { resources with
        registry := resources.registry.insertAll
          (Color.palette.map fun named => (named.1, .color named.2)) } := by
    rw [Resources.registerPalette, Registry.insertAll, List.foldl_map]
  rw [registered]
  refine .entries rfl ?_ ?_
  · intro entry inside
    obtain ⟨named, listed, rfl⟩ := List.mem_map.1 inside
    exact palette_names_ne_empty named listed
  · intro key size inside
    obtain ⟨_, -, is⟩ := List.mem_map.1 inside
    cases is

/-- All that a registration which succeeds can do. -/
theorem yields_of_apply {registration : Registration F}
    (done : (registration.apply resources).1 = .ok ()) :
    registration.Yields resources (registration.apply resources).2 := by
  cases registration with
  | font base name? =>
    cases answered : (resources.registerFont base name?).1 with
    | error e =>
      simp only [apply, answered, Except.map] at done
      cases done
    | ok name => exact yields_of_registerFont answered
  | string key text => exact yields_of_register rfl (by simp) done
  | color key value => exact yields_of_register rfl (by simp) done
  | size key pointSize =>
    simp only [apply, Resources.registerSize] at done ⊢
    split
    · next zero =>
      rw [if_pos zero] at done
      cases done
    · next positive =>
      rw [if_neg positive] at done
      refine yields_of_register rfl ?_ done
      rintro size ⟨⟩
      exact Nat.pos_of_ne_zero positive
  | image key value => exact yields_of_register rfl (by simp) done
  | palette => exact yields_palette resources

end Registration

namespace Resources

/-- What holds of resources and of all that a registration can yield holds after the registration,
also when that fails. -/
theorem after_induction (Kept : Resources F → Prop) {resources : Resources F}
    {registration : Registration F} (h : Kept resources)
    (yields : ∀ {next}, registration.Yields resources next → Kept next) :
    Kept (resources.after registration) := by
  unfold after
  cases answered : (registration.apply resources).1 with
  | error e =>
    rw [Registration.apply_of_error answered]
    exact h
  | ok => exact yields (Registration.yields_of_apply answered)

/-- What every registration of a list keeps, the whole list keeps. -/
theorem foldl_after_induction (Kept : Resources F → Prop) {resources : Resources F}
    {registrations : List (Registration F)} (h : Kept resources)
    (step : ∀ registration ∈ registrations, ∀ resources next, Kept resources →
      registration.Yields resources next → Kept next) :
    Kept (registrations.foldl after resources) := by
  induction registrations generalizing resources with
  | nil => exact h
  | cons registration rest ih =>
    refine ih ?_ fun other inside => step other (List.mem_cons_of_mem _ inside)
    exact after_induction Kept h (step registration List.mem_cons_self resources _ h)

theorem config_of_yields {resources next : Resources F} {registration : Registration F}
    (yields : registration.Yields resources next) : next.config = resources.config := by
  cases yields <;> rfl

/-- A registration takes no font away. -/
theorem font?_of_yields {resources next : Resources F} {registration : Registration F}
    {name : String} {typeface : Typeface F} (found : resources.font? name = some typeface)
    (yields : registration.Yields resources next) : next.font? name = some typeface := by
  cases yields with
  | @font base _ other _ absent =>
    have different : other ≠ name := by
      rintro rfl
      rw [absent] at found
      cases found
    rw [font?_withFont, if_neg different]
    exact found
  | entries => exact found

theorem face?_of_yields {resources next : Resources F} {registration : Registration F}
    {name : String} {size : Nat} {answer : Except ResourceError F}
    (given : resources.face? name size = some answer)
    (yields : registration.Yields resources next) : next.face? name size = some answer := by
  obtain ⟨typeface, found, answered⟩ := Option.map_eq_some_iff.1 given
  exact Option.map_eq_some_iff.2 ⟨typeface, font?_of_yields found yields, answered⟩

theorem face?_after {resources : Resources F} {name : String} {size : Nat}
    {answer : Except ResourceError F} (given : resources.face? name size = some answer)
    (registration : Registration F) :
    (resources.after registration).face? name size = some answer :=
  after_induction (·.face? name size = some answer) given (face?_of_yields given)

namespace Consistent

theorem empty (config : Config) : (Resources.empty config : Resources F).Consistent where
  default_of_font name found := by simp [Resources.empty, font?] at found
  font_of_default name isDefault := nomatch isDefault
  ceiling name typeface found := by simp [Resources.empty, font?] at found
  sizes := Registry.sizesPositive_empty

theorem withFont {resources : Resources F} (h : resources.Consistent) (name : String) (font : F) :
    (resources.withFont name font).Consistent := by
  refine ⟨?_, ?_, ?_, h.sizes⟩
  · intro other found
    simp [Resources.withFont]
  · intro other isDefault
    rw [font?_withFont]
    split
    · rfl
    · next different =>
      -- The default is not the new font, so it was the default before.
      cases earlier : resources.defaultFont with
      | none =>
        rw [Resources.withFont, earlier] at isDefault
        exact absurd (Option.some.inj isDefault) different
      | some first =>
        rw [Resources.withFont, earlier] at isDefault
        exact h.font_of_default other (earlier.trans isDefault)
  · intro other typeface found
    rw [font?_withFont] at found
    split at found
    · cases found
      rfl
    · exact h.ceiling other typeface found

theorem of_yields {resources next : Resources F} {registration : Registration F}
    (h : resources.Consistent) (yields : registration.Yields resources next) :
    next.Consistent := by
  cases yields with
  | font => exact h.withFont _ _
  | entries _ _ positive =>
    exact ⟨h.default_of_font, h.font_of_default, h.ceiling, h.sizes.insertAll positive⟩

theorem of_pristine {resources : Resources F} (h : resources.pristine.Consistent) :
    resources.Consistent := by
  have found (name : String) :
      (resources.pristine.font? name).isSome = (resources.font? name).isSome := by
    rw [font?_pristine, Option.isSome_map]
  refine ⟨?_, ?_, ?_, h.sizes⟩
  · intro name isFont
    exact h.default_of_font name ((found name).trans isFont)
  · intro name isDefault
    exact (found name).symm.trans (h.font_of_default name isDefault)
  · intro name typeface isFont
    refine h.ceiling name typeface.pristine ?_
    rw [font?_pristine, isFont]
    rfl

end Consistent

/-! ## Many registrations -/

theorem config_registered (config : Config) (registrations : List (Registration F)) :
    (registered config registrations).config = config :=
  foldl_after_induction (·.config = config) rfl fun _ _ _ _ same yields =>
    (config_of_yields yields).trans same

theorem face?_foldl_after {resources : Resources F} {name : String} {size : Nat}
    {answer : Except ResourceError F} (given : resources.face? name size = some answer)
    (registrations : List (Registration F)) :
    (registrations.foldl after resources).face? name size = some answer :=
  foldl_after_induction (·.face? name size = some answer) given fun _ _ _ _ given yields =>
    face?_of_yields given yields

theorem built_registered (config : Config) (registrations : List (Registration F)) :
    (registered config registrations).Built :=
  ⟨registrations, by rw [config_registered, pristine_registered]⟩

theorem Built.congr {resources after : Resources F} (h : resources.Built)
    (same : after.pristine = resources.pristine) : after.Built := by
  obtain ⟨registrations, built⟩ := h
  have config : after.config = resources.config := by
    show after.pristine.config = resources.pristine.config
    rw [same]
  exact ⟨registrations, by rw [config, same, built]⟩

theorem Built.consistent {resources : Resources F} (h : resources.Built) :
    resources.Consistent := by
  obtain ⟨registrations, built⟩ := h
  refine .of_pristine ?_
  rw [built]
  exact foldl_after_induction Consistent (.empty _) fun _ _ _ _ h yields => h.of_yields yields

end Resources
end StyledText
