import Mathlib.Data.List.Dedup
import StyledText.Font.FixedPitch
import StyledText.Proofs.Keys

/-!
# What resources hold

What resources hold can be read off the registrations that have succeeded, in order. Of the entries
under one key the last one counts, of the fonts under one name the only one that was let in, which
is the first that asked for the name. The first font of all is the default and stays it.

Results:
1. `Resources.Records.of_yields`: what a registration that succeeds adds to the record.
2. `Resources.records_accepted`: resources hold what is on record.
3. `Resources.contents_of_accepted`: entries, sizes, fonts and default after any registrations, and
   that a registration which fails leaves them as they are.
-/

namespace StyledText

/-- There are as many entries as there are keys that something was registered under. -/
theorem Registry.size_insertAll (entries : List (String × Entry)) :
    (empty.insertAll entries).size = (entries.map (·.1)).dedup.length := by
  have keys (key : String) : key ∈ (empty.insertAll entries).entries.keys ↔
      key ∈ (entries.map (·.1)).dedup := by
    have found : (empty.insertAll entries).entries[key]? = entries.reverse.lookup key := by
      rw [← get?, get?_insertAll, get?_empty, Option.or_none]
    rw [Std.ExtTreeMap.mem_keys, Std.ExtTreeMap.mem_iff_isSome_getElem?, found,
      List.lookup_isSome_iff, List.mem_dedup, List.mem_map]
    simp only [List.mem_reverse, beq_iff_eq, eq_comm (a := key)]
  have same := (List.perm_ext_iff_of_nodup Std.ExtTreeMap.nodup_keys (List.nodup_dedup _)).2 keys
  rw [size, ← Std.ExtTreeMap.length_keys, same.length_eq]

variable {F : Type} [FontFace F]

namespace Registration

/-- The entries that a registration puts into the registry, of which a font has none. -/
def entries (registration : Registration F) : List (String × Entry) :=
  registration.entries?.getD []

/-- The font that a registration puts under a name, and the name. -/
def named? : Registration F → Option (String × F)
  | .font base name? => (Resources.fontName base name?).toOption.map fun name => (name, base)
  | .string _ _ | .color _ _ | .size _ _ | .image _ _ | .palette => none

theorem named?_of_entries {registration : Registration F} {entries : List (String × Entry)}
    (listed : registration.entries? = some entries) : registration.named? = none := by
  cases registration with
  | font => cases listed
  | _ => rfl

end Registration

namespace Resources

/-- The registrations of a list that succeed, each on what those before it have left. -/
def accepted (resources : Resources F) : List (Registration F) → List (Registration F)
  | [] => []
  | registration :: rest =>
    match registration.apply resources with
    | (.ok _, next) => registration :: next.accepted rest
    | (.error _, next) => next.accepted rest

/-- The resources hold what is on record: the last entry under each key, the first font under each
name, and the name of the first font as the default. -/
structure Records (config : Config) (done : List (Registration F)) (resources : Resources F) :
    Prop where
  same_config : resources.config = config
  registry : resources.registry = Registry.empty.insertAll (done.flatMap Registration.entries)
  fonts : ∀ name, resources.font? name =
    ((done.filterMap Registration.named?).lookup name).map fun base =>
      .ofBase name base config.maxPointSize
  default : resources.defaultFont = (done.filterMap Registration.named?).head?.map (·.1)

variable {config : Config} {done : List (Registration F)} {resources next : Resources F}

namespace Records

theorem empty (config : Config) : Records config [] (Resources.empty config : Resources F) where
  same_config := rfl
  registry := rfl
  fonts name := by simp [Resources.empty, font?]
  default := rfl

/-- A font that is let in is the only one under its name, and the default if it is the first. -/
theorem withFont {registration : Registration F} {name : String} {base : F}
    (h : Records config done resources) (unlisted : registration.entries = [])
    (named : registration.named? = some (name, base)) (absent : resources.font? name = none) :
    Records config (done ++ [registration]) (resources.withFont name base) := by
  have fonts : (done ++ [registration]).filterMap Registration.named? =
      done.filterMap Registration.named? ++ [(name, base)] := by
    simp [named]
  refine ⟨h.same_config, ?_, ?_, ?_⟩
  · have entries : (done ++ [registration]).flatMap Registration.entries =
        done.flatMap Registration.entries := by
      simp [unlisted]
    rw [entries]
    exact h.registry
  · intro other
    rw [fonts, font?_withFont, List.lookup_append, lookup_pair]
    split
    · next same =>
      subst same
      rw [h.fonts, Option.map_eq_none_iff] at absent
      rw [absent, h.same_config]
      rfl
    · rw [h.fonts, Option.or_none]
  · rw [fonts, Resources.withFont, h.default]
    cases done.filterMap Registration.named? <;> rfl

/-- Entries are added behind those on record. -/
theorem insertAll {registration : Registration F} {entries : List (String × Entry)}
    (h : Records config done resources) (listed : registration.entries? = some entries) :
    Records config (done ++ [registration])
      { resources with registry := resources.registry.insertAll entries } := by
  have fonts : (done ++ [registration]).filterMap Registration.named? =
      done.filterMap Registration.named? := by
    simp [Registration.named?_of_entries listed]
  refine ⟨h.same_config, ?_, ?_, ?_⟩
  · have added : (done ++ [registration]).flatMap Registration.entries =
        done.flatMap Registration.entries ++ entries := by
      simp [Registration.entries, listed]
    rw [added, h.registry]
    exact List.foldl_append.symm
  · rw [fonts]
    exact h.fonts
  · rw [fonts]
    exact h.default

/-- A registration that succeeds is one more on record. -/
theorem of_yields {registration : Registration F} (h : Records config done resources)
    (yields : registration.Yields resources next) :
    Records config (done ++ [registration]) next := by
  cases yields with
  | font named absent =>
    refine h.withFont rfl ?_ absent
    rw [Registration.named?, named]
    rfl
  | entries listed => exact h.insertAll listed

/-- All registrations that succeed come on record, and no others. -/
theorem of_foldl_after (h : Records config done resources)
    (registrations : List (Registration F)) :
    Records config (done ++ resources.accepted registrations)
      (registrations.foldl after resources) := by
  induction registrations generalizing done resources with
  | nil =>
    rw [accepted, List.append_nil]
    exact h
  | cons registration rest ih =>
    rw [accepted, List.foldl_cons, after]
    cases answered : (registration.apply resources).1 with
    | error e =>
      have same := Registration.apply_of_error answered
      rw [show registration.apply resources = (.error e, resources) from Prod.ext answered same]
      exact ih h
    | ok =>
      have recorded := ih (h.of_yields (Registration.yields_of_apply answered))
      rw [List.append_assoc] at recorded
      rwa [show registration.apply resources = (.ok (), (registration.apply resources).2) from
        Prod.ext answered rfl]

end Records

/-- Resources hold what the registrations that have succeeded put on record. -/
theorem records_accepted (config : Config) (registrations : List (Registration F)) :
    Records config ((empty config : Resources F).accepted registrations)
      (registered config registrations) :=
  (Records.empty config).of_foldl_after registrations

/-- A font is not let in under a name that another font has. -/
theorem apply_of_taken {base : F} {name? : Option String} {name : String}
    (named : fontName base name? = .ok name) (taken : (resources.font? name).isSome) :
    (Registration.font base name?).apply resources = (.error (.duplicateFont name), resources) := by
  have contains : resources.fonts.contains name = true := by
    rw [Std.ExtTreeMap.contains_eq_isSome_getElem?]
    exact taken
  simp only [Registration.apply, registerFont, named, contains]
  rfl

/-- The default font is there as soon as any font is. -/
theorem defaultTypeface?_isSome_iff (consistent : resources.Consistent) :
    resources.defaultTypeface?.isSome ↔ ∃ name, (resources.font? name).isSome := by
  unfold defaultTypeface?
  constructor
  · intro found
    cases isDefault : resources.defaultFont with
    | none =>
      rw [isDefault] at found
      cases found
    | some name => exact ⟨name, consistent.font_of_default name isDefault⟩
  · rintro ⟨name, found⟩
    obtain ⟨first, isDefault⟩ :=
      Option.isSome_iff_exists.1 (consistent.default_of_font name found)
    rw [isDefault]
    exact consistent.font_of_default first isDefault

/-- The default font stays the default. -/
theorem defaultFont_append {registrations : List (Registration F)} {name : String}
    (isDefault : (registered config registrations).defaultFont = some name)
    (later : List (Registration F)) :
    (registered config (registrations ++ later)).defaultFont = some name := by
  have consistent := (built_registered config registrations).consistent
  rw [registered, List.foldl_append, ← registered, defaultFont_foldl_after later consistent,
    isDefault]
  rfl

/-- After any registrations, an entry is the last one that was let in under its key, and there are
as many as there are such keys; no size is zero. A font is the first one under its name, at the
largest size of the configuration, and another one under the name is refused. The first font of all
is the default, stays it, and is there if any font is. A registration that fails changes nothing. -/
theorem contents_of_accepted (config : Config) (registrations : List (Registration F)) :
    let resources := registered config registrations
    let done := (empty config : Resources F).accepted registrations
    (∀ key, resources.get? key = (done.flatMap Registration.entries).reverse.lookup key) ∧
      resources.registry.size =
        ((done.flatMap Registration.entries).map (·.1)).dedup.length ∧
      (∀ key size, resources.get? key = some (.size size) → 1 ≤ size) ∧
      (∀ name, resources.font? name =
        ((done.filterMap Registration.named?).lookup name).map fun base =>
          .ofBase name base config.maxPointSize) ∧
      (∀ base name? name, fontName base name? = .ok name → (resources.font? name).isSome →
        (Registration.font base name?).apply resources =
          (.error (.duplicateFont name), resources)) ∧
      resources.defaultFont = (done.filterMap Registration.named?).head?.map (·.1) ∧
      (∀ name, resources.defaultFont = some name → ∀ later,
        (registered config (registrations ++ later)).defaultFont = some name) ∧
      (resources.defaultTypeface?.isSome ↔ ∃ name, (resources.font? name).isSome) ∧
      ∀ (registration : Registration F) e, (registration.apply resources).1 = .error e →
        (registration.apply resources).2 = resources := by
  have records := records_accepted config registrations
  have consistent := (built_registered config registrations).consistent
  refine ⟨?_, ?_, consistent.sizes, records.fonts, ?_, records.default, ?_,
    defaultTypeface?_isSome_iff consistent, fun _ _ => Registration.apply_of_error⟩
  · intro key
    rw [get?, records.registry, Registry.get?_insertAll, Registry.get?_empty, Option.or_none]
  · rw [records.registry, Registry.size_insertAll]
  · intro base name? name named taken
    exact apply_of_taken named taken
  · intro name isDefault later
    exact defaultFont_append isDefault later

/-- A font and a second one under its name, one key for a string, a color and a size, and three
registrations that fail. -/
def mixedRegistrations : List (Registration FixedPitch) :=
  [.string "" "lost", .font { family := some "Sans", pointSize := 24 } (some "main"),
    .string "gold" "coin", .palette, .font { family := some "Serif", pointSize := 12 } (some "main"),
    .font { family := some "Mono", pointSize := 10 } none, .size "gold" 0, .size "gold" 14]

theorem contents_of_accepted_mixed :
    (registered default mixedRegistrations).get? "gold" = some (.size 14) ∧
      (registered default mixedRegistrations).registry.size = 23 ∧
      1 ≤ 14 ∧
      (registered default mixedRegistrations).font? "main" =
        some (.ofBase "main" { family := some "Sans", pointSize := 24 } 256) ∧
      fontName ({ family := none, pointSize := 9 } : FixedPitch) (some "Mono") = .ok "Mono" ∧
      ((registered default mixedRegistrations).font? "Mono").isSome ∧
      (Registration.font { family := none, pointSize := 9 } (some "Mono")).apply
          (registered default mixedRegistrations) =
        (.error (.duplicateFont "Mono"), registered default mixedRegistrations) ∧
      (registered default mixedRegistrations).defaultFont = some "main" ∧
      (registered default (mixedRegistrations ++ mixedRegistrations)).defaultFont = some "main" ∧
      (registered default mixedRegistrations).defaultTypeface?.isSome ∧
      ((Registration.size "gold" 0).apply (registered default mixedRegistrations)).1 =
        .error (.pointSizeOutOfRange 0 256) ∧
      ((Registration.size "gold" 0).apply (registered default mixedRegistrations)).2 =
        registered default mixedRegistrations := by
  obtain ⟨entries, size, sizes, fonts, taken, first, stays, isDefault, failed⟩ :=
    contents_of_accepted default mixedRegistrations
  have gold : (registered default mixedRegistrations).get? "gold" = some (.size 14) :=
    (entries "gold").trans (by decide +kernel)
  have main : (registered default mixedRegistrations).defaultFont = some "main" :=
    first.trans (by decide +kernel)
  have mono : ((registered default mixedRegistrations).font? "Mono").isSome := by
    rw [fonts]
    decide +kernel
  have zero : ((Registration.size "gold" 0).apply (registered default mixedRegistrations)).1 =
      .error (.pointSizeOutOfRange 0 256) := by
    rw [Registration.apply, registerSize, config_registered]
    rfl
  refine ⟨gold, size.trans (by decide +kernel), sizes "gold" 14 gold, ?_, rfl, mono,
    taken _ _ _ rfl mono, main, stays "main" main _, isDefault.2 ⟨"Mono", mono⟩, zero,
    failed _ _ zero⟩
  have listed : (((empty default).accepted mixedRegistrations).filterMap
      Registration.named?).lookup "main" = some { family := some "Sans", pointSize := 24 } := by
    decide +kernel
  rw [fonts, listed]
  rfl

end Resources
end StyledText
