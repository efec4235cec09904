import StyledText.CommandLine
import StyledText.Proofs.Grammar
import StyledText.Proofs.Steps

/-!
# The values of options

What the options of a command line ask to be registered is kept by kind: strings, colors and sizes.
The entries of a kind are the values of its option in order, each cut at its first equals sign,
whatever options stand between them.

Results:
1. `CommandLine.parseKeyValue_eq_ok_iff`, `CommandLine.parseKeyValue_eq_error_iff`: where an entry
   is cut, and when it is refused.
2. `CommandLine.given_of_mapM`: the entries of a kind, if all of them can be cut.
-/

namespace StyledText

namespace Text

/-- A text is cut at the first place of a character. -/
theorem splitAtFirst?_singleton_eq_some_iff {c : Char} {text before behind : List Char} :
    splitAtFirst? [c] text = some (before, behind) ↔ text = before ++ c :: behind ∧ c ∉ before := by
  rw [splitAtFirst?_eq_some_iff]
  constructor
  · intro cut
    refine ⟨by simpa using cut.occurs, fun inside => ?_⟩
    obtain ⟨front, back, rfl⟩ := List.append_of_mem inside
    exact cut.clear rfl (List.cons_ne_nil _ _) ⟨_, rfl⟩
  · rintro ⟨rfl, absent⟩
    refine ⟨by simp, fun {before' behind'} occurs => ?_⟩
    -- An earlier place of the character would lie in what stands before it.
    by_contra shorter
    have begins : before' ++ [c] <+: before := by
      refine List.prefix_of_prefix_length_le ⟨behind', occurs.symm⟩ ⟨c :: behind, rfl⟩ ?_
      rw [List.length_append, List.length_singleton]
      omega
    exact absent (begins.subset (List.mem_append_right _ (List.mem_singleton_self c)))

theorem splitAtFirst?_singleton_eq_none_iff {c : Char} {text : List Char} :
    splitAtFirst? [c] text = none ↔ c ∉ text := by
  rw [splitAtFirst?_eq_none_iff_not_isInfix, List.singleton_infix_iff]

end Text

/-- If a list can be mapped, so can each of its items, and nothing is left out. -/
theorem filterMap_of_mapM {ε α β : Type} {f : α → Except ε β} {items : List α} {results : List β}
    (done : items.mapM f = .ok results) :
    items.filterMap (fun item => (f item).toOption) = results ∧
      ∀ item ∈ items, ∃ result, f item = .ok result := by
  induction items generalizing results with
  | nil =>
    cases done
    exact ⟨rfl, nofun⟩
  | cons item rest ih =>
    rw [List.mapM_cons] at done
    obtain ⟨first, found, done⟩ := bind_eq_ok_iff.1 done
    obtain ⟨others, mapped, same⟩ := bind_eq_ok_iff.1 done
    cases same
    obtain ⟨all, each⟩ := ih mapped
    refine ⟨?_, List.forall_mem_cons.2 ⟨⟨first, found⟩, each⟩⟩
    rw [List.filterMap_cons, found, all]
    rfl

namespace CommandLine

/-! ## Keys and values -/

/-- An entry is cut at its first equals sign; the others belong to the value. -/
theorem parseKeyValue_eq_ok_iff {text key value : String} :
    parseKeyValue text = .ok (key, value) ↔
      key ≠ "" ∧ '=' ∉ key.toList ∧ text = key ++ "=" ++ value := by
  have joined (before behind : List Char) : text.toList = before ++ '=' :: behind ↔
      text = String.ofList before ++ "=" ++ String.ofList behind := by
    rw [← String.toList_inj]
    simp
  constructor
  · intro found
    unfold parseKeyValue at found
    split at found
    · next k before behind cut =>
      cases found
      obtain ⟨occurs, absent⟩ := Text.splitAtFirst?_singleton_eq_some_iff.1 cut
      exact ⟨by simp, by simpa using absent, (joined _ _).1 occurs⟩
    · cases found
  · rintro ⟨ne_empty, absent, rfl⟩
    have cut : Text.splitAtFirst? ['='] (key ++ "=" ++ value).toList =
        some (key.toList, value.toList) :=
      Text.splitAtFirst?_singleton_eq_some_iff.2 ⟨by simp, absent⟩
    cases chars : key.toList with
    | nil => exact absurd (String.toList_eq_nil_iff.1 chars) ne_empty
    | cons k before =>
      rw [parseKeyValue, cut, chars]
      show Except.ok (String.ofList (k :: before), String.ofList value.toList) = .ok (key, value)
      rw [← chars, String.ofList_toList, String.ofList_toList]

/-- A text is refused as an entry exactly if it has no equals sign or begins with one, and the error
quotes it. -/
theorem parseKeyValue_eq_error_iff {text reason : String} :
    parseKeyValue text = .error reason ↔
      ('=' ∉ text.toList ∨ text.toList.head? = some '=') ∧
        reason = "expected KEY=VALUE, got '" ++ text ++ "'" := by
  unfold parseKeyValue
  cases cut : Text.splitAtFirst? ['='] text.toList with
  | none => simp [Text.splitAtFirst?_singleton_eq_none_iff.1 cut, eq_comm]
  | some parts =>
    obtain ⟨before, behind⟩ := parts
    obtain ⟨occurs, absent⟩ := Text.splitAtFirst?_singleton_eq_some_iff.1 cut
    cases before with
    | nil => simp [occurs, eq_comm]
    | cons k before =>
      have other : k ≠ '=' := fun same => absent (same ▸ List.mem_cons_self)
      simp [occurs, other]

/-! ## Entries by their kind -/

/-- A kind of entry that the command line can register. -/
inductive EntryKind where
  | string
  | color
  | size
deriving DecidableEq

/-- The entries of a kind that the arguments have. -/
def Arguments.entries (a : Arguments) : EntryKind → List (String × String)
  | .string => a.strings
  | .color => a.colors
  | .size => a.sizes

/-- The values of the options of a kind, among all options that ask for a registration, in the order
of the command line. -/
def EntryKind.texts (kind : EntryKind) (options : List (EntryKind × String)) : List String :=
  (options.filter (·.1 = kind)).map (·.2)

/-- The entries of a kind that options give, in order. -/
def given (kind : EntryKind) (options : List (EntryKind × String)) : List (String × String) :=
  (kind.texts options).filterMap fun text => (parseKeyValue text).toOption

example : given .size [(.size, "a=1"), (.color, "a=#fff"), (.size, "a=2=3")] =
    [("a", "1"), ("a", "2=3")] := by decide +kernel

/-- Entries that are collected from the options of a kind are those that the options give, and each
of the options has one. -/
theorem given_of_mapM {kind : EntryKind} {options : List (EntryKind × String)}
    {entries : List (String × String)}
    (collected : (kind.texts options).mapM parseKeyValue = .ok entries) :
    given kind options = entries ∧
      ∀ text, (kind, text) ∈ options → ∃ entry, parseKeyValue text = .ok entry := by
  obtain ⟨all, each⟩ := filterMap_of_mapM collected
  refine ⟨all, fun text inside => each text ?_⟩
  exact List.mem_map.2 ⟨_, List.mem_filter.2 ⟨inside, decide_eq_true rfl⟩, rfl⟩

theorem key_ne_empty_of_given {kind : EntryKind} {options : List (EntryKind × String)}
    {entry : String × String} (inside : entry ∈ given kind options) : entry.1 ≠ "" := by
  obtain ⟨text, -, found⟩ := List.mem_filterMap.1 inside
  cases cut : parseKeyValue text with
  | error reason =>
    rw [cut] at found
    cases found
  | ok parts =>
    rw [cut] at found
    cases found
    exact (parseKeyValue_eq_ok_iff.1 cut).1

end CommandLine
end StyledText
