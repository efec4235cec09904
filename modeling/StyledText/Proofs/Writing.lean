import StyledText.Proofs.Grammar

/-!
# Writing markup

Which lists of commands a markup text can stand for, with the standard delimiters and line feeds as
text, and a text for each of them. A delimiter is one brace twice, so what matters of a text or of
the body of a tag is whether the brace occurs in it twice in a row, and whether it ends in one: then
the delimiter behind it would be found one character too early.

Results:
1. `Text.firstAt_pair_iff`: what can stand in front of the first pair of a character.
2. `Markup.reads_written`: the text that is written for a list reads as that list.
3. `Markup.writable_of_reads`: nothing but such lists can be read.
4. `Markup.parse_eq_ok_iff_writable`: the lists of commands that are the parse of some text.
-/

namespace StyledText

/-! ## In front of a pair -/

namespace Text

/-- The character is nowhere in the text twice in a row, and not at its end. -/
def Clear (c : Char) (text : List Char) : Prop := ¬[c, c] <:+: text ∧ ¬[c] <:+ text

instance (c : Char) (text : List Char) : Decidable (Clear c text) :=
  inferInstanceAs (Decidable (_ ∧ _))

/-- The first pair of a character is the one that has a clear text in front of it. -/
theorem firstAt_pair_iff {c : Char} {text before behind : List Char} :
    FirstAt [c, c] text before behind ↔ text = before ++ [c, c] ++ behind ∧ Clear c before := by
  constructor
  · intro h
    refine ⟨h.occurs, ?_, ?_⟩
    · rintro ⟨front, back, rfl⟩
      have earlier : text = front ++ [c, c] ++ (back ++ [c, c] ++ behind) := by simp [h.occurs]
      have shorter := h.first earlier
      simp at shorter
    · rintro ⟨front, rfl⟩
      have earlier : text = front ++ [c, c] ++ c :: behind := by simp [h.occurs]
      have shorter := h.first earlier
      simp at shorter
  · rintro ⟨rfl, absent, unfinished⟩
    refine ⟨rfl, fun {before' behind'} occurs => Nat.le_of_not_lt fun shorter => ?_⟩
    -- An earlier pair lies in the text, or it takes the last character of it.
    rw [List.append_assoc, List.append_assoc] at occurs
    obtain ⟨rest, rfl⟩ := List.prefix_of_prefix_length_le (List.prefix_append before' _)
      (occurs ▸ List.prefix_append before _) (Nat.le_of_lt shorter)
    rw [List.append_assoc, List.append_cancel_left_eq] at occurs
    match rest with
    | [] => simp at shorter
    | [last] =>
      cases (List.cons.inj occurs).1
      exact unfinished (List.suffix_append before' [c])
    | first :: second :: rest =>
      obtain ⟨rfl, tail⟩ := List.cons.inj occurs
      obtain ⟨rfl, -⟩ := List.cons.inj tail
      exact absent ⟨before', rest, by simp⟩

namespace Clear

variable {c : Char}

theorem cons {other : Char} {text : List Char} (h : Clear c text) (ne : other ≠ c) :
    Clear c (other :: text) := by
  constructor
  · rw [List.infix_cons_iff]
    rintro (begins | inside)
    · exact ne (List.cons_prefix_cons.1 begins).1.symm
    · exact h.1 inside
  · rw [List.suffix_cons_iff]
    rintro (whole | ends)
    · exact ne (List.cons.inj whole).1.symm
    · exact h.2 ends

theorem append {front text : List Char} (h : Clear c text) (absent : c ∉ front) :
    Clear c (front ++ text) := by
  induction front with
  | nil => exact h
  | cons other front ih =>
    rw [List.mem_cons, not_or] at absent
    exact (ih absent.2).cons (Ne.symm absent.1)

/-- A text without pairs is clear with another character behind it. -/
theorem concat {other : Char} {text : List Char} (h : ¬[c, c] <:+: text) (ne : other ≠ c) :
    Clear c (text ++ [other]) := by
  have unfinished : ¬[c] <:+ text ++ [other] := by
    rintro ⟨front, ends⟩
    exact ne (List.cons.inj (List.append_inj' ends rfl).2).1.symm
  refine ⟨?_, unfinished⟩
  rw [List.infix_concat_iff]
  rintro (ends | inside)
  · exact unfinished (.trans ⟨[c], rfl⟩ ends)
  · exact h inside

theorem of_suffix {text ending : List Char} (h : Clear c text) (suffix : ending <:+ text) :
    Clear c ending :=
  ⟨fun pair => h.1 (pair.trans suffix.isInfix), fun ends => h.2 (ends.trans suffix)⟩

end Clear
end Text

namespace Markup

open Text (Clear firstAt_pair_iff)

/-! ## Lists that can be written -/

/-- There is markup for the command in front of the rest. A text must not be empty or have a left
delimiter in it, and its last character must not make one with the next tag. The value of a style
or an image must not be cut short by a right delimiter, and neither must the key of a string, which
has no colon and is none of the names that take a value. -/
def WritableBefore (rest : CommandList) : Command → Prop
  | .drawText text =>
    text ≠ "" ∧ ¬['{', '{'] <:+: text.toList ∧ (rest ≠ [] → ¬['{'] <:+ text.toList)
  | .setColor value | .setFont value | .setSize value | .drawImage value =>
    ¬['}', '}'] <:+: value.toList ∧ ¬['}'] <:+ value.toList
  | .useString key =>
    ':' ∉ key.toList ∧ ¬['}', '}'] <:+: key.toList ∧ key ∉ ["color", "font", "size", "image"]
  | .newline => True

instance (rest : CommandList) : (command : Command) → Decidable (WritableBefore rest command)
  | .drawText _ => inferInstanceAs (Decidable (_ ∧ _ ∧ (_ → _)))
  | .setColor _ | .setFont _ | .setSize _ | .drawImage _ => inferInstanceAs (Decidable (_ ∧ _))
  | .useString _ => inferInstanceAs (Decidable (_ ∧ _ ∧ _))
  | .newline => inferInstanceAs (Decidable True)

/-- There is markup for each command of the list in front of the rest of it. -/
def Writable : CommandList → Prop
  | [] => True
  | command :: rest => WritableBefore rest command ∧ Writable rest

instance : (list : CommandList) → Decidable (Writable list)
  | [] => inferInstanceAs (Decidable True)
  | _ :: rest =>
    have : Decidable (Writable rest) := instDecidableWritable rest
    inferInstanceAs (Decidable (_ ∧ _))

/-! ## Their markup -/

theorem left_default : (default : Options).left.toList = ['{', '{'] := rfl

theorem right_default : (default : Options).right.toList = ['}', '}'] := rfl

/-- The body between the standard delimiters. -/
def tag (body : List Char) : List Char := ['{', '{'] ++ body ++ ['}', '}']

/-- The body of a tag with a name and a value. -/
def named (name value : String) : List Char := name.toList ++ ':' :: value.toList

/-- Markup for a command. The key of a string has a value behind it, which does not count, because
it may end in a brace or be the name of the line break. -/
def writtenCommand : Command → List Char
  | .drawText text => text.toList
  | .useString key => tag (named key "")
  | .setColor value => tag (named "color" value)
  | .setFont value => tag (named "font" value)
  | .setSize value => tag (named "size" value)
  | .drawImage value => tag (named "image" value)
  | .newline => tag "newline".toList

/-- What keeps a command apart from the rest: two texts need a tag between them that means
nothing. -/
def gap : Command → CommandList → List Char
  | .drawText _, .drawText _ :: _ => tag "color".toList
  | _, _ => []

/-- Markup for a list of commands. -/
def written : CommandList → List Char
  | [] => []
  | command :: rest => writtenCommand command ++ gap command rest ++ written rest

theorem gap_text {text : String} {rest : CommandList}
    (alone : ∀ second behind, rest ≠ .drawText second :: behind) :
    gap (.drawText text) rest = [] := by
  unfold gap
  split
  · exact absurd rfl (alone _ _)
  · rfl

/-! ## Reading what is written -/

theorem drawn_toList {text : String} (h : text ≠ "") : drawn text.toList = [.drawText text] := by
  have ne_nil : text.toList ≠ [] := by simpa using h
  rw [drawn, if_neg ne_nil, String.ofList_toList]

/-- A name with a value means the command of the value, and is clear if the value is. -/
theorem means_named {name value : String} {make : String → Command}
    (listed : (name, make) ∈ valued) (clear : Clear '}' value.toList) :
    Clear '}' (named name value) ∧ Means (named name value) [make value] := by
  have absent : '}' ∉ name.toList := by
    simp only [valued, List.mem_cons, Prod.mk.injEq, List.not_mem_nil, or_false] at listed
    rcases listed with ⟨rfl, -⟩ | ⟨rfl, -⟩ | ⟨rfl, -⟩ | ⟨rfl, -⟩ <;> decide
  have means : Means (named name value) [make (String.ofList value.toList)] := .valued listed
  rw [String.ofList_toList] at means
  exact ⟨(clear.cons (by decide)).append absent, means⟩

/-- A command other than a text is written as a tag that means it. -/
theorem exists_body {rest : CommandList} {command : Command}
    (writable : WritableBefore rest command) :
    (∃ text, command = .drawText text) ∨
      ∃ body, writtenCommand command = tag body ∧ gap command rest = [] ∧ Clear '}' body ∧
        Means body [command] := by
  cases command with
  | drawText text => exact .inl ⟨text, rfl⟩
  | useString key =>
    obtain ⟨colon, pair, unreserved⟩ := writable
    exact .inr ⟨named key "", rfl, rfl, .concat pair (by decide), .stringWith colon unreserved⟩
  | setColor value => exact .inr ⟨_, rfl, rfl, means_named (by simp [valued]) writable⟩
  | setFont value => exact .inr ⟨_, rfl, rfl, means_named (by simp [valued]) writable⟩
  | setSize value => exact .inr ⟨_, rfl, rfl, means_named (by simp [valued]) writable⟩
  | drawImage value => exact .inr ⟨_, rfl, rfl, means_named (by simp [valued]) writable⟩
  | newline => exact .inr ⟨_, rfl, rfl, by decide, .newline⟩

theorem reads_tag (read : List Char) {before body rest : List Char} {commands list : CommandList}
    (opened : Clear '{' before) (closed : Clear '}' body) (means : Means body commands)
    (behind : ∀ read, Reads default read rest (.ok list)) :
    Reads default read (before ++ tag body ++ rest) (.ok (drawn before ++ commands ++ list)) := by
  have opens : Text.FirstAt ['{', '{'] (before ++ tag body ++ rest) before
      (body ++ ['}', '}'] ++ rest) :=
    firstAt_pair_iff.2 ⟨by simp [tag], opened⟩
  have closes : Text.FirstAt ['}', '}'] (body ++ ['}', '}'] ++ rest) body rest :=
    firstAt_pair_iff.2 ⟨rfl, closed⟩
  rw [← left_default] at opens
  rw [← right_default] at closes
  exact .tag opens closes means (behind _)

/-- The markup that is written for a list reads as the list, also behind plain text that does not
run into it. The induction is on the list; the plain text is what a text in front of a tag leaves to
the tag. -/
theorem reads_written {list : CommandList} (h : Writable list) (read : List Char)
    {before : List Char} (absent : ¬['{', '{'] <:+: before)
    (unfinished : list ≠ [] → ¬['{'] <:+ before)
    (alone : ∀ text rest, list = .drawText text :: rest → before = []) :
    Reads default read (before ++ written list) (.ok (drawn before ++ list)) := by
  induction list generalizing read before with
  | nil =>
    rw [written, List.append_nil, List.append_nil]
    exact .plain absent
  | cons command rest ih =>
    obtain ⟨writable, restWritable⟩ := h
    have behind (read : List Char) : Reads default read ([] ++ written rest) (.ok ([] ++ rest)) :=
      ih restWritable read (by simp) (by simp) fun _ _ _ => rfl
    rcases exists_body writable with ⟨text, rfl⟩ | ⟨body, wrote, noGap, closed, means⟩
    · obtain rfl := alone text rest rfl
      obtain ⟨ne_empty, absent, unfinished⟩ := writable
      by_cases next : ∃ second others, rest = .drawText second :: others
      · obtain ⟨second, others, rfl⟩ := next
        have bare : ("color", Command.setColor) ∈ valued := by simp [valued]
        have apart := reads_tag read ⟨absent, unfinished (by simp)⟩ (by decide) (.bare bare) behind
        rw [drawn_toList ne_empty] at apart
        exact apart
      · have noGap : gap (.drawText text) rest = [] :=
          gap_text fun second others begins => next ⟨second, others, begins⟩
        have taken := ih restWritable read absent unfinished
          fun second others begins => absurd ⟨second, others, begins⟩ next
        rw [drawn_toList ne_empty] at taken
        rw [written, noGap, List.append_nil]
        exact taken
    · have tagged := reads_tag read ⟨absent, unfinished (by simp)⟩ closed means behind
      rw [List.append_assoc, List.append_assoc, List.singleton_append] at tagged
      rw [written, wrote, noGap, List.append_nil]
      exact tagged

/-! ## Nothing else can be read -/

theorem writable_drawn {before : List Char} {rest : CommandList}
    (absent : ¬['{', '{'] <:+: before) (unfinished : rest ≠ [] → ¬['{'] <:+ before)
    (h : Writable rest) : Writable (drawn before ++ rest) := by
  unfold drawn
  split
  · exact h
  · next ne_nil =>
    refine ⟨⟨by simpa using ne_nil, ?_, ?_⟩, h⟩
    · rwa [String.toList_ofList]
    · rwa [String.toList_ofList]

theorem writable_of_means {body : List Char} {commands rest : CommandList}
    (means : Means body commands) (clear : Clear '}' body) (h : Writable rest) :
    Writable (commands ++ rest) := by
  cases means with
  | @valued name make value listed =>
    have clearValue : Clear '}' (String.ofList value).toList := by
      rw [String.toList_ofList]
      exact clear.of_suffix ((List.suffix_cons ':' value).trans (List.suffix_append _ _))
    simp only [valued, List.mem_cons, Prod.mk.injEq, List.not_mem_nil, or_false] at listed
    rcases listed with ⟨-, rfl⟩ | ⟨-, rfl⟩ | ⟨-, rfl⟩ | ⟨-, rfl⟩ <;> exact ⟨clearValue, h⟩
  | bare => exact h
  | newline => exact ⟨trivial, h⟩
  | string colon unreserved => exact ⟨⟨colon, clear.1, unreserved⟩, h⟩
  | @stringWith name value colon unreserved =>
    have pair : ¬['}', '}'] <:+: name.toList := fun pair =>
      clear.1 (pair.trans (List.prefix_append name.toList _).isInfix)
    exact ⟨⟨colon, pair, unreserved⟩, h⟩

/-- A list that is read is writable. The induction is on the reading: each tag adds the text in
front of it and its own command. -/
theorem writable_of_reads {read text : List Char} {outcome : Except ParseError CommandList}
    (h : Reads default read text outcome) {list : CommandList} (found : outcome = .ok list) :
    Writable list := by
  induction h generalizing list with
  | @plain read text absent =>
    cases found
    have alone : Writable (drawn text ++ []) := writable_drawn absent (by simp) trivial
    rw [List.append_nil] at alone
    exact alone
  | unmatched => cases found
  | @tag _ _ _ _ _ _ _ outcome opened closed means _ ih =>
    cases outcome with
    | error e => cases found
    | ok rest =>
      cases found
      rw [left_default] at opened
      rw [right_default] at closed
      obtain ⟨-, absent, unfinished⟩ := firstAt_pair_iff.1 opened
      obtain ⟨-, clear⟩ := firstAt_pair_iff.1 closed
      have behind := writable_of_means means clear (ih rfl)
      have writable := writable_drawn absent (fun _ => unfinished) behind
      rw [← List.append_assoc] at writable
      exact writable

/-- With the standard delimiters, and line feeds as text, a list of commands is the parse of some
text if and only if it is writable; and then it is the parse of the text that is written for it. -/
theorem parse_eq_ok_iff_writable (list : CommandList) :
    ((∃ text, parse default text = .ok list) ↔ Writable list) ∧
      (parse default (String.ofList (written list)) = .ok list ↔ Writable list) := by
  have ne_empty : (default : Options).left ≠ "" ∧ (default : Options).right ≠ "" := by decide
  have writable {text : String} (parsed : parse default text = .ok list) : Writable list :=
    writable_of_reads (reads_parse ne_empty.1 ne_empty.2 text) parsed
  have readBack (h : Writable list) : parse default (String.ofList (written list)) = .ok list := by
    refine parse_of_reads ne_empty.1 ne_empty.2 ?_
    rw [String.toList_ofList]
    exact reads_written h [] (by simp) (by simp) fun _ _ _ => rfl
  exact ⟨⟨fun ⟨_, parsed⟩ => writable parsed, fun h => ⟨_, readBack h⟩⟩, ⟨writable, readBack⟩⟩

example : ¬Writable [.drawText "a\x7b", .newline] := by decide
example : written [.drawText "a", .drawText "b", .newline] =
    "a\x7b\x7bcolor\x7d\x7db\x7b\x7bnewline\x7d\x7d".toList := by decide

end Markup
end StyledText
