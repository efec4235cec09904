import StyledText.Proofs.ByteSteps

/-!
# The parser on bytes

The parser as a walk over the bytes of a text, which takes steps until it is at the end. Along the
way it only ever cuts between characters, and what it finds is what the parser finds in the
characters.

Results:
1. `Markup.Walk.after_cases`: where a walk is after some steps.
2. `Markup.parseBytes_eq`: on bytes the parser gives what it gives on characters.
3. `Markup.Walk.between_characters`: a walk stands between characters and comes to the end.
-/

namespace StyledText
namespace Markup

namespace Walk

/-- The walk after some steps. At the end of the text it takes no more of them. -/
def after (options : Options) (text : String) : Nat → Except Halt Walk
  | 0 => .ok start
  | count + 1 => do
    let walk ← after options text count
    if walk.cursor < text.utf8ByteSize then step options text walk else return walk

end Walk

/-- The commands of a markup text, by a walk over its bytes. -/
def parseBytes (options : Options) (text : String) : Except Halt CommandList := do
  if options.left.isEmpty || options.right.isEmpty then
    .error (.failed .emptyDelimiter)
  else
    let walk ← Walk.after options text text.utf8ByteSize
    let before ← slice text walk.pending text.utf8ByteSize
    return walk.list ++ plain before.toList

/-! ## Payloads -/

/-- The texts, keys and names that the commands hold are pieces of the text. -/
def Quotes (text : String) (list : CommandList) : Prop :=
  ∀ command ∈ list, ∀ payload, command.data? = some payload →
    ∃ front back, text = front ++ payload ++ back

theorem Quotes.append {text : String} {first second : CommandList} (h : Quotes text first)
    (h' : Quotes text second) : Quotes text (first ++ second) := by
  intro command inside
  rcases List.mem_append.1 inside with first | second
  · exact h command first
  · exact h' command second

theorem quotes_plain (front piece back : String) :
    Quotes (front ++ piece ++ back) (plain piece.toList) := by
  intro command inside payload holds
  rw [plain_eq_drawn, drawn] at inside
  split at inside
  · cases inside
  · obtain rfl := List.mem_singleton.1 inside
    rw [String.ofList_toList] at holds
    cases holds
    exact ⟨front, back, rfl⟩

theorem quotes_newline (text : String) : Quotes text [.newline] := by
  intro command inside payload holds
  obtain rfl := List.mem_singleton.1 inside
  cases holds

/-- A command of a tag holds its name or its value. -/
theorem eq_or_eq_of_command? {tag : Tag} {command : Command} (h : tag.command? = some command)
    {payload : String} (holds : command.data? = some payload) :
    payload = tag.name ∨ tag.value = some payload := by
  obtain ⟨name, value⟩ := tag
  cases reserved : Tag.reserved? name with
  | some make =>
    have listed := mem_of_reserved? reserved
    rw [command?_of_mem listed, Option.map_eq_some_iff] at h
    obtain ⟨given, rfl, rfl⟩ := h
    simp only [valued, List.mem_cons, Prod.mk.injEq, List.not_mem_nil, or_false] at listed
    rcases listed with ⟨-, rfl⟩ | ⟨-, rfl⟩ | ⟨-, rfl⟩ | ⟨-, rfl⟩ <;> exact .inr holds
  | none =>
    by_cases newline : name = "newline" ∧ value = none
    · obtain ⟨rfl, rfl⟩ := newline
      rw [command?_newline] at h
      cases h
      cases holds
    · rw [command?_of_notMem (reserved?_eq_none_iff.1 reserved) newline] at h
      cases h
      cases holds
      exact .inl rfl

theorem quotes_tag (front body back : String) :
    Quotes (front ++ body ++ back) (Tag.ofBody body.toList).command?.toList := by
  intro command inside payload holds
  have held := eq_or_eq_of_command? (Option.mem_toList.1 inside) holds
  rcases ofBody_cases body with ⟨-, tag⟩ | ⟨name, value, -, rfl, tag⟩
  · rw [tag] at held
    rcases held with rfl | missing
    · exact ⟨front, back, rfl⟩
    · cases missing
  · rw [tag] at held
    rcases held with rfl | given
    · refine ⟨front, ":" ++ value ++ back, ?_⟩
      simp only [String.append_assoc]
    · cases given
      refine ⟨front ++ name ++ ":", back, ?_⟩
      simp only [String.append_assoc]

theorem Moves.quotes {options : Options} {place next : Place}
    (moves : Moves options place (.ok next)) (h : Quotes place.text place.list) :
    Quotes place.text next.list := by
  cases moves with
  | @tag done pending body rest list closed =>
    refine (h.append (quotes_plain done pending _)).append ?_
    have whole : done ++ pending ++ (options.left ++ (body ++ options.right ++ rest)) =
        done ++ pending ++ options.left ++ body ++ (options.right ++ rest) := by
      simp only [String.append_assoc]
    rw [Place.text, whole]
    exact quotes_tag _ body _
  | @newline done pending rest list absent on =>
    exact (h.append (quotes_plain done pending _)).append (quotes_newline _)
  | character absent other => exact h

/-! ## Runs -/

/-- A place to which a walk over the text comes in so many steps. -/
structure Place.Reached (options : Options) (text : String) (count : Nat) (place : Place) :
    Prop where
  text_eq : place.text = text
  quotes : Quotes text place.list
  /-- What the parser makes of the whole text, it makes of the rest. -/
  outcome_eq : ∀ d : Delimiters, d.left = options.left.toList → d.right = options.right.toList →
    place.outcome d options.newlineAsCommand = parse options text
  far : place.rest = "" ∨ count ≤ place.walk.cursor

theorem parse_eq_scan {options : Options} {d : Delimiters} (left : d.left = options.left.toList)
    (right : d.right = options.right.toList) (text : String) :
    parse options text = scan d options.newlineAsCommand 0 [] text.toList := by
  have ne_nil : options.left.toList ≠ [] ∧ options.right.toList ≠ [] :=
    ⟨left ▸ d.left_ne_nil, right ▸ d.right_ne_nil⟩
  obtain ⟨dleft, dright, _, _⟩ := d
  subst left right
  rw [parse, dif_pos ne_nil]

theorem exists_delimiters {options : Options} (left : options.left ≠ "")
    (right : options.right ≠ "") :
    ∃ d : Delimiters, d.left = options.left.toList ∧ d.right = options.right.toList :=
  ⟨⟨_, _, mt String.toList_eq_nil_iff.1 left, mt String.toList_eq_nil_iff.1 right⟩, rfl, rfl⟩

theorem Place.reached_start (options : Options) (text : String) :
    (⟨"", "", text, []⟩ : Place).Reached options text 0 where
  text_eq := by rw [Place.text, String.empty_append, String.empty_append]
  quotes := fun _ inside => nomatch inside
  outcome_eq := by
    intro d left right
    rw [parse_eq_scan left right]
    show (scan d options.newlineAsCommand 0 [] text.toList).map (fun list => [] ++ list) = _
    cases scan d options.newlineAsCommand 0 [] text.toList <;> rfl
  far := .inr (Nat.zero_le _)

theorem Place.Reached.moves {options : Options} (left : options.left ≠ "") {text : String}
    {count : Nat} {place next : Place} (h : place.Reached options text count)
    (moves : Moves options place (.ok next)) (more : place.rest ≠ "") :
    next.Reached options text (count + 1) where
  text_eq := moves.text_eq.trans h.text_eq
  quotes := by
    have quotes := h.quotes
    rw [← h.text_eq] at quotes ⊢
    exact moves.quotes quotes
  outcome_eq := by
    intro d left right
    rw [← h.outcome_eq d left right, moves.outcome_eq left right]
    rfl
  far := by
    have far := h.far.resolve_left more
    have lt := moves.cursor_lt left
    exact .inr (Nat.lt_of_le_of_lt far lt)

theorem Place.cursor_lt_iff (place : Place) :
    place.walk.cursor < place.text.utf8ByteSize ↔ place.rest ≠ "" := by
  rw [Place.text, String.utf8ByteSize_append, Ne, ← String.utf8ByteSize_eq_zero_iff]
  simp only [Place.walk]
  omega

/-- After so many steps a walk is at a place, or it has met a left delimiter without an end. The
induction is on the steps. -/
theorem Walk.after_cases {options : Options} (left : options.left ≠ "") (right : options.right ≠ "")
    (text : String) (count : Nat) :
    (∃ place : Place, place.Reached options text count ∧
      after options text count = .ok place.walk) ∨
    ∃ (place : Place) (inside : String), place.text = text ∧
      place.rest = options.left ++ inside ∧
      parse options text = .error (.unmatchedTag place.walk.cursor options.right) ∧
      after options text count =
        .error (.failed (.unmatchedTag place.walk.cursor options.right)) := by
  induction count with
  | zero => exact .inl ⟨_, Place.reached_start options text, rfl⟩
  | succ count ih =>
    rcases ih with ⟨place, reached, ran⟩ | ⟨place, inside, whole, begins, parsed, ran⟩
    · obtain rfl := reached.text_eq
      simp only [after, bind, Except.bind, ran, place.cursor_lt_iff]
      by_cases more : place.rest = ""
      · rw [if_neg (not_not.2 more)]
        exact .inl ⟨place, ⟨rfl, reached.quotes, reached.outcome_eq, .inl more⟩, rfl⟩
      · rw [if_pos more]
        obtain ⟨next, moves⟩ := exists_moves more
        rw [step_eq right moves]
        cases next with
        | ok next => exact .inl ⟨next, reached.moves left moves more, rfl⟩
        | error e =>
          obtain ⟨d, opens, closes⟩ := exists_delimiters left right
          have parsed := reached.outcome_eq d opens closes
          rw [moves.outcome_eq opens closes] at parsed
          cases moves with
          | unmatched absent => exact .inr ⟨_, _, rfl, rfl, parsed.symm, rfl⟩
    · refine .inr ⟨place, inside, whole, begins, parsed, ?_⟩
      rw [after, ran]
      rfl

theorem Place.Reached.rest_eq {options : Options} {text : String} {count : Nat} {place : Place}
    (h : place.Reached options text count) (enough : text.utf8ByteSize ≤ count) :
    place.rest = "" := by
  obtain rfl := h.text_eq
  by_contra more
  have inside := place.cursor_lt_iff.2 more
  exact absurd (h.far.resolve_left more) (Nat.not_le_of_lt (Nat.lt_of_lt_of_le inside enough))

theorem parseBytes_of_ne_empty {options : Options} (left : options.left ≠ "")
    (right : options.right ≠ "") (text : String) :
    parseBytes options text =
      (Walk.after options text text.utf8ByteSize).bind fun walk =>
        (slice text walk.pending text.utf8ByteSize).bind fun before =>
          .ok (walk.list ++ plain before.toList) := by
  have given : ¬(options.left.isEmpty || options.right.isEmpty) = true := by
    rw [Bool.or_eq_true, String.isEmpty_iff, String.isEmpty_iff]
    exact not_or.2 ⟨left, right⟩
  rw [parseBytes, if_neg given]
  rfl

theorem parseBytes_of_reached {options : Options} (left : options.left ≠ "")
    (right : options.right ≠ "") {text : String} {place : Place}
    (reached : place.Reached options text text.utf8ByteSize)
    (ran : Walk.after options text text.utf8ByteSize = .ok place.walk) :
    parseBytes options text = .ok (place.list ++ plain place.pending.toList) := by
  have ended := reached.rest_eq le_rfl
  rw [parseBytes_of_ne_empty left right, ran]
  obtain rfl := reached.text_eq
  have last : slice place.text place.walk.pending place.text.utf8ByteSize = .ok place.pending := by
    rw [Place.text, ended, String.append_empty]
    exact slice_last place.done place.pending
  simp only [Except.bind, last]
  rfl

/-- On bytes the parser gives what it gives on characters, so no cut is inside a character. -/
theorem parseBytes_eq (options : Options) (text : String) :
    parseBytes options text = (parse options text).mapError .failed := by
  by_cases empty : options.left = "" ∨ options.right = ""
  · have missing : ¬(options.left.toList ≠ [] ∧ options.right.toList ≠ []) := by
      rw [not_and_or, not_not, not_not, String.toList_eq_nil_iff, String.toList_eq_nil_iff]
      exact empty
    have missing' : (options.left.isEmpty || options.right.isEmpty) = true := by
      rwa [Bool.or_eq_true, String.isEmpty_iff, String.isEmpty_iff]
    rw [parseBytes, if_pos missing', parse, dif_neg missing]
    rfl
  · obtain ⟨left, right⟩ := not_or.1 empty
    rcases Walk.after_cases left right text text.utf8ByteSize with
      ⟨place, reached, ran⟩ | ⟨place, inside, whole, begins, parsed, ran⟩
    · rw [parseBytes_of_reached left right reached ran]
      obtain ⟨d, opens, closes⟩ := exists_delimiters left right
      have outcome := reached.outcome_eq d opens closes
      rw [Place.outcome, reached.rest_eq le_rfl, String.toList_empty, scan_nil, List.reverse_reverse,
        ← plain_eq_drawn] at outcome
      rw [← outcome]
      rfl
    · rw [parseBytes_of_ne_empty left right, ran, parsed]
      rfl

theorem quotes_of_parseBytes {options : Options} (left : options.left ≠ "")
    (right : options.right ≠ "") {text : String} {list : CommandList}
    (parsed : parseBytes options text = .ok list) : Quotes text list := by
  rcases Walk.after_cases left right text text.utf8ByteSize with
    ⟨place, reached, ran⟩ | ⟨place, inside, whole, begins, failed, ran⟩
  · rw [parseBytes_of_reached left right reached ran] at parsed
    cases parsed
    refine reached.quotes.append ?_
    rw [← reached.text_eq]
    exact quotes_plain place.done place.pending place.rest
  · rw [parseBytes_eq, failed] at parsed
    cases parsed

/-! ## Boundaries -/

/-- A walk stands between characters, can cut what it has to, and gets ahead unless a tag has no
end. -/
structure Walk.Sound (options : Options) (text : String) (walk : Walk) : Prop where
  ordered : walk.pending ≤ walk.cursor
  inside : walk.cursor ≤ text.utf8ByteSize
  cursor_isBoundary : Text.isBoundary text walk.cursor = true
  pending_isBoundary : Text.isBoundary text walk.pending = true
  remaining : ∃ piece, Text.slice? text walk.cursor text.utf8ByteSize = some piece
  before : ∃ piece, Text.slice? text walk.pending walk.cursor = some piece
  advances : walk.cursor < text.utf8ByteSize →
    (∃ next, step options text walk = .ok next ∧ walk.cursor < next.cursor) ∨
      ∃ front back, text = front ++ options.left ++ back ∧ front.utf8ByteSize = walk.cursor ∧
        step options text walk = .error (.failed (.unmatchedTag walk.cursor options.right))

theorem Place.sound {options : Options} (left : options.left ≠ "") (right : options.right ≠ "")
    (place : Place) : place.walk.Sound options place.text where
  ordered := by
    simp only [Place.walk, String.utf8ByteSize_append]
    omega
  inside := by
    simp only [Place.walk, Place.text, String.utf8ByteSize_append]
    omega
  cursor_isBoundary := Text.isBoundary_iff.2 ⟨_, place.rest, rfl, rfl⟩
  pending_isBoundary :=
    Text.isBoundary_iff.2 ⟨place.done, place.pending ++ place.rest, String.append_assoc, rfl⟩
  remaining := by
    have cut := Text.slice?_append (place.done ++ place.pending) place.rest ""
    rw [String.append_empty] at cut
    exact ⟨_, cut⟩
  before := ⟨_, Text.slice?_append place.done place.pending place.rest⟩
  advances := by
    intro more
    obtain ⟨next, moves⟩ : ∃ next, Moves options place next :=
      exists_moves (place.cursor_lt_iff.1 more)
    have stepped := Walk.step_eq right moves
    cases next with
    | ok next => exact .inl ⟨next.walk, stepped, moves.cursor_lt left⟩
    | error e =>
      cases moves with
      | @unmatched done pending inside list absent =>
        exact .inr ⟨done ++ pending, inside, String.append_assoc.symm, rfl, stepped⟩

/-- The parser never cuts a character. On the way through the bytes of a text it always stands
between characters and gets ahead, it is at the end after at most as many steps as there are bytes,
its commands hold pieces of the text, and a tag without an end is reported at the boundary at which
its left delimiter begins. All of this is what the parser does on characters, since bytes begin with
and are found at the same patterns. -/
theorem Walk.between_characters {options : Options} (left : options.left ≠ "")
    (right : options.right ≠ "") (text : String) :
    (∀ count walk, after options text count = .ok walk → walk.Sound options text) ∧
    (∀ count walk, text.utf8ByteSize ≤ count → after options text count = .ok walk →
      walk.cursor = text.utf8ByteSize) ∧
    (∀ count halt, after options text count = .error halt →
      ∃ front back, text = front ++ options.left ++ back ∧
        Text.isBoundary text front.utf8ByteSize = true ∧
        halt = .failed (.unmatchedTag front.utf8ByteSize options.right)) ∧
    parseBytes options text = (parse options text).mapError .failed ∧
    (∀ list, parse options text = .ok list → ∀ command ∈ list, ∀ payload,
      command.data? = some payload → ∃ start stop, Text.slice? text start stop = some payload) ∧
    (∀ pattern piece, Text.begins pattern piece = true ↔ pattern.toList <+: piece.toList) ∧
    ∀ pattern piece, pattern ≠ "" →
      (Text.find? pattern piece = none ↔ ¬pattern.toList <:+: piece.toList) ∧
      ∀ offset, Text.find? pattern piece = some offset ↔
        ∃ before behind, Text.FirstAt pattern.toList piece.toList before behind ∧
          Text.utf8Length before = offset := by
  refine ⟨?_, ?_, ?_, parseBytes_eq options text, ?_, fun _ _ => Text.begins_iff,
    fun _ _ ne_empty =>
      ⟨Text.find?_eq_none_iff ne_empty, fun _ => Text.find?_eq_some_iff ne_empty⟩⟩
  · intro count walk ran
    rcases after_cases left right text count with
      ⟨place, reached, ran'⟩ | ⟨place, inside, whole, begins, parsed, ran'⟩
    · cases ran.symm.trans ran'
      exact reached.text_eq ▸ place.sound left right
    · cases ran.symm.trans ran'
  · intro count walk enough ran
    rcases after_cases left right text count with
      ⟨place, reached, ran'⟩ | ⟨place, inside, whole, begins, parsed, ran'⟩
    · cases ran.symm.trans ran'
      rw [← reached.text_eq, Place.text, reached.rest_eq enough, String.append_empty]
      rfl
    · cases ran.symm.trans ran'
  · intro count halt ran
    rcases after_cases left right text count with
      ⟨place, reached, ran'⟩ | ⟨place, inside, whole, begins, parsed, ran'⟩
    · cases ran.symm.trans ran'
    · cases ran.symm.trans ran'
      refine ⟨place.done ++ place.pending, inside, ?_, ?_, rfl⟩
      · rw [← whole, Place.text, begins]
        exact String.append_assoc.symm
      · rw [← whole]
        exact Text.isBoundary_iff.2 ⟨_, place.rest, rfl, rfl⟩
  · intro list parsed command inside payload holds
    have parsed' : parseBytes options text = .ok list := by rw [parseBytes_eq, parsed]; rfl
    obtain ⟨front, back, rfl⟩ := quotes_of_parseBytes left right parsed' command inside payload holds
    exact ⟨_, _, Text.slice?_append front payload back⟩

/-- Delimiters and text whose characters begin with the same byte. -/
theorem Walk.between_characters_same_first_byte :
    ("é" : String) ≠ "" ∧ ("è" : String) ≠ "" ∧
      (∀ count walk, after ⟨"é", "è", true⟩ "êécolor:çè\nëéê" count = .ok walk →
        walk.Sound ⟨"é", "è", true⟩ "êécolor:çè\nëéê") ∧
      parseBytes ⟨"é", "è", true⟩ "êécolor:çè\nëéê" = .error (.failed (.unmatchedTag 17 "è")) ∧
      parseBytes ⟨"é", "è", true⟩ "êécolor:çè\në" =
        .ok [.drawText "ê", .setColor "ç", .newline, .drawText "ë"] := by
  have left : ("é" : String) ≠ "" := by decide
  have right : ("è" : String) ≠ "" := by decide
  have unmatched := @between_characters ⟨"é", "è", true⟩ left right "êécolor:çè\nëéê"
  have matched := @between_characters ⟨"é", "è", true⟩ left right "êécolor:çè\në"
  have failed : parse ⟨"é", "è", true⟩ "êécolor:çè\nëéê" = .error (.unmatchedTag 17 "è") := by cbv
  have parsed : parse ⟨"é", "è", true⟩ "êécolor:çè\në" =
      .ok [.drawText "ê", .setColor "ç", .newline, .drawText "ë"] := by cbv
  refine ⟨left, right, unmatched.1, ?_, ?_⟩
  · rw [unmatched.2.2.2.1, failed]
    rfl
  · rw [matched.2.2.2.1, parsed]
    rfl

end Markup
end StyledText
