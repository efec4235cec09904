import StyledText.Proofs.BytePieces
import StyledText.Proofs.OptionValues

/-!
# Steps over bytes

The steps of the parser, said by what they do to the bytes of a text. A walk is at an offset. It
takes the text from there on, compares bytes and looks for them, cuts out what it draws and goes to
another offset. A cut inside a character would end it. But each of its steps is one over characters,
which has no offsets and cuts nothing.

Results:
1. `Markup.exists_moves`: what there is to do at a place in the text.
2. `Markup.Walk.step_eq`: a step on bytes is a step on characters.
3. `Markup.Moves.outcome_eq`: what the parser makes of the text does not change along a step.
-/

namespace StyledText
namespace Markup

/-- Why a walk stops before the end. -/
inductive Halt where
  /-- An offset at which to cut is inside a character or outside the text. -/
  | broken
  | failed (e : ParseError)
deriving DecidableEq

/-- A walk: the offset it is at, the offset at which the text that is not drawn yet begins, and the
commands so far. -/
structure Walk where
  cursor : Nat
  pending : Nat
  list : CommandList
deriving DecidableEq

/-- The text from one offset to another. -/
def slice (text : String) (start stop : Nat) : Except Halt String :=
  match Text.slice? text start stop with
  | some piece => .ok piece
  | none => .error .broken

/-- The text behind a pattern with which it has to begin. -/
def strip (pattern : String) (otherwise : Halt) (text : String) : Except Halt String :=
  if Text.begins pattern text then slice text pattern.utf8ByteSize text.utf8ByteSize
  else .error otherwise

/-- The text up to the first place where a pattern has to occur, and the text from there on. -/
def takeUntil (pattern : String) (otherwise : Halt) (text : String) :
    Except Halt (String × String) :=
  match Text.find? pattern text with
  | some length => do
    let before ← slice text 0 length
    let behind ← slice text length text.utf8ByteSize
    return (before, behind)
  | none => .error otherwise

/-- The body of the tag with which a text begins, and the text behind the tag. -/
def tagBlock (options : Options) (otherwise : Halt) (text : String) :
    Except Halt (String × String) := do
  let inside ← strip options.left otherwise text
  let (body, closing) ← takeUntil options.right otherwise inside
  let rest ← strip options.right otherwise closing
  return (body, rest)

/-- The tag with the given body. Its first colon is looked for in the bytes. -/
def tagBody (body : String) : Except Halt Tag := do
  let length := (Text.find? ":" body).getD body.utf8ByteSize
  let name ← slice body 0 length
  let behind ← slice body length body.utf8ByteSize
  if Text.begins ":" behind then
    let value ← slice behind 1 behind.utf8ByteSize
    return ⟨name, some value⟩
  else
    return ⟨name, none⟩

/-- How many bytes the first character takes, or one if there is none. -/
def firstSize (text : String) : Nat := (text.toByteArray.utf8DecodeChar? 0).elim 1 Char.utf8Size

namespace Walk

def start : Walk := ⟨0, 0, []⟩

/-- One step of the walk. -/
def step (options : Options) (text : String) (walk : Walk) : Except Halt Walk := do
  let remaining ← slice text walk.cursor text.utf8ByteSize
  if Text.begins options.left remaining then
    let unmatched := Halt.failed (.unmatchedTag walk.cursor options.right)
    let (body, rest) ← tagBlock options unmatched remaining
    let before ← slice text walk.pending walk.cursor
    let tag ← tagBody body
    let past := text.utf8ByteSize - rest.utf8ByteSize
    return ⟨past, past, walk.list ++ plain before.toList ++ tag.command?.toList⟩
  else if options.newlineAsCommand && Text.begins "\n" remaining then
    let before ← slice text walk.pending walk.cursor
    let past := walk.cursor + 1
    return ⟨past, past, walk.list ++ plain before.toList ++ [.newline]⟩
  else
    return ⟨walk.cursor + firstSize remaining, walk.pending, walk.list⟩

end Walk

/-! ## Cuts -/

theorem slice_append (front piece back : String) :
    slice (front ++ piece ++ back) front.utf8ByteSize (front ++ piece).utf8ByteSize =
      .ok piece := by
  rw [slice, Text.slice?_append]

theorem slice_first (piece back : String) :
    slice (piece ++ back) 0 piece.utf8ByteSize = .ok piece := by
  have cut := slice_append "" piece back
  rwa [String.empty_append] at cut

theorem slice_last (front piece : String) :
    slice (front ++ piece) front.utf8ByteSize (front ++ piece).utf8ByteSize = .ok piece := by
  have cut := slice_append front piece ""
  rwa [String.append_empty] at cut

theorem begins_append (pattern rest : String) : Text.begins pattern (pattern ++ rest) = true := by
  rw [Text.begins_iff, String.toList_append]
  exact List.prefix_append _ _

theorem strip_append (pattern rest : String) (otherwise : Halt) :
    strip pattern otherwise (pattern ++ rest) = .ok rest := by
  rw [strip, if_pos (begins_append pattern rest)]
  exact slice_last pattern rest

theorem find?_of_firstAt {pattern before behind : String} (ne_empty : pattern ≠ "")
    (occurs : Text.FirstAt pattern.toList (before ++ pattern ++ behind).toList before.toList
      behind.toList) :
    Text.find? pattern (before ++ pattern ++ behind) = some before.utf8ByteSize :=
  (Text.find?_eq_some_iff ne_empty).2 ⟨_, _, occurs, Text.utf8Length_toList before⟩

theorem tagBlock_of_firstAt {options : Options} (right : options.right ≠ "") {body rest : String}
    (closed : Text.FirstAt options.right.toList (body ++ options.right ++ rest).toList body.toList
      rest.toList) (otherwise : Halt) :
    tagBlock options otherwise (options.left ++ (body ++ options.right ++ rest)) =
      .ok (body, rest) := by
  have found := find?_of_firstAt right closed
  rw [String.append_assoc] at found ⊢
  simp only [tagBlock, takeUntil, bind, Except.bind, pure, Except.pure, strip_append, found,
    slice_first, slice_last]

theorem tagBlock_of_not_isInfix {options : Options} (right : options.right ≠ "") {inside : String}
    (absent : ¬options.right.toList <:+: inside.toList) (otherwise : Halt) :
    tagBlock options otherwise (options.left ++ inside) = .error otherwise := by
  simp only [tagBlock, takeUntil, bind, Except.bind, strip_append,
    (Text.find?_eq_none_iff right).2 absent]

/-- The body of a tag is a name, or a name and a value with a colon between them. -/
theorem ofBody_cases (body : String) :
    (':' ∉ body.toList ∧ Tag.ofBody body.toList = ⟨body, none⟩) ∨
      ∃ name value : String, ':' ∉ name.toList ∧ body = name ++ ":" ++ value ∧
        Tag.ofBody body.toList = ⟨name, some value⟩ := by
  rcases body_cases body.toList with ⟨name, absent, split⟩ | ⟨name, value, absent, split⟩
  · obtain rfl : body = name := String.toList_inj.1 split
    exact .inl ⟨absent, ofBody_of_notMem absent⟩
  · refine .inr ⟨name, String.ofList value, absent, Text.eq_append_of_toList ?_, ?_⟩
    · rw [split, String.toList_append, List.append_cons]
      rfl
    · rw [split, ofBody_append absent]

/-- The first colon of the bytes parts a name from a value where that of the characters does. -/
theorem tagBody_eq (body : String) : tagBody body = .ok (Tag.ofBody body.toList) := by
  have ne_empty : (":" : String) ≠ "" := by decide
  have colon : (":" : String).toList = [':'] := String.toList_singleton ':'
  rcases ofBody_cases body with ⟨absent, tag⟩ | ⟨name, value, absent, rfl, tag⟩
  · have none : Text.find? ":" body = none := by
      refine (Text.find?_eq_none_iff ne_empty).2 ?_
      rwa [colon, List.singleton_infix_iff]
    have first := slice_first body ""
    have last := slice_last body ""
    rw [String.append_empty] at first last
    have ends : Text.begins ":" "" = false := by decide +kernel
    simp only [tagBody, none, Option.getD_none, bind, Except.bind, pure, Except.pure, first, last,
      ends, Bool.false_eq_true, if_false, tag]
  · have found : Text.find? ":" (name ++ ":" ++ value) = some name.utf8ByteSize := by
      refine find?_of_firstAt ne_empty (Text.splitAtFirst?_eq_some_iff.1 ?_)
      rw [colon]
      exact Text.splitAtFirst?_singleton_eq_some_iff.2 ⟨by simp [colon], absent⟩
    have given : slice (":" ++ value) 1 (":" ++ value).utf8ByteSize = .ok value :=
      slice_last ":" value
    rw [tag]
    rw [String.append_assoc] at found ⊢
    simp only [tagBody, found, Option.getD_some, bind, Except.bind, pure, Except.pure, slice_first,
      slice_last, begins_append, if_true, given]

theorem firstSize_singleton_append (c : Char) (rest : String) :
    firstSize (String.singleton c ++ rest) = c.utf8Size := by
  have encoded : (String.singleton c ++ rest).toByteArray = (c :: rest.toList).utf8Encode := by
    rw [← String.utf8Encode_toList, String.toList_append, String.toList_singleton]
    rfl
  rw [firstSize, encoded, List.utf8DecodeChar?_utf8Encode_cons]
  rfl

theorem begins_newline_iff {c : Char} {rest : String} :
    Text.begins "\n" (String.singleton c ++ rest) = true ↔ c = '\n' := by
  have feed : ("\n" : String).toList = ['\n'] := String.toList_singleton '\n'
  rw [Text.begins_iff, String.toList_append, String.toList_singleton, feed, List.singleton_append,
    List.cons_prefix_cons]
  exact ⟨fun h => h.1.symm, fun h => ⟨h.symm, List.nil_prefix⟩⟩

/-! ## Places -/

/-- Where a walk is in the text, said by its characters: those that are done with, those that are
not drawn yet, and those that are still to come. -/
structure Place where
  done : String
  pending : String
  rest : String
  list : CommandList

namespace Place

def text (place : Place) : String := place.done ++ place.pending ++ place.rest

/-- The walk at this place. -/
def walk (place : Place) : Walk :=
  ⟨(place.done ++ place.pending).utf8ByteSize, place.done.utf8ByteSize, place.list⟩

/-- What the parser makes of the text from this place on. -/
def outcome (d : Delimiters) (newlines : Bool) (place : Place) : Except ParseError CommandList :=
  (scan d newlines place.done.utf8ByteSize place.pending.toList.reverse place.rest.toList).map
    fun list => place.list ++ list

theorem slice_rest (place : Place) :
    slice place.text place.walk.cursor place.text.utf8ByteSize = .ok place.rest :=
  slice_last (place.done ++ place.pending) place.rest

theorem slice_pending (place : Place) :
    slice place.text place.walk.pending place.walk.cursor = .ok place.pending :=
  slice_append place.done place.pending place.rest

end Place

/-- One step of a walk over characters. -/
inductive Moves (options : Options) : Place → Except ParseError Place → Prop where
  | unmatched {done pending inside : String} {list : CommandList} :
      ¬options.right.toList <:+: inside.toList →
      Moves options ⟨done, pending, options.left ++ inside, list⟩
        (.error (.unmatchedTag (done ++ pending).utf8ByteSize options.right))
  | tag {done pending body rest : String} {list : CommandList} :
      Text.FirstAt options.right.toList (body ++ options.right ++ rest).toList body.toList
        rest.toList →
      Moves options ⟨done, pending, options.left ++ (body ++ options.right ++ rest), list⟩
        (.ok ⟨done ++ pending ++ options.left ++ body ++ options.right, "", rest,
          list ++ plain pending.toList ++ (Tag.ofBody body.toList).command?.toList⟩)
  | newline {done pending rest : String} {list : CommandList} :
      ¬options.left.toList <+: ("\n" ++ rest).toList → options.newlineAsCommand = true →
      Moves options ⟨done, pending, "\n" ++ rest, list⟩
        (.ok ⟨done ++ pending ++ "\n", "", rest, list ++ plain pending.toList ++ [.newline]⟩)
  | character {c : Char} {done pending rest : String} {list : CommandList} :
      ¬options.left.toList <+: (String.singleton c ++ rest).toList →
      ¬(options.newlineAsCommand = true ∧ c = '\n') →
      Moves options ⟨done, pending, String.singleton c ++ rest, list⟩
        (.ok ⟨done, pending ++ String.singleton c, rest, list⟩)

section Moves

variable {options : Options} {place : Place}

/-- A walk that is not at the end takes a step: at a left delimiter with or without an end, at a
line feed that is a command, or over any other character. -/
theorem exists_moves (more : place.rest ≠ "") : ∃ next, Moves options place next := by
  obtain ⟨done, pending, rest, list⟩ := place
  by_cases begins : options.left.toList <+: rest.toList
  · obtain ⟨inside, split⟩ := begins
    obtain rfl := Text.eq_append_of_toList split.symm
    cases cut : Text.splitAtFirst? options.right.toList inside with
    | none =>
      refine ⟨_, .unmatched ?_⟩
      rwa [String.toList_ofList, ← Text.splitAtFirst?_eq_none_iff_not_isInfix]
    | some parts =>
      obtain ⟨body, behind⟩ := parts
      have closed := Text.splitAtFirst?_eq_some_iff.1 cut
      have whole : String.ofList inside =
          String.ofList body ++ options.right ++ String.ofList behind := by
        refine Text.eq_append_of_toList ?_
        rw [String.toList_ofList, closed.occurs, String.toList_append, String.toList_ofList]
      rw [whole]
      refine ⟨_, .tag ?_⟩
      rwa [← whole, String.toList_ofList, String.toList_ofList, String.toList_ofList]
  · obtain ⟨c, behind, split⟩ := List.exists_cons_of_ne_nil (mt String.toList_eq_nil_iff.1 more)
    obtain rfl : rest = String.singleton c ++ String.ofList behind :=
      Text.eq_append_of_toList (by rw [split, String.toList_singleton, List.singleton_append])
    by_cases feed : options.newlineAsCommand = true ∧ c = '\n'
    · obtain ⟨on, rfl⟩ := feed
      exact ⟨_, .newline begins on⟩
    · exact ⟨_, .character begins feed⟩

/-- A step on bytes is a step on characters. -/
theorem Walk.step_eq (right : options.right ≠ "") {next : Except ParseError Place}
    (moves : Moves options place next) :
    step options place.text place.walk = (next.map Place.walk).mapError .failed := by
  have remaining := place.slice_rest
  have before := place.slice_pending
  cases moves with
  | unmatched absent =>
    simp only [step, bind, Except.bind, remaining, begins_append, if_true,
      tagBlock_of_not_isInfix right absent]
    rfl
  | @tag done pending body rest list closed =>
    let found : Place := ⟨done, pending, options.left ++ (body ++ options.right ++ rest), list⟩
    have past : found.text.utf8ByteSize - rest.utf8ByteSize =
        (done ++ pending ++ options.left ++ body ++ options.right).utf8ByteSize := by
      simp only [found, Place.text, String.utf8ByteSize_append]
      omega
    simp only [step, bind, Except.bind, pure, Except.pure, remaining, before, begins_append, if_true,
      tagBlock_of_firstAt right closed, tagBody_eq, past, found]
    simp only [Except.map, Except.mapError, Place.walk, String.append_empty]
  | @newline done pending rest list absent on =>
    have other : Text.begins options.left ("\n" ++ rest) = false := by
      rwa [← Bool.not_eq_true, Text.begins_iff]
    have past : (done ++ pending ++ "\n").utf8ByteSize = (done ++ pending).utf8ByteSize + 1 :=
      String.utf8ByteSize_append
    simp only [step, bind, Except.bind, pure, Except.pure, remaining, before, begins_append, if_true,
      other, on, Bool.false_eq_true, if_false, Bool.and_self]
    simp only [Except.map, Except.mapError, Place.walk, String.append_empty, past]
  | @character c done pending rest list absent other =>
    have noTag : Text.begins options.left (String.singleton c ++ rest) = false := by
      rwa [← Bool.not_eq_true, Text.begins_iff]
    have noFeed : ¬(options.newlineAsCommand && Text.begins "\n" (String.singleton c ++ rest)) =
        true := by
      rw [Bool.and_eq_true, begins_newline_iff]
      exact other
    have past : (done ++ (pending ++ String.singleton c)).utf8ByteSize =
        (done ++ pending).utf8ByteSize + c.utf8Size := by
      rw [← String.append_assoc, String.utf8ByteSize_append, String.utf8ByteSize_singleton]
    simp only [step, bind, Except.bind, pure, Except.pure, remaining, noTag, Bool.false_eq_true,
      if_false, if_neg noFeed, firstSize_singleton_append]
    simp only [Except.map, Except.mapError, Place.walk, past]

theorem Moves.text_eq {next : Place} (moves : Moves options place (.ok next)) :
    next.text = place.text := by
  cases moves <;> simp only [Place.text, String.append_assoc, String.empty_append]

theorem Moves.cursor_lt (left : options.left ≠ "") {next : Place}
    (moves : Moves options place (.ok next)) : place.walk.cursor < next.walk.cursor := by
  have longer : 0 < options.left.utf8ByteSize :=
    Nat.pos_of_ne_zero (mt String.utf8ByteSize_eq_zero_iff.1 left)
  cases moves with
  | tag _ =>
    simp only [Place.walk, String.utf8ByteSize_append]
    omega
  | newline _ _ =>
    have : ("\n" : String).utf8ByteSize = 1 := rfl
    simp only [Place.walk, String.utf8ByteSize_append]
    omega
  | @character c _ _ _ _ _ _ =>
    have := c.utf8Size_pos
    simp only [Place.walk, String.utf8ByteSize_append, String.utf8ByteSize_singleton]
    omega

/-- What the parser makes of the text does not change along a step. -/
theorem Moves.outcome_eq {d : Delimiters} (left : d.left = options.left.toList)
    (right : d.right = options.right.toList) {next : Except ParseError Place}
    (moves : Moves options place next) :
    place.outcome d options.newlineAsCommand =
      next.bind (Place.outcome d options.newlineAsCommand) := by
  cases moves with
  | @unmatched done pending inside list absent =>
    have cursor : done.utf8ByteSize + Text.utf8Length pending.toList.reverse =
        (done ++ pending).utf8ByteSize := by
      rw [Text.utf8Length_reverse, Text.utf8Length_toList, String.utf8ByteSize_append]
    rw [Place.outcome, String.toList_append, ← left, scan_left, scanTag, right,
      Text.splitAtFirst?_eq_none_iff_not_isInfix.2 absent, cursor, String.ofList_toList]
    rfl
  | @tag done pending body rest list closed =>
    have past : done.utf8ByteSize + Text.utf8Length pending.toList.reverse +
        Text.utf8Length (options.left.toList ++ body.toList ++ options.right.toList) =
          (done ++ pending ++ options.left ++ body ++ options.right).utf8ByteSize := by
      simp only [Text.utf8Length_reverse, Text.utf8Length_append, Text.utf8Length_toList,
        String.utf8ByteSize_append]
      omega
    rw [Place.outcome, String.toList_append, ← left, scan_left, scanTag, right,
      Text.splitAtFirst?_eq_some_iff.2 closed]
    dsimp only
    rw [map_map_append, map_map_append, left, past, List.reverse_reverse, ← plain_eq_drawn]
    rfl
  | @newline done pending rest list absent on =>
    have absent' : ¬d.left <+: '\n' :: rest.toList := by
      rw [left]
      rwa [String.toList_append] at absent
    have past : done.utf8ByteSize +
        Text.utf8Length (pending.toList.reverse.reverse ++ ['\n']) =
          (done ++ pending ++ "\n").utf8ByteSize := by
      rw [List.reverse_reverse, Text.utf8Length_append, Text.utf8Length_toList,
        String.utf8ByteSize_append, String.utf8ByteSize_append, Nat.add_assoc]
      rfl
    have split : ("\n" ++ rest).toList = '\n' :: rest.toList := String.toList_append
    rw [Place.outcome, split, scan_cons absent', if_pos ⟨on, rfl⟩, past, List.reverse_reverse,
      ← plain_eq_drawn]
    show _ = (scan d options.newlineAsCommand (done ++ pending ++ "\n").utf8ByteSize []
      rest.toList).map fun commands => list ++ plain pending.toList ++ [.newline] ++ commands
    cases scan d options.newlineAsCommand (done ++ pending ++ "\n").utf8ByteSize [] rest.toList with
    | error e => rfl
    | ok commands =>
      simp only [Except.map, List.append_assoc, List.singleton_append]
  | @character c done pending rest list absent other =>
    have split : (String.singleton c ++ rest).toList = c :: rest.toList := by
      rw [String.toList_append, String.toList_singleton]
      rfl
    rw [split, ← left] at absent
    rw [Place.outcome, split, scan_cons absent, if_neg other]
    show _ = Place.outcome _ _ _
    rw [Place.outcome, String.toList_append, String.toList_singleton, List.reverse_append]
    rfl

end Moves

end Markup
end StyledText
