import Mathlib
import StyledText.Markup.Parser

/-!
# The grammar of markup

What a markup text means, said by where delimiters occur in it: the text up to the first left
delimiter is plain, what stands between that and the first right delimiter after it is a tag, and
the rest is markup again. The parser finds this out in one walk over the text with pending plain
text behind it; here it is a relation between texts and outcomes, without a walk.

Results:
1. `Text.splitAtFirst?_eq_some_iff`: a cut at a pattern is a cut at its first occurrence.
2. `Markup.means_iff`: the commands of a tag are those that its name and value ask for.
3. `Markup.Reads.unique`: the grammar gives a text one outcome.
4. `Markup.parse_eq_iff`: the parser accepts exactly the grammar.
-/

namespace StyledText

/-! ## First occurrences -/

namespace Text

/-- The pattern occurs in the text between `before` and `behind`, and nowhere further left. -/
structure FirstAt (pattern text before behind : List Char) : Prop where
  occurs : text = before ++ pattern ++ behind
  first : ∀ {before' behind' : List Char}, text = before' ++ pattern ++ behind' →
    before.length ≤ before'.length

theorem FirstAt.unique {pattern text before behind before' behind' : List Char}
    (h : FirstAt pattern text before behind) (h' : FirstAt pattern text before' behind') :
    before = before' ∧ behind = behind' := by
  have length : before.length = before'.length :=
    Nat.le_antisymm (h.first h'.occurs) (h'.first h.occurs)
  have same := h.occurs.symm.trans h'.occurs
  rw [List.append_assoc, List.append_assoc] at same
  obtain ⟨rfl, tail⟩ := List.append_inj same length
  exact ⟨rfl, List.append_cancel_left tail⟩

/-- No occurrence begins in what stands before the first one. -/
theorem FirstAt.clear {pattern text before behind front back : List Char}
    (h : FirstAt pattern text before behind) (split : before = front ++ back)
    (ne_nil : back ≠ []) : ¬pattern <+: back ++ (pattern ++ behind) := by
  rintro ⟨tail, begins⟩
  have found : text = front ++ pattern ++ tail := by
    rw [h.occurs, split, List.append_assoc, List.append_assoc, List.append_assoc, begins]
  have shorter := h.first found
  have := List.length_pos_iff.2 ne_nil
  rw [split, List.length_append] at shorter
  omega

theorem firstAt_of_isPrefix {pattern text behind : List Char} (h : text = pattern ++ behind) :
    FirstAt pattern text [] behind :=
  ⟨h, fun _ => Nat.zero_le _⟩

theorem firstAt_cons {pattern text before behind : List Char} {c : Char}
    (h : FirstAt pattern text before behind) (absent : ¬pattern <+: c :: text) :
    FirstAt pattern (c :: text) (c :: before) behind := by
  refine ⟨by rw [h.occurs]; rfl, fun {before' behind'} occurs => ?_⟩
  cases before' with
  | nil => exact absurd ⟨behind', occurs.symm⟩ absent
  | cons c' before' =>
    obtain ⟨-, tail⟩ := List.cons.inj occurs
    exact Nat.succ_le_succ (h.first tail)

theorem stripPrefix?_eq_none_iff {pattern text : List Char} :
    stripPrefix? pattern text = none ↔ ¬pattern <+: text := by
  constructor
  · rintro none ⟨rest, begins⟩
    rw [stripPrefix?_eq_some_iff.2 begins.symm] at none
    cases none
  · intro absent
    cases found : stripPrefix? pattern text with
    | none => rfl
    | some rest => exact absurd ⟨rest, (stripPrefix?_eq_some_iff.1 found).symm⟩ absent

theorem firstAt_of_splitAtFirst? {pattern text before behind : List Char}
    (h : splitAtFirst? pattern text = some (before, behind)) :
    FirstAt pattern text before behind := by
  induction text generalizing before with
  | nil =>
    simp only [splitAtFirst?, Option.map_eq_some_iff, Prod.mk.injEq] at h
    obtain ⟨rest, found, rfl, rfl⟩ := h
    exact firstAt_of_isPrefix (stripPrefix?_eq_some_iff.1 found)
  | cons c text ih =>
    simp only [splitAtFirst?] at h
    split at h
    · next rest found =>
      cases h
      exact firstAt_of_isPrefix (stripPrefix?_eq_some_iff.1 found)
    · next absent =>
      simp only [Option.map_eq_some_iff, Prod.mk.injEq] at h
      obtain ⟨⟨before', behind'⟩, found, rfl, rfl⟩ := h
      exact firstAt_cons (ih found) (stripPrefix?_eq_none_iff.1 absent)

/-- A text is cut at the first occurrence of the pattern. -/
theorem splitAtFirst?_eq_some_iff {pattern text before behind : List Char} :
    splitAtFirst? pattern text = some (before, behind) ↔
      FirstAt pattern text before behind := by
  refine ⟨firstAt_of_splitAtFirst?, fun h => ?_⟩
  cases found : splitAtFirst? pattern text with
  | none => exact absurd h.occurs (splitAtFirst?_eq_none_iff.1 found before behind)
  | some cut =>
    obtain ⟨rfl, rfl⟩ := (firstAt_of_splitAtFirst? found).unique h
    rfl

/-- A text is not cut if the pattern does not occur. -/
theorem splitAtFirst?_eq_none_iff_not_isInfix {pattern text : List Char} :
    splitAtFirst? pattern text = none ↔ ¬pattern <:+: text := by
  rw [splitAtFirst?_eq_none_iff]
  constructor
  · rintro none ⟨before, behind, occurs⟩
    exact none before behind occurs.symm
  · rintro absent before behind occurs
    exact absent ⟨before, behind, occurs.symm⟩

theorem utf8Length_reverse (text : List Char) : utf8Length text.reverse = utf8Length text := by
  induction text with
  | nil => rfl
  | cons c text ih =>
    rw [List.reverse_cons, utf8Length_append, ih, utf8Length, utf8Length, utf8Length]
    omega

theorem utf8Length_eq (text : List Char) :
    utf8Length text = (String.ofList text).utf8ByteSize := by
  induction text with
  | nil => rfl
  | cons c text ih =>
    rw [utf8Length, ih, String.ofList_cons, String.utf8ByteSize_append,
      String.utf8ByteSize_singleton]

end Text

namespace Markup

/-! ## Tags -/

/-- The names that take a value, with what they make of it. -/
def valued : List (String × (String → Command)) :=
  [("color", .setColor), ("font", .setFont), ("size", .setSize), ("image", .drawImage)]

/-- The commands of what stands between two delimiters. -/
inductive Means : List Char → CommandList → Prop where
  /-- All behind the first colon is the value. -/
  | valued {name : String} {make : String → Command} {value : List Char} :
      (name, make) ∈ valued → Means (name.toList ++ ':' :: value) [make (String.ofList value)]
  /-- A value is missing. -/
  | bare {name : String} {make : String → Command} :
      (name, make) ∈ Markup.valued → Means name.toList []
  | newline : Means "newline".toList [.newline]
  /-- Any other name is that of a string. -/
  | string {name : String} :
      ':' ∉ name.toList → name ∉ Markup.valued.map Prod.fst → name ≠ "newline" →
      Means name.toList [.useString name]
  /-- A name of a string needs no value, and one that it has does not count. -/
  | stringWith {name : String} {value : List Char} :
      ':' ∉ name.toList → name ∉ Markup.valued.map Prod.fst →
      Means (name.toList ++ ':' :: value) [.useString name]

theorem ne_colon {name : String} (h : ':' ∉ name.toList) : ∀ c ∈ name.toList, c != ':' := by
  intro c inside
  have : c ≠ ':' := fun colon => h (colon ▸ inside)
  simpa using this

theorem ofBody_of_notMem {name : String} (h : ':' ∉ name.toList) :
    Tag.ofBody name.toList = ⟨name, none⟩ := by
  have dropped : (name.toList ++ []).dropWhile (· != ':') = [] :=
    List.dropWhile_append_of_pos (ne_colon h)
  rw [List.append_nil] at dropped
  rw [Tag.ofBody, dropped, String.ofList_toList]

theorem ofBody_append {name : String} (h : ':' ∉ name.toList) (value : List Char) :
    Tag.ofBody (name.toList ++ ':' :: value) = ⟨name, some (String.ofList value)⟩ := by
  have dropped : (name.toList ++ ':' :: value).dropWhile (· != ':') = ':' :: value :=
    List.dropWhile_append_of_pos (ne_colon h)
  have taken : (name.toList ++ ':' :: value).takeWhile (· != ':') = name.toList := by
    rw [List.takeWhile_append_of_pos (ne_colon h)]
    exact List.append_nil _
  rw [Tag.ofBody, dropped]
  dsimp only
  rw [taken, String.ofList_toList]

/-- A body is a name, or a name, a colon and a value. -/
theorem body_cases (body : List Char) :
    (∃ name : String, ':' ∉ name.toList ∧ body = name.toList) ∨
      ∃ (name : String) (value : List Char), ':' ∉ name.toList ∧
        body = name.toList ++ ':' :: value := by
  induction body with
  | nil => exact .inl ⟨"", by simp, rfl⟩
  | cons c body ih =>
    by_cases colon : c = ':'
    · subst colon
      exact .inr ⟨"", body, by simp, rfl⟩
    · rcases ih with ⟨name, absent, rfl⟩ | ⟨name, value, absent, rfl⟩
      · refine .inl ⟨String.ofList (c :: name.toList), ?_, by simp⟩
        simpa [Ne.symm colon] using absent
      · refine .inr ⟨String.ofList (c :: name.toList), value, ?_, by simp⟩
        simpa [Ne.symm colon] using absent

theorem reserved?_of_mem {name : String} {make : String → Command}
    (h : (name, make) ∈ valued) : Tag.reserved? name = some make := by
  simp only [valued, List.mem_cons, Prod.mk.injEq, List.not_mem_nil, or_false] at h
  rcases h with ⟨rfl, rfl⟩ | ⟨rfl, rfl⟩ | ⟨rfl, rfl⟩ | ⟨rfl, rfl⟩ <;> simp [Tag.reserved?]

theorem mem_of_reserved? {name : String} {make : String → Command}
    (h : Tag.reserved? name = some make) : (name, make) ∈ valued := by
  unfold Tag.reserved? at h
  split at h
  · next color => cases h; simp [valued, color]
  · split at h
    · next font => cases h; simp [valued, font]
    · split at h
      · next size => cases h; simp [valued, size]
      · split at h
        · next image => cases h; simp [valued, image]
        · cases h

theorem reserved?_eq_none_iff {name : String} :
    Tag.reserved? name = none ↔ name ∉ valued.map Prod.fst := by
  constructor
  · rintro none inside
    obtain ⟨⟨_, make⟩, listed, rfl⟩ := List.mem_map.1 inside
    rw [reserved?_of_mem listed] at none
    cases none
  · intro absent
    cases found : Tag.reserved? name with
    | none => rfl
    | some make => exact absurd (List.mem_map.2 ⟨_, mem_of_reserved? found, rfl⟩) absent

theorem notMem_of_mem_valued {name : String} {make : String → Command}
    (h : (name, make) ∈ valued) : ':' ∉ name.toList := by
  simp only [valued, List.mem_cons, Prod.mk.injEq, List.not_mem_nil, or_false] at h
  rcases h with ⟨rfl, -⟩ | ⟨rfl, -⟩ | ⟨rfl, -⟩ | ⟨rfl, -⟩ <;> decide

theorem command?_of_mem {name : String} {make : String → Command}
    (h : (name, make) ∈ valued) (value : Option String) :
    (⟨name, value⟩ : Tag).command? = value.map make := by
  rw [Tag.command?, reserved?_of_mem h]
  cases value <;> rfl

theorem command?_of_notMem {name : String} {value : Option String}
    (h : name ∉ valued.map Prod.fst) (other : ¬(name = "newline" ∧ value = none)) :
    (⟨name, value⟩ : Tag).command? = some (.useString name) := by
  rw [Tag.command?, reserved?_eq_none_iff.2 h]
  exact if_neg other

theorem command?_newline : (⟨"newline", none⟩ : Tag).command? = some .newline := by decide +kernel

theorem means_command? (body : List Char) :
    Means body (Tag.ofBody body).command?.toList := by
  rcases body_cases body with ⟨name, absent, rfl⟩ | ⟨name, value, absent, rfl⟩
  · rw [ofBody_of_notMem absent]
    cases reserved : Tag.reserved? name with
    | some make =>
      rw [command?_of_mem (mem_of_reserved? reserved)]
      exact .bare (mem_of_reserved? reserved)
    | none =>
      have unreserved := reserved?_eq_none_iff.1 reserved
      by_cases newline : name = "newline"
      · subst newline
        rw [command?_newline]
        exact .newline
      · rw [command?_of_notMem unreserved fun h => newline h.1]
        exact .string absent unreserved newline
  · rw [ofBody_append absent]
    cases reserved : Tag.reserved? name with
    | some make =>
      rw [command?_of_mem (mem_of_reserved? reserved)]
      exact .valued (mem_of_reserved? reserved)
    | none =>
      have unreserved := reserved?_eq_none_iff.1 reserved
      have given : ¬(name = "newline" ∧ some (String.ofList value) = none) := fun h => nomatch h.2
      rw [command?_of_notMem unreserved given]
      exact .stringWith absent unreserved

theorem command?_of_means {body : List Char} {commands : CommandList} (h : Means body commands) :
    commands = (Tag.ofBody body).command?.toList := by
  cases h with
  | valued listed =>
    rw [ofBody_append (notMem_of_mem_valued listed), command?_of_mem listed]
    rfl
  | bare listed =>
    rw [ofBody_of_notMem (notMem_of_mem_valued listed), command?_of_mem listed]
    rfl
  | newline =>
    rw [ofBody_of_notMem (by decide), command?_newline]
    rfl
  | string absent unreserved other =>
    rw [ofBody_of_notMem absent, command?_of_notMem unreserved fun h => other h.1]
    rfl
  | @stringWith name value absent unreserved =>
    have given : ¬(name = "newline" ∧ some (String.ofList value) = none) := fun h => nomatch h.2
    rw [ofBody_append absent, command?_of_notMem unreserved given]
    rfl

/-- The commands of a tag are those that its name and value ask for. -/
theorem means_iff {body : List Char} {commands : CommandList} :
    Means body commands ↔ commands = (Tag.ofBody body).command?.toList :=
  ⟨command?_of_means, fun h => h ▸ means_command? body⟩

theorem Means.unique {body : List Char} {commands commands' : CommandList}
    (h : Means body commands) (h' : Means body commands') : commands = commands' :=
  (means_iff.1 h).trans (means_iff.1 h').symm

/-! ## Plain text -/

/-- The text as one run, unless it is empty. -/
def drawn (text : List Char) : CommandList :=
  if text = [] then [] else [.drawText (String.ofList text)]

/-- The commands of plain text. Where line feeds are commands, there is one for each of them, and a
run for what stands between two. -/
def pieces (newlines : Bool) (text : List Char) : CommandList :=
  if newlines then [.newline].intercalate ((text.splitOn '\n').map drawn) else drawn text

theorem plain_eq_drawn (text : List Char) : plain text = drawn text := by
  cases text <;> rfl

/-- Text is one run if it has no line feed that is a command. -/
theorem pieces_of_notMem {newlines : Bool} {text : List Char}
    (h : newlines = true → '\n' ∉ text) : pieces newlines text = drawn text := by
  cases newlines with
  | false => rfl
  | true =>
    simp only [pieces, if_true, List.splitOn_eq_singleton (h rfl), List.map_cons, List.map_nil,
      List.intercalate_singleton]

theorem pieces_append_newline {text : List Char} (h : '\n' ∉ text) (rest : List Char) :
    pieces true (text ++ '\n' :: rest) = drawn text ++ .newline :: pieces true rest := by
  have ne_nil : (rest.splitOn '\n').map drawn ≠ [] := by
    rw [Ne, List.map_eq_nil_iff]
    exact List.splitOn_ne_nil '\n' rest
  simp only [pieces, if_true, List.splitOn_append_cons_self_of_not_mem h, List.map_cons,
    List.intercalate_cons_of_ne_nil ne_nil]
  rw [List.append_assoc]
  rfl

/-! ## The grammar -/

/-- A text that stands behind what is read already has the outcome. -/
inductive Reads (options : Options) :
    List Char → List Char → Except ParseError CommandList → Prop where
  /-- Without a left delimiter all is plain. -/
  | plain {read text : List Char} :
      ¬options.left.toList <:+: text →
      Reads options read text (.ok (pieces options.newlineAsCommand text))
  /-- A tag has no end. Its place is counted in bytes. -/
  | unmatched {read text before inside : List Char} :
      Text.FirstAt options.left.toList text before inside →
      ¬options.right.toList <:+: inside →
      Reads options read text
        (.error (.unmatchedTag (String.ofList (read ++ before)).utf8ByteSize options.right))
  | tag {read text before inside body rest : List Char} {commands : CommandList}
      {outcome : Except ParseError CommandList} :
      Text.FirstAt options.left.toList text before inside →
      Text.FirstAt options.right.toList inside body rest →
      Means body commands →
      Reads options (read ++ before ++ options.left.toList ++ body ++ options.right.toList) rest
        outcome →
      Reads options read text
        (outcome.map fun list => pieces options.newlineAsCommand before ++ commands ++ list)

/-- The grammar gives a text one outcome. -/
theorem Reads.unique {options : Options} {read text : List Char}
    {outcome outcome' : Except ParseError CommandList} (h : Reads options read text outcome)
    (h' : Reads options read text outcome') : outcome = outcome' := by
  induction h generalizing outcome' with
  | plain absent =>
    cases h' with
    | plain _ => rfl
    | unmatched opened _ => exact absurd ⟨_, _, opened.occurs.symm⟩ absent
    | tag opened _ _ _ => exact absurd ⟨_, _, opened.occurs.symm⟩ absent
  | unmatched opened absent =>
    cases h' with
    | plain absent' => exact absurd ⟨_, _, opened.occurs.symm⟩ absent'
    | unmatched opened' _ =>
      obtain ⟨rfl, rfl⟩ := opened.unique opened'
      rfl
    | tag opened' closed _ _ =>
      obtain ⟨rfl, rfl⟩ := opened.unique opened'
      exact absurd ⟨_, _, closed.occurs.symm⟩ absent
  | tag opened closed means _ ih =>
    cases h' with
    | plain absent => exact absurd ⟨_, _, opened.occurs.symm⟩ absent
    | unmatched opened' absent =>
      obtain ⟨rfl, rfl⟩ := opened.unique opened'
      exact absurd ⟨_, _, closed.occurs.symm⟩ absent
    | tag opened' closed' means' rest =>
      obtain ⟨rfl, rfl⟩ := opened.unique opened'
      obtain ⟨rfl, rfl⟩ := closed.unique closed'
      obtain rfl := means.unique means'
      rw [ih rest]

/-! ## The walk -/

theorem map_map_append (outcome : Except ParseError CommandList) (first second : CommandList) :
    (outcome.map fun list => second ++ list).map (fun list => first ++ list) =
      outcome.map fun list => first ++ second ++ list := by
  cases outcome with
  | error e => rfl
  | ok list => exact congrArg Except.ok (List.append_assoc first second list).symm

theorem scan_nil (d : Delimiters) (newlines : Bool) (offset : Nat) (pending : List Char) :
    scan d newlines offset pending [] = .ok (drawn pending.reverse) := by
  have absent : Text.stripPrefix? d.left [] = none := by
    rw [Text.stripPrefix?_eq_none_iff, List.prefix_nil]
    exact d.left_ne_nil
  rw [scan]
  split
  · next found => rw [absent] at found; cases found
  · rw [plain_eq_drawn]

theorem scan_cons {d : Delimiters} {c : Char} {text : List Char}
    (absent : ¬d.left <+: c :: text) (newlines : Bool) (offset : Nat) (pending : List Char) :
    scan d newlines offset pending (c :: text) =
      if newlines ∧ c = '\n' then
        (scan d newlines (offset + Text.utf8Length (pending.reverse ++ [c])) [] text).map
          fun list => drawn pending.reverse ++ .newline :: list
      else scan d newlines offset (c :: pending) text := by
  rw [scan]
  split
  · next found =>
    rw [Text.stripPrefix?_eq_none_iff.2 absent] at found
    cases found
  · rw [plain_eq_drawn]

/-- What the walk does at a left delimiter, `offset` bytes into the text. -/
def scanTag (d : Delimiters) (newlines : Bool) (offset : Nat) (inside : List Char) :
    Except ParseError CommandList :=
  match Text.splitAtFirst? d.right inside with
  | none => .error (.unmatchedTag offset (String.ofList d.right))
  | some (body, rest) =>
    (scan d newlines (offset + Text.utf8Length (d.left ++ body ++ d.right)) [] rest).map
      fun list => (Tag.ofBody body).command?.toList ++ list

theorem scan_left (d : Delimiters) (newlines : Bool) (offset : Nat) (pending inside : List Char) :
    scan d newlines offset pending (d.left ++ inside) =
      (scanTag d newlines (offset + Text.utf8Length pending) inside).map
        fun list => drawn pending.reverse ++ list := by
  have begins : Text.stripPrefix? d.left (d.left ++ inside) = some inside :=
    Text.stripPrefix?_eq_some_iff.2 rfl
  rw [scan, scanTag]
  split
  · next inside' found =>
    rw [begins] at found
    cases found
    split
    · next absent =>
      rw [absent]
      rfl
    · next body rest found =>
      rw [found]
      dsimp only
      have past : offset + Text.utf8Length (pending.reverse ++ d.left ++ body ++ d.right) =
          offset + Text.utf8Length pending + Text.utf8Length (d.left ++ body ++ d.right) := by
        simp only [Text.utf8Length_append, Text.utf8Length_reverse]
        omega
      rw [past, map_map_append, plain_eq_drawn]
  · next absent =>
    rw [begins] at absent
    cases absent

/-- The walk over text in which no left delimiter begins gives the pieces of that text, and goes on
behind it. What it does there, `tail`, depends only on how far it is. The induction is on the text;
along it the pending text never holds a line feed that is a command. -/
theorem scan_clear {d : Delimiters} {newlines : Bool} {rest : List Char}
    (tail : Nat → Except ParseError CommandList)
    (ends : ∀ offset pending, scan d newlines offset pending rest =
      (tail (offset + Text.utf8Length pending)).map fun list => drawn pending.reverse ++ list)
    (text : List Char)
    (clear : ∀ front back, text = front ++ back → back ≠ [] → ¬d.left <+: back ++ rest)
    (offset : Nat) (pending : List Char) (still : newlines = true → '\n' ∉ pending) :
    scan d newlines offset pending (text ++ rest) =
      (tail (offset + Text.utf8Length pending + Text.utf8Length text)).map
        fun list => pieces newlines (pending.reverse ++ text) ++ list := by
  induction text generalizing offset pending with
  | nil =>
    rw [List.nil_append, ends, List.append_nil, pieces_of_notMem (by simpa using still)]
    rfl
  | cons c text ih =>
    have absent : ¬d.left <+: c :: (text ++ rest) :=
      clear [] (c :: text) rfl (List.cons_ne_nil c text)
    have clear' : ∀ front back, text = front ++ back → back ≠ [] → ¬d.left <+: back ++ rest :=
      fun front back split => clear (c :: front) back (by rw [split]; rfl)
    rw [List.cons_append, scan_cons absent]
    split
    · next feed =>
      obtain ⟨rfl, rfl⟩ := feed
      -- The pending text is a piece of its own, and nothing is pending behind the line feed.
      have past : offset + Text.utf8Length (pending.reverse ++ ['\n']) + Text.utf8Length [] +
          Text.utf8Length text =
            offset + Text.utf8Length pending + Text.utf8Length ('\n' :: text) := by
        simp only [Text.utf8Length_append, Text.utf8Length_reverse, Text.utf8Length]
        omega
      rw [ih clear' _ [] (fun _ => List.not_mem_nil), past]
      cases tail _ with
      | error e => rfl
      | ok list =>
        have noFeed : '\n' ∉ pending.reverse := by simpa using still rfl
        simp only [Except.map, pieces_append_newline noFeed, List.reverse_nil, List.nil_append,
          List.append_assoc, List.cons_append]
    · next other =>
      have still' : newlines = true → '\n' ∉ c :: pending := by
        intro on
        have : c ≠ '\n' := fun feed => other ⟨on, feed⟩
        simpa [Ne.symm this] using still on
      have past : offset + Text.utf8Length (c :: pending) + Text.utf8Length text =
          offset + Text.utf8Length pending + Text.utf8Length (c :: text) := by
        simp only [Text.utf8Length]
        omega
      rw [ih clear' offset (c :: pending) still', past]
      simp only [List.reverse_cons, List.append_assoc, List.cons_append, List.nil_append]

/-! ## The parser and the grammar -/

theorem scan_of_not_isInfix {d : Delimiters} {text : List Char} (absent : ¬d.left <:+: text)
    (newlines : Bool) (offset : Nat) :
    scan d newlines offset [] text = .ok (pieces newlines text) := by
  have ends (offset : Nat) (pending : List Char) : scan d newlines offset pending [] =
      (Except.ok []).map fun list => drawn pending.reverse ++ list := by
    rw [scan_nil, Except.map, List.append_nil]
  have clear : ∀ front back, text = front ++ back → back ≠ [] → ¬d.left <+: back ++ [] := by
    rintro front back rfl - begins
    rw [List.append_nil] at begins
    exact absent (begins.isInfix.trans (List.suffix_append front back).isInfix)
  have scanned := scan_clear (fun _ => .ok []) ends text clear offset []
    fun _ => List.not_mem_nil
  rw [List.append_nil] at scanned
  rw [scanned, Except.map, List.append_nil]
  rfl

theorem scan_of_firstAt {d : Delimiters} {text before inside : List Char}
    (opened : Text.FirstAt d.left text before inside) (newlines : Bool) (offset : Nat) :
    scan d newlines offset [] text =
      (scanTag d newlines (offset + Text.utf8Length before) inside).map
        fun list => pieces newlines before ++ list := by
  have scanned := scan_clear (fun offset => scanTag d newlines offset inside)
    (fun offset pending => scan_left d newlines offset pending inside) before
    (fun _ _ => opened.clear) offset [] fun _ => List.not_mem_nil
  rw [← List.append_assoc, ← opened.occurs] at scanned
  exact scanned

/-- The walk over a text behind what is read already gives its outcome. The induction is on the
length of the text, which a tag makes shorter. -/
theorem reads_scan {options : Options} {d : Delimiters} (left : d.left = options.left.toList)
    (right : d.right = options.right.toList) (read text : List Char) :
    Reads options read text
      (scan d options.newlineAsCommand (String.ofList read).utf8ByteSize [] text) := by
  by_cases opens : options.left.toList <:+: text
  · cases cut : Text.splitAtFirst? options.left.toList text with
    | none => exact absurd opens (Text.splitAtFirst?_eq_none_iff_not_isInfix.1 cut)
    | some cutText =>
      obtain ⟨before, inside⟩ := cutText
      have opened := Text.splitAtFirst?_eq_some_iff.1 cut
      have place : (String.ofList read).utf8ByteSize + Text.utf8Length before =
          (String.ofList (read ++ before)).utf8ByteSize := by
        rw [← Text.utf8Length_eq, ← Text.utf8Length_eq, Text.utf8Length_append]
      rw [scan_of_firstAt (left ▸ opened), place, scanTag, right]
      cases cut' : Text.splitAtFirst? options.right.toList inside with
      | none =>
        rw [String.ofList_toList]
        exact .unmatched opened (Text.splitAtFirst?_eq_none_iff_not_isInfix.1 cut')
      | some cutInside =>
        obtain ⟨body, rest⟩ := cutInside
        have closed := Text.splitAtFirst?_eq_some_iff.1 cut'
        -- The rest is behind a left delimiter, which is not empty.
        have shorter : rest.length < text.length := by
          have := List.length_pos_iff.2 d.left_ne_nil
          rw [opened.occurs, closed.occurs, ← left]
          simp only [List.length_append]
          omega
        have past : (String.ofList (read ++ before)).utf8ByteSize +
            Text.utf8Length (d.left ++ body ++ options.right.toList) =
              (String.ofList (read ++ before ++ options.left.toList ++ body ++
                options.right.toList)).utf8ByteSize := by
          simp only [← Text.utf8Length_eq, Text.utf8Length_append, left]
          omega
        dsimp only
        rw [map_map_append, past]
        exact .tag opened closed (means_command? body) (reads_scan left right _ rest)
  · rw [scan_of_not_isInfix (left ▸ opens)]
    exact .plain opens
termination_by text.length

/-- The parser has an outcome that the grammar gives. -/
theorem reads_parse {options : Options} (left : options.left ≠ "") (right : options.right ≠ "")
    (text : String) : Reads options [] text.toList (parse options text) := by
  have ne_nil : options.left.toList ≠ [] ∧ options.right.toList ≠ [] := by
    simpa using And.intro left right
  rw [parse, dif_pos ne_nil]
  exact reads_scan rfl rfl [] text.toList

theorem parse_of_reads {options : Options} {text : String} {outcome : Except ParseError CommandList}
    (left : options.left ≠ "") (right : options.right ≠ "")
    (reads : Reads options [] text.toList outcome) : parse options text = outcome :=
  (reads_parse left right text).unique reads

/-- The parser accepts exactly the grammar: with delimiters that are not empty it has for every text
the outcome that the grammar gives, and no other. -/
theorem parse_eq_iff {options : Options} (left : options.left ≠ "") (right : options.right ≠ "")
    (text : String) (outcome : Except ParseError CommandList) :
    parse options text = outcome ↔ Reads options [] text.toList outcome := by
  constructor
  · rintro rfl
    exact reads_parse left right text
  · exact parse_of_reads left right

/-- Delimiters that overlap themselves and each other, one of them with a line feed. -/
theorem parse_eq_iff_overlapping :
    ("aa" : String) ≠ "" ∧ ("a\n" : String) ≠ "" ∧
      Reads ⟨"aa", "a\n", true⟩ [] "x\naaacolor:reda\n\ny".toList
        (.ok [.drawText "x", .newline, .useString "acolor", .newline, .drawText "y"]) :=
  ⟨by decide, by decide, (parse_eq_iff (by decide) (by decide) _ _).1 (by cbv)⟩

end Markup
end StyledText
