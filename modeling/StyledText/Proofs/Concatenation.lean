import StyledText.Proofs.Grammar

/-!
# Texts one behind the other

Text that is added to a markup text could change how the text in front is read: with some of what is
in front it could make a delimiter. It does not if the text in front ends in a tag. What begins in
front of the last delimiter ends in front of it or is further left than it, and the first occurrence
of a delimiter is the first one in the longer text as well. So both texts are read as if each stood
alone, but for the place of an error in the second one.

Results:
1. `Text.FirstAt.append`: a first occurrence stays the first one if text is added.
2. `Markup.Reads.behind`: what is read already shows only in the place of an error.
3. `Markup.parse_append`: the parse of a text that ends in a tag and of a text behind it.
-/

namespace StyledText

/-- The first occurrence of a pattern is the first one in a longer text too: an earlier one would
end earlier, and so it would not reach what is added. -/
theorem Text.FirstAt.append {pattern text before behind : List Char}
    (h : FirstAt pattern text before behind) (more : List Char) :
    FirstAt pattern (text ++ more) before (behind ++ more) := by
  refine ⟨by rw [h.occurs, List.append_assoc], fun {before' behind'} occurs => ?_⟩
  by_contra earlier
  have length : (before' ++ pattern).length ≤ text.length := by
    rw [h.occurs]
    simp only [List.length_append]
    omega
  have begins : before' ++ pattern <+: text :=
    List.prefix_of_prefix_length_le ⟨behind', occurs.symm⟩ (List.prefix_append text more) length
  obtain ⟨rest, same⟩ := begins
  exact earlier (h.first same.symm)

namespace Markup

/-- The text ends in a tag: the right delimiter of the last tag that is read in it is its end. -/
inductive EndsInTag (options : Options) : List Char → Prop where
  | last {text before inside body : List Char} :
      Text.FirstAt options.left.toList text before inside →
      Text.FirstAt options.right.toList inside body [] →
      EndsInTag options text
  | tag {text before inside body rest : List Char} :
      Text.FirstAt options.left.toList text before inside →
      Text.FirstAt options.right.toList inside body rest →
      EndsInTag options rest →
      EndsInTag options text

/-- The error of a text that stands behind `bytes` bytes more. -/
def ParseError.behind (bytes : Nat) : ParseError → ParseError
  | unmatchedTag offset right => .unmatchedTag (bytes + offset) right
  | emptyDelimiter => .emptyDelimiter

variable {options : Options}

/-- What is read already shows only in the place of an error. -/
theorem Reads.behind {read text : List Char} {outcome : Except ParseError CommandList}
    (h : Reads options read text outcome) (more : List Char) :
    Reads options (more ++ read) text
      (outcome.mapError (.behind (String.ofList more).utf8ByteSize)) := by
  induction h with
  | plain absent => exact .plain absent
  | @unmatched read _ before _ opened absent =>
    have place : (String.ofList more).utf8ByteSize + (String.ofList (read ++ before)).utf8ByteSize =
        (String.ofList (more ++ read ++ before)).utf8ByteSize := by
      simp only [← Text.utf8Length_eq, Text.utf8Length_append]
      omega
    rw [Except.mapError, ParseError.behind, place]
    exact .unmatched opened absent
  | @tag read _ before _ body _ commands outcome opened closed means _ ih =>
    have shifted (shift : ParseError → ParseError) :
        (outcome.map fun list => pieces options.newlineAsCommand before ++ commands ++
          list).mapError shift =
        (outcome.mapError shift).map fun list =>
          pieces options.newlineAsCommand before ++ commands ++ list := by
      cases outcome <;> rfl
    rw [shifted]
    refine .tag opened closed means ?_
    simpa only [List.append_assoc] using ih

/-- A text that ends in a tag has commands of its own, and what stands behind it is read as if it
began there. The induction is on the tags of the text. -/
theorem reads_append {front : List Char} (ends : EndsInTag options front) :
    ∃ list, ∀ read back outcome, Reads options (read ++ front) back outcome →
      Reads options read (front ++ back) (outcome.map fun list' => list ++ list') := by
  induction ends with
  | @last text before inside body opened closed =>
    refine ⟨pieces options.newlineAsCommand before ++ (Tag.ofBody body).command?.toList, ?_⟩
    intro read back outcome rest
    refine .tag (opened.append back) (closed.append back) (means_command? body) ?_
    rw [opened.occurs, closed.occurs] at rest
    simpa only [List.append_assoc, List.nil_append, List.append_nil] using rest
  | @tag text before inside body later opened closed _ ih =>
    obtain ⟨list, reads⟩ := ih
    refine ⟨pieces options.newlineAsCommand before ++ (Tag.ofBody body).command?.toList ++ list, ?_⟩
    intro read back outcome rest
    rw [← map_map_append]
    refine .tag (opened.append back) (closed.append back) (means_command? body) (reads _ _ _ ?_)
    rw [opened.occurs, closed.occurs] at rest
    simpa only [List.append_assoc] using rest

theorem parse_empty (left : options.left ≠ "") (right : options.right ≠ "") :
    parse options "" = .ok [] := by
  have absent : ¬options.left.toList <:+: [] := by
    simpa using left
  have nothing : pieces options.newlineAsCommand [] = [] :=
    pieces_of_notMem fun _ => List.not_mem_nil
  exact parse_of_reads left right (nothing ▸ .plain absent)

/-- A text that ends in a tag is parsed, and behind it any text is parsed as if it stood alone: to
the commands of both, or to the error of the second one, further on by the bytes of the first
one. -/
theorem parse_append (left : options.left ≠ "") (right : options.right ≠ "") {front : String}
    (ends : EndsInTag options front.toList) :
    ∃ list, parse options front = .ok list ∧ ∀ back : String,
      (∀ list', parse options back = .ok list' →
        parse options (front ++ back) = .ok (list ++ list')) ∧
      ∀ offset delimiter, parse options back = .error (.unmatchedTag offset delimiter) →
        parse options (front ++ back) =
          .error (.unmatchedTag (front.utf8ByteSize + offset) delimiter) := by
  obtain ⟨list, reads⟩ := reads_append ends
  have both (back : String) : parse options (front ++ back) =
      ((parse options back).mapError (.behind front.utf8ByteSize)).map
        fun list' => list ++ list' := by
    have later := (reads_parse left right back).behind front.toList
    rw [List.append_nil, String.ofList_toList] at later
    refine parse_of_reads left right ?_
    rw [String.toList_append]
    exact reads [] back.toList _ later
  refine ⟨list, ?_, fun back => ⟨fun list' parsed => ?_, fun offset delimiter failed => ?_⟩⟩
  · have parsed := both ""
    rw [String.append_empty, parse_empty left right, Except.mapError, Except.map,
      List.append_nil] at parsed
    exact parsed
  · rw [both, parsed]
    rfl
  · rw [both, failed]
    rfl

/-- Where the two texts meet there is a left delimiter that overlaps the last right one. -/
theorem parse_append_overlapping :
    let options : Options := { left := "|a", right := "|a|" }
    options.left ≠ "" ∧ options.right ≠ "" ∧ EndsInTag options "|aé|a|".toList ∧
      parse options "ab" = .ok [.drawText "ab"] ∧
      parse options ("|aé|a|" ++ "ab") = .ok ([.useString "é"] ++ [.drawText "ab"]) ∧
      parse options "ab|a" = .error (.unmatchedTag 2 "|a|") ∧
      parse options ("|aé|a|" ++ "ab|a") = .error (.unmatchedTag (7 + 2) "|a|") := by
  intro options
  have ends : EndsInTag options "|aé|a|".toList :=
    @EndsInTag.last options _ [] "é|a|".toList ['é']
      (Text.splitAtFirst?_eq_some_iff.1 (by decide))
      (Text.splitAtFirst?_eq_some_iff.1 (by decide))
  have plain : parse options "ab" = .ok [.drawText "ab"] := by cbv
  have unmatched : parse options "ab|a" = .error (.unmatchedTag 2 "|a|") := by cbv
  have left : options.left ≠ "" := by decide
  have right : options.right ≠ "" := by decide
  obtain ⟨list, parsed, both⟩ := parse_append left right ends
  have front : parse options "|aé|a|" = .ok [.useString "é"] := by cbv
  obtain rfl := Except.ok.inj (front.symm.trans parsed)
  exact ⟨left, right, ends, plain, (both "ab").1 _ plain, unmatched,
    (both "ab|a").2 2 "|a|" unmatched⟩

end Markup
end StyledText
