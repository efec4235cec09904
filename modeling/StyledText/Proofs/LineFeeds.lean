import StyledText.Proofs.Grammar

/-!
# Line feeds as commands

Line feeds that are commands are found in the plain text only: whether they are commands does not
change where tags begin and end. So the parse with them is the parse without them, with each of its
texts cut at the line feeds.

Results:
1. `Markup.pieces_eq_flatMap`: the commands of plain text are its run of text, cut at line feeds.
2. `Markup.reads_breakLines`: the same of a whole text, for any delimiters.
3. `Markup.parse_breakLines`: the parse with line feeds as commands, from the parse with line feeds
   as text.
-/

namespace StyledText

/-- What a command is if line feeds in texts are commands: a text is cut at each of them, into runs
of text that are not empty and a line break between two neighbours. -/
def Command.breakLines : Command → CommandList
  | .drawText text => [.newline].intercalate ((text.toList.splitOn '\n').map Markup.drawn)
  | command => [command]

namespace Markup

/-- Plain text with line feeds as commands is its run of text, cut at the line feeds. -/
theorem pieces_eq_flatMap (text : List Char) :
    pieces true text = (pieces false text).flatMap Command.breakLines := by
  by_cases empty : text = []
  · subst empty
    rfl
  · have run : pieces false text = [.drawText (String.ofList text)] := if_neg empty
    rw [run, List.flatMap_singleton, Command.breakLines, String.toList_ofList]
    rfl

/-- A tag never means a text, so cutting texts does not change its commands. -/
theorem Means.flatMap_breakLines {body : List Char} {commands : CommandList}
    (h : Means body commands) : commands.flatMap Command.breakLines = commands := by
  cases h with
  | valued listed =>
    simp only [Markup.valued, List.mem_cons, Prod.mk.injEq, List.not_mem_nil, or_false] at listed
    rcases listed with ⟨-, rfl⟩ | ⟨-, rfl⟩ | ⟨-, rfl⟩ | ⟨-, rfl⟩ <;> rfl
  | _ => rfl

/-- Line feeds as commands change the outcome of a text only in its runs of text. The induction is
on the reading with line feeds as text: both readings have the same tags. -/
theorem reads_breakLines {options : Options} {read text : List Char}
    {outcome : Except ParseError CommandList}
    (h : Reads { options with newlineAsCommand := false } read text outcome) :
    Reads { options with newlineAsCommand := true } read text
      (outcome.map fun list => list.flatMap Command.breakLines) := by
  induction h with
  | @plain read text absent =>
    have cut : (Except.ok (pieces false text)).map (fun list => list.flatMap Command.breakLines) =
        (.ok (pieces true text) : Except ParseError CommandList) :=
      congrArg Except.ok (pieces_eq_flatMap text).symm
    rw [cut]
    exact .plain absent
  | unmatched opened absent => exact .unmatched opened absent
  | @tag _ _ before _ _ _ commands outcome opened closed means _ ih =>
    have cut : ((outcome.map fun list => pieces false before ++ commands ++ list).map fun list =>
          list.flatMap Command.breakLines) =
        (outcome.map fun list => list.flatMap Command.breakLines).map fun list =>
          pieces true before ++ commands ++ list := by
      cases outcome with
      | error e => rfl
      | ok list =>
        simp only [Except.map, List.flatMap_append, means.flatMap_breakLines,
          ← pieces_eq_flatMap]
    rw [cut]
    exact .tag opened closed means ih

/-- The parse with line feeds as commands is that with line feeds as text, with its texts cut at
their line feeds. It fails on the same texts and with the same errors. -/
theorem parse_breakLines (options : Options) (text : String) :
    parse { options with newlineAsCommand := true } text =
      (parse { options with newlineAsCommand := false } text).map fun list =>
        list.flatMap Command.breakLines := by
  by_cases ne_empty : options.left ≠ "" ∧ options.right ≠ ""
  · obtain ⟨left, right⟩ := ne_empty
    have reads := @reads_parse { options with newlineAsCommand := false } left right text
    exact @parse_of_reads { options with newlineAsCommand := true } _ _ left right
      (reads_breakLines reads)
  · have refused (newlines : Bool) :
        parse { options with newlineAsCommand := newlines } text = .error .emptyDelimiter := by
      rw [parse, dif_neg]
      simpa using ne_empty
    rw [refused, refused]
    rfl

end Markup
end StyledText
