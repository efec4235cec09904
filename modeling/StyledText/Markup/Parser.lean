import StyledText.Markup.Options
import StyledText.Markup.Tag
import StyledText.Text.Search

/-!
# Parsing markup

The parser walks over the text character by character and collects the plain text in front of it.
At a left delimiter the plain text ends and a tag begins, which reaches to the next right
delimiter; if there is none, the parse fails and gives no commands at all. Where line feeds are
commands, one of them ends the plain text as well. Plain text becomes a command only if it is not
empty. A left delimiter that begins with a line feed is a delimiter.
-/

namespace StyledText
namespace Markup

/-- Why a text is not markup. -/
inductive ParseError where
  /-- The left delimiter that begins at the byte `offset` has no right delimiter after it. -/
  | unmatchedTag (offset : Nat) (right : String)
  | emptyDelimiter
deriving DecidableEq

/-- The text of the error. -/
def ParseError.message : ParseError → String
  | unmatchedTag offset right =>
    "Unmatched left tag at byte " ++ toString offset ++ ": no closing '" ++ right ++ "' found"
  | emptyDelimiter => "Delimiters must not be empty"

/-- The delimiters of tags, which are not empty. -/
structure Delimiters where
  left : List Char
  right : List Char
  left_ne_nil : left ≠ []
  right_ne_nil : right ≠ []

/-- The command for plain text, unless it is empty. -/
def plain : List Char → CommandList
  | [] => []
  | text => [.drawText (String.ofList text)]

/-- The commands of a text. Before it stand `offset` bytes that are done with, and plain text
that is still to be drawn, in reverse. -/
def scan (d : Delimiters) (newlines : Bool) (offset : Nat) (pending : List Char)
    (text : List Char) : Except ParseError CommandList :=
  match hStrip : Text.stripPrefix? d.left text with
  | some inside =>
    match _ : Text.splitAtFirst? d.right inside with
    | none =>
      .error (.unmatchedTag (offset + Text.utf8Length pending) (String.ofList d.right))
    | some (body, rest) =>
      let past := offset + Text.utf8Length (pending.reverse ++ d.left ++ body ++ d.right)
      (scan d newlines past [] rest).map fun list =>
        plain pending.reverse ++ (Tag.ofBody body).command?.toList ++ list
  | none =>
    match text with
    | [] => .ok (plain pending.reverse)
    | c :: rest =>
      if newlines ∧ c = '\n' then
        let past := offset + Text.utf8Length (pending.reverse ++ [c])
        (scan d newlines past [] rest).map fun list =>
          plain pending.reverse ++ .newline :: list
      else scan d newlines offset (c :: pending) rest
termination_by text.length
decreasing_by
  · have h₁ := Text.stripPrefix?_eq_some_iff.1 hStrip
    have h₂ := Text.eq_of_splitAtFirst? ‹_›
    have h₃ := List.length_pos_iff.2 d.left_ne_nil
    simp only [h₁, h₂, List.length_append]
    omega
  · simp
  · simp

/-- The commands of a markup text. -/
def parse (options : Options) (text : String) : Except ParseError CommandList :=
  if h : options.left.toList ≠ [] ∧ options.right.toList ≠ [] then
    scan ⟨options.left.toList, options.right.toList, h.1, h.2⟩ options.newlineAsCommand 0 []
      text.toList
  else
    .error .emptyDelimiter

end Markup
end StyledText
