import StyledText.Text.GraphemeExtend
import StyledText.Text.Printable

/-!
# Quoted texts

In a diagnosis a text stands in quotes. A quote, a backslash and a few control characters have
escapes of two characters; a character that cannot be seen by itself, because it is not printable
or is shown only on the character before it, is given by its code point.
-/

namespace StyledText
namespace Text
namespace Quoted

/-- The escape of a character by its code point. -/
def codePoint (c : Char) : List Char :=
  ['\\', 'u', '\x7b'] ++ Nat.toDigits 16 c.toNat ++ ['\x7d']

/-- The text that stands for a character. -/
def escape (c : Char) : List Char :=
  if c = '\x00' then ['\\', '0']
  else if c = '\t' then ['\\', 't']
  else if c = '\r' then ['\\', 'r']
  else if c = '\n' then ['\\', 'n']
  else if c = '\\' then ['\\', '\\']
  else if c = '"' then ['\\', '"']
  else if isCombining c || !isPrintable c then codePoint c
  else [c]

/-- The text in quotes. -/
def quote (s : String) : String := String.ofList ('"' :: s.toList.flatMap escape ++ ['"'])

example : quote "a\"é\u0301\u200b" = "\"a\\\"é\\u\x7b301\x7d\\u\x7b200b\x7d\"" := by decide +kernel

end Quoted
end Text
end StyledText
