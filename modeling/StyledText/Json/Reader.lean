import StyledText.Json
import StyledText.Text.Numeral

/-!
# Reading JSON

A reader of the JSON grammar. Each step takes characters from the front of the text and gives
back the rest. The recursion is bounded by the length of the text: the two calls that open a
bracket are paid by the bracket and the one that closes it, and every further item by its comma.
-/

namespace StyledText
namespace Json

/-- Blank space between tokens. -/
def isBlank (c : Char) : Bool := c == ' ' || c == '\t' || c == '\n' || c == '\r'

/-- The text after the blank space in front of it. -/
def skipBlank (s : List Char) : List Char := s.dropWhile isBlank

/-- The value of four hexadecimal digits. -/
def unit? (a b c d : Char) : Option Nat := do
  let digit? := Numeral.digit? 16
  return (((← digit? a) * 16 + (← digit? b)) * 16 + (← digit? c)) * 16 + (← digit? d)

/-- The character of a backslash and one letter. -/
def unescape? : Char → Option Char
  | '"' => some '"'
  | '\\' => some '\\'
  | '/' => some '/'
  | 'b' => some '\x08'
  | 'f' => some '\x0c'
  | 'n' => some '\n'
  | 'r' => some '\r'
  | 't' => some '\t'
  | _ => none

/-- The characters of a string up to its closing quote, after those already read, which are in
reverse. A code unit of a surrogate pair must be followed by the other one. -/
def readString (read : List Char) : List Char → Option (String × List Char)
  | [] => none
  | '"' :: rest => some (String.ofList read.reverse, rest)
  | '\\' :: 'u' :: a :: b :: c :: d :: '\\' :: 'u' :: e :: f :: g :: h :: rest =>
    match unit? a b c d with
    | none => none
    | some high =>
      if 0xD800 ≤ high ∧ high < 0xDC00 then
        match unit? e f g h with
        | none => none
        | some low =>
          if 0xDC00 ≤ low ∧ low < 0xE000 then
            let c := Char.ofNat (0x10000 + (high - 0xD800) * 0x400 + (low - 0xDC00))
            readString (c :: read) rest
          else none
      else if 0xDC00 ≤ high ∧ high < 0xE000 then none
      else readString (Char.ofNat high :: read) ('\\' :: 'u' :: e :: f :: g :: h :: rest)
  | '\\' :: 'u' :: a :: b :: c :: d :: rest =>
    match unit? a b c d with
    | none => none
    | some n =>
      if 0xD800 ≤ n ∧ n < 0xE000 then none else readString (Char.ofNat n :: read) rest
  | '\\' :: c :: rest =>
    match unescape? c with
    | none => none
    | some c => readString (c :: read) rest
  | c :: rest => if c.toNat < 0x20 ∨ c = '\\' then none else readString (c :: read) rest

/-- The value of decimal digits. -/
def digitsValue (digits : List Char) : Nat :=
  digits.foldl (fun value c => value * 10 + (c.toNat - '0'.toNat)) 0

/-- The exponent behind a number, and what follows it. -/
def readExponent : List Char → Option (Int × List Char)
  | '+' :: rest => digits 1 rest
  | '-' :: rest => digits (-1) rest
  | rest => digits 1 rest
where
  digits (sign : Int) (s : List Char) : Option (Int × List Char) :=
    let read := s.takeWhile Char.isDigit
    if read.isEmpty then none
    else some (sign * digitsValue read, s.dropWhile Char.isDigit)

/-- The number in front of a text, its sign being read already. A whole part of several digits
does not begin with a zero. -/
def readNumber (negative : Bool) (s : List Char) : Option (Json × List Char) := do
  let whole := s.takeWhile Char.isDigit
  let rest := s.dropWhile Char.isDigit
  if whole.isEmpty ∨ (whole.head? = some '0' ∧ whole ≠ ['0']) then none
  else
    let (fraction, rest) ← match rest with
      | '.' :: rest =>
        let fraction := rest.takeWhile Char.isDigit
        if fraction.isEmpty then none else some (some fraction, rest.dropWhile Char.isDigit)
      | rest => some (none, rest)
    let (exponent, rest) ← match rest with
      | 'e' :: rest | 'E' :: rest => (readExponent rest).map fun (e, rest) => (some e, rest)
      | rest => some (none, rest)
    if fraction.isNone ∧ exponent.isNone then
      let n := digitsValue whole
      if negative then
        if n = 0 then return (decimal ⟨true, 0, 0⟩, rest) else return (integer (-n), rest)
      else return (integer n, rest)
    else
      let places := fraction.getD []
      return (decimal ⟨negative, digitsValue (whole ++ places),
        exponent.getD 0 - places.length⟩, rest)

/-- Of the fields with one key only the first; in reverse, that is the one given last. -/
def lastOnes (read : List (String × Json)) : List (String × Json) :=
  read.eraseDupsBy fun later earlier => later.1 == earlier.1

mutual

/-- The value in front of a text, read in calls at most `fuel` deep. -/
def readValue : Nat → List Char → Option (Json × List Char)
  | 0, _ => none
  | fuel + 1, s =>
    match skipBlank s with
    | 'n' :: 'u' :: 'l' :: 'l' :: rest => some (null, rest)
    | 't' :: 'r' :: 'u' :: 'e' :: rest => some (bool true, rest)
    | 'f' :: 'a' :: 'l' :: 's' :: 'e' :: rest => some (bool false, rest)
    | '"' :: rest => (readString [] rest).map fun (s, rest) => (string s, rest)
    | '[' :: rest =>
      match skipBlank rest with
      | ']' :: rest => some (array [], rest)
      | rest => readItems fuel [] rest
    | '\x7b' :: rest =>
      match skipBlank rest with
      | '\x7d' :: rest => some (object [], rest)
      | rest => readFields fuel [] rest
    | '-' :: rest => readNumber true rest
    | rest => readNumber false rest

/-- The items of an array, after those already read, which are in reverse. -/
def readItems : Nat → List Json → List Char → Option (Json × List Char)
  | 0, _, _ => none
  | fuel + 1, read, s =>
    match readValue fuel s with
    | none => none
    | some (item, rest) =>
      match skipBlank rest with
      | ',' :: rest => readItems fuel (item :: read) rest
      | ']' :: rest => some (array (item :: read).reverse, rest)
      | _ => none

/-- The fields of an object, after those already read, which are in reverse. -/
def readFields : Nat → List (String × Json) → List Char → Option (Json × List Char)
  | 0, _, _ => none
  | fuel + 1, read, s =>
    match skipBlank s with
    | '"' :: rest =>
      match readString [] rest with
      | none => none
      | some (key, rest) =>
        match skipBlank rest with
        | ':' :: rest =>
          match readValue fuel rest with
          | none => none
          | some (value, rest) =>
            match skipBlank rest with
            | ',' :: rest => readFields fuel ((key, value) :: read) rest
            | '\x7d' :: rest => some (object (lastOnes ((key, value) :: read)).reverse, rest)
            | _ => none
        | _ => none
    | _ => none

end

/-- The value of a text that holds one value and nothing else. -/
def parse? (text : String) : Option Json :=
  let s := text.toList
  match readValue (s.length + 1) s with
  | some (value, rest) => if (skipBlank rest).isEmpty then some value else none
  | none => none

example : (parse? " [1.50, -0, 1e2, \"\\u00e9\\ud83d\\ude00\"] ").isSome = true := by decide +kernel
example : (parse? "[01]").isSome = false := by decide +kernel

end Json
end StyledText
