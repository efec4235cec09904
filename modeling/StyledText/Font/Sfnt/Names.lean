import StyledText.Font.Sfnt.Bytes
import StyledText.Text.MacRoman
import StyledText.Text.Utf16

/-!
# The names of a face

The naming table lists texts, each for a purpose and in an encoding that its platform tells. The
list ends early at a record of an unknown platform and at one whose text leaves the table.
-/

namespace StyledText
namespace Sfnt

/-- A text of the naming table. -/
structure NameRecord where
  platform : Nat
  encoding : Nat
  language : Nat
  /-- What the text names. -/
  purpose : Nat
  bytes : List UInt8

namespace NameRecord

/-- The purpose of a family name. -/
def family : Nat := 1

/-- The purpose of a PostScript name. -/
def postScript : Nat := 6

/-- The purpose of a family name that groups more than four styles. -/
def typographicFamily : Nat := 16

/-- The text is in UTF-16: it is of the platform for Unicode, or of Windows with an encoding for
symbols or for the basic plane. -/
def isUtf16 (r : NameRecord) : Bool :=
  r.platform == 0 || (r.platform == 3 && (r.encoding == 0 || r.encoding == 1))

/-- The text is in Mac OS Roman. -/
def isMacRoman (r : NameRecord) : Bool := r.platform == 1 && r.encoding == 0

/-- The text is in the English of the United States, as Windows numbers languages. -/
def isAmericanEnglish (r : NameRecord) : Bool := r.platform == 3 && r.language == 0x0409

/-- The text in UTF-16. -/
def utf16? (r : NameRecord) : Option String :=
  if r.isUtf16 then Text.Utf16.decode? r.bytes else none

/-- The text in either encoding. -/
def text? (r : NameRecord) : Option String :=
  if r.isUtf16 then Text.Utf16.decode? r.bytes
  else if r.isMacRoman then some (Text.MacRoman.decode r.bytes)
  else none

/-- The record at an offset of the table, with a text counted from the beginning of the texts. -/
def read? (table storage : ByteArray) (offset : Nat) : Option NameRecord := do
  let platform ← u16? table offset
  if platform ≤ 4 then
    let encoding ← u16? table (offset + 2)
    let language ← u16? table (offset + 4)
    let purpose ← u16? table (offset + 6)
    let length ← u16? table (offset + 8)
    let start ← u16? table (offset + 10)
    let bytes ← range? storage start length
    return ⟨platform, encoding, language, purpose, bytes.toList⟩
  else none

end NameRecord

/-- Where the records of a naming table begin. -/
def nameRecordsOffset? (table : ByteArray) : Option Nat := do
  match ← u16? table 0 with
  | 0 => return 6
  | 1 =>
    let count ← u16? table 6
    if 4 * count < 0x10000 then return 8 + 4 * count else none
  | _ => none

/-- The longest run of records from the beginning that can be read. -/
def takeRecords (table storage : ByteArray) (offset : Nat) : Nat → List NameRecord
  | 0 => []
  | count + 1 =>
    match NameRecord.read? table storage offset with
    | some r => r :: takeRecords table storage (offset + 12) count
    | none => []

/-- The records of a naming table. The texts begin where the table says, but not before the end
of its records. -/
def nameRecords? (table : ByteArray) : Option (List NameRecord) := do
  let first ← nameRecordsOffset? table
  let count ← u16? table 2
  let storageOffset ← u16? table 4
  let recordsEnd := first + 12 * count
  if recordsEnd ≤ table.size then
    let storageStart := max recordsEnd storageOffset
    let storage ← range? table storageStart (table.size - storageStart)
    return takeRecords table storage first count
  else none

/-- The texts for a purpose: all in UTF-16 and, if none of them is in American English, the first
in Mac OS Roman. -/
def namesFor (records : List NameRecord) (purpose : Nat) : List String :=
  let named := records.filter (·.purpose == purpose)
  let unicode := named.filter fun r => r.utf16?.isSome
  unicode.filterMap NameRecord.utf16? ++
    if unicode.any NameRecord.isAmericanEnglish then []
    else ((named.filter NameRecord.isMacRoman).filterMap NameRecord.text?).take 1

/-- The names under which a face is found: its typographic families or else its families. -/
def familyNames (records : List NameRecord) : List String :=
  let typographic := namesFor records NameRecord.typographicFamily
  if typographic.isEmpty then namesFor records NameRecord.family else typographic

/-- The face has a PostScript name: the first one in a known encoding is valid. -/
def hasPostScriptName (records : List NameRecord) : Bool :=
  match records.find? fun r =>
      r.purpose == NameRecord.postScript && (r.isUtf16 || r.isMacRoman) with
  | some r => r.text?.isSome
  | none => false

end Sfnt
end StyledText
