import StyledText.Font.Sfnt.Bytes

/-!
# The tables of a font file

A font file holds one face, or it is a collection that begins with the offsets of its faces. A
face is a list of records, each with the four-letter tag of a table, its offset and its length,
all offsets being counted from the beginning of the file.
-/

namespace StyledText
namespace Sfnt

/-- The number that a tag of four ASCII characters is. -/
def tag (name : String) : Nat := name.toList.foldl (fun n c => n * 0x100 + c.toNat) 0

/-- The tags with which a face can begin. -/
def faceMagics : List Nat := [0x00010000, tag "OTTO", tag "true"]

/-- The tag with which a collection begins. -/
def collectionMagic : Nat := tag "ttcf"

/-- Where a table of a face lies. -/
structure TableRecord where
  tag : Nat
  offset : Nat
  length : Nat

/-- How many faces a collection says that it has; a file that is no collection has one. -/
def faceCount (data : ByteArray) : Nat :=
  if u32? data 0 = some collectionMagic then (u32? data 8).getD 1 else 1

/-- The offset of a face of a collection, whose list of offsets must be complete. A face lies
behind that list. -/
def collectionOffset? (data : ByteArray) (index : Nat) : Option Nat := do
  let count ← u32? data 8
  let listEnd := 12 + 4 * count
  if listEnd ≤ data.size ∧ index < count then
    let offset ← u32? data (12 + 4 * index)
    if listEnd ≤ offset then some offset else none
  else none

/-- The offset of a face of a file. -/
def faceOffset? (data : ByteArray) (index : Nat) : Option Nat :=
  if u32? data 0 = some collectionMagic then collectionOffset? data index
  else if index = 0 then some 0
  else none

/-- The record at an offset. -/
def tableRecord? (data : ByteArray) (offset : Nat) : Option TableRecord := do
  return ⟨← u32? data offset, ← u32? data (offset + 8), ← u32? data (offset + 12)⟩

/-- The records of the tables of a face. -/
def tableRecords? (data : ByteArray) (index : Nat) : Option (List TableRecord) := do
  let offset ← faceOffset? data index
  let magic ← u32? data offset
  if faceMagics.contains magic then
    let count ← u16? data (offset + 4)
    if offset + 12 ≤ data.size then
      (List.range count).mapM fun i => tableRecord? data (offset + 12 + 16 * i)
    else none
  else none

/-- The table with a tag; of several records the last one counts. -/
def table? (data : ByteArray) (records : List TableRecord) (name : String) : Option ByteArray :=
  (records.reverse.find? (·.tag == tag name)).bind fun r => range? data r.offset r.length

end Sfnt
end StyledText
