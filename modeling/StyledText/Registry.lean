import Std.Data.ExtTreeMap
import StyledText.Color
import StyledText.Geometry

/-!
# The registry

Markup refers to strings, colors, point sizes and images by key. A key has one entry at a time,
of any kind; registering another one under the key replaces it.
-/

namespace StyledText

/-- What is registered under a key. -/
inductive Entry where
  | string (text : String)
  | color (color : Color)
  | size (pointSize : Nat)
  | image (image : Image)
deriving DecidableEq

/-- The name of the kind of entry. -/
def Entry.kind : Entry → String
  | string _ => "string"
  | color _ => "color"
  | size _ => "size"
  | image _ => "image"

/-- The entries, in the order of their keys. -/
structure Registry where
  entries : Std.ExtTreeMap String Entry := {}

namespace Registry

/-- The registry without entries. -/
def empty : Registry := {}

instance : Inhabited Registry := ⟨empty⟩

/-- The entry under a key. -/
def get? (r : Registry) (key : String) : Option Entry := r.entries[key]?

/-- The registry with an entry under a key, in place of the one before. -/
def insert (r : Registry) (key : String) (entry : Entry) : Registry :=
  ⟨r.entries.insert key entry⟩

/-- The registry without the entry under a key. -/
def erase (r : Registry) (key : String) : Registry := ⟨r.entries.erase key⟩

/-- There is an entry under the key. -/
def contains (r : Registry) (key : String) : Bool := r.entries.contains key

/-- How many entries there are. -/
def size (r : Registry) : Nat := r.entries.size

/-- The keys and entries, in the order of the keys. -/
def toList (r : Registry) : List (String × Entry) := r.entries.toList

theorem get?_empty (key : String) : empty.get? key = none := by simp [empty, get?]

theorem get?_insert (r : Registry) (key key' : String) (entry : Entry) :
    (r.insert key entry).get? key' = if key = key' then some entry else r.get? key' := by
  simp [get?, insert, Std.ExtTreeMap.getElem?_insert]

theorem get?_erase (r : Registry) (key key' : String) :
    (r.erase key).get? key' = if key = key' then none else r.get? key' := by
  simp [get?, erase, Std.ExtTreeMap.getElem?_erase]

end Registry
end StyledText
