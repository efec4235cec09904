import StyledText.Json

/-!
# Records in JSON

A record with named fields is read from an object, or from an array of the first few of its
fields in order. A field that is absent may have a default, and one that is given twice is an
error. Keys that name no field are passed over, but an array may not be longer than the record.
-/

namespace StyledText
namespace Json

/-- The values given for the fields of a record. -/
def record? (keys : List String) : Json → Option (List (String × Json))
  | object fields => some fields
  | array items => if items.length ≤ keys.length then some (keys.zip items) else none
  | _ => none

/-- The value of a field that is given once, or what stands for one that is absent. -/
def field? {α : Type} (given : List (String × Json)) (key : String) (absent : Option α)
    (read : Json → Option α) : Option α :=
  match valuesAt given key with
  | [] => absent
  | [value] => read value
  | _ => none

end Json
end StyledText
