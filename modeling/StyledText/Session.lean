import StyledText.Error
import StyledText.Layout.Typesetter

/-!
# Sessions

In a session several typesetters share one set of resources. A face that one of them has asked
for is there for the others too.
-/

namespace StyledText

/-- Resources and the typesetters that use them. -/
structure Session (F : Type) [FontFace F] where
  resources : Resources F
  typesetters : Array (Typesetter F) := #[]

namespace Session

variable {F : Type} [FontFace F]

/-- The session with one more typesetter. -/
def addTypesetter (s : Session F) (config : Typesetter.Config) : Session F :=
  { s with typesetters := s.typesetters.push (.new config) }

/-- Lays out commands with the typesetter at an index. -/
def typeset (s : Session F) (index : Nat) (list : CommandList) :
    Option (Except LayoutError Bounds × Session F) :=
  if h : index < s.typesetters.size then
    let (outcome, typesetter, resources) := s.typesetters[index].typeset s.resources list
    some (outcome, ⟨resources, s.typesetters.set index typesetter h⟩)
  else none

/-- Lays out a markup text with the typesetter at an index. A text that cannot be parsed leaves the
session as it was. -/
def layout (s : Session F) (index : Nat) (options : Markup.Options) (text : String) :
    Option (Except Error Bounds × Session F) :=
  if index < s.typesetters.size then
    match Markup.parse options text with
    | .error cause => some (.error (.markup cause), s)
    | .ok list =>
      (s.typeset index list).map fun (outcome, s) => (outcome.mapError .layout, s)
  else none

/-- The face of a registered font at a size. -/
def faceAt (s : Session F) (name : String) (size : Nat) :
    Option (Except ResourceError F × Session F) :=
  (s.resources.faceAt name size).map fun (answer, resources) => (answer, { s with resources })

end Session
end StyledText
