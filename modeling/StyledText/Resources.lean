import StyledText.Color.Palette
import StyledText.Font.Typeface
import StyledText.Json.Record
import StyledText.Registry

/-!
# Resources

Resources are what markup can refer to: the entries of the registry, and the fonts by name. The
font that is registered first is the default. A registration answers with an error or not, and
beside the answer stand the resources that it leaves.
-/

namespace StyledText

/-- How resources are set up. -/
structure Resources.Config where
  /-- The largest point size of a font. -/
  maxPointSize : Nat := 256
deriving DecidableEq

namespace Resources.Config

instance : Inhabited Resources.Config := ⟨⟨256⟩⟩

/-- A configuration from a JSON record. The size has 32 bits. -/
def ofJson? (value : Json) : Option Resources.Config := do
  let given ← value.record? ["maxPointSize"]
  let standard : Resources.Config := default
  return {
    maxPointSize :=
      ← Json.field? given "maxPointSize" (some standard.maxPointSize) (·.natBelow? UInt32.size) }

end Resources.Config

/-- What markup can refer to. -/
structure Resources (F : Type) [FontFace F] where
  config : Resources.Config
  registry : Registry := .empty
  /-- The fonts by the names that they are registered under. -/
  fonts : Std.ExtTreeMap String (Typeface F) := {}
  /-- The name of the font that was registered first. -/
  defaultFont : Option String := none

namespace Resources

variable {F : Type} [FontFace F]

/-- Resources of which none is registered. -/
def empty (config : Resources.Config) : Resources F := { config }

/-- The font registered under a name. -/
def font? (resources : Resources F) (name : String) : Option (Typeface F) :=
  resources.fonts[name]?

/-- The font with which a layout begins. -/
def defaultTypeface? (resources : Resources F) : Option (Typeface F) :=
  resources.defaultFont.bind resources.font?

/-- The entry registered under a key. -/
def get? (resources : Resources F) (key : String) : Option Entry := resources.registry.get? key

/-! ## Registration -/

/-- The name under which a font is registered: the given one, or else that of its family. -/
def fontName (font : F) : Option String → Except ResourceError String
  | some name => if name = "" then .error .emptyKey else .ok name
  | none =>
    match FontFace.family? font with
    | some family => .ok family
    | none => .error .unnamedFont

/-- Registers a font, and answers with the name that it is registered under. -/
def registerFont (resources : Resources F) (font : F) (name? : Option String) :
    Except ResourceError String × Resources F :=
  match fontName font name? with
  | .error e => (.error e, resources)
  | .ok name =>
    if resources.fonts.contains name then (.error (.duplicateFont name), resources)
    else
      (.ok name, { resources with
        fonts := resources.fonts.insert name (.ofBase name font resources.config.maxPointSize)
        defaultFont := resources.defaultFont <|> some name })

/-- Registers an entry under a key, which must not be empty. -/
def register (resources : Resources F) (key : String) (entry : Entry) :
    Except ResourceError Unit × Resources F :=
  if key = "" then (.error .emptyKey, resources)
  else (.ok (), { resources with registry := resources.registry.insert key entry })

/-- Registers a string under a key. -/
def registerString (resources : Resources F) (key text : String) :
    Except ResourceError Unit × Resources F :=
  resources.register key (.string text)

/-- Registers a color under a key. -/
def registerColor (resources : Resources F) (key : String) (color : Color) :
    Except ResourceError Unit × Resources F :=
  resources.register key (.color color)

/-- Registers a point size under a key. The size is looked at before the key. -/
def registerSize (resources : Resources F) (key : String) (size : Nat) :
    Except ResourceError Unit × Resources F :=
  if size = 0 then (.error (.pointSizeOutOfRange 0 resources.config.maxPointSize), resources)
  else resources.register key (.size size)

/-- Registers an image under a key. -/
def registerImage (resources : Resources F) (key : String) (image : Image) :
    Except ResourceError Unit × Resources F :=
  resources.register key (.image image)

/-- The resources with the colors of the palette under their names. -/
def registerPalette (resources : Resources F) : Resources F :=
  { resources with
    registry := Color.palette.foldl (fun r entry => r.insert entry.1 (.color entry.2))
      resources.registry }

/-! ## Fonts at a size -/

/-- The face of a registered font at a size, and the resources afterwards; nothing if no font has
the name. -/
def faceAt (resources : Resources F) (name : String) (size : Nat) :
    Option (Except ResourceError F × Resources F) :=
  (resources.font? name).map fun typeface =>
    let (answer, typeface) := typeface.faceAt size
    (answer, { resources with fonts := resources.fonts.insert name typeface })

end Resources
end StyledText
