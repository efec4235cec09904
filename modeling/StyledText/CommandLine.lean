import StyledText.Error.Diagnosis
import StyledText.Font.Library
import StyledText.Layout.Report
import StyledText.Text.Numeral
import StyledText.Text.Search

/-!
# The command line

Lays out a markup text in one font and prints the report, or prints the commands of the text.
The font is the only one and therefore the default. Registered are the palette, then the given
strings, then the colors and then the sizes, so that of several entries under a key the one of the
later kind stays, and of one kind the last.

How the options are read is not part of this library, but for the entries, each of which is one text
with a key and a value. The files, the installed fonts and the parser of fonts are given too.
-/

namespace StyledText
namespace CommandLine

/-- What the options say. -/
structure Arguments where
  markup : String
  /-- The font file. -/
  font : Option String := none
  /-- The installed font family. -/
  family : Option String := none
  /-- The name under which the font is registered. -/
  fontName : Option String := none
  /-- The point size at which the font is loaded. -/
  pointSize : Nat := 24
  /-- The strings to be registered, in order. -/
  strings : List (String × String) := []
  /-- The colors to be registered, in order. -/
  colors : List (String × String) := []
  /-- The point sizes to be registered, in order. -/
  sizes : List (String × String) := []
  newlines : Bool := false
  leftDelimiter : String := (default : Markup.Options).left
  rightDelimiter : String := (default : Markup.Options).right
  /-- Print the commands and no layout. -/
  commands : Bool := false
deriving DecidableEq

/-- A key and a value with an equals sign between them. The key ends at the first one, and is not
empty. -/
def parseKeyValue (text : String) : Except String (String × String) :=
  match Text.splitAtFirst? ['='] text.toList with
  | some (k :: key, value) => .ok (String.ofList (k :: key), String.ofList value)
  | _ => .error ("expected KEY=VALUE, got '" ++ text ++ "'")

/-- What the options say about the form of the markup. -/
def Arguments.options (a : Arguments) : Markup.Options :=
  { left := a.leftDelimiter, right := a.rightDelimiter, newlineAsCommand := a.newlines }

/-! ## Registration -/

section Register

variable {F : Type} [FontFace F]

/-- What a registration leaves, or its error. -/
def accept {α : Type} (registered : Except ResourceError α × Resources F) :
    Except Error (Resources F) :=
  match registered with
  | (.ok _, resources) => .ok resources
  | (.error cause, _) => .error (.resource cause)

/-- Registers a string. -/
def registerString (resources : Resources F) (entry : String × String) :
    Except Error (Resources F) :=
  accept (resources.registerString entry.1 entry.2)

/-- Registers a color that is given as a text. -/
def registerColor (resources : Resources F) (entry : String × String) :
    Except Error (Resources F) :=
  match Color.ofHex entry.2 with
  | .ok color => accept (resources.registerColor entry.1 color)
  | .error cause => .error (.invalidArgument cause.message)

/-- Registers a point size that is given as a numeral. -/
def registerSize (resources : Resources F) (entry : String × String) :
    Except Error (Resources F) :=
  match Numeral.read 10 UInt32.size entry.2.toList with
  | .ok size => accept (resources.registerSize entry.1 size)
  | .error cause =>
    .error (.invalidArgument ("size '" ++ entry.1 ++ "': " ++ cause.message))

/-- The resources in which a font, the palette and the given entries are registered. -/
def resourcesWith (font : F) (a : Arguments) : Except Error (Resources F) := do
  let resources ← accept ((Resources.empty default).registerFont font a.fontName)
  let resources ← a.strings.foldlM registerString resources.registerPalette
  let resources ← a.colors.foldlM registerColor resources
  a.sizes.foldlM registerSize resources

end Register

/-! ## Runs -/

/-- The surroundings of a run. -/
structure Environment (Db : Type) where
  /-- The bytes of a file, or why they cannot be read. -/
  file : String → Except String ByteArray
  /-- The fonts that are installed. -/
  installed : FontLibrary Db

/-- What a run leaves: what it prints, and whether it succeeds. -/
structure Outcome where
  exitCode : Nat
  output : String := ""
  errors : String := ""
deriving DecidableEq

variable {Db : Type} [FontDatabase Db] (parser : FontParser) (env : Environment Db)

/-- The font that the arguments ask for. -/
def loadFont (a : Arguments) : Except Error (TrueTypeFont parser) :=
  match a.font, a.family with
  | some path, _ => (TrueTypeFont.ofFile parser (env.file path) a.pointSize).mapError .font
  | none, some family => (env.installed.load parser family a.pointSize).mapError .font
  | none, none =>
    .error (.invalidArgument "a font is required: pass --font <PATH> or --family <NAME>")

/-- The resources that the arguments ask for. -/
def loadResources (a : Arguments) : Except Error (Resources (TrueTypeFont parser)) := do
  resourcesWith (← loadFont parser env a) a

/-- What the arguments ask to be printed. -/
def print (a : Arguments) : Except Error String := do
  let list ← (Markup.parse a.options a.markup).mapError Error.markup
  if a.commands then return list.toJson.pretty ++ "\n"
  else
    let resources ← loadResources parser env a
    match (Typesetter.new default).typeset resources list with
    | (.ok _, typesetter, _) => return (Report.ofTypesetter typesetter).text ++ "\n"
    | (.error cause, _, _) => .error (.layout cause)

/-- A run with the given arguments. -/
def run (a : Arguments) : Outcome :=
  match print parser env a with
  | .ok output => { exitCode := 0, output }
  | .error e =>
    match e.panic? with
    | some reason => { exitCode := 101, errors := reason ++ "\n" }
    | none => { exitCode := 1, errors := "Error: " ++ e.diagnosis ++ "\n" }

end CommandLine
end StyledText
