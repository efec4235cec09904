import StyledText.CommandLine

/-!
# A reader of options

Reads the options of a command line, for runs in which no other reader is at hand. There is one
markup text, and options begin with two hyphens. The value of an option follows an equals sign or is
the next argument; a value of its own argument does not begin with a hyphen, unless it is one. After
an argument of two hyphens alone there are no more options. The first argument that is refused, or
that asks for help or for the version, decides; only after the last one is it looked at whether the
arguments go together.
-/

namespace StyledText
namespace CommandLine

/-- Why a command line does not ask for a layout. -/
inductive Stop where
  | refused
  | help
  | version
deriving DecidableEq

/-- The name and version of the program. -/
def versionText : String := "inkline 0.1.0\n"

/-- A short guide to the options. -/
def helpText : String :=
  "Lay out inline markup with a real font and print the fragments as JSON\n\n" ++
  "Usage: inkline [OPTIONS] <MARKUP>\n"

/-- What is left of a run that does not begin. -/
def Stop.outcome : Stop → Outcome
  | refused => { exitCode := 2, errors := helpText }
  | help => { exitCode := 0, output := helpText }
  | version => { exitCode := 0, output := versionText }

/-- A point size with 32 bits; zero may have a minus sign. -/
def pointSize? (text : String) : Option Nat :=
  match text.toList with
  | '-' :: c :: rest => (Numeral.digits 10 1 0 (c :: rest)).toOption
  | digits => (Numeral.read 10 UInt32.size digits).toOption

/-- What has been read, and is not there before it is given. -/
structure Given where
  markup : Option String := none
  font : Option String := none
  family : Option String := none
  fontName : Option String := none
  pointSize : Option Nat := none
  strings : List (String × String) := []
  colors : List (String × String) := []
  sizes : List (String × String) := []
  newlines : Bool := false
  commands : Bool := false
  leftDelimiter : Option String := none
  rightDelimiter : Option String := none

/-- An option that can be given once. -/
def once {α : Type} (before : Option α) (value : Option α) : Except Stop (Option α) :=
  match before, value with
  | none, some v => .ok (some v)
  | _, _ => .error .refused

/-- An entry behind others of its kind. -/
def again (before : List (String × String)) (text : String) :
    Except Stop (List (String × String)) :=
  match parseKeyValue text with
  | .ok entry => .ok (before ++ [entry])
  | .error _ => .error .refused

namespace Given

/-- The options that have a value. -/
def valued : List String :=
  ["font", "family", "font-name", "point-size", "string", "color", "size", "left-delimiter",
    "right-delimiter"]

/-- What has been read, with the value of one more option. -/
def withOption (g : Given) (name value : String) : Except Stop Given := do
  match name with
  | "font" => return { g with font := ← once g.font (if value = "" then none else some value) }
  | "family" => return { g with family := ← once g.family (some value) }
  | "font-name" => return { g with fontName := ← once g.fontName (some value) }
  | "point-size" => return { g with pointSize := ← once g.pointSize (pointSize? value) }
  | "string" => return { g with strings := ← again g.strings value }
  | "color" => return { g with colors := ← again g.colors value }
  | "size" => return { g with sizes := ← again g.sizes value }
  | "left-delimiter" => return { g with leftDelimiter := ← once g.leftDelimiter (some value) }
  | "right-delimiter" => return { g with rightDelimiter := ← once g.rightDelimiter (some value) }
  | _ => .error .refused

/-- What has been read, with one more option that has no value. -/
def withFlag (g : Given) (name : String) : Except Stop Given :=
  match name with
  | "newlines" => if g.newlines then .error .refused else .ok { g with newlines := true }
  | "commands" => if g.commands then .error .refused else .ok { g with commands := true }
  | "help" => .error .help
  | "version" => .error .version
  | _ => .error .refused

/-- What has been read, with the markup text. -/
def withMarkup (g : Given) (text : String) : Except Stop Given :=
  match g.markup with
  | none => .ok { g with markup := some text }
  | some _ => .error .refused

/-- What an argument says that begins with one hyphen. -/
def short (letters : List Char) : Stop :=
  match letters with
  | 'h' :: _ => .help
  | 'V' :: _ => .version
  | _ => .refused

/-- The argument cannot be the value of the option before it. -/
def isOption (text : String) : Bool :=
  match text.toList with
  | '-' :: _ :: _ => true
  | _ => false

/-- What is read from the arguments behind those that are read already. -/
def readAll (g : Given) : List String → Except Stop Given
  | [] => .ok g
  | text :: rest =>
    match text.toList with
    | ['-', '-'] => rest.foldlM withMarkup g
    | '-' :: '-' :: long =>
      match Text.splitAtFirst? ['='] long with
      | some (name, value) => do
        (← g.withOption (String.ofList name) (String.ofList value)).readAll rest
      | none =>
        if valued.contains (String.ofList long) then
          match rest with
          | [] => .error .refused
          | value :: rest =>
            if isOption value then .error .refused
            else do (← g.withOption (String.ofList long) value).readAll rest
        else do (← g.withFlag (String.ofList long)).readAll rest
    | '-' :: c :: letters => .error (short (c :: letters))
    | _ => do (← g.withMarkup text).readAll rest

/-- The arguments, if there is one markup text and a font is given by its file or by its family, not
by both. -/
def arguments (g : Given) : Except Stop Arguments :=
  match g.markup with
  | none => .error .refused
  | some markup =>
    if g.font.isSome ∧ g.family.isSome then .error .refused
    else
      let standard : Arguments := { markup }
      .ok { standard with
        font := g.font
        family := g.family
        fontName := g.fontName
        pointSize := g.pointSize.getD standard.pointSize
        strings := g.strings
        colors := g.colors
        sizes := g.sizes
        newlines := g.newlines
        leftDelimiter := g.leftDelimiter.getD standard.leftDelimiter
        rightDelimiter := g.rightDelimiter.getD standard.rightDelimiter
        commands := g.commands }

end Given

/-- The arguments of a command line. -/
def readArguments (args : List String) : Except Stop Arguments := do
  (← Given.readAll {} args).arguments

end CommandLine
end StyledText
