import StyledText.CommandLine.Reader
import StyledText.Font.Sfnt

/-!
# The program

Reads the files and prints the texts of a run of the command line.
-/

namespace StyledText

/-- Why a file cannot be read. -/
def fileErrorText : IO.Error → String
  | .noFileOrDirectory .. => "No such file or directory (os error 2)"
  | .permissionDenied .. => "Permission denied (os error 13)"
  | .inappropriateType .. => "Is a directory (os error 21)"
  | e => toString e

/-- The bytes of a file, or why they cannot be read. -/
def readFile (path : String) : IO (Except String ByteArray) := do
  try
    return .ok (← IO.FS.readBinFile path)
  catch e =>
    return .error (fileErrorText e)

/-- The bytes of the font file that the arguments name, for a run that reads no other file. -/
def fontFile (a : CommandLine.Arguments) : IO (String → Except String ByteArray) := do
  match a.font with
  | some path =>
    let content ← readFile path
    return fun _ => content
  | none => return fun _ => .error "No such file or directory (os error 2)"

/-- A run with a command line, where no fonts are installed. -/
def runProgram (args : List String) : IO CommandLine.Outcome := do
  match CommandLine.readArguments args with
  | .error stop => return stop.outcome
  | .ok a =>
    let env : CommandLine.Environment Sfnt.Database := ⟨← fontFile a, .empty⟩
    return CommandLine.run Sfnt.parse env a

end StyledText

/-- The command line. -/
def main (args : List String) : IO UInt32 := do
  let outcome ← StyledText.runProgram args
  IO.print outcome.output
  IO.eprint outcome.errors
  return UInt32.ofNat outcome.exitCode
