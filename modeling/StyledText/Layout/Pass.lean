import StyledText.Layout.Fragment
import StyledText.Markup.Command
import StyledText.Resources

/-!
# Passes

A pass goes through a list of commands with a style and a cursor. For each command that draws it
takes the next slot and writes a fragment into it. A reference to something that is not registered,
or that is of another kind, does nothing, and neither does a font or size that cannot be had. A pass
stops at the first command that fails.

Texts stand at the cursor, images half their height above the middle of the line. Each fragment
extends the bounds by its box and moves the cursor on by its width.
-/

namespace StyledText

/-- Why a layout fails. -/
inductive LayoutError where
  | fragmentPoolExhausted (maxFragments : Nat)
  | noDefaultFont
  /-- Something left the grid after `placed` fragments. -/
  | coordinateOverflow (placed : Nat)
  | font (cause : FontError)
  | resource (cause : ResourceError)
deriving DecidableEq

/-- The text of the error. -/
def LayoutError.message : LayoutError → String
  | fragmentPoolExhausted maxFragments =>
    "Fragment pool exhausted: all " ++ toString maxFragments ++ " slots are in use."
  | noDefaultFont => "No default font: register a font before laying out text."
  | coordinateOverflow placed =>
    "Layout coordinates overflowed at fragment " ++ toString placed ++ "."
  | font cause => "Font error: " ++ cause.message
  | resource cause => "Registry error: " ++ cause.message

/-- Why the program has ended, if it has. -/
def LayoutError.panic? : LayoutError → Option String
  | font cause => cause.panic?
  | resource cause => cause.panic?
  | _ => none

/-- The style, the cursor and the bounds of a layout. -/
structure LayoutState (F : Type) where
  color : Color
  /-- The face at the current size of the current font. -/
  font : F
  fontSize : Nat
  /-- The name under which the current font is registered. -/
  fontName : String
  cursor : Point
  bounds : Bounds
deriving DecidableEq

/-- A layout that is under way. -/
structure Pass (F : Type) [FontFace F] where
  resources : Resources F
  /-- The slots for fragments; those that are not written yet hold older ones. -/
  slots : Array (Fragment F)
  /-- How many slots are written. -/
  written : Nat
  state : LayoutState F

/-- The height at which an image stands on a line: its middle is on the middle of the line, and
what is left of a fraction is dropped. -/
def imageY (lineY lineHeight : Coordinate) (height : Binary32) : Coordinate :=
  (lineY.toBinary32 + Coordinate.toBinary32 (lineHeight / 2) -
    height / Binary32.ofInt 2).truncate

/-- The slots with a fragment in one of them, or in a new one behind them. -/
def writeSlot {α : Type} (slots : Array α) (index : Nat) (fragment : α) : Array α :=
  if h : index < slots.size then slots.set index fragment h else slots.push fragment

/-- The slots with a run of text in one of them: a run of text that is there is rewritten, and an
image is replaced. -/
def writeText {F : Type} (slots : Array (Fragment F)) (index : Nat) (font : F) (content : String)
    (color : Color) (position : Point) (metrics : TextMetrics) : Array (Fragment F) :=
  if h : index < slots.size then
    match slots[index] with
    | .text slot => slots.set index (.text (slot.update font content color position metrics)) h
    | .image _ => slots.set index (.text ⟨font, content, color, position, metrics⟩) h
  else slots.push (.text ⟨font, content, color, position, metrics⟩)

/-- The state behind a box: the bounds extend around it, and the cursor moves on by its width.
There is none if either leaves the grid. -/
def LayoutState.behind? {F : Type} (state : LayoutState F) (box : Bounds) :
    Option (LayoutState F) := do
  let bounds ← state.bounds.extend? box
  let x ← state.cursor.x.add? box.width
  return { state with bounds, cursor := ⟨x, state.cursor.y⟩ }

namespace Pass

variable {F : Type} [FontFace F]

/-! What a command does answers with an error or not, and beside the answer stands the pass that it
leaves. -/

/-- Takes the next slot. -/
def nextSlot (maxFragments : Nat) (pass : Pass F) : Except LayoutError Nat × Pass F :=
  if maxFragments ≤ pass.written then (.error (.fragmentPoolExhausted maxFragments), pass)
  else (.ok pass.written, { pass with written := pass.written + 1 })

/-- Places a run of text at the cursor. -/
def placeText (maxFragments : Nat) (pass : Pass F) (content : String) :
    Except LayoutError Unit × Pass F :=
  match pass.nextSlot maxFragments with
  | (.error e, pass) => (.error e, pass)
  | (.ok index, pass) =>
    match FontFace.measure pass.state.font content with
    | .error cause => (.error (.font cause), pass)
    | .ok metrics =>
      let position := pass.state.cursor
      match pass.state.behind? ⟨position.x, position.y, metrics.width, metrics.height⟩ with
      | none => (.error (.coordinateOverflow index), pass)
      | some state =>
        let font := pass.state.font
        let color := pass.state.color
        (.ok (), { pass with
          slots := writeText pass.slots index font content color position metrics
          state })

/-- Places an image in the middle of the line. -/
def placeImage (maxFragments : Nat) (pass : Pass F) (image : Image) :
    Except LayoutError Unit × Pass F :=
  match pass.nextSlot maxFragments with
  | (.error e, pass) => (.error e, pass)
  | (.ok index, pass) =>
    let size := image.size
    let y := imageY pass.state.cursor.y (FontFace.lineHeight pass.state.font) size.height
    let position : Point := ⟨pass.state.cursor.x, y⟩
    match pass.state.behind? ⟨position.x, position.y, size.width.truncate,
      size.height.truncate⟩ with
    | none => (.error (.coordinateOverflow index), pass)
    | some state =>
      (.ok (), { pass with
        slots := writeSlot pass.slots index (.image ⟨image, position, size⟩)
        state })

/-- The pass with another font at the current size, if there is one under the name and it can be
had at that size. -/
def setFont (pass : Pass F) (name : String) : Pass F :=
  match pass.resources.faceAt name pass.state.fontSize with
  | some (.ok font, resources) =>
    { pass with resources, state := { pass.state with font, fontName := name } }
  | some (.error _, resources) => { pass with resources }
  | none => pass

/-- The pass with another size of the current font, if it can be had. -/
def setSize (pass : Pass F) (fontSize : Nat) : Pass F :=
  match pass.resources.faceAt pass.state.fontName fontSize with
  | some (.ok font, resources) =>
    { pass with resources, state := { pass.state with font, fontSize } }
  | some (.error _, resources) => { pass with resources }
  | none => pass

/-- Moves the cursor back to the beginning of its line, and from there to the next one. -/
def newline (pass : Pass F) : Except LayoutError Unit × Pass F :=
  let lineY := pass.state.cursor.y
  let pass := { pass with state := { pass.state with cursor := ⟨0, lineY⟩ } }
  match lineY.add? (FontFace.lineHeight pass.state.font) with
  | some y => (.ok (), { pass with state := { pass.state with cursor := ⟨0, y⟩ } })
  | none => (.error (.coordinateOverflow pass.written), pass)

/-- Does one command. -/
def apply (maxFragments : Nat) (pass : Pass F) : Command → Except LayoutError Unit × Pass F
  | .drawText content => pass.placeText maxFragments content
  | .useString key =>
    match pass.resources.get? key with
    | some (.string content) => pass.placeText maxFragments content
    | _ => (.ok (), pass)
  | .setColor key =>
    match pass.resources.get? key with
    | some (.color color) => (.ok (), { pass with state := { pass.state with color } })
    | _ => (.ok (), pass)
  | .setFont name => (.ok (), pass.setFont name)
  | .setSize key =>
    match pass.resources.get? key with
    | some (.size fontSize) => (.ok (), pass.setSize fontSize)
    | _ => (.ok (), pass)
  | .drawImage key =>
    match pass.resources.get? key with
    | some (.image image) => pass.placeImage maxFragments image
    | _ => (.ok (), pass)
  | .newline => pass.newline

/-- Does the commands of a list, up to the first one that fails. -/
def applyAll (maxFragments : Nat) (pass : Pass F) :
    CommandList → Except LayoutError Unit × Pass F
  | [] => (.ok (), pass)
  | command :: rest =>
    match pass.apply maxFragments command with
    | (.ok _, next) => next.applyAll maxFragments rest
    | (.error e, next) => (.error e, next)

end Pass
end StyledText
