import StyledText.Layout.Typesetter

/-!
# Passes that stop at an error

A command answers with an error or not, and leaves a pass in either case. Of what it leaves after an
error nothing shows, since the typesetter is cleared then; so it is enough to know the pass after a
command that succeeds, and the error of one that fails. This module takes that view of commands and
lists.

Results:
1. `writeText_eq_writeSlot`: a run of text is written the same whatever the slot held.
2. `Pass.step_eq`: what a command does, and when it fails with which error.
3. `Pass.left_of_apply`: what a command that fails leaves is as before, but for the count of the
   slots and the cursor.
4. `Typesetter.typeset_eq`: a layout ends like the run of its list.
-/

namespace StyledText

/-! ## Slots -/

/-- A run of text that is rewritten is the same as a new one. -/
theorem TextFragment.update_eq {F : Type} (slot : TextFragment F) (font : F) (content : String)
    (color : Color) (position : Point) (metrics : TextMetrics) :
    slot.update font content color position metrics =
      ⟨font, content, color, position, metrics⟩ := by
  simp only [update, String.empty_append]

/-- Whether a run of text is rewritten, an image is replaced or a slot is new, the slots are the
same as with the whole fragment written. -/
theorem writeText_eq_writeSlot {F : Type} (slots : Array (Fragment F)) (index : Nat) (font : F)
    (content : String) (color : Color) (position : Point) (metrics : TextMetrics) :
    writeText slots index font content color position metrics =
      writeSlot slots index (.text ⟨font, content, color, position, metrics⟩) := by
  unfold writeText writeSlot
  split
  · split
    · rw [TextFragment.update_eq]
    · rfl
  · rfl

variable {F : Type} [FontFace F]

namespace Pass

variable {maxFragments : Nat}

/-! ## One command -/

/-- The pass that is left, if there is no error. -/
def settled (answered : Except LayoutError Unit × Pass F) : Except LayoutError (Pass F) :=
  answered.1.map fun _ => answered.2

/-- The pass after one more command. -/
def step (maxFragments : Nat) (pass : Pass F) (command : Command) : Except LayoutError (Pass F) :=
  settled (pass.apply maxFragments command)

/-- The pass with a fragment in the next slot. -/
def place (pass : Pass F) (fragment : Fragment F) : Except LayoutError (Pass F) :=
  match pass.state.bounds.extend? fragment.box, pass.state.cursor.x.add? fragment.box.width with
  | some bounds, some x =>
    .ok { pass with
      slots := writeSlot pass.slots pass.written fragment
      written := pass.written + 1
      state := { pass.state with bounds, cursor := ⟨x, pass.state.cursor.y⟩ } }
  | _, _ => .error (.coordinateOverflow pass.written)

/-- The pass with a run of text at the cursor. -/
def drawText (maxFragments : Nat) (pass : Pass F) (content : String) :
    Except LayoutError (Pass F) :=
  settled (pass.placeText maxFragments content)

/-- The pass with an image in the middle of the line. -/
def drawImage (maxFragments : Nat) (pass : Pass F) (image : Image) :
    Except LayoutError (Pass F) :=
  settled (pass.placeImage maxFragments image)

/-- A run of text needs a slot, an extent and room on the grid, and is looked at in this order. -/
theorem drawText_eq (pass : Pass F) (content : String) :
    pass.drawText maxFragments content =
      if pass.written < maxFragments then
        match FontFace.measure pass.state.font content with
        | .ok metrics =>
          pass.place (.text {
            font := pass.state.font
            content
            color := pass.state.color
            position := pass.state.cursor
            metrics })
        | .error cause => .error (.font cause)
      else .error (.fragmentPoolExhausted maxFragments) := by
  unfold drawText placeText nextSlot
  by_cases room : pass.written < maxFragments
  · rw [if_neg (Nat.not_le_of_lt room), if_pos room]
    dsimp only
    cases FontFace.measure pass.state.font content with
    | error cause => rfl
    | ok metrics =>
      dsimp only [place, LayoutState.behind?, Fragment.box]
      simp only [writeText_eq_writeSlot]
      cases pass.state.bounds.extend?
          ⟨pass.state.cursor.x, pass.state.cursor.y, metrics.width, metrics.height⟩ with
      | none => rfl
      | some bounds => cases pass.state.cursor.x.add? metrics.width <;> rfl
  · rw [if_pos (Nat.le_of_not_lt room), if_neg room]
    rfl

/-- An image needs a slot and room on the grid. -/
theorem drawImage_eq (pass : Pass F) (image : Image) :
    pass.drawImage maxFragments image =
      if pass.written < maxFragments then
        let y := imageY pass.state.cursor.y (FontFace.lineHeight pass.state.font)
          image.size.height
        pass.place (.image {
          image
          position := ⟨pass.state.cursor.x, y⟩
          size := image.size })
      else .error (.fragmentPoolExhausted maxFragments) := by
  unfold drawImage placeImage nextSlot
  by_cases room : pass.written < maxFragments
  · rw [if_neg (Nat.not_le_of_lt room), if_pos room]
    dsimp only [place, LayoutState.behind?, Fragment.box]
    cases pass.state.bounds.extend?
        ⟨pass.state.cursor.x,
          imageY pass.state.cursor.y (FontFace.lineHeight pass.state.font) image.size.height,
          image.size.width.truncate, image.size.height.truncate⟩ with
    | none => rfl
    | some bounds => cases pass.state.cursor.x.add? image.size.width.truncate <;> rfl
  · rw [if_pos (Nat.le_of_not_lt room), if_neg room]
    rfl

theorem settled_newline (pass : Pass F) :
    settled pass.newline =
      match pass.state.cursor.y.add? (FontFace.lineHeight pass.state.font) with
      | some y => .ok { pass with state := { pass.state with cursor := ⟨0, y⟩ } }
      | none => .error (.coordinateOverflow pass.written) := by
  dsimp only [newline]
  cases pass.state.cursor.y.add? (FontFace.lineHeight pass.state.font) <;> rfl

/-- What a command does, and when it fails with which error. A reference to something that is not
registered, or that is of another kind, does nothing. -/
theorem step_eq (pass : Pass F) (command : Command) :
    pass.step maxFragments command =
      match command with
      | .drawText content => pass.drawText maxFragments content
      | .useString key =>
        match pass.resources.get? key with
        | some (.string content) => pass.drawText maxFragments content
        | _ => .ok pass
      | .setColor key =>
        match pass.resources.get? key with
        | some (.color color) => .ok { pass with state := { pass.state with color } }
        | _ => .ok pass
      | .setFont name => .ok (pass.setFont name)
      | .setSize key =>
        match pass.resources.get? key with
        | some (.size fontSize) => .ok (pass.setSize fontSize)
        | _ => .ok pass
      | .drawImage key =>
        match pass.resources.get? key with
        | some (.image image) => pass.drawImage maxFragments image
        | _ => .ok pass
      | .newline => settled pass.newline := by
  cases command with
  | drawText | setFont | newline => rfl
  | useString key | setColor key | setSize key | drawImage key =>
    simp only [step, apply]
    cases pass.resources.get? key with
    | none => rfl
    | some entry => cases entry <;> rfl

/-! ## What a command that fails leaves -/

/-- What a pass keeps that an error has ended: its slots and its resources. -/
structure Left (pass left : Pass F) : Prop where
  slots : left.slots = pass.slots
  resources : left.resources = pass.resources

theorem left_of_nextSlot {pass left : Pass F} {answer : Except LayoutError Nat}
    (taken : pass.nextSlot maxFragments = (answer, left)) : pass.Left left := by
  unfold nextSlot at taken
  split at taken
  · cases taken
    exact ⟨rfl, rfl⟩
  · cases taken
    exact ⟨rfl, rfl⟩

theorem left_of_placeText {pass left : Pass F} {content : String} {e : LayoutError}
    (failed : pass.placeText maxFragments content = (.error e, left)) : pass.Left left := by
  unfold placeText at failed
  split at failed
  · next taken =>
    cases failed
    exact left_of_nextSlot taken
  · next taken =>
    split at failed
    · cases failed
      exact left_of_nextSlot taken
    · dsimp only at failed
      split at failed
      · cases failed
        exact left_of_nextSlot taken
      · cases failed

theorem left_of_placeImage {pass left : Pass F} {image : Image} {e : LayoutError}
    (failed : pass.placeImage maxFragments image = (.error e, left)) : pass.Left left := by
  unfold placeImage at failed
  split at failed
  · next taken =>
    cases failed
    exact left_of_nextSlot taken
  · next taken =>
    dsimp only at failed
    split at failed
    · cases failed
      exact left_of_nextSlot taken
    · cases failed

/-- A command that fails may have taken a slot and moved the cursor, but it has written nothing. -/
theorem left_of_apply {pass left : Pass F} {command : Command} {e : LayoutError}
    (failed : pass.apply maxFragments command = (.error e, left)) : pass.Left left := by
  cases command with
  | drawText content => exact left_of_placeText failed
  | useString key =>
    simp only [apply] at failed
    split at failed
    · exact left_of_placeText failed
    · cases failed
  | setColor key | setSize key =>
    simp only [apply] at failed
    split at failed <;> cases failed
  | setFont name => cases failed
  | drawImage key =>
    simp only [apply] at failed
    split at failed
    · exact left_of_placeImage failed
    · cases failed
  | newline =>
    simp only [apply, newline] at failed
    split at failed
    · cases failed
    · cases failed
      exact ⟨rfl, rfl⟩

/-! ## Lists of commands -/

/-- The pass after a list of commands, or before the first one that fails and with its error. -/
def run (maxFragments : Nat) (pass : Pass F) : CommandList → Pass F × Option LayoutError
  | [] => (pass, none)
  | command :: rest =>
    match pass.step maxFragments command with
    | .ok next => next.run maxFragments rest
    | .error e => (pass, some e)

/-- A list answers with the error of its run, and leaves what that has come to. -/
theorem applyAll_of_run (pass : Pass F) (maxFragments : Nat) (list : CommandList) :
    match pass.run maxFragments list with
    | (last, none) => pass.applyAll maxFragments list = (.ok (), last)
    | (last, some e) =>
      ∃ left, pass.applyAll maxFragments list = (.error e, left) ∧ last.Left left := by
  induction list generalizing pass with
  | nil => rfl
  | cons command rest ih =>
    rw [run, step, applyAll]
    cases applied : pass.apply maxFragments command with
    | mk answer next =>
      cases answer with
      | ok => exact ih next
      | error e => exact ⟨next, rfl, left_of_apply applied⟩

end Pass

namespace Typesetter

/-- A layout ends like the run of its list; after an error the typesetter has no layout, and the
slots and the resources are those with which the command that fails has begun. -/
theorem typeset_eq (t : Typesetter F) (resources : Resources F) (list : CommandList) :
    t.typeset resources list =
      match t.start resources with
      | .error (e, resources) => (.error e, t.clear t.slots, resources)
      | .ok pass =>
        match pass.run t.config.maxFragments list with
        | (last, none) =>
          (.ok last.state.bounds,
            { config := t.config, slots := last.slots, written := last.written,
              state := some last.state },
            last.resources)
        | (last, some e) => (.error e, t.clear last.slots, last.resources) := by
  have begun : (t.clear t.slots).start resources = t.start resources := rfl
  unfold typeset
  dsimp only
  rw [begun]
  cases t.start resources with
  | error failed => rfl
  | ok pass =>
    have ran := pass.applyAll_of_run t.config.maxFragments list
    dsimp only [clear]
    cases result : pass.run t.config.maxFragments list with
    | mk last failure =>
      rw [result] at ran
      cases failure with
      | none => rw [ran]
      | some e =>
        obtain ⟨left, failed, same⟩ := ran
        rw [failed]
        dsimp only
        rw [same.slots, same.resources]

end Typesetter
end StyledText
