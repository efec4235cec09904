import StyledText.Proofs.Faces
import StyledText.Proofs.Passes
import StyledText.Proofs.Steps

/-!
# Drafts

A pass writes its fragments into slots that may hold older ones, and asks fonts that keep what they
have been asked for. A draft is the same layout without either: it has a list of fragments that
begins empty, and takes the faces that the fonts give by themselves. Drafts are the reference for
what a layout shows; everything said of them holds of passes and typesetters.

Results:
1. `Pass.step_draft`, `Pass.run_draft`: a pass is a draft at every command, and at the end of every
   run, whatever its slots and fonts held before.
2. `Typesetter.typeset_of_ok`, `Typesetter.typeset_of_error`: what a typesetter shows after a layout
   is the draft of the list, and nothing if that fails.
-/

namespace StyledText

/-- What a layout has come to: the fragments in order, and the state. -/
structure Draft (F : Type) where
  fragments : List (Fragment F)
  state : LayoutState F

variable {F : Type} [FontFace F]

namespace Draft

/-- The draft with one more fragment. -/
def place (draft : Draft F) (fragment : Fragment F) : Except LayoutError (Draft F) :=
  match draft.state.bounds.extend? fragment.box, draft.state.cursor.x.add? fragment.box.width with
  | some bounds, some x =>
    .ok {
      fragments := draft.fragments ++ [fragment]
      state := { draft.state with bounds, cursor := ⟨x, draft.state.cursor.y⟩ } }
  | _, _ => .error (.coordinateOverflow draft.fragments.length)

/-- The draft with a run of text at the cursor. -/
def drawText (maxFragments : Nat) (draft : Draft F) (content : String) :
    Except LayoutError (Draft F) :=
  if draft.fragments.length < maxFragments then
    match FontFace.measure draft.state.font content with
    | .ok metrics =>
      draft.place (.text {
        font := draft.state.font
        content
        color := draft.state.color
        position := draft.state.cursor
        metrics })
    | .error cause => .error (.font cause)
  else .error (.fragmentPoolExhausted maxFragments)

/-- The draft with an image in the middle of the line. -/
def drawImage (maxFragments : Nat) (draft : Draft F) (image : Image) :
    Except LayoutError (Draft F) :=
  if draft.fragments.length < maxFragments then
    let y := imageY draft.state.cursor.y (FontFace.lineHeight draft.state.font) image.size.height
    draft.place (.image {
      image
      position := ⟨draft.state.cursor.x, y⟩
      size := image.size })
  else .error (.fragmentPoolExhausted maxFragments)

/-- The draft in another font, if there is one under the name and it has the current size. -/
def setFont (resources : Resources F) (draft : Draft F) (name : String) : Draft F :=
  match resources.face? name draft.state.fontSize with
  | some (.ok font) => { draft with state := { draft.state with font, fontName := name } }
  | _ => draft

/-- The draft at another size, if the current font has it. -/
def setSize (resources : Resources F) (draft : Draft F) (fontSize : Nat) : Draft F :=
  match resources.face? draft.state.fontName fontSize with
  | some (.ok font) => { draft with state := { draft.state with font, fontSize } }
  | _ => draft

/-- The draft at the beginning of the next line. -/
def newline (draft : Draft F) : Except LayoutError (Draft F) :=
  match draft.state.cursor.y.add? (FontFace.lineHeight draft.state.font) with
  | some y => .ok { draft with state := { draft.state with cursor := ⟨0, y⟩ } }
  | none => .error (.coordinateOverflow draft.fragments.length)

/-- The draft after one more command. -/
def step (resources : Resources F) (maxFragments : Nat) (draft : Draft F) :
    Command → Except LayoutError (Draft F)
  | .drawText content => draft.drawText maxFragments content
  | .useString key =>
    match resources.get? key with
    | some (.string content) => draft.drawText maxFragments content
    | _ => .ok draft
  | .setColor key =>
    match resources.get? key with
    | some (.color color) => .ok { draft with state := { draft.state with color } }
    | _ => .ok draft
  | .setFont name => .ok (draft.setFont resources name)
  | .setSize key =>
    match resources.get? key with
    | some (.size fontSize) => .ok (draft.setSize resources fontSize)
    | _ => .ok draft
  | .drawImage key =>
    match resources.get? key with
    | some (.image image) => draft.drawImage maxFragments image
    | _ => .ok draft
  | .newline => draft.newline

/-- The draft after a list of commands. -/
def run (resources : Resources F) (maxFragments : Nat) (draft : Draft F) (list : CommandList) :
    Except LayoutError (Draft F) :=
  list.foldlM (step resources maxFragments) draft

/-- The draft with which a layout begins. -/
def start (config : Typesetter.Config) (resources : Resources F) : Except LayoutError (Draft F) :=
  match resources.defaultFont with
  | none => .error .noDefaultFont
  | some fontName =>
    match resources.face? fontName config.defaultFontSize with
    | none => .error .noDefaultFont
    | some (.error cause) => .error (.resource cause)
    | some (.ok font) =>
      .ok { fragments := [], state := Typesetter.initialState config font fontName }

/-- The draft of a list of commands. -/
def ofList (config : Typesetter.Config) (resources : Resources F) (list : CommandList) :
    Except LayoutError (Draft F) :=
  (start config resources).bind fun draft => draft.run resources config.maxFragments list

/-! ## Runs -/

section Runs

variable {resources : Resources F} {maxFragments : Nat}

theorem ofList_eq_ok_iff {config : Typesetter.Config} {list : CommandList} {last : Draft F} :
    ofList config resources list = .ok last ↔
      ∃ draft, start config resources = .ok draft ∧
        draft.run resources config.maxFragments list = .ok last :=
  bind_eq_ok_iff

theorem run_append (draft : Draft F) (front back : CommandList) :
    draft.run resources maxFragments (front ++ back) =
      (draft.run resources maxFragments front).bind fun next =>
        next.run resources maxFragments back :=
  List.foldlM_append

/-- A run goes through its commands one by one. -/
theorem run_cons_eq_ok_iff {draft last : Draft F} {command : Command} {rest : CommandList} :
    draft.run resources maxFragments (command :: rest) = .ok last ↔
      ∃ next, draft.step resources maxFragments command = .ok next ∧
        next.run resources maxFragments rest = .ok last :=
  foldlM_cons_eq_ok_iff

/-- What every command of a list preserves, a run through the list preserves. -/
theorem run_preserves {Kept : Draft F → Prop} {list : CommandList}
    (step : ∀ command ∈ list, ∀ draft next, Kept draft →
      draft.step resources maxFragments command = .ok next → Kept next)
    {draft last : Draft F} (h : Kept draft)
    (ran : draft.run resources maxFragments list = .ok last) : Kept last :=
  foldlM_preserves Kept step h ran

end Runs

/-! ## What a draft asks for -/

/-- A draft asks resources for their default font, for entries and for faces, and for nothing
else. -/
structure Alike (resources others : Resources F) : Prop where
  default : others.defaultFont = resources.defaultFont
  entry : ∀ key, others.get? key = resources.get? key
  face : ∀ name size, others.face? name size = resources.face? name size

namespace Alike

variable {resources others : Resources F} (h : Alike resources others)

include h

theorem step : step others = step resources := by
  have entries : others.get? = resources.get? := funext h.entry
  have faces : others.face? = resources.face? := funext fun name => funext (h.face name)
  funext maxFragments draft command
  cases command <;> simp only [Draft.step, setFont, setSize, entries, faces]

theorem run (maxFragments : Nat) (draft : Draft F) (list : CommandList) :
    draft.run others maxFragments list = draft.run resources maxFragments list := by
  unfold Draft.run
  rw [h.step]

theorem start (config : Typesetter.Config) : start config others = start config resources := by
  unfold Draft.start
  simp only [h.default, h.face]

theorem ofList (config : Typesetter.Config) (list : CommandList) :
    ofList config others list = ofList config resources list := by
  simp only [Draft.ofList, h.start, h.run]

end Alike

/-- A draft does not depend on the faces that the fonts keep. -/
theorem alike_of_pristine {resources others : Resources F}
    (same : others.pristine = resources.pristine) : Alike resources others :=
  ⟨congrArg (·.defaultFont) same, Resources.get?_congr same, Resources.face?_congr same⟩

end Draft

/-! ## Passes -/

/-- Writing a slot behind others leaves those as they are. -/
theorem take_writeSlot {α : Type} {slots : Array α} {index : Nat} (h : index ≤ slots.size)
    (fragment : α) :
    (writeSlot slots index fragment).toList.take (index + 1) =
      slots.toList.take index ++ [fragment] := by
  unfold writeSlot
  -- An older slot is written again, or there is one slot more.
  split
  · next inside =>
    have length : (slots.toList.take index).length = index := by
      rw [List.length_take, Array.length_toList]
      omega
    rw [Array.toList_set, List.take_set, List.take_add_one,
      List.set_append_right index fragment (by omega), length]
    simp [inside]
  · next outside =>
    have full : index = slots.size := by omega
    subst full
    rw [Array.toList_push, List.take_of_length_le (by simp), List.take_of_length_le (by simp)]

theorem size_writeSlot {α : Type} {slots : Array α} {index : Nat} (h : index ≤ slots.size)
    (fragment : α) : (writeSlot slots index fragment).size = max slots.size (index + 1) := by
  unfold writeSlot
  split
  · next inside =>
    rw [Array.size_set]
    omega
  · rw [Array.size_push]
    omega

namespace Pass

/-- The draft that a pass has come to. -/
def draft (pass : Pass F) : Draft F := ⟨pass.slots.toList.take pass.written, pass.state⟩

/-- Every slot that the pass has written is there. -/
def Sound (pass : Pass F) : Prop := pass.written ≤ pass.slots.size

theorem length_draft {pass : Pass F} (h : pass.Sound) :
    pass.draft.fragments.length = pass.written := by
  unfold Sound at h
  rw [draft, List.length_take, Array.length_toList]
  omega

/-- What a command leaves as it was: the slots, but for as many new ones as the fragments need, and
of the resources all but the faces that the fonts keep. -/
structure Continues (pass next : Pass F) : Prop where
  written : pass.written ≤ next.written
  slots : next.slots.size = max pass.slots.size next.written
  resources : next.resources.pristine = pass.resources.pristine

namespace Continues

theorem sound {pass next : Pass F} (h : pass.Continues next) : next.Sound := by
  rw [Sound, h.slots]
  exact Nat.le_max_right ..

theorem of_same {pass next : Pass F} (h : pass.Sound) (written : next.written = pass.written)
    (slots : next.slots = pass.slots)
    (resources : next.resources.pristine = pass.resources.pristine) : pass.Continues next := by
  refine ⟨Nat.le_of_eq written.symm, ?_, resources⟩
  rw [written, slots]
  exact (Nat.max_eq_left h).symm

theorem refl {pass : Pass F} (h : pass.Sound) : pass.Continues pass := .of_same h rfl rfl rfl

theorem trans {first second third : Pass F} (h : first.Continues second)
    (h' : second.Continues third) : first.Continues third := by
  refine ⟨Nat.le_trans h.written h'.written, ?_, h'.resources.trans h.resources⟩
  rw [h'.slots, h.slots, Nat.max_assoc, Nat.max_eq_right h'.written]

end Continues

/-! ### What draws -/

theorem place_draft {pass : Pass F} (h : pass.Sound) (fragment : Fragment F) :
    (pass.place fragment).map draft = pass.draft.place fragment := by
  have state : pass.draft.state = pass.state := rfl
  unfold place Draft.place
  rw [length_draft h, state]
  cases pass.state.bounds.extend? fragment.box with
  | none => rfl
  | some bounds =>
    cases pass.state.cursor.x.add? fragment.box.width with
    | none => rfl
    | some x => simp only [Except.map, draft, take_writeSlot h]

theorem place_continues {pass next : Pass F} {fragment : Fragment F} (h : pass.Sound)
    (placed : pass.place fragment = .ok next) : pass.Continues next := by
  unfold place at placed
  split at placed
  · cases placed
    exact ⟨Nat.le_succ _, size_writeSlot h fragment, rfl⟩
  · cases placed

theorem drawText_draft {pass : Pass F} (h : pass.Sound) (maxFragments : Nat) (content : String) :
    (pass.drawText maxFragments content).map draft =
      pass.draft.drawText maxFragments content := by
  have state : pass.draft.state = pass.state := rfl
  rw [drawText_eq, Draft.drawText, length_draft h, state]
  split
  · cases FontFace.measure pass.state.font content with
    | ok metrics => exact place_draft h _
    | error cause => rfl
  · rfl

theorem drawText_continues {pass next : Pass F} {maxFragments : Nat} {content : String}
    (h : pass.Sound) (drawn : pass.drawText maxFragments content = .ok next) :
    pass.Continues next := by
  rw [drawText_eq] at drawn
  split at drawn
  · split at drawn
    · exact place_continues h drawn
    · cases drawn
  · cases drawn

theorem drawImage_draft {pass : Pass F} (h : pass.Sound) (maxFragments : Nat) (image : Image) :
    (pass.drawImage maxFragments image).map draft = pass.draft.drawImage maxFragments image := by
  have state : pass.draft.state = pass.state := rfl
  rw [drawImage_eq, Draft.drawImage, length_draft h, state]
  split
  · exact place_draft h _
  · rfl

theorem drawImage_continues {pass next : Pass F} {maxFragments : Nat} {image : Image}
    (h : pass.Sound) (drawn : pass.drawImage maxFragments image = .ok next) :
    pass.Continues next := by
  rw [drawImage_eq] at drawn
  split at drawn
  · exact place_continues h drawn
  · cases drawn

/-! ### What does not draw -/

theorem newline_draft {pass : Pass F} (h : pass.Sound) :
    (settled pass.newline).map draft = pass.draft.newline := by
  have state : pass.draft.state = pass.state := rfl
  rw [settled_newline, Draft.newline, length_draft h, state]
  cases pass.state.cursor.y.add? (FontFace.lineHeight pass.state.font) <;> rfl

theorem newline_continues {pass next : Pass F} (h : pass.Sound)
    (done : settled pass.newline = .ok next) : pass.Continues next := by
  rw [settled_newline] at done
  split at done
  · cases done
    exact .of_same h rfl rfl rfl
  · cases done

/-- A face that a font is asked for changes the draft as the face by itself does. -/
theorem faceAt_draft (pass : Pass F) (name : String) (size : Nat)
    (restyle : F → LayoutState F) :
    draft (match pass.resources.faceAt name size with
      | some (.ok font, resources) => { pass with resources, state := restyle font }
      | some (.error _, resources) => { pass with resources }
      | none => pass) =
    match pass.resources.face? name size with
    | some (.ok font) => { pass.draft with state := restyle font }
    | _ => pass.draft := by
  cases asked : pass.resources.faceAt name size with
  | none => rw [Resources.face?_of_faceAt_none asked]
  | some answered =>
    obtain ⟨answer, after⟩ := answered
    rw [(Resources.face?_of_faceAt asked).1]
    cases answer <;> rfl

theorem faceAt_continues {pass : Pass F} (h : pass.Sound) (name : String) (size : Nat)
    (restyle : F → LayoutState F) :
    pass.Continues (match pass.resources.faceAt name size with
      | some (.ok font, resources) => { pass with resources, state := restyle font }
      | some (.error _, resources) => { pass with resources }
      | none => pass) := by
  split
  · next asked => exact .of_same h rfl rfl (Resources.face?_of_faceAt asked).2
  · next asked => exact .of_same h rfl rfl (Resources.face?_of_faceAt asked).2
  · exact .refl h

theorem setFont_draft (pass : Pass F) (name : String) :
    (pass.setFont name).draft = pass.draft.setFont pass.resources name :=
  pass.faceAt_draft name pass.state.fontSize fun font =>
    { pass.state with font, fontName := name }

theorem setFont_continues {pass : Pass F} (h : pass.Sound) (name : String) :
    pass.Continues (pass.setFont name) :=
  faceAt_continues h name pass.state.fontSize fun font =>
    { pass.state with font, fontName := name }

theorem setSize_draft (pass : Pass F) (fontSize : Nat) :
    (pass.setSize fontSize).draft = pass.draft.setSize pass.resources fontSize :=
  pass.faceAt_draft pass.state.fontName fontSize fun font => { pass.state with font, fontSize }

theorem setSize_continues {pass : Pass F} (h : pass.Sound) (fontSize : Nat) :
    pass.Continues (pass.setSize fontSize) :=
  faceAt_continues h pass.state.fontName fontSize fun font => { pass.state with font, fontSize }

/-! ### Commands and runs -/

/-- A command does to a pass what it does to its draft. -/
theorem step_draft {pass : Pass F} (h : pass.Sound) (maxFragments : Nat) (command : Command) :
    (pass.step maxFragments command).map draft =
      pass.draft.step pass.resources maxFragments command := by
  cases command with
  | drawText content => exact drawText_draft h maxFragments content
  | useString key =>
    simp only [step_eq, Draft.step]
    cases pass.resources.get? key with
    | none => rfl
    | some entry =>
      cases entry with
      | string content => exact drawText_draft h maxFragments content
      | _ => rfl
  | setColor key =>
    simp only [step_eq, Draft.step]
    cases pass.resources.get? key with
    | none => rfl
    | some entry =>
      cases entry <;> rfl
  | setFont name => exact congrArg Except.ok (setFont_draft pass name)
  | setSize key =>
    simp only [step_eq, Draft.step]
    cases pass.resources.get? key with
    | none => rfl
    | some entry =>
      cases entry with
      | size fontSize => exact congrArg Except.ok (setSize_draft pass fontSize)
      | _ => rfl
  | drawImage key =>
    simp only [step_eq, Draft.step]
    cases pass.resources.get? key with
    | none => rfl
    | some entry =>
      cases entry with
      | image image => exact drawImage_draft h maxFragments image
      | _ => rfl
  | newline => exact newline_draft h

theorem step_continues {pass next : Pass F} {maxFragments : Nat} {command : Command}
    (h : pass.Sound) (stepped : pass.step maxFragments command = .ok next) :
    pass.Continues next := by
  cases command with
  | drawText content => exact drawText_continues h stepped
  | useString key =>
    rw [step_eq] at stepped
    dsimp only at stepped
    split at stepped
    · exact drawText_continues h stepped
    · cases stepped
      exact .refl h
  | setColor key =>
    rw [step_eq] at stepped
    dsimp only at stepped
    split at stepped
    · cases stepped
      exact .of_same h rfl rfl rfl
    · cases stepped
      exact .refl h
  | setFont name =>
    cases stepped
    exact setFont_continues h name
  | setSize key =>
    rw [step_eq] at stepped
    dsimp only at stepped
    split at stepped
    · cases stepped
      exact setSize_continues h _
    · cases stepped
      exact .refl h
  | drawImage key =>
    rw [step_eq] at stepped
    dsimp only at stepped
    split at stepped
    · exact drawImage_continues h stepped
    · cases stepped
      exact .refl h
  | newline => exact newline_continues h stepped

/-- What a run comes to: its draft, or its error. -/
def outcome : Pass F × Option LayoutError → Except LayoutError (Draft F)
  | (last, none) => .ok last.draft
  | (_, some e) => .error e

/-- A run of a pass comes to what a run of its draft comes to. -/
theorem run_draft {pass : Pass F} (h : pass.Sound) (maxFragments : Nat) (list : CommandList) :
    outcome (pass.run maxFragments list) =
      pass.draft.run pass.resources maxFragments list := by
  induction list generalizing pass with
  | nil => rfl
  | cons command rest ih =>
    have step := step_draft h maxFragments command
    unfold run
    rw [Draft.run, List.foldlM_cons, ← step]
    cases stepped : pass.step maxFragments command with
    | error e => rfl
    | ok next =>
      have continues := step_continues h stepped
      -- What the command has left in the fonts does not matter to the rest of the list.
      calc outcome (next.run maxFragments rest)
          = next.draft.run next.resources maxFragments rest := ih continues.sound
        _ = next.draft.run pass.resources maxFragments rest :=
          (Draft.alike_of_pristine continues.resources).run maxFragments next.draft rest

theorem run_continues {pass : Pass F} (h : pass.Sound) (maxFragments : Nat)
    (list : CommandList) : pass.Continues (pass.run maxFragments list).1 := by
  induction list generalizing pass with
  | nil => exact .refl h
  | cons command rest ih =>
    unfold run
    cases stepped : pass.step maxFragments command with
    | error e => exact .refl h
    | ok next =>
      have continues := step_continues h stepped
      exact continues.trans (ih continues.sound)

end Pass

/-! ## Typesetters -/

namespace Typesetter

/-- The pass with which a layout begins is that of the empty draft. -/
theorem start_draft (t : Typesetter F) (resources : Resources F) :
    match t.start resources with
    | .ok pass =>
      Draft.start t.config resources = .ok pass.draft ∧ pass.Sound ∧
        pass.resources.pristine = resources.pristine
    | .error (e, after) =>
      Draft.start t.config resources = .error e ∧ after.pristine = resources.pristine := by
  unfold start Draft.start
  cases resources.defaultFont with
  | none => exact ⟨rfl, rfl⟩
  | some fontName =>
    simp only
    cases asked : resources.faceAt fontName t.config.defaultFontSize with
    | none =>
      rw [Resources.face?_of_faceAt_none asked]
      exact ⟨rfl, rfl⟩
    | some answered =>
      obtain ⟨answer, after⟩ := answered
      obtain ⟨face, kept⟩ := Resources.face?_of_faceAt asked
      rw [face]
      cases answer with
      | error cause => exact ⟨rfl, kept⟩
      | ok font => exact ⟨rfl, Nat.zero_le _, kept⟩

/-- What a typesetter shows after a layout, with its configuration and its resources kept. -/
structure Shows (t : Typesetter F) (resources : Resources F) (fragments : List (Fragment F))
    (state : Option (LayoutState F)) (next : Typesetter F) (after : Resources F) : Prop where
  config : next.config = t.config
  fragments : next.fragments = fragments
  state : next.state = state
  resources : after.pristine = resources.pristine

/-- A layout shows the draft of its list, and nothing if there is none. -/
theorem typeset_draft (t : Typesetter F) (resources : Resources F) (list : CommandList) :
    match Draft.ofList t.config resources list with
    | .ok draft =>
      ∃ next after, t.typeset resources list = (.ok draft.state.bounds, next, after) ∧
        t.Shows resources draft.fragments (some draft.state) next after
    | .error e =>
      ∃ next after, t.typeset resources list = (.error e, next, after) ∧
        t.Shows resources [] none next after := by
  have begun := t.start_draft resources
  rw [typeset_eq, Draft.ofList]
  cases started : t.start resources with
  | error failed =>
    obtain ⟨e, after⟩ := failed
    rw [started] at begun
    obtain ⟨start, kept⟩ := begun
    rw [start]
    exact ⟨_, _, rfl, ⟨rfl, rfl, rfl, kept⟩⟩
  | ok pass =>
    rw [started] at begun
    obtain ⟨start, sound, kept⟩ := begun
    have ran := (Pass.run_draft sound t.config.maxFragments list).trans
      ((Draft.alike_of_pristine kept).run t.config.maxFragments pass.draft list)
    have continues := Pass.run_continues sound t.config.maxFragments list
    rw [start, Except.bind, ← ran]
    dsimp only
    cases result : pass.run t.config.maxFragments list with
    | mk last failure =>
      rw [result] at continues
      have after := continues.resources.trans kept
      cases failure with
      | none => exact ⟨_, _, rfl, ⟨rfl, rfl, rfl, after⟩⟩
      | some e => exact ⟨_, _, rfl, ⟨rfl, rfl, rfl, after⟩⟩

theorem typeset_of_ok {t : Typesetter F} {resources : Resources F} {list : CommandList}
    {draft : Draft F} (h : Draft.ofList t.config resources list = .ok draft) :
    ∃ next after, t.typeset resources list = (.ok draft.state.bounds, next, after) ∧
      t.Shows resources draft.fragments (some draft.state) next after := by
  have shown := t.typeset_draft resources list
  rwa [h] at shown

theorem typeset_of_error {t : Typesetter F} {resources : Resources F} {list : CommandList}
    {e : LayoutError} (h : Draft.ofList t.config resources list = .error e) :
    ∃ next after, t.typeset resources list = (.error e, next, after) ∧
      t.Shows resources [] none next after := by
  have shown := t.typeset_draft resources list
  rwa [h] at shown

/-- A layout comes to what its draft comes to. -/
theorem outcome_eq (t : Typesetter F) (resources : Resources F) (list : CommandList) :
    (t.typeset resources list).1 =
      (Draft.ofList t.config resources list).map (·.state.bounds) := by
  cases made : Draft.ofList t.config resources list with
  | ok draft =>
    obtain ⟨next, after, done, -⟩ := typeset_of_ok made
    rw [done]
    rfl
  | error e =>
    obtain ⟨next, after, failed, -⟩ := typeset_of_error made
    rw [failed]
    rfl

theorem outcome_eq_error_iff {t : Typesetter F} {resources : Resources F} {list : CommandList}
    {e : LayoutError} :
    (t.typeset resources list).1 = .error e ↔ Draft.ofList t.config resources list = .error e := by
  rw [outcome_eq]
  cases Draft.ofList t.config resources list with
  | ok draft => exact ⟨nofun, nofun⟩
  | error cause => simp [Except.map]

/-- Whatever comes of a layout, the configuration and the registrations are kept. -/
theorem typeset_shows (t : Typesetter F) (resources : Resources F) (list : CommandList) :
    ∃ outcome fragments state next after, t.typeset resources list = (outcome, next, after) ∧
      t.Shows resources fragments state next after := by
  cases made : Draft.ofList t.config resources list with
  | ok draft =>
    obtain ⟨next, after, done, shown⟩ := typeset_of_ok made
    exact ⟨_, _, _, next, after, done, shown⟩
  | error e =>
    obtain ⟨next, after, failed, shown⟩ := typeset_of_error made
    exact ⟨_, _, _, next, after, failed, shown⟩

/-- Two layouts with the same draft show the same. -/
theorem typeset_of_same {t u : Typesetter F} {resources others : Resources F}
    {list list' : CommandList}
    (same : Draft.ofList u.config others list' = Draft.ofList t.config resources list) :
    ∃ outcome fragments state next after next' after',
      t.typeset resources list = (outcome, next, after) ∧
      t.Shows resources fragments state next after ∧
      u.typeset others list' = (outcome, next', after') ∧
      u.Shows others fragments state next' after' := by
  cases made : Draft.ofList t.config resources list with
  | ok draft =>
    obtain ⟨next, after, done, shown⟩ := typeset_of_ok made
    obtain ⟨next', after', done', shown'⟩ := typeset_of_ok (same.trans made)
    exact ⟨_, _, _, next, after, next', after', done, shown, done', shown'⟩
  | error e =>
    obtain ⟨next, after, failed, shown⟩ := typeset_of_error made
    obtain ⟨next', after', failed', shown'⟩ := typeset_of_error (same.trans made)
    exact ⟨_, _, _, next, after, next', after', failed, shown, failed', shown'⟩

/-- Two typesetters of one configuration show the same, if the resources differ only in the faces
that the fonts keep. -/
theorem typeset_congr {t u : Typesetter F} {resources others : Resources F}
    (config : u.config = t.config) (kept : others.pristine = resources.pristine)
    (list : CommandList) :
    ∃ outcome fragments state next after next' after',
      t.typeset resources list = (outcome, next, after) ∧
      t.Shows resources fragments state next after ∧
      u.typeset others list = (outcome, next', after') ∧
      u.Shows others fragments state next' after' := by
  refine typeset_of_same ?_
  rw [config, (Draft.alike_of_pristine kept).ofList]

/-- The draft that a layout has shown. -/
theorem draft_of_typeset {t next : Typesetter F} {resources after : Resources F}
    {list : CommandList} {bounds : Bounds}
    (h : t.typeset resources list = (.ok bounds, next, after)) :
    ∃ draft, Draft.ofList t.config resources list = .ok draft ∧ draft.state.bounds = bounds ∧
      t.Shows resources draft.fragments (some draft.state) next after := by
  cases made : Draft.ofList t.config resources list with
  | error e =>
    obtain ⟨_, _, failed, _⟩ := typeset_of_error made
    rw [failed] at h
    cases h
  | ok draft =>
    obtain ⟨_, _, done, shown⟩ := typeset_of_ok made
    rw [done] at h
    cases h
    exact ⟨draft, rfl, rfl, shown⟩

/-- A layout that is known to succeed. -/
theorem typeset_of_toOption {t : Typesetter F} {resources : Resources F} {list : CommandList}
    {bounds : Bounds} (h : (t.typeset resources list).1.toOption = some bounds) :
    ∃ next after, t.typeset resources list = (.ok bounds, next, after) := by
  generalize t.typeset resources list = result at h ⊢
  obtain ⟨outcome, next, after⟩ := result
  cases outcome with
  | error e => cases h
  | ok found =>
    cases h
    exact ⟨next, after, rfl⟩

end Typesetter
end StyledText
