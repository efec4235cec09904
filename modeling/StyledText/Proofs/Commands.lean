import StyledText.Proofs.Draft

/-!
# What a command does

A command draws a fragment, breaks the line, or changes the style and nothing else. The style does
not depend on what is drawn, so it can be followed through a list by itself.

Results:
1. `Draft.step_cases`: the three things that a command can do to a draft.
2. `Draft.draw_eq_ok_iff`: when something is drawn, and what it leaves.
3. `Draft.style_of_run`: the style after a list is that of its style commands alone.
-/

namespace StyledText

/-- The color and the font of a layout, without its cursor and its bounds. -/
structure Style (F : Type) where
  color : Color
  font : F
  fontSize : Nat
  fontName : String

/-- What can be drawn. -/
inductive Drawing where
  | text (content : String)
  | image (image : Image)

variable {F : Type}

namespace LayoutState

def style (state : LayoutState F) : Style F :=
  ⟨state.color, state.font, state.fontSize, state.fontName⟩

def restyle (state : LayoutState F) (style : Style F) : LayoutState F :=
  { state with
    color := style.color
    font := style.font
    fontSize := style.fontSize
    fontName := style.fontName }

end LayoutState

/-- What placing a fragment leaves: the fragment is the last one, the bounds are extended by its
box, the cursor is behind it, and the style is the same. -/
theorem Draft.place_eq_ok {draft next : Draft F} {fragment : Fragment F}
    (placed : draft.place fragment = .ok next) :
    next.fragments = draft.fragments ++ [fragment] ∧
      draft.state.bounds.extend? fragment.box = some next.state.bounds ∧
      next.state.style = draft.state.style ∧
      next.state.cursor.x.toInt = draft.state.cursor.x.toInt + fragment.box.width.toInt ∧
      next.state.cursor.y = draft.state.cursor.y := by
  unfold place at placed
  split at placed
  · next extended moved =>
    cases placed
    exact ⟨rfl, extended, rfl, Coordinate.add?_eq_some_iff.1 moved, rfl⟩
  · cases placed

variable [FontFace F]

/-- What a command draws, if it draws and what it refers to is there. -/
def Resources.drawing? (resources : Resources F) : Command → Option Drawing
  | .drawText content => some (.text content)
  | .useString key =>
    match resources.get? key with
    | some (.string content) => some (.text content)
    | _ => none
  | .drawImage key =>
    match resources.get? key with
    | some (.image image) => some (.image image)
    | _ => none
  | .setColor _ | .setFont _ | .setSize _ | .newline => none

/-- The fragment that shows a drawing in a style at a place, if the text can be measured. -/
def Drawing.fragment (style : Style F) (place : Point) : Drawing → Except FontError (Fragment F)
  | .text content =>
    (FontFace.measure style.font content).map fun metrics =>
      .text { font := style.font, content, color := style.color, position := place, metrics }
  | .image shown =>
    .ok (.image {
      image := shown
      position := ⟨place.x, imageY place.y (FontFace.lineHeight style.font) shown.size.height⟩
      size := shown.size })

namespace Drawing

variable {style : Style F} {place : Point}

theorem fragment_text_eq_ok {content : String} {fragment : Fragment F}
    (shown : (text content).fragment style place = .ok fragment) :
    ∃ metrics, FontFace.measure style.font content = .ok metrics ∧
      fragment = .text {
        font := style.font
        content
        color := style.color
        position := place
        metrics } := by
  rw [Drawing.fragment] at shown
  cases measured : FontFace.measure style.font content with
  | error cause =>
    rw [measured] at shown
    cases shown
  | ok metrics =>
    rw [measured] at shown
    cases shown
    exact ⟨metrics, rfl, rfl⟩

/-- Nothing but a text can have no fragment. -/
theorem fragment_eq_error {drawing : Drawing} {cause : FontError}
    (hidden : drawing.fragment style place = .error cause) :
    ∃ content, drawing = .text content ∧ FontFace.measure style.font content = .error cause := by
  cases drawing with
  | text content =>
    refine ⟨content, rfl, ?_⟩
    rw [fragment] at hidden
    cases measured : FontFace.measure style.font content with
    | error other =>
      rw [measured] at hidden
      cases hidden
      rfl
    | ok metrics =>
      rw [measured] at hidden
      cases hidden
  | image image => cases hidden

end Drawing

namespace Style

/-- The style with which a layout begins. -/
def initial (config : Typesetter.Config) (font : F) (fontName : String) : Style F :=
  ⟨config.defaultColor, font, config.defaultFontSize, fontName⟩

def setFont (resources : Resources F) (style : Style F) (name : String) : Style F :=
  match resources.face? name style.fontSize with
  | some (.ok font) => { style with font, fontName := name }
  | _ => style

def setSize (resources : Resources F) (style : Style F) (fontSize : Nat) : Style F :=
  match resources.face? style.fontName fontSize with
  | some (.ok font) => { style with font, fontSize }
  | _ => style

/-- The style after a command. -/
def next (resources : Resources F) (style : Style F) : Command → Style F
  | .setColor key =>
    match resources.get? key with
    | some (.color color) => { style with color }
    | _ => style
  | .setFont name => style.setFont resources name
  | .setSize key =>
    match resources.get? key with
    | some (.size fontSize) => style.setSize resources fontSize
    | _ => style
  | .drawText _ | .useString _ | .drawImage _ | .newline => style

/-- The style after a list of commands. -/
def after (resources : Resources F) (style : Style F) (list : CommandList) : Style F :=
  list.foldl (next resources) style

theorem next_of_drawing {resources : Resources F} {command : Command} {drawing : Drawing}
    (drawn : resources.drawing? command = some drawing) (style : Style F) :
    style.next resources command = style := by
  cases command with
  | setColor key => cases drawn
  | setFont name => cases drawn
  | setSize key => cases drawn
  | _ => rfl

theorem after_append (resources : Resources F) (style : Style F) (front back : CommandList) :
    style.after resources (front ++ back) = (style.after resources front).after resources back :=
  List.foldl_append

end Style

namespace Draft

def restyle (draft : Draft F) (style : Style F) : Draft F :=
  { draft with state := draft.state.restyle style }

def draw (maxFragments : Nat) (draft : Draft F) : Drawing → Except LayoutError (Draft F)
  | .text content => draft.drawText maxFragments content
  | .image image => draft.drawImage maxFragments image

/-! ## The three kinds of commands -/

theorem setFont_eq_restyle (resources : Resources F) (draft : Draft F) (name : String) :
    draft.setFont resources name = draft.restyle (draft.state.style.setFont resources name) := by
  have size : draft.state.style.fontSize = draft.state.fontSize := rfl
  unfold setFont Style.setFont
  rw [size]
  cases resources.face? name draft.state.fontSize with
  | none => rfl
  | some answer => cases answer <;> rfl

theorem setSize_eq_restyle (resources : Resources F) (draft : Draft F) (fontSize : Nat) :
    draft.setSize resources fontSize =
      draft.restyle (draft.state.style.setSize resources fontSize) := by
  have name : draft.state.style.fontName = draft.state.fontName := rfl
  unfold setSize Style.setSize
  rw [name]
  cases resources.face? draft.state.fontName fontSize with
  | none => rfl
  | some answer => cases answer <;> rfl

/-- A command draws, or it is a line break, or it does nothing but change the style. -/
theorem step_cases (resources : Resources F) (maxFragments : Nat) (draft : Draft F)
    (command : Command) :
    (∃ drawing, resources.drawing? command = some drawing ∧
      draft.step resources maxFragments command = draft.draw maxFragments drawing) ∨
    (command = .newline ∧ draft.step resources maxFragments command = draft.newline) ∨
    (resources.drawing? command = none ∧ command ≠ .newline ∧
      draft.step resources maxFragments command =
        .ok (draft.restyle (draft.state.style.next resources command))) := by
  cases command with
  | drawText content => exact .inl ⟨_, rfl, rfl⟩
  | newline => exact .inr (.inl ⟨rfl, rfl⟩)
  | useString key =>
    simp only [step, Resources.drawing?, Style.next]
    cases resources.get? key with
    | none => exact .inr (.inr ⟨rfl, by simp, rfl⟩)
    | some entry =>
      cases entry with
      | string content => exact .inl ⟨_, rfl, rfl⟩
      | _ => exact .inr (.inr ⟨rfl, by simp, rfl⟩)
  | drawImage key =>
    simp only [step, Resources.drawing?, Style.next]
    cases resources.get? key with
    | none => exact .inr (.inr ⟨rfl, by simp, rfl⟩)
    | some entry =>
      cases entry with
      | image image => exact .inl ⟨_, rfl, rfl⟩
      | _ => exact .inr (.inr ⟨rfl, by simp, rfl⟩)
  | setColor key =>
    refine .inr (.inr ⟨rfl, by simp, ?_⟩)
    simp only [step, Style.next]
    cases resources.get? key with
    | none => rfl
    | some entry => cases entry <;> rfl
  | setFont name =>
    exact .inr (.inr ⟨rfl, by simp, congrArg Except.ok (draft.setFont_eq_restyle resources name)⟩)
  | setSize key =>
    refine .inr (.inr ⟨rfl, by simp, ?_⟩)
    simp only [step, Style.next]
    cases resources.get? key with
    | none => rfl
    | some entry =>
      cases entry with
      | size fontSize => exact congrArg Except.ok (draft.setSize_eq_restyle resources fontSize)
      | _ => rfl

/-! ## What is drawn -/

variable {resources : Resources F} {maxFragments : Nat}

theorem draw_eq (maxFragments : Nat) (draft : Draft F) (drawing : Drawing) :
    draft.draw maxFragments drawing =
      if draft.fragments.length < maxFragments then
        match drawing.fragment draft.state.style draft.state.cursor with
        | .ok fragment => draft.place fragment
        | .error cause => .error (.font cause)
      else .error (.fragmentPoolExhausted maxFragments) := by
  cases drawing with
  | text content =>
    have font : draft.state.style.font = draft.state.font := rfl
    simp only [draw, drawText, Drawing.fragment, font]
    cases FontFace.measure draft.state.font content <;> rfl
  | image image => rfl

theorem draw_eq_ok_iff {draft next : Draft F} {drawing : Drawing} :
    draft.draw maxFragments drawing = .ok next ↔
      draft.fragments.length < maxFragments ∧
        ∃ fragment, drawing.fragment draft.state.style draft.state.cursor = .ok fragment ∧
          draft.place fragment = .ok next := by
  rw [draw_eq]
  split
  · next room =>
    cases drawing.fragment draft.state.style draft.state.cursor with
    | error cause => simp
    | ok fragment => simp [room]
  · next full => simp [full]

/-- What a line break leaves. -/
theorem newline_eq_ok {draft next : Draft F} (done : draft.newline = .ok next) :
    next.fragments = draft.fragments ∧ next.state.bounds = draft.state.bounds ∧
      next.state.style = draft.state.style ∧ next.state.cursor.x = 0 ∧
      next.state.cursor.y.toInt =
        draft.state.cursor.y.toInt + (FontFace.lineHeight draft.state.font).toInt := by
  unfold newline at done
  split at done
  · next moved =>
    cases done
    exact ⟨rfl, rfl, rfl, rfl, Coordinate.add?_eq_some_iff.1 moved⟩
  · cases done

/-! ## The style along a list -/

theorem style_of_step {draft next : Draft F} {command : Command}
    (stepped : draft.step resources maxFragments command = .ok next) :
    next.state.style = draft.state.style.next resources command := by
  rcases draft.step_cases resources maxFragments command with
    ⟨drawing, drawn, does⟩ | ⟨rfl, does⟩ | ⟨-, -, does⟩
  · rw [does] at stepped
    obtain ⟨-, fragment, -, placed⟩ := draw_eq_ok_iff.1 stepped
    rw [(place_eq_ok placed).2.2.1, Style.next_of_drawing drawn]
  · rw [does] at stepped
    rw [(newline_eq_ok stepped).2.2.1]
    rfl
  · rw [does] at stepped
    cases stepped
    rfl

/-- The style after a list of commands does not depend on what the list draws. -/
theorem style_of_run {draft last : Draft F} {list : CommandList}
    (ran : draft.run resources maxFragments list = .ok last) :
    last.state.style = draft.state.style.after resources list := by
  induction list generalizing draft with
  | nil =>
    cases ran
    rfl
  | cons command rest ih =>
    obtain ⟨next, stepped, ran⟩ := run_cons_eq_ok_iff.1 ran
    rw [ih ran, style_of_step stepped]
    rfl

/-- A layout begins in the default font, if that has the default size. -/
theorem start_eq_ok_iff {config : Typesetter.Config} {draft : Draft F} :
    start config resources = .ok draft ↔
      ∃ fontName font, resources.defaultFont = some fontName ∧
        resources.face? fontName config.defaultFontSize = some (.ok font) ∧
        draft = ⟨[], Typesetter.initialState config font fontName⟩ := by
  unfold start
  cases resources.defaultFont with
  | none => simp
  | some fontName =>
    cases face : resources.face? fontName config.defaultFontSize with
    | none => simp [face]
    | some answer =>
      cases answer with
      | error cause => simp [face]
      | ok font => simp [face, eq_comm]

theorem start_eq_error {config : Typesetter.Config} {e : LayoutError}
    (refused : start config resources = .error e) :
    e = .noDefaultFont ∨ ∃ cause, e = .resource cause := by
  unfold start at refused
  split at refused
  · cases refused
    exact .inl rfl
  · split at refused
    · cases refused
      exact .inl rfl
    · cases refused
      exact .inr ⟨_, rfl⟩
    · cases refused

end Draft
end StyledText
