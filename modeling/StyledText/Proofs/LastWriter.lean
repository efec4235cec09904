import StyledText.Proofs.Coherence
import StyledText.Proofs.Placement

/-!
# Styles by their last commands

Color, font and size of a layout are set by commands of three kinds, and a command for the font can
be refused for the size, and the other way around. If all fonts can be copied, that never happens
to a registered font at a size that is in range: then each of the three is what the last command of
its kind has set, and commands of different kinds may change places.

Results:
1. `Style.after_eq_lastSet`: the style after a list, attribute by attribute.
2. `Typesetter.last_style_wins`: the styles of all fragments and of the final state, and the
   independence of a layout from the order of style commands of different kinds.
-/

namespace StyledText

/-- The last of the values that commands set, and the initial one if none does. -/
def lastSet {α : Type} (set? : Command → Option α) (list : CommandList) (initial : α) : α :=
  (list.filterMap set?).getLast?.getD initial

theorem lastSet_cons {α : Type} (set? : Command → Option α) (command : Command)
    (rest : CommandList) (initial : α) :
    lastSet set? (command :: rest) initial = lastSet set? rest ((set? command).getD initial) := by
  unfold lastSet
  cases set : set? command with
  | none => simp [set]
  | some value => simp [set, List.getLast?_cons]

/-- The command changes the style, if what it refers to is there. -/
def Command.styles : Command → Bool
  | .setColor _ | .setFont _ | .setSize _ => true
  | .drawText _ | .useString _ | .drawImage _ | .newline => false

variable {F : Type} [FontFace F]

namespace Resources

/-- No registered font fails to be copied. -/
def Scalable (resources : Resources F) : Prop :=
  ∀ name typeface, resources.font? name = some typeface →
    ∀ size, ∃ face, FontFace.copyAt typeface.base size = .ok face

theorem Scalable.of_yields {resources next : Resources F} {registration : Registration F}
    (h : resources.Scalable) (yields : registration.Yields resources next)
    (copies : ∀ font name?, registration = .font font name? →
      ∀ size, ∃ face, FontFace.copyAt font size = .ok face) :
    next.Scalable := by
  cases yields with
  | font =>
    intro other typeface found size
    rw [font?_withFont] at found
    split at found
    · cases found
      exact copies _ _ rfl size
    · exact h other typeface found size
  | entries => exact h

theorem scalable_registered (config : Config) {registrations : List (Registration F)}
    (copies : ∀ font name?, .font font name? ∈ registrations →
      ∀ size, ∃ face, FontFace.copyAt font size = .ok face) :
    (registered config registrations).Scalable := by
  have begun : (empty config : Resources F).Scalable := by
    intro name typeface found
    simp [empty, font?] at found
  refine foldl_after_induction Scalable begun fun registration inside _ _ h yields =>
    h.of_yields yields fun font name? is => copies font name? ?_
  rw [← is]
  exact inside

/-- The color that a command sets. -/
def color? (resources : Resources F) : Command → Option Color
  | .setColor key =>
    match resources.get? key with
    | some (.color color) => some color
    | _ => none
  | _ => none

/-- The name of the font that a command sets. -/
def fontSet? (resources : Resources F) : Command → Option String
  | .setFont name => (resources.font? name).map fun _ => name
  | _ => none

/-- The size that a command sets. One that is too large is not set. -/
def sizeSet? (resources : Resources F) : Command → Option Nat
  | .setSize key =>
    match resources.get? key with
    | some (.size size) => if size ≤ resources.config.maxPointSize then some size else none
    | _ => none
  | _ => none

theorem drawing?_of_styles (resources : Resources F) {command : Command}
    (styles : command.styles = true) : resources.drawing? command = none := by
  cases command with
  | setColor key => rfl
  | setFont name => rfl
  | setSize key => rfl
  | _ => cases styles

/-- A font that can be copied gives a face at every size in range. -/
theorem face?_of_scalable {resources : Resources F} (consistent : resources.Consistent)
    (scalable : resources.Scalable) {name : String} {typeface : Typeface F} {size : Nat}
    (found : resources.font? name = some typeface) (positive : 0 < size)
    (within : size ≤ resources.config.maxPointSize) :
    ∃ font, resources.face? name size = some (.ok font) := by
  have inRange : typeface.InRange size := by
    refine ⟨positive, ?_⟩
    rw [consistent.ceiling name typeface found]
    exact within
  have given : ∃ font, FontFace.variant typeface.base size = .ok font := by
    unfold FontFace.variant
    split
    · exact ⟨typeface.base, rfl⟩
    · exact scalable name typeface found size
  obtain ⟨font, given⟩ := given
  refine ⟨font, Option.map_eq_some_iff.2 ⟨typeface, found, ?_⟩⟩
  exact Typeface.answer_eq_ok_iff.2 ⟨inRange, given⟩

end Resources

namespace Style

variable {resources : Resources F} {style : Style F}

theorem color_next (command : Command) :
    (style.next resources command).color = (resources.color? command).getD style.color := by
  have font (name : String) : (style.setFont resources name).color = style.color := by
    unfold setFont
    split <;> rfl
  have size (fontSize : Nat) : (style.setSize resources fontSize).color = style.color := by
    unfold setSize
    split <;> rfl
  cases command with
  | setColor key =>
    simp only [next, Resources.color?]
    cases resources.get? key with
    | none => rfl
    | some entry => cases entry <;> rfl
  | setFont name => exact font name
  | setSize key =>
    simp only [next, Resources.color?]
    split
    · exact size _
    · rfl
  | _ => rfl

/-- The size is in range for all fonts, so a font that is registered is not refused. -/
theorem fontName_setFont (h : style.Coherent resources) (consistent : resources.Consistent)
    (scalable : resources.Scalable) (name : String) :
    (style.setFont resources name).fontName =
      ((resources.font? name).map fun _ => name).getD style.fontName := by
  unfold setFont
  cases found : resources.font? name with
  | none =>
    rw [Resources.face?, found]
    rfl
  | some typeface =>
    obtain ⟨_, -, positive, within, -⟩ := h.exists_typeface consistent
    obtain ⟨font, given⟩ := Resources.face?_of_scalable consistent scalable found positive within
    rw [given]
    rfl

/-- The current font is registered, so just the sizes that are too large are refused. -/
theorem fontSize_setSize (h : style.Coherent resources) (consistent : resources.Consistent)
    (scalable : resources.Scalable) {size : Nat} (positive : 0 < size) :
    (style.setSize resources size).fontSize =
      if size ≤ resources.config.maxPointSize then size else style.fontSize := by
  obtain ⟨typeface, found, -⟩ := h.exists_typeface consistent
  unfold setSize
  by_cases within : size ≤ resources.config.maxPointSize
  · obtain ⟨font, given⟩ := Resources.face?_of_scalable consistent scalable found positive within
    rw [given, if_pos within]
  · have outside : ¬typeface.InRange size := by
      rintro ⟨-, below⟩
      rw [consistent.ceiling _ typeface found] at below
      exact within below
    rw [Resources.face?, found, Option.map_some, Typeface.answer, if_neg outside, if_neg within]

theorem fontName_next (h : style.Coherent resources) (consistent : resources.Consistent)
    (scalable : resources.Scalable) (command : Command) :
    (style.next resources command).fontName =
      (resources.fontSet? command).getD style.fontName := by
  cases command with
  | setColor key =>
    simp only [next]
    split <;> rfl
  | setFont name => exact fontName_setFont h consistent scalable name
  | setSize key =>
    simp only [next, setSize]
    split
    · split <;> rfl
    · rfl
  | _ => rfl

theorem fontSize_next (h : style.Coherent resources) (consistent : resources.Consistent)
    (scalable : resources.Scalable) (command : Command) :
    (style.next resources command).fontSize =
      (resources.sizeSet? command).getD style.fontSize := by
  cases command with
  | setColor key =>
    simp only [next]
    split <;> rfl
  | setFont name =>
    simp only [next, setFont]
    split <;> rfl
  | setSize key =>
    simp only [next, Resources.sizeSet?]
    cases registered : resources.get? key with
    | none => rfl
    | some entry =>
      cases entry with
      | size size =>
        simp only [fontSize_setSize h consistent scalable (consistent.sizes key size registered)]
        split <;> rfl
      | _ => rfl
  | _ => rfl

/-- Each attribute of the style after a list is what the last command of its kind has set. -/
theorem after_eq_lastSet (h : style.Coherent resources) (consistent : resources.Consistent)
    (scalable : resources.Scalable) (list : CommandList) :
    (style.after resources list).color = lastSet resources.color? list style.color ∧
      (style.after resources list).fontName = lastSet resources.fontSet? list style.fontName ∧
      (style.after resources list).fontSize = lastSet resources.sizeSet? list style.fontSize := by
  induction list generalizing style with
  | nil => exact ⟨rfl, rfl, rfl⟩
  | cons command rest ih =>
    rw [lastSet_cons, lastSet_cons, lastSet_cons, ← color_next,
      ← fontName_next h consistent scalable, ← fontSize_next h consistent scalable]
    exact ih (h.next command)

/-- A font gives one face at a size. -/
theorem Coherent.ext {other : Style F} (h : style.Coherent resources)
    (h' : other.Coherent resources) (color : style.color = other.color)
    (fontName : style.fontName = other.fontName) (fontSize : style.fontSize = other.fontSize) :
    style = other := by
  unfold Coherent at h h'
  rw [fontName, fontSize, h'] at h
  obtain ⟨_, _, _, _⟩ := style
  obtain ⟨_, _, _, _⟩ := other
  cases color
  cases fontName
  cases fontSize
  cases h
  rfl

end Style

/-! ## The order of style commands -/

/-- Commands that are kept apart by their kinds may change places if those of one kind stay in
order. -/
theorem filterMap_eq_of_kind {α : Type} {set? : Command → Option α} {kind : String}
    (only : ∀ command : Command, command.kind ≠ kind → set? command = none)
    {first second : CommandList}
    (same : first.filter (·.kind = kind) = second.filter (·.kind = kind)) :
    first.filterMap set? = second.filterMap set? := by
  have kept (list : CommandList) :
      list.filterMap set? = (list.filter (·.kind = kind)).filterMap set? := by
    rw [List.filterMap_filter]
    refine List.filterMap_congr fun command _ => ?_
    by_cases is : command.kind = kind
    · simp [is]
    · simp [is, only command is]
  rw [kept, same, ← kept]

theorem Style.after_eq_of_kinds {resources : Resources F} {style : Style F}
    (h : style.Coherent resources) (consistent : resources.Consistent)
    (scalable : resources.Scalable) {first second : CommandList}
    (same : ∀ kind : String, first.filter (·.kind = kind) = second.filter (·.kind = kind)) :
    style.after resources first = style.after resources second := by
  obtain ⟨color, fontName, fontSize⟩ := after_eq_lastSet h consistent scalable first
  obtain ⟨color', fontName', fontSize'⟩ := after_eq_lastSet h consistent scalable second
  refine (h.after first).ext (h.after second) ?_ ?_ ?_
  · rw [color, color', lastSet, lastSet, filterMap_eq_of_kind ?_ (same "SetColor")]
    intro command other
    cases command <;> first | rfl | exact absurd rfl other
  · rw [fontName, fontName', lastSet, lastSet, filterMap_eq_of_kind ?_ (same "SetFont")]
    intro command other
    cases command <;> first | rfl | exact absurd rfl other
  · rw [fontSize, fontSize', lastSet, lastSet, filterMap_eq_of_kind ?_ (same "SetSize")]
    intro command other
    cases command <;> first | rfl | exact absurd rfl other

namespace Draft

variable {resources : Resources F} {maxFragments : Nat}

/-- Style commands never fail, and do nothing but change the style. -/
theorem run_of_styles {draft : Draft F} {run : CommandList}
    (styles : ∀ command ∈ run, command.styles = true) :
    draft.run resources maxFragments run =
      .ok (draft.restyle (draft.state.style.after resources run)) := by
  induction run generalizing draft with
  | nil => rfl
  | cons command rest ih =>
    have isStyle := styles command List.mem_cons_self
    refine run_cons_eq_ok_iff.2
      ⟨draft.restyle (draft.state.style.next resources command), ?_, ?_⟩
    · rcases draft.step_cases resources maxFragments command with
        ⟨drawing, drawn, -⟩ | ⟨rfl, -⟩ | ⟨-, -, does⟩
      · rw [resources.drawing?_of_styles isStyle] at drawn
        cases drawn
      · cases isStyle
      · exact does
    · exact ih fun other inside => styles other (List.mem_cons_of_mem _ inside)

theorem ofList_eq_of_kinds (config : Typesetter.Config) (consistent : resources.Consistent)
    (scalable : resources.Scalable) {run run' : CommandList} (front back : CommandList)
    (styles : ∀ command ∈ run, command.styles = true)
    (same : ∀ kind : String, run.filter (·.kind = kind) = run'.filter (·.kind = kind)) :
    ofList config resources (front ++ run ++ back) =
      ofList config resources (front ++ run' ++ back) := by
  have styles' : ∀ command ∈ run', command.styles = true := by
    intro command inside
    have kept : command ∈ run.filter (·.kind = command.kind) := by
      rw [same]
      exact List.mem_filter.2 ⟨inside, by simp⟩
    exact styles command (List.mem_filter.1 kept).1
  unfold ofList
  cases started : start config resources with
  | error e => rfl
  | ok first =>
    simp only [Except.bind, run_append]
    cases ran : first.run resources config.maxFragments front with
    | error e => rfl
    | ok middle =>
      have coherent : middle.state.style.Coherent resources := by
        rw [style_of_run ran]
        exact (coherent_of_start started).after front
      simp only [run_of_styles styles, run_of_styles styles',
        Style.after_eq_of_kinds coherent consistent scalable same]

end Draft

/-! ## Layouts -/

namespace Typesetter

/-- A color and a face for what is drawn behind some commands, where the given font is the default:
color, font and size are what the last command of each kind has set. -/
structure DrawsIn (config : Config) (resources : Resources F) (fontName : String)
    (front : CommandList) (color : Color) (face : F) : Prop where
  color : color = lastSet resources.color? front config.defaultColor
  face : ∃ typeface,
    resources.font? (lastSet resources.fontSet? front fontName) = some typeface ∧
    FontFace.variant typeface.base (lastSet resources.sizeSet? front config.defaultFontSize) =
      .ok face

theorem drawsIn_after {config : Config} {resources : Resources F} {font : F} {fontName : String}
    (given : resources.face? fontName config.defaultFontSize = some (.ok font))
    (consistent : resources.Consistent) (scalable : resources.Scalable) (front : CommandList) :
    let style := (Style.initial config font fontName).after resources front
    DrawsIn config resources fontName front style.color style.font := by
  have coherent : (Style.initial config font fontName).Coherent resources := given
  obtain ⟨color, name, size⟩ := Style.after_eq_lastSet coherent consistent scalable front
  obtain ⟨typeface, found, -, -, variant⟩ := (coherent.after front).exists_typeface consistent
  rw [name] at found
  rw [size] at variant
  exact ⟨color, typeface, found, variant⟩

/-- If all fonts can be copied, each text of a layout is drawn in the color, the font and the size
that the last commands of the three kinds before it have set, and so is the state at the end;
commands that refer to nothing of their kind, or to a size that is too large, set nothing. Style
commands that follow each other can be put in any other order that keeps the order within each
kind: the layout comes to the same bounds or error, fragments and state. -/
theorem last_style_wins {t : Typesetter F} {resources : Resources F} (built : resources.Built)
    (scalable : resources.Scalable) :
    (∀ list bounds next after, t.typeset resources list = (.ok bounds, next, after) →
      ∃ fontName last, resources.defaultFont = some fontName ∧
        List.Forall₂ (fun (front, drawing) fragment => ∀ run, fragment = .text run →
            drawing = .text run.content ∧
              DrawsIn t.config resources fontName front run.color run.font)
          (resources.drawings list) next.fragments ∧
        next.state = some last ∧ DrawsIn t.config resources fontName list last.color last.font ∧
        last.fontName = lastSet resources.fontSet? list fontName ∧
        last.fontSize = lastSet resources.sizeSet? list t.config.defaultFontSize) ∧
    ∀ front run run' back, (∀ command ∈ run, Command.styles command = true) →
      (∀ kind : String, run.filter (·.kind = kind) = run'.filter (·.kind = kind)) →
      ∃ outcome next after next' after',
        t.typeset resources (front ++ run ++ back) = (outcome, next, after) ∧
        t.typeset resources (front ++ run' ++ back) = (outcome, next', after') ∧
        next'.fragments = next.fragments ∧ next'.state = next.state ∧
        next'.bounds = next.bounds := by
  have consistent := built.consistent
  constructor
  · intro list bounds next after done
    obtain ⟨draft, made, -, shown⟩ := draft_of_typeset done
    obtain ⟨fontName, font, isDefault, given, follows⟩ := Draft.follows_of_ofList made
    have coherent : (Style.initial t.config font fontName).Coherent resources := given
    obtain ⟨-, name, size⟩ := Style.after_eq_lastSet coherent consistent scalable list
    have ends := drawsIn_after given consistent scalable list
    rw [← follows.current] at name size ends
    refine ⟨fontName, draft.state, isDefault, ?_, shown.state, ends, name, size⟩
    rw [shown.fragments]
    refine follows.fragments.imp fun (front, drawing) fragment lays run isText => ?_
    cases lays with
    | text content face color measured x y =>
      cases isText
      rw [content, face, color]
      exact ⟨rfl, drawsIn_after given consistent scalable front⟩
    | image image size x line y => cases isText
  · intro front run run' back styles same
    obtain ⟨outcome, fragments, state, next, after, next', after', done, shown, done', shown'⟩ :=
      typeset_of_same (Draft.ofList_eq_of_kinds t.config consistent scalable front back styles
        same).symm
    have sameState := shown'.state.trans shown.state.symm
    refine ⟨outcome, next, after, next', after', done, done',
      shown'.fragments.trans shown.fragments.symm, sameState, ?_⟩
    rw [Typesetter.bounds, Typesetter.bounds, sameState]

/-- Two fonts, a color, a size that is in range and one that is not. -/
def wardrobe : Resources FixedPitch :=
  Resources.registered default
    [.font { family := some "Mono", pointSize := 12 } none,
      .font { family := some "Serif", pointSize := 300 } none,
      .color "red" ⟨255, 0, 0, 255⟩, .size "big" 24, .size "giant" 300]

theorem wardrobe_scalable : wardrobe.Scalable := by
  refine Resources.scalable_registered _ fun font name? inside size => ?_
  simp only [List.mem_cons, Registration.font.injEq, reduceCtorEq, List.not_mem_nil, or_false]
    at inside
  rcases inside with ⟨rfl, -⟩ | ⟨rfl, -⟩
  · exact ⟨_, rfl⟩
  · exact ⟨_, rfl⟩

/-- Every kind of style command, some of which are skipped. -/
def dressed : CommandList :=
  [.setSize "giant", .setFont "Serif", .setSize "big", .setColor "big", .drawText "a",
    .setFont "red", .setColor "red", .setFont "Mono", .drawText "b"]

theorem last_style_wins_dressed :
    wardrobe.Built ∧ wardrobe.Scalable ∧
    (∃ next after fontName last,
      (new default).typeset wardrobe dressed = (.ok ⟨0, 0, 24, 24⟩, next, after) ∧
      wardrobe.defaultFont = some fontName ∧
      List.Forall₂ (fun (front, drawing) fragment => ∀ run, fragment = .text run →
          drawing = .text run.content ∧
            DrawsIn default wardrobe fontName front run.color run.font)
        (wardrobe.drawings dressed) next.fragments ∧
      next.state = some last ∧ last.color = ⟨255, 0, 0, 255⟩ ∧ last.fontName = "Mono" ∧
      last.fontSize = 24 ∧ DrawsIn default wardrobe fontName dressed last.color last.font) ∧
    ∃ outcome next after next' after',
      (new default).typeset wardrobe [.drawText "x", .setColor "red", .setFont "Serif",
        .setSize "big", .setColor "big", .drawText "y"] = (outcome, next, after) ∧
      (new default).typeset wardrobe [.drawText "x", .setSize "big", .setColor "red",
        .setColor "big", .setFont "Serif", .drawText "y"] = (outcome, next', after') ∧
      next'.fragments = next.fragments ∧ next'.state = next.state ∧
      next'.bounds = next.bounds := by
  have built : wardrobe.Built := Resources.built_registered _ _
  obtain ⟨drawn, reordered⟩ := last_style_wins (t := new default) built wardrobe_scalable
  refine ⟨built, wardrobe_scalable, ?_, ?_⟩
  · have found : ((new default).typeset wardrobe dressed).1.toOption = some ⟨0, 0, 24, 24⟩ := by
      decide +kernel
    have ends : ((new default).typeset wardrobe dressed).2.1.state.map (fun state =>
        (state.color, state.fontName, state.fontSize)) = some (⟨255, 0, 0, 255⟩, "Mono", 24) := by
      decide +kernel
    obtain ⟨next, after, done⟩ := typeset_of_toOption found
    obtain ⟨fontName, last, isDefault, styles, kept, style, -⟩ := drawn _ _ _ _ done
    rw [done] at ends
    simp only [kept, Option.map_some, Option.some.injEq, Prod.mk.injEq] at ends
    obtain ⟨color, name, size⟩ := ends
    exact ⟨next, after, fontName, last, done, isDefault, styles, kept, color, name, size, style⟩
  · refine reordered [.drawText "x"]
      [.setColor "red", .setFont "Serif", .setSize "big", .setColor "big"]
      [.setSize "big", .setColor "red", .setColor "big", .setFont "Serif"] [.drawText "y"]
      (by decide) fun kind => ?_
    by_cases color : "SetColor" = kind
    · subst color
      decide
    · by_cases font : "SetFont" = kind
      · subst font
        decide
      · simp [List.filter_cons, Command.kind, color, font]

end Typesetter
end StyledText
