import Mathlib
import StyledText.Font.FixedPitch
import StyledText.Proofs.Commands
import StyledText.Proofs.Registrations

/-!
# Where fragments stand

A layout moves a cursor from command to command. Where the cursor is can be said without it: along
the line by the widths of what was drawn since the last line break, and down the page by the line
heights at all line breaks, each in the font that was current there.

Results:
1. `Draft.follows_of_run`: a draft has one fragment for each drawing of its list, in order, and each
   is where the two sums put it.
2. `Typesetter.placement_of_typeset`: the same for what a layout shows, and for the cursor at its
   end.
-/

namespace StyledText

/-- Each command of a list, with the commands before it. -/
def CommandList.sites (list : CommandList) : List (CommandList × Command) :=
  list.mapIdx fun i command => (list.take i, command)

theorem CommandList.sites_concat (front : CommandList) (command : Command) :
    sites (front ++ [command]) = sites front ++ [(front, command)] := by
  have earlier : front.mapIdx (fun i c => ((front ++ [command]).take i, c)) = sites front := by
    refine List.ext_getElem (by simp [sites]) fun i inside _ => ?_
    rw [List.length_mapIdx] at inside
    simp [sites, List.take_append_of_le_length (Nat.le_of_lt inside)]
  rw [sites, List.mapIdx_concat, earlier, List.take_left]

variable {F : Type} [FontFace F]

/-- What a list of commands draws, each drawing with the commands before it. -/
def Resources.drawings (resources : Resources F) (list : CommandList) :
    List (CommandList × Drawing) :=
  (CommandList.sites list).filterMap fun (front, command) =>
    (resources.drawing? command).map (front, ·)

/-- How far a drawing moves the cursor on. -/
def Drawing.advance (font : F) : Drawing → Int
  | .text content =>
    match FontFace.measure font content with
    | .ok metrics => metrics.width.toInt
    | .error _ => 0
  | .image shown => shown.size.width.truncate.toInt

namespace Style

/-- The advances of the drawings since the last line break, together. -/
def penX (resources : Resources F) (style : Style F) (list : CommandList) : Int :=
  (((CommandList.sites list).reverse.takeWhile (·.2 ≠ .newline)).filterMap fun (front, command) =>
    (resources.drawing? command).map (·.advance (style.after resources front).font)).sum

/-- The line heights at all line breaks, together. -/
def penY (resources : Resources F) (style : Style F) (list : CommandList) : Int :=
  (((CommandList.sites list).filter (·.2 = .newline)).map fun (front, _) =>
    (FontFace.lineHeight (style.after resources front).font).toInt).sum

/-- A fragment as the layout has it for a drawing behind some commands: in the style that these
leave, and at the place that they lead to. An image stands in the middle of the line. -/
inductive Lays (resources : Resources F) (style : Style F) (front : CommandList) :
    Drawing → Fragment F → Prop
  | text {content : String} {run : TextFragment F} :
      run.content = content →
      run.font = (style.after resources front).font →
      run.color = (style.after resources front).color →
      FontFace.measure run.font content = .ok run.metrics →
      run.position.x.toInt = style.penX resources front →
      run.position.y.toInt = style.penY resources front →
      Lays resources style front (.text content) (.text run)
  | image {image : Image} {shown : ImageFragment} {line : Coordinate} :
      shown.image = image →
      shown.size = image.size →
      shown.position.x.toInt = style.penX resources front →
      line.toInt = style.penY resources front →
      shown.position.y = imageY line (FontFace.lineHeight (style.after resources front).font)
        image.size.height →
      Lays resources style front (.image image) (.image shown)

variable {resources : Resources F}

/-! ## One more command -/

theorem penX_newline (style : Style F) (front : CommandList) :
    style.penX resources (front ++ [.newline]) = 0 := by
  simp [penX, CommandList.sites_concat]

theorem penX_concat (style : Style F) (front : CommandList) {command : Command}
    (along : command ≠ .newline) :
    style.penX resources (front ++ [command]) = style.penX resources front +
      ((resources.drawing? command).map
        (·.advance (style.after resources front).font)).getD 0 := by
  have kept : decide (((front, command) : CommandList × Command).2 ≠ .newline) = true :=
    decide_eq_true along
  rw [penX, CommandList.sites_concat, List.reverse_append, List.reverse_singleton,
    List.singleton_append, List.takeWhile_cons, if_pos kept, List.filterMap_cons]
  cases drawn : resources.drawing? command with
  | none => simp [drawn, penX]
  | some drawing => simp [drawn, penX, Int.add_comm]

theorem penY_newline (style : Style F) (front : CommandList) :
    style.penY resources (front ++ [.newline]) = style.penY resources front +
      (FontFace.lineHeight (style.after resources front).font).toInt := by
  simp [penY, CommandList.sites_concat]

theorem penY_concat (style : Style F) (front : CommandList) {command : Command}
    (along : command ≠ .newline) :
    style.penY resources (front ++ [command]) = style.penY resources front := by
  simp [penY, CommandList.sites_concat, along]

end Style

theorem Resources.drawings_concat (resources : Resources F) (front : CommandList)
    (command : Command) :
    resources.drawings (front ++ [command]) =
      resources.drawings front ++ ((resources.drawing? command).map (front, ·)).toList := by
  rw [drawings, CommandList.sites_concat, List.filterMap_append]
  cases drawn : resources.drawing? command <;> simp [drawings, drawn]

/-! ## One more fragment -/

namespace Drawing

variable {resources : Resources F} {style : Style F} {front : CommandList}

-- Stated with the coordinates of the place: the height of an image unfolds far when the place that
-- it is part of is compared with another one.
theorem lays_image {image : Image} {left top line : Coordinate}
    (x : left.toInt = style.penX resources front) (y : line.toInt = style.penY resources front)
    (middle : top = imageY line (FontFace.lineHeight (style.after resources front).font)
      image.size.height) :
    style.Lays resources front (.image image) (.image ⟨image, ⟨left, top⟩, image.size⟩) :=
  .image rfl rfl x y middle

theorem lays_of_fragment {drawing : Drawing} {place : Point} {fragment : Fragment F}
    (x : place.x.toInt = style.penX resources front)
    (y : place.y.toInt = style.penY resources front)
    (shown : drawing.fragment (style.after resources front) place = .ok fragment) :
    style.Lays resources front drawing fragment := by
  cases drawing with
  | text content =>
    obtain ⟨metrics, measured, rfl⟩ := fragment_text_eq_ok shown
    exact .text rfl rfl rfl measured x y
  | image image =>
    rw [← Except.ok.inj shown]
    exact lays_image x y rfl

theorem width_of_fragment {current : Style F} {drawing : Drawing} {place : Point}
    {fragment : Fragment F} (shown : drawing.fragment current place = .ok fragment) :
    fragment.box.width.toInt = drawing.advance current.font := by
  cases drawing with
  | text content =>
    obtain ⟨metrics, measured, rfl⟩ := fragment_text_eq_ok shown
    rw [advance, measured]
    rfl
  | image image =>
    cases shown
    rfl

end Drawing

/-- The draft has the fragments of a list that was begun in a style, and its cursor is where the
list leads. -/
structure Draft.Follows (resources : Resources F) (style : Style F) (list : CommandList)
    (draft : Draft F) : Prop where
  current : draft.state.style = style.after resources list
  x : draft.state.cursor.x.toInt = style.penX resources list
  y : draft.state.cursor.y.toInt = style.penY resources list
  fragments : List.Forall₂ (fun (front, drawing) fragment =>
    style.Lays resources front drawing fragment) (resources.drawings list) draft.fragments

namespace Draft

variable {resources : Resources F} {maxFragments : Nat} {style : Style F} {front : CommandList}

theorem follows_of_draw {draft next : Draft F} {command : Command} {drawing : Drawing}
    (h : draft.Follows resources style front) (drawn : resources.drawing? command = some drawing)
    (done : draft.draw maxFragments drawing = .ok next) :
    next.Follows resources style (front ++ [command]) := by
  obtain ⟨-, fragment, shown, placed⟩ := draw_eq_ok_iff.1 done
  obtain ⟨fragments, -, kept, x, y⟩ := place_eq_ok placed
  have along : command ≠ .newline := by
    rintro rfl
    cases drawn
  have width := Drawing.width_of_fragment shown
  rw [h.current] at shown width
  refine ⟨?_, ?_, ?_, ?_⟩
  · rw [kept, h.current, Style.after_append]
    exact (Style.next_of_drawing drawn _).symm
  · rw [x, width, h.x, style.penX_concat front along, drawn]
    rfl
  · rw [y, h.y, style.penY_concat front along]
  · rw [fragments, resources.drawings_concat, drawn]
    exact List.rel_append h.fragments
      (.cons (Drawing.lays_of_fragment h.x h.y shown) .nil)

theorem follows_of_newline {draft next : Draft F} (h : draft.Follows resources style front)
    (done : draft.newline = .ok next) : next.Follows resources style (front ++ [.newline]) := by
  obtain ⟨fragments, -, kept, x, y⟩ := newline_eq_ok done
  have font : draft.state.font = (style.after resources front).font := congrArg Style.font h.current
  refine ⟨?_, ?_, ?_, ?_⟩
  · rw [kept, h.current, Style.after_append]
    rfl
  · rw [x, Style.penX_newline]
    rfl
  · rw [y, h.y, font, Style.penY_newline]
  · rw [fragments, resources.drawings_concat]
    simpa [Resources.drawing?] using h.fragments

theorem follows_of_step {draft next : Draft F} {command : Command}
    (h : draft.Follows resources style front)
    (stepped : draft.step resources maxFragments command = .ok next) :
    next.Follows resources style (front ++ [command]) := by
  rcases draft.step_cases resources maxFragments command with
    ⟨drawing, drawn, does⟩ | ⟨rfl, does⟩ | ⟨silent, along, does⟩
  · exact follows_of_draw h drawn (does.symm.trans stepped)
  · exact follows_of_newline h (does.symm.trans stepped)
  · rw [does] at stepped
    cases stepped
    refine ⟨?_, ?_, ?_, ?_⟩
    · rw [Style.after_append, ← h.current]
      rfl
    · rw [style.penX_concat front along, silent]
      exact h.x.trans (Int.add_zero _).symm
    · rw [style.penY_concat front along]
      exact h.y
    · rw [resources.drawings_concat, silent]
      simpa [restyle] using h.fragments

/-- The front of the list grows with the commands that are done, and the rest of it shrinks. -/
theorem follows_of_run {draft last : Draft F} {back : CommandList}
    (h : draft.Follows resources style front)
    (ran : draft.run resources maxFragments back = .ok last) :
    last.Follows resources style (front ++ back) := by
  induction back generalizing draft front with
  | nil =>
    cases ran
    rw [List.append_nil]
    exact h
  | cons command rest ih =>
    obtain ⟨next, stepped, ran⟩ := run_cons_eq_ok_iff.1 ran
    rw [List.append_cons]
    exact ih (follows_of_step h stepped) ran

theorem follows_of_ofList {config : Typesetter.Config} {list : CommandList} {last : Draft F}
    (made : ofList config resources list = .ok last) :
    ∃ fontName font, resources.defaultFont = some fontName ∧
      resources.face? fontName config.defaultFontSize = some (.ok font) ∧
      last.Follows resources (.initial config font fontName) list := by
  obtain ⟨first, started, ran⟩ := ofList_eq_ok_iff.1 made
  obtain ⟨fontName, font, isDefault, given, rfl⟩ := start_eq_ok_iff.1 started
  have begun : Follows resources (.initial config font fontName) []
      ⟨[], Typesetter.initialState config font fontName⟩ := ⟨rfl, rfl, rfl, .nil⟩
  exact ⟨fontName, font, isDefault, given, follows_of_run begun ran⟩

end Draft

namespace Typesetter

/-- A layout that succeeds has one fragment for each drawing of its list, in order. Along the line
each stands behind the drawings since the last line break, and down the page below the lines before,
every line as high as the font that was current when it was broken. The cursor ends where the same
sums over the whole list lead. -/
theorem placement_of_typeset {t next : Typesetter F} {resources after : Resources F}
    {list : CommandList} {bounds : Bounds}
    (done : t.typeset resources list = (.ok bounds, next, after)) :
    ∃ fontName font last, resources.defaultFont = some fontName ∧
      resources.face? fontName t.config.defaultFontSize = some (.ok font) ∧
      let style : Style F := .initial t.config font fontName
      List.Forall₂ (fun (front, drawing) fragment => style.Lays resources front drawing fragment)
        (resources.drawings list) next.fragments ∧
      next.state = some last ∧ last.style = style.after resources list ∧
      last.cursor.x.toInt = style.penX resources list ∧
      last.cursor.y.toInt = style.penY resources list := by
  obtain ⟨draft, made, -, shown⟩ := draft_of_typeset done
  obtain ⟨fontName, font, isDefault, given, follows⟩ := Draft.follows_of_ofList made
  refine ⟨fontName, font, draft.state, isDefault, given, ?_, shown.state, follows.current,
    follows.x, follows.y⟩
  rw [shown.fragments]
  exact follows.fragments

/-- A font, a size, a string and an image. -/
def page : Resources FixedPitch :=
  Resources.registered default
    [.font { family := some "Mono", pointSize := 12 } none, .size "big" 24,
      .string "greeting" "Hello", .image "icon" { size := ⟨.ofInt 8, .ofInt 8⟩ }]

/-- Three lines of two sizes, with a reference that leads nowhere. -/
def threeLines : CommandList :=
  [.drawText "abc", .newline, .setSize "big", .useString "greeting", .useString "nobody",
    .drawImage "icon", .newline, .drawText "e"]

theorem placement_of_typeset_threeLines :
    ∃ next after,
      (new default).typeset page threeLines = (.ok ⟨0, 0, 68, 60⟩, next, after) ∧
      next.fragments.map Fragment.position = [⟨0, 0⟩, ⟨0, 12⟩, ⟨60, 20⟩, ⟨0, 36⟩] ∧
      ∃ fontName font last, page.defaultFont = some fontName ∧
        page.face? fontName 12 = some (.ok font) ∧
        let style : Style FixedPitch := .initial default font fontName
        List.Forall₂ (fun (front, drawing) fragment => style.Lays page front drawing fragment)
          (page.drawings threeLines) next.fragments ∧
        next.state = some last ∧ last.style = style.after page threeLines ∧
        last.cursor.x.toInt = style.penX page threeLines ∧
        last.cursor.y.toInt = style.penY page threeLines := by
  have found : ((new default).typeset page threeLines).1.toOption = some ⟨0, 0, 68, 60⟩ := by
    decide +kernel
  have shown : ((new default).typeset page threeLines).2.1.fragments.map Fragment.position =
      [⟨0, 0⟩, ⟨0, 12⟩, ⟨60, 20⟩, ⟨0, 36⟩] := by
    decide +kernel
  obtain ⟨next, after, done⟩ := typeset_of_toOption found
  rw [done] at shown
  exact ⟨next, after, done, shown, placement_of_typeset done⟩

end Typesetter
end StyledText
