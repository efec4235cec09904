import StyledText.Font.FixedPitch
import StyledText.Proofs.Commands
import StyledText.Proofs.Consistency
import StyledText.Proofs.Hull

/-!
# How layouts fail

A layout needs a default font, and that at the default size. Then it fails at the first command that
fails. To draw takes a free slot, then a text that can be measured, then room on the grid. A line
break takes room for the next line. No other command fails.

Results:
1. `Draft.step_eq_error_iff`: exactly when a command fails, and with which error.
2. `Pass.run_eq_error_iff`: a run fails at a command behind commands that do not fail.
3. `Typesetter.typeset_eq_error_iff`: exactly when a layout fails, with which error, and what it
   leaves.
-/

namespace StyledText

variable {F : Type}

/-! ## What a command fails with -/

/-- A box has room on the grid: its edges, the extents of the bounds around it and what is there
already, and the cursor behind it are coordinates. -/
structure LayoutState.HasRoom (state : LayoutState F) (box : Bounds) : Prop where
  fits : box.Fits
  width : Coordinate.InRange (state.bounds.joinedWidth box)
  height : Coordinate.InRange (state.bounds.joinedHeight box)
  cursor : Coordinate.InRange (state.cursor.x.toInt + box.width.toInt)

/-- There is room for a box exactly if it extends the bounds and moves the cursor. -/
theorem LayoutState.hasRoom_iff {state : LayoutState F} {box : Bounds} (h : state.bounds.Fits) :
    state.HasRoom box ↔
      (∃ bounds, state.bounds.extend? box = some bounds) ∧
        ∃ x, state.cursor.x.add? box.width = some x := by
  simp only [Bounds.extend?_eq_some_iff h, exists_and_left, Bounds.exists_joins_iff]
  constructor
  · intro room
    exact ⟨⟨room.fits, room.width, room.height⟩,
      _, Coordinate.add?_eq_some_iff.2 (Coordinate.toInt_ofInt room.cursor)⟩
  · rintro ⟨⟨fits, width, height⟩, x, moved⟩
    exact ⟨fits, width, height,
      Coordinate.inRange_of_toInt_eq (Coordinate.add?_eq_some_iff.1 moved)⟩

theorem Draft.place_eq_error_iff {draft : Draft F} {fragment : Fragment F} {e : LayoutError}
    (h : draft.state.bounds.Fits) :
    draft.place fragment = .error e ↔
      ¬draft.state.HasRoom fragment.box ∧ e = .coordinateOverflow draft.fragments.length := by
  rw [LayoutState.hasRoom_iff h]
  unfold place
  cases draft.state.bounds.extend? fragment.box with
  | none => simp [eq_comm]
  | some bounds =>
    cases draft.state.cursor.x.add? fragment.box.width with
    | none => simp [eq_comm]
    | some x => simp

variable [FontFace F]

/-- What drawing fails with behind a number of fragments. -/
inductive Drawing.Fails (maxFragments placed : Nat) (state : LayoutState F) :
    Drawing → LayoutError → Prop
  | full {drawing : Drawing} : maxFragments ≤ placed →
      Fails maxFragments placed state drawing (.fragmentPoolExhausted maxFragments)
  | unmeasured {content : String} {cause : FontError} : placed < maxFragments →
      FontFace.measure state.font content = .error cause →
      Fails maxFragments placed state (.text content) (.font cause)
  | overflow {drawing : Drawing} {fragment : Fragment F} : placed < maxFragments →
      drawing.fragment state.style state.cursor = .ok fragment → ¬state.HasRoom fragment.box →
      Fails maxFragments placed state drawing (.coordinateOverflow placed)

/-- What a command fails with behind a number of fragments. -/
inductive Command.Fails (resources : Resources F) (maxFragments placed : Nat)
    (state : LayoutState F) : Command → LayoutError → Prop
  | draw {command : Command} {drawing : Drawing} {e : LayoutError} :
      resources.drawing? command = some drawing → drawing.Fails maxFragments placed state e →
      Fails resources maxFragments placed state command e
  | newline :
      ¬Coordinate.InRange
        (state.cursor.y.toInt + (FontFace.lineHeight state.font).toInt) →
      Fails resources maxFragments placed state .newline (.coordinateOverflow placed)

theorem Resources.drawing?_congr {resources after : Resources F}
    (same : after.pristine = resources.pristine) (command : Command) :
    after.drawing? command = resources.drawing? command := by
  cases command with
  | useString key => simp only [drawing?, get?_congr same]
  | drawImage key => simp only [drawing?, get?_congr same]
  | _ => rfl

/-- What a command fails with does not depend on the faces that the fonts keep. -/
theorem Command.Fails.congr {resources after : Resources F} {maxFragments placed : Nat}
    {state : LayoutState F} {command : Command} {e : LayoutError}
    (fails : command.Fails resources maxFragments placed state e)
    (same : after.pristine = resources.pristine) :
    command.Fails after maxFragments placed state e := by
  cases fails with
  | draw drawn fails => exact .draw ((Resources.drawing?_congr same _).trans drawn) fails
  | newline outside => exact .newline outside

/-- Whether there is a default font, and at the default size, is no matter of the commands. -/
theorem Command.Fails.not_start {resources : Resources F} {maxFragments placed : Nat}
    {state : LayoutState F} {command : Command} {e : LayoutError}
    (fails : command.Fails resources maxFragments placed state e) :
    e ≠ .noDefaultFont ∧ ∀ cause, e ≠ .resource cause := by
  cases fails with
  | draw drawn fails => cases fails <;> exact ⟨nofun, nofun⟩
  | newline outside => exact ⟨nofun, nofun⟩

/-! ## Drafts -/

namespace Draft

variable {resources : Resources F} {maxFragments : Nat} {draft : Draft F} {e : LayoutError}

theorem draw_eq_error_iff {drawing : Drawing} (h : draft.Bounded) :
    draft.draw maxFragments drawing = .error e ↔
      drawing.Fails maxFragments draft.fragments.length draft.state e := by
  rw [draw_eq]
  constructor
  · intro failed
    split at failed
    · next room =>
      split at failed
      · next shown =>
        obtain ⟨outside, rfl⟩ := (place_eq_error_iff h.fits).1 failed
        exact .overflow room shown outside
      · next hidden =>
        cases failed
        obtain ⟨content, rfl, unmeasured⟩ := Drawing.fragment_eq_error hidden
        exact .unmeasured room unmeasured
    · next full =>
      cases failed
      exact .full (Nat.le_of_not_lt full)
  · intro fails
    cases fails with
    | full full => rw [if_neg (Nat.not_lt_of_le full)]
    | unmeasured room unmeasured =>
      have font : draft.state.style.font = draft.state.font := rfl
      rw [if_pos room, Drawing.fragment, font, unmeasured]
      rfl
    | overflow room shown outside =>
      rw [if_pos room, shown]
      exact (place_eq_error_iff h.fits).2 ⟨outside, rfl⟩

theorem newline_eq_error_iff :
    draft.newline = .error e ↔
      ¬Coordinate.InRange
        (draft.state.cursor.y.toInt + (FontFace.lineHeight draft.state.font).toInt) ∧
        e = .coordinateOverflow draft.fragments.length := by
  rw [← Coordinate.ofInt?_eq_none_iff, ← Coordinate.add?]
  unfold newline
  cases draft.state.cursor.y.add? (FontFace.lineHeight draft.state.font) with
  | none => simp [eq_comm]
  | some y => simp

/-- A command fails if what it draws cannot be drawn, or if it is a line break and there is no room
for another line. -/
theorem step_eq_error_iff {command : Command} (h : draft.Bounded) :
    draft.step resources maxFragments command = .error e ↔
      command.Fails resources maxFragments draft.fragments.length draft.state e := by
  rcases draft.step_cases resources maxFragments command with
    ⟨drawing, drawn, does⟩ | ⟨rfl, does⟩ | ⟨silent, along, does⟩
  · rw [does, draw_eq_error_iff h]
    constructor
    · exact .draw drawn
    · intro fails
      cases fails with
      | draw drawn' fails =>
        cases drawn.symm.trans drawn'
        exact fails
      | newline outside => cases drawn
  · rw [does, newline_eq_error_iff]
    constructor
    · rintro ⟨outside, rfl⟩
      exact .newline outside
    · intro fails
      cases fails with
      | draw drawn fails => cases drawn
      | newline outside => exact ⟨outside, rfl⟩
  · rw [does]
    constructor
    · intro failed
      cases failed
    · intro fails
      cases fails with
      | draw drawn fails => cases silent.symm.trans drawn
      | newline outside => exact absurd rfl along

end Draft

/-! ## Passes -/

namespace Pass

variable {maxFragments : Nat} {pass last : Pass F} {e : LayoutError}

theorem step_eq_error_iff {command : Command} (h : pass.Sound) (bounded : pass.draft.Bounded) :
    pass.step maxFragments command = .error e ↔
      command.Fails pass.resources maxFragments pass.written pass.state e := by
  have drafted : (pass.step maxFragments command).map draft = .error e ↔
      pass.step maxFragments command = .error e := by
    cases pass.step maxFragments command <;> simp [Except.map]
  rw [← drafted, step_draft h, Draft.step_eq_error_iff bounded, length_draft h]
  rfl

theorem run_append {front back : CommandList} (ran : pass.run maxFragments front = (last, none)) :
    pass.run maxFragments (front ++ back) = last.run maxFragments back := by
  induction front generalizing pass with
  | nil =>
    cases ran
    rfl
  | cons command rest ih =>
    unfold run at ran
    rw [List.cons_append, run]
    split at ran
    · exact ih ran
    · cases ran

/-- A run that fails ends before a command that does, and no command before that one fails. -/
theorem run_eq_error_iff {list : CommandList} :
    pass.run maxFragments list = (last, some e) ↔
      ∃ front command back, list = front ++ command :: back ∧
        pass.run maxFragments front = (last, none) ∧
        last.step maxFragments command = .error e := by
  constructor
  · intro ran
    induction list generalizing pass with
    | nil => cases ran
    | cons command rest ih =>
      unfold run at ran
      split at ran
      · next next stepped =>
        obtain ⟨front, failing, back, rfl, before, failed⟩ := ih ran
        refine ⟨command :: front, failing, back, rfl, ?_, failed⟩
        rw [run, stepped]
        exact before
      · next failed =>
        cases ran
        exact ⟨[], command, rest, rfl, rfl, failed⟩
  · rintro ⟨front, command, back, rfl, before, failed⟩
    rw [run_append before, run, failed]

end Pass

/-! ## Typesetters -/

namespace Typesetter

variable {t next : Typesetter F} {resources after : Resources F} {list : CommandList}
  {pass last : Pass F} {e : LayoutError} {placed : Nat}

/-- What a layout fails with, and how many fragments it has placed by then. -/
inductive Failure (t : Typesetter F) (resources : Resources F) :
    CommandList → LayoutError → Nat → Prop
  | noFont {list : CommandList} : (∀ name, resources.font? name = none) →
      Failure t resources list .noDefaultFont 0
  | noFace {list : CommandList} {name : String} {cause : ResourceError} {after : Resources F} :
      resources.defaultFont = some name →
      resources.faceAt name t.config.defaultFontSize = some (.error cause, after) →
      Failure t resources list (.resource cause) 0
  | command {front back : CommandList} {command : Command} {bounds : Bounds} {next : Typesetter F}
      {after : Resources F} {state : LayoutState F} {e : LayoutError} :
      t.typeset resources front = (.ok bounds, next, after) → next.state = some state →
      command.Fails resources t.config.maxFragments next.fragments.length state e →
      Failure t resources (front ++ command :: back) e next.fragments.length

/-! ### Before the list -/

theorem start_of_noFont (consistent : resources.Consistent)
    (noFont : ∀ name, resources.font? name = none) :
    t.start resources = .error (.noDefaultFont, resources) := by
  unfold start
  cases isDefault : resources.defaultFont with
  | none => rfl
  | some name =>
    have found := consistent.font_of_default name isDefault
    rw [noFont name] at found
    cases found

theorem start_of_noFace {name : String} {cause : ResourceError}
    (isDefault : resources.defaultFont = some name)
    (refused : resources.faceAt name t.config.defaultFontSize = some (.error cause, after)) :
    t.start resources = .error (.resource cause, after) := by
  simp only [start, isDefault, refused]

theorem start_eq_error (consistent : resources.Consistent)
    (failed : t.start resources = .error (e, after)) :
    (∀ name, resources.font? name = none) ∧ e = .noDefaultFont ∨
      ∃ name cause, resources.defaultFont = some name ∧
        resources.faceAt name t.config.defaultFontSize = some (.error cause, after) ∧
        e = .resource cause := by
  unfold start at failed
  split at failed
  · next noDefault =>
    cases failed
    refine .inl ⟨fun name => ?_, rfl⟩
    cases found : resources.font? name with
    | none => rfl
    | some typeface =>
      have isDefault := consistent.default_of_font name (by rw [found]; rfl)
      rw [noDefault] at isDefault
      cases isDefault
  · next name isDefault =>
    split at failed
    · next missing =>
      -- The default font is a font that is registered.
      have found := consistent.font_of_default name isDefault
      unfold Resources.faceAt at missing
      rw [Option.map_eq_none_iff.1 missing] at found
      cases found
    · next refused =>
      cases failed
      exact .inr ⟨name, _, isDefault, refused, rfl⟩
    · cases failed

theorem typeset_of_start_error (failed : t.start resources = .error (e, after)) :
    t.typeset resources list = (.error e, t.clear t.slots, after) := by
  simp only [typeset_eq, failed]

theorem slots_of_start (started : t.start resources = .ok pass) : pass.slots = t.slots := by
  unfold start at started
  split at started
  · cases started
  · split at started
    · cases started
    · cases started
    · cases started
      rfl

/-! ### Along the list -/

theorem typeset_of_run (started : t.start resources = .ok pass)
    (ran : pass.run t.config.maxFragments list = (last, none)) :
    t.typeset resources list =
      (.ok last.state.bounds,
        { config := t.config, slots := last.slots, written := last.written,
          state := some last.state },
        last.resources) := by
  simp only [typeset_eq, started, ran]

theorem typeset_of_run_error (started : t.start resources = .ok pass)
    (ran : pass.run t.config.maxFragments list = (last, some e)) :
    t.typeset resources list = (.error e, t.clear last.slots, last.resources) := by
  simp only [typeset_eq, started, ran]

theorem run_of_typeset {bounds : Bounds}
    (done : t.typeset resources list = (.ok bounds, next, after)) :
    ∃ pass last, t.start resources = .ok pass ∧
      pass.run t.config.maxFragments list = (last, none) ∧
      next.fragments = last.draft.fragments ∧ next.state = some last.state := by
  cases started : t.start resources with
  | error failed =>
    rw [typeset_of_start_error started] at done
    cases done
  | ok pass =>
    cases ran : pass.run t.config.maxFragments list with
    | mk last failure =>
      cases failure with
      | none =>
        rw [typeset_of_run started ran] at done
        cases done
        exact ⟨pass, last, rfl, ran, rfl, rfl⟩
      | some e =>
        rw [typeset_of_run_error started ran] at done
        cases done

/-- A pass as a layout comes to it. -/
structure Reaches (t : Typesetter F) (resources : Resources F) (last : Pass F) : Prop where
  sound : last.Sound
  bounded : last.draft.Bounded
  slots : last.slots.size = max t.allocated last.written
  resources : last.resources.pristine = resources.pristine

theorem reaches_of_run (started : t.start resources = .ok pass)
    (ran : pass.run t.config.maxFragments list = (last, none)) : t.Reaches resources last := by
  have begun := t.start_draft resources
  rw [started] at begun
  obtain ⟨start, sound, kept⟩ := begun
  have continues := Pass.run_continues sound t.config.maxFragments list
  have drafted := Pass.run_draft sound t.config.maxFragments list
  rw [ran] at continues drafted
  refine ⟨continues.sound, ?_, ?_, continues.resources.trans kept⟩
  · exact Draft.bounded_of_run (Draft.bounded_of_start start) drafted.symm
  · rw [continues.slots, slots_of_start started]
    rfl

/-! ### Layouts -/

theorem exists_failure (consistent : resources.Consistent)
    (failed : (t.typeset resources list).1 = .error e) :
    ∃ placed, t.Failure resources list e placed := by
  cases started : t.start resources with
  | error refused =>
    rw [typeset_of_start_error started] at failed
    cases failed
    rcases start_eq_error consistent started with
      ⟨noFont, same⟩ | ⟨name, cause, isDefault, face, same⟩
    · rw [same]
      exact ⟨0, .noFont noFont⟩
    · rw [same]
      exact ⟨0, .noFace isDefault face⟩
  | ok pass =>
    cases ran : pass.run t.config.maxFragments list with
    | mk last failure =>
      cases failure with
      | none =>
        rw [typeset_of_run started ran] at failed
        cases failed
      | some e =>
        rw [typeset_of_run_error started ran] at failed
        cases failed
        obtain ⟨front, command, back, rfl, before, failed⟩ := Pass.run_eq_error_iff.1 ran
        have reaches := reaches_of_run started before
        have fails := (Pass.step_eq_error_iff reaches.sound reaches.bounded).1 failed
        rw [← Pass.length_draft reaches.sound] at fails
        have done := typeset_of_run started before
        exact ⟨_, .command done rfl (fails.congr reaches.resources.symm)⟩

theorem typeset_of_failure (consistent : resources.Consistent)
    (failure : t.Failure resources list e placed) :
    ∃ slots after, t.typeset resources list = (.error e, t.clear slots, after) ∧
      slots.size = max t.allocated placed := by
  cases failure with
  | noFont noFont =>
    have failed := start_of_noFont (t := t) consistent noFont
    exact ⟨t.slots, resources, typeset_of_start_error failed, (Nat.max_zero _).symm⟩
  | noFace isDefault face =>
    have failed := start_of_noFace isDefault face
    exact ⟨t.slots, _, typeset_of_start_error failed, (Nat.max_zero _).symm⟩
  | command done known fails =>
    obtain ⟨pass, last, started, before, fragments, state⟩ := run_of_typeset done
    have reaches := reaches_of_run started before
    cases known.symm.trans state
    rw [fragments, Pass.length_draft reaches.sound] at fails ⊢
    have failed := (Pass.step_eq_error_iff reaches.sound reaches.bounded).2
      (fails.congr reaches.resources)
    refine ⟨last.slots, last.resources, typeset_of_run_error started ?_, reaches.slots⟩
    exact Pass.run_eq_error_iff.2 ⟨_, _, _, rfl, before, failed⟩

/-- A layout fails for want of a default font exactly if no font is registered, and with what the
default font refuses the default size for, if it does. Else it fails exactly if there is a command
that fails behind commands that make a layout, and with its error. A layout that fails leaves
nothing to draw, and no slots but the old ones and those of the fragments that it had placed. -/
theorem typeset_eq_error_iff (t : Typesetter F) {resources : Resources F}
    (built : resources.Built) (list : CommandList) :
    ((t.typeset resources list).1 = .error .noDefaultFont ↔
      ∀ name, resources.font? name = none) ∧
    (∀ cause, (t.typeset resources list).1 = .error (.resource cause) ↔
      ∃ name after, resources.defaultFont = some name ∧
        resources.faceAt name t.config.defaultFontSize = some (.error cause, after)) ∧
    (∀ e, (t.typeset resources list).1 = .error e ↔
      ∃ placed, t.Failure resources list e placed) ∧
    ∀ e placed, t.Failure resources list e placed →
      ∃ next after, t.typeset resources list = (.error e, next, after) ∧
        next.fragments = [] ∧ next.state = none ∧ next.bounds = .empty ∧
        (∀ x y, next.drawCalls x y = []) ∧ next.allocated = max t.allocated placed := by
  have consistent := built.consistent
  have fails {e : LayoutError} {placed : Nat} (failure : t.Failure resources list e placed) :
      (t.typeset resources list).1 = .error e := by
    obtain ⟨slots, after, failed, -⟩ := typeset_of_failure consistent failure
    rw [failed]
  refine ⟨?_, ?_, ?_, ?_⟩
  · constructor
    · intro failed
      obtain ⟨placed, failure⟩ := exists_failure consistent failed
      cases failure with
      | noFont noFont => exact noFont
      | command done known fails => exact absurd rfl fails.not_start.1
    · intro noFont
      exact fails (.noFont noFont)
  · intro cause
    constructor
    · intro failed
      obtain ⟨placed, failure⟩ := exists_failure consistent failed
      cases failure with
      | noFace isDefault refused => exact ⟨_, _, isDefault, refused⟩
      | command done known fails => exact absurd rfl (fails.not_start.2 cause)
    · rintro ⟨name, after, isDefault, refused⟩
      exact fails (.noFace isDefault refused)
  · intro e
    constructor
    · exact exists_failure consistent
    · rintro ⟨placed, failure⟩
      exact fails failure
  · intro e placed failure
    obtain ⟨slots, after, failed, size⟩ := typeset_of_failure consistent failure
    exact ⟨t.clear slots, after, failed, List.take_zero, rfl, rfl, fun _ _ => rfl, size⟩

/-- A font that cannot measure a word. -/
def stubborn : FixedPitch where
  family := some "Mono"
  pointSize := 12
  refusedText := some "no"

/-- The word is behind one that is placed, and before a line break that does not come into it. -/
theorem typeset_eq_error_iff_stubborn :
    ∃ resources : Resources FixedPitch, resources.Built ∧
      ∃ next after,
        (new default).typeset resources [.drawText "yes", .drawText "no", .newline] =
          (.error (.font (.measureFailed "no")), next, after) ∧
        next.fragments = [] ∧ next.state = none ∧ next.bounds = .empty ∧
        (∀ x y, next.drawCalls x y = []) ∧ next.allocated = 1 := by
  let resources : Resources FixedPitch := .registered default [.font stubborn none]
  have built : resources.Built := Resources.built_registered default [.font stubborn none]
  have found : ((new default).typeset resources [.drawText "yes"]).1.toOption =
      some ⟨0, 0, 18, 12⟩ := by
    decide +kernel
  have count : ((new default).typeset resources [.drawText "yes"]).2.1.fragments.length = 1 := by
    decide +kernel
  have known : ((new default).typeset resources [.drawText "yes"]).2.1.state.map (·.font) =
      some stubborn := by
    decide +kernel
  obtain ⟨next, after, done⟩ := typeset_of_toOption found
  rw [done] at count known
  obtain ⟨state, known, font⟩ := Option.map_eq_some_iff.1 known
  have unmeasured : FontFace.measure state.font "no" = .error (.measureFailed "no") := by
    rw [font]
    rfl
  have fails : (Command.drawText "no").Fails resources 128 next.fragments.length state
      (.font (.measureFailed "no")) := by
    refine .draw rfl (.unmeasured ?_ unmeasured)
    rw [count]
    decide
  have failure : (new default).Failure resources
      ([.drawText "yes"] ++ .drawText "no" :: [.newline]) _ _ := .command done known fails
  obtain ⟨-, -, -, leaves⟩ :=
    typeset_eq_error_iff (new default) built [.drawText "yes", .drawText "no", .newline]
  obtain ⟨last, kept, failed, fragments, none, bounds, calls, allocated⟩ := leaves _ _ failure
  refine ⟨resources, built, last, kept, failed, fragments, none, bounds, calls, ?_⟩
  rw [allocated, count]
  rfl

end Typesetter
end StyledText
