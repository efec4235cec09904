import Mathlib
import StyledText.Font.FixedPitch
import StyledText.Proofs.Failure

/-!
# The slots of a typesetter

A typesetter keeps its slots from one layout to the next, so there are as many as the largest layout
has placed fragments, also if that layout failed in the end. A fragment goes into the slot of its
own index. Either an older layout has left a slot there, or the slots end there and get one more.

Results:
1. `Pass.step_puts`: the slot that a command writes.
2. `Typesetter.pooled_afterCalls`: the rules that all layouts keep.
3. `Typesetter.Pooled.takes`: what one more layout does with the slots, and when there are too few.
4. `Typesetter.slots_of_calls`: both together, for a new typesetter after any calls.
-/

namespace StyledText

variable {F : Type} [FontFace F]

/-! ## One slot -/

theorem getElem?_writeSlot {α : Type} {slots : Array α} {index : Nat} (h : index ≤ slots.size)
    (fragment : α) (i : Nat) :
    (writeSlot slots index fragment)[i]? = if i = index then some fragment else slots[i]? := by
  unfold writeSlot
  split
  · next inside =>
    rw [Array.getElem?_set]
    simp only [eq_comm]
  · next outside =>
    have full : index = slots.size := by omega
    rw [Array.getElem?_push, full]

namespace Pass

/-- The next pass has one more fragment, in the slot at its own index: an older one, or a new one
right behind the others. All other slots are the same. -/
structure Puts (pass next : Pass F) (fragment : Fragment F) : Prop where
  index : pass.written ≤ pass.slots.size
  written : next.written = pass.written + 1
  slots : ∀ i, next.slots[i]? = if i = pass.written then some fragment else pass.slots[i]?

theorem place_puts {pass next : Pass F} {fragment : Fragment F} (h : pass.Sound)
    (placed : pass.place fragment = .ok next) : pass.Puts next fragment := by
  unfold place at placed
  split at placed
  · cases placed
    exact ⟨h, rfl, getElem?_writeSlot h fragment⟩
  · cases placed

theorem drawText_puts {pass next : Pass F} {maxFragments : Nat} {content : String}
    (h : pass.Sound) (drawn : pass.drawText maxFragments content = .ok next) :
    ∃ fragment, pass.Puts next fragment := by
  rw [drawText_eq] at drawn
  split at drawn
  · split at drawn
    · exact ⟨_, place_puts h drawn⟩
    · cases drawn
  · cases drawn

theorem drawImage_puts {pass next : Pass F} {maxFragments : Nat} {image : Image}
    (h : pass.Sound) (drawn : pass.drawImage maxFragments image = .ok next) :
    ∃ fragment, pass.Puts next fragment := by
  rw [drawImage_eq] at drawn
  split at drawn
  · exact ⟨_, place_puts h drawn⟩
  · cases drawn

/-- The slots and the fragments are the same. -/
def Idle (pass next : Pass F) : Prop := next.slots = pass.slots ∧ next.written = pass.written

theorem idle_of_faceAt (pass : Pass F) (name : String) (size : Nat)
    (restyle : F → LayoutState F) :
    pass.Idle (match pass.resources.faceAt name size with
      | some (.ok font, resources) => { pass with resources, state := restyle font }
      | some (.error _, resources) => { pass with resources }
      | none => pass) := by
  split <;> exact ⟨rfl, rfl⟩

/-- A command writes a slot if it draws, and else none. -/
theorem step_puts {pass next : Pass F} {maxFragments : Nat} {command : Command} (h : pass.Sound)
    (stepped : pass.step maxFragments command = .ok next) :
    (∃ drawing fragment, pass.resources.drawing? command = some drawing ∧
      pass.Puts next fragment) ∨
    (pass.resources.drawing? command = none ∧ pass.Idle next) := by
  cases command with
  | drawText content =>
    obtain ⟨fragment, puts⟩ := drawText_puts h stepped
    exact .inl ⟨_, fragment, rfl, puts⟩
  | useString key =>
    simp only [step_eq] at stepped
    simp only [Resources.drawing?]
    cases found : pass.resources.get? key with
    | none =>
      rw [found] at stepped
      cases stepped
      exact .inr ⟨rfl, rfl, rfl⟩
    | some entry =>
      rw [found] at stepped
      cases entry with
      | string content =>
        obtain ⟨fragment, puts⟩ := drawText_puts h stepped
        exact .inl ⟨_, fragment, rfl, puts⟩
      | _ =>
        cases stepped
        exact .inr ⟨rfl, rfl, rfl⟩
  | drawImage key =>
    simp only [step_eq] at stepped
    simp only [Resources.drawing?]
    cases found : pass.resources.get? key with
    | none =>
      rw [found] at stepped
      cases stepped
      exact .inr ⟨rfl, rfl, rfl⟩
    | some entry =>
      rw [found] at stepped
      cases entry with
      | image image =>
        obtain ⟨fragment, puts⟩ := drawImage_puts h stepped
        exact .inl ⟨_, fragment, rfl, puts⟩
      | _ =>
        cases stepped
        exact .inr ⟨rfl, rfl, rfl⟩
  | setColor key =>
    simp only [step_eq] at stepped
    refine .inr ⟨rfl, ?_⟩
    split at stepped <;>
    · cases stepped
      exact ⟨rfl, rfl⟩
  | setFont name =>
    cases stepped
    exact .inr ⟨rfl, pass.idle_of_faceAt name pass.state.fontSize _⟩
  | setSize key =>
    simp only [step_eq] at stepped
    refine .inr ⟨rfl, ?_⟩
    split at stepped
    · cases stepped
      exact pass.idle_of_faceAt pass.state.fontName _ _
    · cases stepped
      exact ⟨rfl, rfl⟩
  | newline =>
    refine .inr ⟨rfl, ?_⟩
    replace stepped : settled pass.newline = .ok next := stepped
    rw [settled_newline] at stepped
    split at stepped
    · cases stepped
      exact ⟨rfl, rfl⟩
    · cases stepped

end Pass

/-! ## How many fragments a list places -/

namespace Draft

variable {resources : Resources F} {maxFragments : Nat}

/-- The draft after the commands before the first one that fails. -/
def reached (resources : Resources F) (maxFragments : Nat) (draft : Draft F) :
    CommandList → Draft F
  | [] => draft
  | command :: rest =>
    match draft.step resources maxFragments command with
    | .ok next => next.reached resources maxFragments rest
    | .error _ => draft

theorem reached_append {draft middle : Draft F} {front : CommandList}
    (ran : draft.run resources maxFragments front = .ok middle) (back : CommandList) :
    draft.reached resources maxFragments (front ++ back) =
      middle.reached resources maxFragments back := by
  induction front generalizing draft with
  | nil =>
    cases ran
    rfl
  | cons command rest ih =>
    obtain ⟨next, stepped, ran⟩ := run_cons_eq_ok_iff.1 ran
    rw [List.cons_append, reached, stepped]
    exact ih ran

theorem reached_of_run {draft last : Draft F} {list : CommandList}
    (ran : draft.run resources maxFragments list = .ok last) :
    draft.reached resources maxFragments list = last := by
  have whole := reached_append ran []
  rwa [List.append_nil] at whole

/-- A run that fails has reached a command that fails. -/
theorem run_eq_error {draft : Draft F} {list : CommandList} {e : LayoutError}
    (failed : draft.run resources maxFragments list = .error e) :
    ∃ front command back, list = front ++ command :: back ∧
      draft.run resources maxFragments front =
        .ok (draft.reached resources maxFragments list) ∧
      (draft.reached resources maxFragments list).step resources maxFragments command =
        .error e := by
  obtain ⟨front, command, back, middle, rfl, ran, fails⟩ := foldlM_eq_error_iff.1 failed
  have reached : draft.reached resources maxFragments (front ++ command :: back) = middle := by
    rw [reached_append ran, reached, fails]
  rw [reached]
  exact ⟨front, command, back, rfl, ran, fails⟩

theorem reached_congr {others : Resources F} (same : others.pristine = resources.pristine)
    (draft : Draft F) (list : CommandList) :
    draft.reached others maxFragments list = draft.reached resources maxFragments list := by
  induction list generalizing draft with
  | nil => rfl
  | cons command rest ih =>
    rw [reached, reached, (alike_of_pristine same).step]
    simp only [ih]

/-- There is one more fragment for each drawing. -/
theorem length_of_step {draft next : Draft F} {command : Command}
    (stepped : draft.step resources maxFragments command = .ok next) :
    next.fragments.length =
      draft.fragments.length + (resources.drawing? command).toList.length := by
  rcases draft.step_cases resources maxFragments command with
    ⟨drawing, drawn, does⟩ | ⟨rfl, does⟩ | ⟨silent, -, does⟩
  · rw [does] at stepped
    obtain ⟨-, fragment, -, placed⟩ := draw_eq_ok_iff.1 stepped
    rw [(place_eq_ok placed).1, drawn]
    exact List.length_append
  · rw [does] at stepped
    rw [(newline_eq_ok stepped).1]
    rfl
  · rw [does] at stepped
    cases stepped
    rw [silent]
    rfl

theorem length_le_of_step {draft next : Draft F} {command : Command}
    (h : draft.fragments.length ≤ maxFragments)
    (stepped : draft.step resources maxFragments command = .ok next) :
    next.fragments.length ≤ maxFragments := by
  rw [length_of_step stepped]
  cases drawn : resources.drawing? command with
  | none => exact h
  | some drawing =>
    rcases draft.step_cases resources maxFragments command with
      ⟨other, -, does⟩ | ⟨rfl, -⟩ | ⟨silent, -, -⟩
    · rw [does] at stepped
      exact Nat.succ_le_of_lt (draw_eq_ok_iff.1 stepped).1
    · cases drawn
    · cases drawn.symm.trans silent

theorem length_of_run {draft last : Draft F} {list : CommandList}
    (ran : draft.run resources maxFragments list = .ok last) :
    last.fragments.length =
      draft.fragments.length + (list.filterMap resources.drawing?).length := by
  induction list generalizing draft with
  | nil =>
    cases ran
    rfl
  | cons command rest ih =>
    obtain ⟨next, stepped, ran⟩ := run_cons_eq_ok_iff.1 ran
    rw [ih ran, length_of_step stepped, List.filterMap_cons]
    cases resources.drawing? command with
    | none => rfl
    | some drawing => exact Nat.add_right_comm ..

/-- A layout that fails does so before its list or in it. -/
theorem ofList_eq_error {config : Typesetter.Config} {list : CommandList} {e : LayoutError}
    (failed : ofList config resources list = .error e) :
    start config resources = .error e ∨
      ∃ draft, start config resources = .ok draft ∧
        draft.run resources config.maxFragments list = .error e := by
  unfold ofList at failed
  cases started : start config resources with
  | error cause =>
    rw [started] at failed
    exact .inl failed
  | ok draft =>
    rw [started] at failed
    exact .inr ⟨draft, rfl, failed⟩

theorem length_of_ofList {config : Typesetter.Config} {list : CommandList} {last : Draft F}
    (made : ofList config resources list = .ok last) :
    last.fragments.length = (list.filterMap resources.drawing?).length := by
  obtain ⟨draft, started, ran⟩ := ofList_eq_ok_iff.1 made
  obtain ⟨fontName, font, -, -, rfl⟩ := start_eq_ok_iff.1 started
  exact (length_of_run ran).trans (Nat.zero_add _)

/-- Only a drawing fails for want of a slot, and only behind as many fragments as are allowed. -/
theorem full_of_step {draft : Draft F} {command : Command} (h : draft.Bounded)
    (failed : draft.step resources maxFragments command =
      .error (.fragmentPoolExhausted maxFragments)) :
    (∃ drawing, resources.drawing? command = some drawing) ∧
      maxFragments ≤ draft.fragments.length := by
  cases (step_eq_error_iff h).1 failed with
  | draw drawn fails =>
    cases fails with
    | full full => exact ⟨⟨_, drawn⟩, full⟩

theorem length_reached_le {draft : Draft F} (list : CommandList)
    (h : draft.fragments.length ≤ maxFragments) :
    (draft.reached resources maxFragments list).fragments.length ≤ maxFragments := by
  induction list generalizing draft with
  | nil => exact h
  | cons command rest ih =>
    rw [reached]
    split
    · next stepped => exact ih (length_le_of_step h stepped)
    · exact h

end Draft

/-- A run that fails or not leads to where its draft leads. -/
theorem Pass.draft_run {pass : Pass F} (h : pass.Sound) (maxFragments : Nat)
    (list : CommandList) :
    (pass.run maxFragments list).1.draft = pass.draft.reached pass.resources maxFragments list := by
  induction list generalizing pass with
  | nil => rfl
  | cons command rest ih =>
    have step := step_draft h maxFragments command
    rw [run, Draft.reached, ← step]
    cases stepped : pass.step maxFragments command with
    | error e => rfl
    | ok next =>
      have continues := step_continues h stepped
      exact (ih continues.sound).trans (Draft.reached_congr continues.resources _ rest)

/-! ## Layouts -/

/-- How many fragments a layout of the list places, before it fails if it does. -/
def Typesetter.Config.placed (config : Typesetter.Config) (resources : Resources F)
    (list : CommandList) : Nat :=
  match Draft.start config resources with
  | .ok draft => (draft.reached resources config.maxFragments list).fragments.length
  | .error _ => 0

namespace Typesetter

variable {t next : Typesetter F} {resources after : Resources F} {list : CommandList}

theorem Config.placed_le (config : Typesetter.Config) (resources : Resources F)
    (list : CommandList) : config.placed resources list ≤ config.maxFragments := by
  unfold Config.placed
  split
  · next draft started =>
    obtain ⟨fontName, font, -, -, rfl⟩ := Draft.start_eq_ok_iff.1 started
    exact Draft.length_reached_le list (Nat.zero_le _)
  · exact Nat.zero_le _

theorem Config.placed_of_ok {config : Typesetter.Config} {draft : Draft F}
    (made : Draft.ofList config resources list = .ok draft) :
    config.placed resources list = draft.fragments.length := by
  obtain ⟨first, started, ran⟩ := Draft.ofList_eq_ok_iff.1 made
  rw [Config.placed, started]
  exact congrArg (·.fragments.length) (Draft.reached_of_run ran)

/-- A run of a pass writes the fragments that its list places. -/
theorem written_of_start {pass : Pass F} (started : t.start resources = .ok pass)
    (list : CommandList) :
    (pass.run t.config.maxFragments list).1.written = t.config.placed resources list := by
  have begun := t.start_draft resources
  rw [started] at begun
  obtain ⟨start, sound, kept⟩ := begun
  have sound' := (Pass.run_continues sound t.config.maxFragments list).sound
  rw [Config.placed, start, ← Pass.length_draft sound', Pass.draft_run sound]
  exact congrArg (·.fragments.length) (Draft.reached_congr kept _ list)

/-- What a layout does to the slots: there are no more than it needs or there were, and those of the
fragments are written, but none if the layout fails. -/
structure Reuses (t : Typesetter F) (placed : Nat) (outcome : Except LayoutError Bounds)
    (next : Typesetter F) : Prop where
  config : next.config = t.config
  allocated : next.allocated = max t.allocated placed
  written : next.written = if outcome.isOk then placed else 0
  state : next.state.isSome = outcome.isOk

theorem typeset_reuses (t : Typesetter F) (resources : Resources F) (list : CommandList) :
    t.Reuses (t.config.placed resources list) (t.typeset resources list).1
      (t.typeset resources list).2.1 := by
  cases started : t.start resources with
  | error failed =>
    have none : t.config.placed resources list = 0 := by
      have begun := t.start_draft resources
      rw [started] at begun
      rw [Config.placed, begun.1]
    rw [typeset_of_start_error started, none]
    exact ⟨rfl, (Nat.max_zero _).symm, rfl, rfl⟩
  | ok pass =>
    have placed := written_of_start started list
    have begun := t.start_draft resources
    rw [started] at begun
    have slots := (Pass.run_continues begun.2.1 t.config.maxFragments list).slots
    rw [slots_of_start started] at slots
    cases ran : pass.run t.config.maxFragments list with
    | mk last failure =>
      rw [ran] at placed slots
      cases failure with
      | none =>
        rw [typeset_of_run started ran, ← placed]
        exact ⟨rfl, slots, rfl, rfl⟩
      | some e =>
        rw [typeset_of_run_error started ran, ← placed]
        exact ⟨rfl, slots, rfl, rfl⟩

/-- A layout that fails does so before its list, or at a command behind those that have placed its
fragments. -/
theorem typeset_eq_error {e : LayoutError} (failed : (t.typeset resources list).1 = .error e) :
    (t.config.placed resources list = 0 ∧ ∀ other, (t.typeset resources other).1 = .error e) ∨
    ∃ front command back bounds next after, list = front ++ command :: back ∧
      t.typeset resources front = (.ok bounds, next, after) ∧
      next.fragments.length = t.config.placed resources list ∧
      (t.typeset resources (front ++ [command])).1 = .error e := by
  simp only [outcome_eq_error_iff] at failed ⊢
  unfold Config.placed
  rcases Draft.ofList_eq_error failed with refused | ⟨draft, started, stopped⟩
  · rw [refused]
    refine .inl ⟨rfl, fun other => ?_⟩
    rw [Draft.ofList, refused]
    rfl
  · obtain ⟨front, command, back, split, ran, fails⟩ := Draft.run_eq_error stopped
    have made := Draft.ofList_eq_ok_iff.2 ⟨draft, started, ran⟩
    obtain ⟨next, after, done, shown⟩ := typeset_of_ok made
    rw [started]
    refine .inr ⟨front, command, back, _, next, after, split, done, ?_, ?_⟩
    · exact congrArg List.length shown.fragments
    · rw [Draft.ofList, started]
      show draft.run resources t.config.maxFragments (front ++ [command]) = .error e
      rw [Draft.run_append, ran, Except.bind, Draft.run, List.foldlM_cons, fails]
      rfl

/-- A layout that fails for nothing else fails for want of a slot exactly if its list has more
drawings than there may be slots. -/
theorem exhausted_iff
    (alone : ∀ e, (t.typeset resources list).1 = .error e →
      e = .fragmentPoolExhausted t.config.maxFragments) :
    (t.typeset resources list).1 = .error (.fragmentPoolExhausted t.config.maxFragments) ↔
      t.config.maxFragments < (list.filterMap resources.drawing?).length := by
  simp only [outcome_eq_error_iff] at alone ⊢
  constructor
  · intro failed
    rcases Draft.ofList_eq_error failed with refused | ⟨draft, started, stopped⟩
    · rcases Draft.start_eq_error refused with noFont | ⟨cause, noFace⟩
      · cases noFont
      · cases noFace
    · obtain ⟨front, command, back, rfl, ran, fails⟩ := Draft.run_eq_error stopped
      have made := Draft.ofList_eq_ok_iff.2 ⟨draft, started, ran⟩
      obtain ⟨⟨drawing, drawn⟩, full⟩ := Draft.full_of_step (Draft.bounded_of_ofList made) fails
      rw [Draft.length_of_ofList made] at full
      rw [List.filterMap_append, List.filterMap_cons, drawn, List.length_append]
      exact Nat.lt_of_le_of_lt full (Nat.lt_add_of_pos_right (Nat.succ_pos _))
  · intro many
    cases made : Draft.ofList t.config resources list with
    | error e => rw [alone e made]
    | ok draft =>
      have within := t.config.placed_le resources list
      rw [Config.placed_of_ok made, Draft.length_of_ofList made] at within
      exact absurd many (Nat.not_lt_of_le within)

/-! ## Calls -/

/-- The typesetter after layouts of some lists, each with the resources of its own. -/
def afterCalls (t : Typesetter F) (calls : List (Resources F × CommandList)) : Typesetter F :=
  calls.foldl (fun t call => (t.typeset call.1 call.2).2.1) t

/-- The rules of the slots. The fragments are the slots that are written, and those are there. There
are no more slots than allowed, and they are written only by a layout that has a state. -/
structure Pooled (t : Typesetter F) : Prop where
  fragments : t.fragments.length = t.written
  written : t.written ≤ t.allocated
  allocated : t.allocated ≤ t.config.maxFragments
  state : 0 < t.written → t.state.isSome

theorem Pooled.typeset (h : t.Pooled) (resources : Resources F) (list : CommandList) :
    (t.typeset resources list).2.1.Pooled := by
  have reuses := t.typeset_reuses resources list
  have placed := t.config.placed_le resources list
  generalize t.typeset resources list = result at reuses ⊢
  obtain ⟨outcome, next, after⟩ := result
  have written : next.written ≤ next.allocated := by
    rw [reuses.written, reuses.allocated]
    split
    · exact Nat.le_max_right ..
    · exact Nat.zero_le _
  refine ⟨?_, written, ?_, ?_⟩
  · rw [Typesetter.fragments, List.length_take, Array.length_toList]
    exact Nat.min_eq_left written
  · rw [reuses.allocated, reuses.config]
    exact Nat.max_le.2 ⟨h.allocated, placed⟩
  · intro some
    rw [reuses.written] at some
    rw [reuses.state]
    by_contra failed
    rw [if_neg failed] at some
    exact Nat.lt_irrefl 0 some

/-- All layouts keep the rules, and the slots are as many as the largest layout has needed. -/
theorem pooled_afterCalls (h : t.Pooled) (calls : List (Resources F × CommandList)) :
    (t.afterCalls calls).Pooled ∧ (t.afterCalls calls).config = t.config ∧
      (t.afterCalls calls).allocated =
        (calls.map fun call => t.config.placed call.1 call.2).foldl max t.allocated := by
  induction calls generalizing t with
  | nil => exact ⟨h, rfl, rfl⟩
  | cons call rest ih =>
    have reuses := t.typeset_reuses call.1 call.2
    obtain ⟨pooled, config, allocated⟩ := ih (h.typeset call.1 call.2)
    refine ⟨pooled, config.trans reuses.config, allocated.trans ?_⟩
    rw [reuses.config, reuses.allocated]
    rfl

/-! ## The next call -/

/-- What the layout of a list does with the slots of a typesetter, whatever comes of it. -/
structure Takes (t : Typesetter F) (resources : Resources F) (list : CommandList)
    (outcome : Except LayoutError Bounds) (next : Typesetter F) : Prop where
  /-- No slot is given up. -/
  allocated : t.allocated ≤ next.allocated
  /-- There is a state exactly behind a layout that succeeds. -/
  state : next.state.isSome ↔ ∃ bounds, outcome = .ok bounds
  /-- A layout that succeeds shows all that it has placed. -/
  shown : ∀ bounds, outcome = .ok bounds →
    next.fragments.length = t.config.placed resources list
  /-- One that fails shows nothing. It fails before its list, or at the command behind those that
  have placed its fragments. -/
  failed : ∀ e, outcome = .error e → next.fragments = [] ∧
    ((t.config.placed resources list = 0 ∧ ∀ other, (t.typeset resources other).1 = .error e) ∨
    ∃ front command back bounds middle after, list = front ++ command :: back ∧
      t.typeset resources front = (.ok bounds, middle, after) ∧
      middle.fragments.length = t.config.placed resources list ∧
      (t.typeset resources (front ++ [command])).1 = .error e)
  /-- Every pass on the way has a slot for each of its fragments, and a command that draws puts the
  next fragment into the slot at its own index. -/
  slots : ∀ first front pass, t.start resources = .ok first →
    first.run t.config.maxFragments front = (pass, none) →
    pass.written ≤ pass.slots.size ∧
    ∀ command after, pass.step t.config.maxFragments command = .ok after →
      (∃ drawing fragment, resources.drawing? command = some drawing ∧
        pass.Puts after fragment) ∨
      (resources.drawing? command = none ∧ pass.Idle after)
  /-- One that fails for nothing else fails for want of a slot exactly if its list has more drawings
  than there may be slots. -/
  exhausted : (∀ e, outcome = .error e → e = .fragmentPoolExhausted t.config.maxFragments) →
    (outcome = .error (.fragmentPoolExhausted t.config.maxFragments) ↔
      t.config.maxFragments < (list.filterMap resources.drawing?).length)

theorem Pooled.takes {outcome : Except LayoutError Bounds} (h : t.Pooled)
    (done : t.typeset resources list = (outcome, next, after)) :
    t.Takes resources list outcome next := by
  have reuses := t.typeset_reuses resources list
  have pooled := h.typeset resources list
  have comes : (t.typeset resources list).1 = outcome := by rw [done]
  rw [done] at reuses pooled
  refine ⟨?_, ?_, ?_, ?_, ?_, ?_⟩
  · rw [reuses.allocated]
    exact Nat.le_max_left ..
  · rw [reuses.state]
    cases outcome with
    | ok bounds => exact ⟨fun _ => ⟨bounds, rfl⟩, fun _ => rfl⟩
    | error e => exact ⟨nofun, nofun⟩
  · rintro bounds rfl
    exact pooled.fragments.trans reuses.written
  · rintro e rfl
    refine ⟨?_, typeset_eq_error comes⟩
    exact List.eq_nil_of_length_eq_zero (pooled.fragments.trans reuses.written)
  · intro first front pass started ran
    have reaches := reaches_of_run started ran
    refine ⟨reaches.sound, ?_⟩
    intro command after stepped
    rw [← Resources.drawing?_congr reaches.resources]
    exact Pass.step_puts reaches.sound stepped
  · intro alone
    rw [← comes] at alone ⊢
    exact exhausted_iff alone

/-- After any layouts of a new typesetter the fragments are the slots that the last one has written.
There are as many slots as the largest of the layouts has placed fragments, whether it failed or
not, and no more than allowed. The next layout takes them by the same rules, whatever its list
is. -/
theorem slots_of_calls (config : Typesetter.Config) (calls : List (Resources F × CommandList)) :
    ((new config).afterCalls calls).Pooled ∧
    ((new config).afterCalls calls).config = config ∧
    ((new config).afterCalls calls).allocated =
      (calls.map fun call => config.placed call.1 call.2).foldl max 0 ∧
    ∀ resources list outcome next after,
      ((new config).afterCalls calls).typeset resources list = (outcome, next, after) →
      ((new config).afterCalls calls).Takes resources list outcome next := by
  have begun : (new config : Typesetter F).Pooled :=
    ⟨rfl, Nat.le_refl _, Nat.zero_le _, fun some => absurd some (Nat.lt_irrefl _)⟩
  obtain ⟨pooled, same, allocated⟩ := pooled_afterCalls begun calls
  refine ⟨pooled, same, allocated, ?_⟩
  intro resources list outcome next after done
  exact pooled.takes done

/-- A font that cannot measure a word. -/
def words : Resources FixedPitch :=
  .registered default
    [.font { family := some "Mono", pointSize := 12, refusedText := some "no" } none]

/-- The second layout fails behind the one fragment that it has placed. -/
example : ((new default).afterCalls [(words, [.drawText "a", .drawText "b"]),
    (words, [.drawText "c", .drawText "no"])]).slots.toList.map (·.snapshot.text.map (·.content)) =
      [some "c", some "b"] := by decide +kernel

end Typesetter
end StyledText
