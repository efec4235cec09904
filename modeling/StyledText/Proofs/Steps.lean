/-!
# Steps that can fail

A run takes one step after another and ends at the first one that fails. Layouts, their references
and the registrations of a command line are such runs.

Results:
1. `bind_eq_ok_iff`, `foldlM_cons_eq_ok_iff`: a run succeeds if its steps do.
2. `foldlM_preserves`: what every step preserves, a run preserves.
3. `foldlM_eq_error_iff`: a run that fails does so at one step, behind others that succeed.
-/

namespace StyledText

/-- Two steps succeed together if the second one does on what the first one gives. -/
theorem bind_eq_ok_iff {ε α β : Type} {first : Except ε α} {second : α → Except ε β} {last : β} :
    first.bind second = .ok last ↔
      ∃ middle, first = .ok middle ∧ second middle = .ok last := by
  cases first with
  | error e =>
    constructor
    · intro done
      cases done
    · rintro ⟨_, found, _⟩
      cases found
  | ok middle =>
    constructor
    · intro done
      exact ⟨middle, rfl, done⟩
    · rintro ⟨_, found, done⟩
      cases found
      exact done

section Runs

variable {ε α β : Type} {step : α → β → Except ε α} {first last : α} {list : List β}

theorem foldlM_cons_eq_ok_iff {item : β} :
    (item :: list).foldlM step first = .ok last ↔
      ∃ next, step first item = .ok next ∧ list.foldlM step next = .ok last := by
  rw [List.foldlM_cons]
  exact bind_eq_ok_iff

theorem foldlM_preserves (Kept : α → Prop)
    (kept : ∀ item ∈ list, ∀ middle next, Kept middle → step middle item = .ok next → Kept next)
    (h : Kept first) (ran : list.foldlM step first = .ok last) : Kept last := by
  induction list generalizing first with
  | nil =>
    cases ran
    exact h
  | cons item rest ih =>
    obtain ⟨next, stepped, ran⟩ := foldlM_cons_eq_ok_iff.1 ran
    have later : Kept next := kept item List.mem_cons_self first next h stepped
    exact ih (fun item inside => kept item (List.mem_cons_of_mem _ inside)) later ran

/-- Steps that fail do so at one of them, behind others that succeed. -/
theorem foldlM_eq_error_iff {e : ε} :
    list.foldlM step first = .error e ↔
      ∃ front item back middle, list = front ++ item :: back ∧
        front.foldlM step first = .ok middle ∧ step middle item = .error e := by
  constructor
  · intro failed
    induction list generalizing first with
    | nil => cases failed
    | cons item rest ih =>
      rw [List.foldlM_cons] at failed
      cases stepped : step first item with
      | error cause =>
        rw [stepped] at failed
        cases failed
        exact ⟨[], item, rest, first, rfl, rfl, stepped⟩
      | ok next =>
        rw [stepped] at failed
        obtain ⟨front, failing, back, middle, rfl, ran, fails⟩ := ih failed
        exact ⟨item :: front, failing, back, middle, rfl,
          foldlM_cons_eq_ok_iff.2 ⟨next, stepped, ran⟩, fails⟩
  · rintro ⟨front, item, back, middle, rfl, ran, fails⟩
    rw [List.foldlM_append, ran]
    show List.foldlM step middle (item :: back) = .error e
    rw [List.foldlM_cons, fails]
    rfl

end Runs
end StyledText
