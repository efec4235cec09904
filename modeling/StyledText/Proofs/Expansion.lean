import StyledText.Font.FixedPitch
import StyledText.Proofs.Consistency
import StyledText.Proofs.Draft

/-!
# References as abbreviations

A reference abbreviates what it refers to. A list of commands can be laid out with its references to
strings replaced by the strings, and without the commands that refer to nothing or to something of
another kind: nothing about the layout changes, neither what it shows nor what it leaves in the
slots and in the fonts.

Results:
1. `Resources.resolve?_congr`: what a command refers to is not changed by asking fonts for faces.
2. `Pass.step_resolve`: a command does what the command does that it abbreviates, and nothing if it
   refers to nothing.
3. `Pass.run_expand`: the same of a run through a list.
4. `Typesetter.typeset_eq_expand`: the same of a whole layout, and the keys of entries and the names
   of fonts are apart.
-/

namespace StyledText

variable {F : Type} [FontFace F]

namespace Resources

/-- The command that a command abbreviates, if what it refers to is there and of the right kind. -/
def resolve? (resources : Resources F) : Command → Option Command
  | .drawText content => some (.drawText content)
  | .useString key =>
    match resources.get? key with
    | some (.string content) => some (.drawText content)
    | _ => none
  | .setColor key =>
    match resources.get? key with
    | some (.color _) => some (.setColor key)
    | _ => none
  | .setFont name => (resources.font? name).map fun _ => .setFont name
  | .setSize key =>
    match resources.get? key with
    | some (.size _) => some (.setSize key)
    | _ => none
  | .drawImage key =>
    match resources.get? key with
    | some (.image _) => some (.drawImage key)
    | _ => none
  | .newline => some .newline

/-- The list with strings in place of the references to them, and without the commands that refer to
nothing. -/
def expand (resources : Resources F) (list : CommandList) : CommandList :=
  list.filterMap resources.resolve?

/-! ## What a reference depends on -/

/-- A font is referred to whatever is in the registry. -/
theorem resolve?_setFont_congr {resources others : Resources F} {name : String}
    (same : (others.font? name).isSome = (resources.font? name).isSome) :
    others.resolve? (.setFont name) = resources.resolve? (.setFont name) := by
  simp only [resolve?]
  cases found : resources.font? name with
  | none =>
    rw [found, Option.isSome_none, Option.isSome_eq_false_iff, Option.isNone_iff_eq_none] at same
    rw [same]
  | some typeface =>
    rw [found, Option.isSome_some, Option.isSome_iff_exists] at same
    obtain ⟨other, found'⟩ := same
    rw [found']
    rfl

/-- Anything but a font is referred to whatever the fonts are. -/
theorem resolve?_congr_registry {resources others : Resources F}
    (same : others.registry = resources.registry) {command : Command}
    (notFont : ∀ name, command ≠ .setFont name) :
    others.resolve? command = resources.resolve? command := by
  cases command with
  | setFont name => exact absurd rfl (notFont name)
  | _ => simp only [resolve?, get?, same]

theorem resolve?_congr {resources after : Resources F}
    (same : after.pristine = resources.pristine) : after.resolve? = resources.resolve? := by
  funext command
  cases command with
  | setFont name =>
    refine resolve?_setFont_congr ?_
    have fonts := congrArg (fun r => (r.font? name).isSome) same
    simpa only [font?_pristine, Option.isSome_map] using fonts
  | _ => simp only [resolve?, get?_congr same]

end Resources

/-! ## Commands and runs -/

namespace Pass

variable {maxFragments : Nat}

/-- A command does what the command does that it abbreviates, and nothing if it refers to
nothing. -/
theorem step_resolve (maxFragments : Nat) (pass : Pass F) (command : Command) :
    pass.step maxFragments command =
      (pass.resources.resolve? command).elim (.ok pass) (pass.step maxFragments) := by
  cases command with
  | drawText content => rfl
  | newline => rfl
  | setFont name =>
    cases found : pass.resources.font? name with
    | none =>
      have unasked : pass.resources.faceAt name pass.state.fontSize = none := by
        rw [Resources.faceAt, found]
        rfl
      simp only [step_eq, setFont, unasked, Resources.resolve?, found]
      rfl
    | some typeface =>
      simp only [Resources.resolve?, found]
      rfl
  | useString key | setColor key | setSize key | drawImage key =>
    cases registered : pass.resources.get? key with
    | none =>
      simp only [step_eq, Resources.resolve?, registered]
      rfl
    | some entry =>
      cases entry <;> simp only [step_eq, Resources.resolve?, registered, Option.elim]

/-- The induction is on the list. A command may ask fonts for faces, but the commands behind it
abbreviate the same as before. -/
theorem run_expand {pass : Pass F} (h : pass.Sound) (list : CommandList) :
    pass.run maxFragments (pass.resources.expand list) = pass.run maxFragments list := by
  unfold Resources.expand
  induction list generalizing pass with
  | nil => rfl
  | cons command rest ih =>
    have step := pass.step_resolve maxFragments command
    cases resolved : pass.resources.resolve? command with
    | none =>
      rw [resolved, Option.elim_none] at step
      rw [List.filterMap_cons_none resolved, ih h, run, step]
    | some expanded =>
      rw [resolved, Option.elim_some] at step
      rw [List.filterMap_cons_some resolved, run, run, step]
      cases stepped : pass.step maxFragments expanded with
      | error e => rfl
      | ok next =>
        have continues := step_continues h stepped
        have later := ih continues.sound
        rw [Resources.resolve?_congr continues.resources] at later
        exact later

end Pass

/-! ## Layouts -/

namespace Resources

/-- What is registered under a key does not make the name of a font refer to one. -/
theorem resolve?_setFont_after (resources : Resources F) {registration : Registration F}
    (notFont : ∀ font name?, registration ≠ .font font name?) (name : String) :
    (resources.after registration).resolve? (.setFont name) =
      resources.resolve? (.setFont name) := by
  refine after_induction (·.resolve? (.setFont name) = resources.resolve? (.setFont name)) rfl
    fun {next} yields => ?_
  cases yields with
  | font => exact absurd rfl (notFont _ _)
  | entries => rfl

/-- A font does not make a key refer to an entry. -/
theorem resolve?_after_font (resources : Resources F) (font : F) (name? : Option String)
    {command : Command} (notFont : ∀ name, command ≠ .setFont name) :
    (resources.after (.font font name?)).resolve? command = resources.resolve? command := by
  refine after_induction (·.resolve? command = resources.resolve? command) rfl
    fun {next} yields => ?_
  cases yields with
  | @font _ _ name =>
    have same : (resources.withFont name font).registry = resources.registry := rfl
    exact resolve?_congr_registry same notFont
  | entries listed => cases listed

end Resources

namespace Typesetter

theorem typeset_expand (t : Typesetter F) (resources : Resources F) (list : CommandList) :
    t.typeset resources (resources.expand list) = t.typeset resources list := by
  have begun := t.start_draft resources
  rw [typeset_eq, typeset_eq]
  cases started : t.start resources with
  | error failed => rfl
  | ok pass =>
    rw [started] at begun
    obtain ⟨-, sound, kept⟩ := begun
    have same : resources.expand list = pass.resources.expand list := by
      rw [Resources.expand, Resources.expand, Resources.resolve?_congr kept]
    rw [same]
    dsimp only
    rw [Pass.run_expand sound]

/-- References are abbreviations: for any resources, any typesetter in any state, and any list, the
list with its references expanded gives the same outcome, leaves the same typesetter with the same
slots, and leaves the same resources with the same faces in the fonts. Keys of entries and names of
fonts are apart: nothing but a font makes a font name refer to something, and a font makes nothing
but a font name do so. -/
theorem typeset_eq_expand (t : Typesetter F) (resources : Resources F) (list : CommandList) :
    t.typeset resources list = t.typeset resources (resources.expand list) ∧
      (∀ registration name, (∀ font name?, registration ≠ .font font name?) →
        (resources.after registration).resolve? (.setFont name) =
          resources.resolve? (.setFont name)) ∧
      ∀ font name? command, (∀ name, command ≠ .setFont name) →
        (resources.after (.font font name?)).resolve? command = resources.resolve? command := by
  refine ⟨(t.typeset_expand resources list).symm, ?_, ?_⟩
  · intro registration name notFont
    exact resources.resolve?_setFont_after notFont name
  · intro font name? command notFont
    exact resources.resolve?_after_font font name? notFont

/-- Each key is also the name of a font, or an entry of another kind than some commands ask for. -/
def crossedResources : Resources FixedPitch :=
  .registered default
    [.font { family := some "Mono", pointSize := 12 } none,
      .font { family := some "Serif", pointSize := 10 } (some "big"),
      .string "Mono" "text", .size "big" 24, .color "ink" .white]

/-- The commands that refer to something of another kind, or to nothing. -/
def crossedList : CommandList :=
  [.setColor "Mono", .useString "Mono", .setSize "ink", .setFont "ink", .setFont "big",
    .setSize "big", .drawImage "big", .newline, .useString "big", .setColor "ink", .drawText "a",
    .useString "none", .drawText "b"]

/-- The pool of two is exhausted by the last command. -/
theorem typeset_eq_expand_crossed :
    crossedResources.expand crossedList =
      [.drawText "text", .setFont "big", .setSize "big", .newline, .setColor "ink", .drawText "a",
        .drawText "b"] ∧
    ((Typesetter.new { maxFragments := 2 }).typeset crossedResources crossedList).1.isOk = false ∧
    (Typesetter.new { maxFragments := 2 }).typeset crossedResources crossedList =
      (Typesetter.new { maxFragments := 2 }).typeset crossedResources
        (crossedResources.expand crossedList) ∧
    (∀ (font : FixedPitch) name?, Registration.string "ink" "x" ≠ .font font name?) ∧
    (crossedResources.after (.string "ink" "x")).resolve? (.setFont "ink") =
      crossedResources.resolve? (.setFont "ink") ∧
    (∀ name, Command.useString "none" ≠ .setFont name) ∧
    (crossedResources.after (.font { family := none, pointSize := 8 } (some "none"))).resolve?
        (.useString "none") =
      crossedResources.resolve? (.useString "none") := by
  obtain ⟨same, entry, font⟩ := typeset_eq_expand (.new { maxFragments := 2 }) crossedResources
    crossedList
  exact ⟨by decide +kernel, by decide +kernel, same, nofun, entry (.string "ink" "x") "ink" nofun,
    nofun, font { family := none, pointSize := 8 } (some "none") (.useString "none") nofun⟩

end Typesetter
end StyledText
