import StyledText.Proofs.Faces

/-!
# Registrations

Resources come about by registrations, one after another. This module makes them events, so that it
can be said of resources that they are those of some registrations.

Results:
1. `Registration.pristine_apply`: what a registration does, and whether it fails, has nothing to
   do with the faces that the fonts keep.
2. `Registration.apply_of_error`: one that fails changes nothing.
3. `Resources.pristine_registered`: the fonts of resources that were only registered keep no face
   but their own.
-/

namespace StyledText

/-- What can be registered. -/
inductive Registration (F : Type) where
  /-- A font, under a name or that of its family. -/
  | font (font : F) (name? : Option String)
  | string (key text : String)
  | color (key : String) (color : Color)
  | size (key : String) (size : Nat)
  | image (key : String) (image : Image)
  /-- All colors of the palette. -/
  | palette

variable {F : Type} [FontFace F]

/-- Registers what is to be registered, and answers whether it could be. -/
def Registration.apply (resources : Resources F) :
    Registration F → Except ResourceError Unit × Resources F
  | .font base name? =>
    let (answer, next) := resources.registerFont base name?
    (answer.map fun _ => (), next)
  | .string key text => resources.registerString key text
  | .color key value => resources.registerColor key value
  | .size key pointSize => resources.registerSize key pointSize
  | .image key value => resources.registerImage key value
  | .palette => (.ok (), resources.registerPalette)

namespace Resources

/-- The resources that a registration leaves. -/
def after (resources : Resources F) (registration : Registration F) : Resources F :=
  (registration.apply resources).2

/-- The resources of some registrations, in order. -/
def registered (config : Config) (registrations : List (Registration F)) : Resources F :=
  registrations.foldl after (empty config)

/-! ## Registrations and the faces that are kept -/

theorem pristine_empty (config : Config) :
    (empty config : Resources F).pristine = empty config := by
  have fonts : ({} : Std.ExtTreeMap String (Typeface F)).map
      (fun _ typeface => typeface.pristine) = {} := by
    refine Std.ExtTreeMap.ext_getElem? fun name => ?_
    rw [Std.ExtTreeMap.getElem?_map]
    simp
  unfold pristine empty
  rw [fonts]

theorem contains_pristine (resources : Resources F) (name : String) :
    resources.pristine.fonts.contains name = resources.fonts.contains name := by
  simp [pristine]

theorem pristine_registerFont (resources : Resources F) (font : F) (name? : Option String) :
    (resources.registerFont font name?).map id pristine =
      resources.pristine.registerFont font name? := by
  unfold registerFont
  cases fontName font name? with
  | error e => rfl
  | ok name =>
    simp only [contains_pristine]
    split
    · rfl
    · simp only [Prod.map_apply, pristine, fonts_insert_pristine, Typeface.pristine_ofBase, id_eq]

theorem pristine_register (resources : Resources F) (key : String) (entry : Entry) :
    (resources.register key entry).map id pristine = resources.pristine.register key entry := by
  unfold register
  split <;> rfl

theorem pristine_registerSize (resources : Resources F) (key : String) (size : Nat) :
    (resources.registerSize key size).map id pristine =
      resources.pristine.registerSize key size := by
  unfold registerSize
  split
  · rfl
  · exact pristine_register resources key (.size size)

end Resources

namespace Registration

/-- A registration does the same whatever faces the fonts keep. -/
theorem pristine_apply (resources : Resources F) (registration : Registration F) :
    (registration.apply resources).map id Resources.pristine =
      registration.apply resources.pristine := by
  cases registration with
  | font base name? =>
    simp only [apply, ← resources.pristine_registerFont base name?]
    rfl
  | string key text => exact resources.pristine_register key (.string text)
  | color key value => exact resources.pristine_register key (.color value)
  | size key pointSize => exact resources.pristine_registerSize key pointSize
  | image key value => exact resources.pristine_register key (.image value)
  | palette => rfl

/-! ## Registrations that fail -/

variable {resources : Resources F} {e : ResourceError}

theorem registerFont_of_error {base : F} {name? : Option String}
    (failed : (resources.registerFont base name?).1 = .error e) :
    (resources.registerFont base name?).2 = resources := by
  unfold Resources.registerFont at failed ⊢
  split
  · rfl
  · next named =>
    rw [named] at failed
    dsimp only at failed ⊢
    split
    · rfl
    · next absent =>
      rw [if_neg absent] at failed
      cases failed

theorem register_of_error {key : String} {entry : Entry}
    (failed : (resources.register key entry).1 = .error e) :
    (resources.register key entry).2 = resources := by
  unfold Resources.register at failed ⊢
  split
  · rfl
  · next ne_empty =>
    rw [if_neg ne_empty] at failed
    cases failed

/-- A registration that fails leaves the resources as they were. -/
theorem apply_of_error {registration : Registration F}
    (failed : (registration.apply resources).1 = .error e) :
    (registration.apply resources).2 = resources := by
  cases registration with
  | font base name? =>
    cases answered : (resources.registerFont base name?).1 with
    | error e => exact registerFont_of_error answered
    | ok name =>
      simp only [apply, answered, Except.map] at failed
      cases failed
  | string key text => exact register_of_error failed
  | color key value => exact register_of_error failed
  | size key pointSize =>
    simp only [apply, Resources.registerSize] at failed ⊢
    split
    · rfl
    · next positive =>
      rw [if_neg positive] at failed
      exact register_of_error failed
  | image key value => exact register_of_error failed
  | palette => cases failed

end Registration

namespace Resources

theorem pristine_after (resources : Resources F) (registration : Registration F) :
    (resources.after registration).pristine = resources.pristine.after registration := by
  unfold after
  rw [← Registration.pristine_apply]
  rfl

theorem pristine_foldl_after (registrations : List (Registration F)) (resources : Resources F) :
    (registrations.foldl after resources).pristine =
      registrations.foldl after resources.pristine := by
  induction registrations generalizing resources with
  | nil => rfl
  | cons registration rest ih =>
    rw [List.foldl_cons, List.foldl_cons, ih, pristine_after]

theorem pristine_registered (config : Config) (registrations : List (Registration F)) :
    (registered config registrations).pristine = registered config registrations := by
  unfold registered
  rw [pristine_foldl_after, pristine_empty]

end Resources
end StyledText
