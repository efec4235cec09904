import StyledText.Proofs.Consistency
import StyledText.Proofs.OptionValues
import StyledText.Proofs.PlainFonts

/-!
# The entry that a key has

The command line registers in four passes: the palette, the strings, the colors and the sizes. All
four use the same keys, and each pass overwrites what the ones before it have left. So a key has the
entry of the last pass that knows it, and of one pass the last entry; how the options of different
kinds are mixed on the command line is never seen. The passes of colors and of sizes end at the
first entry that they cannot read.

Results:
1. `CommandLine.EntryKind.register_eq`: what the registration of one entry does.
2. `CommandLine.EntryKind.pass_of_foldlM`, `CommandLine.EntryKind.foldlM_register_eq_error_iff`:
   what a pass does that succeeds, and where and how one fails.
3. `CommandLine.resources_of_options`: when a command line gets its resources, which entry each key
   has then, and which error there is otherwise.
-/

namespace StyledText

/-! ## Look-ups under distinct keys -/

theorem lookup_eq_some_iff_mem {α : Type} {list : List (String × α)}
    (distinct : (list.map (·.1)).Nodup) {key : String} {value : α} :
    list.lookup key = some value ↔ (key, value) ∈ list := by
  induction list with
  | nil => simp
  | cons entry rest ih =>
    obtain ⟨own, first⟩ := entry
    obtain ⟨fresh, distinct⟩ := List.nodup_cons.1 distinct
    by_cases same : key = own
    · subst same
      have absent : (key, value) ∉ rest := fun inside => fresh (List.mem_map.2 ⟨_, inside, rfl⟩)
      simp [absent, eq_comm]
    · have unequal : (key == own) = false := beq_false_of_ne same
      rw [List.lookup_cons, unequal, List.mem_cons, ← ih distinct]
      simp [same]

/-- After the palette is registered, its names have their colors. -/
theorem Registry.get?_palette (key : String) :
    (empty.insertAll (Color.palette.map fun named => (named.1, .color named.2))).get? key =
      (Color.palette.lookup key).map .color := by
  have distinct : (((Color.palette.map fun named => (named.1, Entry.color named.2)).reverse).map
      (·.1)).Nodup := by
    rw [List.map_reverse, List.nodup_reverse, List.map_map]
    exact Color.palette_names_nodup
  rw [get?_insertAll, get?_empty, Option.or_none]
  ext entry
  rw [lookup_eq_some_iff_mem distinct, List.mem_reverse, List.mem_map, Option.map_eq_some_iff]
  simp only [lookup_eq_some_iff_mem Color.palette_names_nodup, Prod.exists, Prod.mk.injEq]
  constructor
  · rintro ⟨_, color, listed, rfl, rfl⟩
    exact ⟨color, listed, rfl⟩
  · rintro ⟨color, listed, rfl⟩
    exact ⟨key, color, listed, rfl, rfl⟩

variable {F : Type} [FontFace F]

namespace CommandLine

namespace EntryKind

/-! ## One entry -/

/-- What is registered for an entry, or why it is refused. -/
def read (config : Resources.Config) : EntryKind → String × String → Except Error Entry
  | .string, (_, text) => .ok (.string text)
  | .color, (_, text) =>
    match Color.ofHex text with
    | .ok value => .ok (.color value)
    | .error cause => .error (.invalidArgument cause.message)
  | .size, (key, text) =>
    match Numeral.read 10 UInt32.size text.toList with
    | .ok 0 => .error (.resource (.pointSizeOutOfRange 0 config.maxPointSize))
    | .ok pointSize => .ok (.size pointSize)
    | .error cause => .error (.invalidArgument ("size '" ++ key ++ "': " ++ cause.message))

/-- Registers an entry of the kind. -/
def register : EntryKind → Resources F → String × String → Except Error (Resources F)
  | .string => registerString
  | .color => registerColor
  | .size => registerSize

/-- The resources can have an entry for each of the given ones. -/
def Accepts (kind : EntryKind) (config : Resources.Config) (entries : List (String × String)) :
    Prop :=
  ∀ entry ∈ entries, ∃ value, kind.read config entry = .ok value

/-- The first of the given entries that is refused, is refused with the error. -/
def FirstRefused (kind : EntryKind) (config : Resources.Config) (entries : List (String × String))
    (e : Error) : Prop :=
  ∃ front entry back, entries = front ++ entry :: back ∧ kind.Accepts config front ∧
    kind.read config entry = .error e

/-- All entries have a key. -/
def Keyed (entries : List (String × String)) : Prop := ∀ entry ∈ entries, entry.1 ≠ ""

theorem Keyed.front {front back : List (String × String)} (keys : Keyed (front ++ back)) :
    Keyed front :=
  fun entry inside => keys entry (List.mem_append_left _ inside)

variable {kind : EntryKind} {resources next : Resources F} {entries : List (String × String)}

theorem FirstRefused.not_accepts {config : Resources.Config} {e : Error}
    (h : kind.FirstRefused config entries e) : ¬kind.Accepts config entries := by
  obtain ⟨front, entry, back, rfl, -, refused⟩ := h
  intro accepts
  obtain ⟨value, found⟩ := accepts entry (by simp)
  rw [refused] at found
  cases found

/-- An entry with a key is registered as what is read from it. -/
theorem register_eq (kind : EntryKind) (resources : Resources F) {entry : String × String}
    (ne_empty : entry.1 ≠ "") :
    kind.register resources entry = (kind.read resources.config entry).map fun value =>
      { resources with registry := resources.registry.insert entry.1 value } := by
  have registered (value : Entry) : accept (resources.register entry.1 value) =
      .ok { resources with registry := resources.registry.insert entry.1 value } := by
    rw [Resources.register, if_neg ne_empty, accept]
  obtain ⟨key, text⟩ := entry
  cases kind with
  | string =>
    rw [register, registerString, Resources.registerString, registered]
    rfl
  | color =>
    rw [register, registerColor, read]
    cases Color.ofHex text with
    | error cause => rfl
    | ok color =>
      dsimp only
      rw [Resources.registerColor, registered]
      rfl
  | size =>
    rw [register, registerSize, read]
    cases Numeral.read 10 UInt32.size text.toList with
    | error cause => rfl
    | ok size =>
      cases size with
      | zero => rfl
      | succ size =>
        dsimp only
        rw [Resources.registerSize, if_neg (Nat.succ_ne_zero size), registered]
        rfl

/-! ## One pass -/

/-- What a pass does that succeeds: all its entries are read, and of those under one key the last
one is registered. -/
structure Pass (kind : EntryKind) (entries : List (String × String))
    (resources next : Resources F) : Prop where
  same_config : next.config = resources.config
  accepts : kind.Accepts resources.config entries
  last : ∀ key text, entries.reverse.lookup key = some text →
    ∃ value, kind.read resources.config (key, text) = .ok value ∧ next.get? key = some value
  others : ∀ key, entries.reverse.lookup key = none → next.get? key = resources.get? key

namespace Pass

theorem nil (resources : Resources F) : kind.Pass [] resources resources :=
  ⟨rfl, by simp [Accepts], by simp, fun _ _ => rfl⟩

/-- One more entry has its key, whatever was under it before. -/
theorem append {entry : String × String} {value : Entry} (h : kind.Pass entries resources next)
    (found : kind.read resources.config entry = .ok value) :
    kind.Pass (entries ++ [entry]) resources
      { next with registry := next.registry.insert entry.1 value } := by
  obtain ⟨own, ownText⟩ := entry
  have reversed (key : String) : (entries ++ [(own, ownText)]).reverse.lookup key =
      if own = key then some ownText else entries.reverse.lookup key := by
    rw [List.reverse_append, List.lookup_append, List.reverse_singleton, lookup_pair]
    split <;> simp
  refine ⟨h.same_config, ?_, fun key text => ?_, fun key => ?_⟩
  · intro entry inside
    rcases List.mem_append.1 inside with earlier | last
    · exact h.accepts entry earlier
    · rw [List.mem_singleton.1 last]
      exact ⟨value, found⟩
  · rw [reversed, Resources.get?, Registry.get?_insert]
    split
    · next same =>
      subst same
      rintro ⟨⟩
      exact ⟨value, found, rfl⟩
    · exact h.last key text
  · rw [reversed, Resources.get?, Registry.get?_insert]
    split
    · exact fun listed => nomatch listed
    · exact h.others key

end Pass

theorem pass_of_foldlM (keys : Keyed entries)
    (done : entries.foldlM kind.register resources = .ok next) :
    kind.Pass entries resources next := by
  induction entries using List.reverseRecOn generalizing next with
  | nil =>
    cases done
    exact .nil resources
  | append_singleton front entry ih =>
    rw [List.foldlM_append] at done
    obtain ⟨middle, ran, done⟩ := bind_eq_ok_iff.1 done
    obtain ⟨last, stepped, same⟩ := bind_eq_ok_iff.1 done
    cases same
    have earlier := ih keys.front ran
    rw [register_eq kind middle (keys entry (by simp))] at stepped
    cases found : kind.read middle.config entry with
    | error e =>
      rw [found] at stepped
      cases stepped
    | ok value =>
      rw [found] at stepped
      cases stepped
      rw [earlier.same_config] at found
      exact earlier.append found

theorem register_eq_error_iff {middle : Resources F} {entry : String × String} {e : Error}
    (same : middle.config = resources.config) (ne_empty : entry.1 ≠ "") :
    kind.register middle entry = .error e ↔ kind.read resources.config entry = .error e := by
  rw [register_eq kind middle ne_empty, same]
  cases kind.read resources.config entry <;> simp [Except.map]

theorem firstRefused_of_foldlM (keys : Keyed entries) {e : Error}
    (failed : entries.foldlM kind.register resources = .error e) :
    kind.FirstRefused resources.config entries e := by
  obtain ⟨front, entry, back, middle, rfl, ran, refused⟩ := foldlM_eq_error_iff.1 failed
  have earlier := pass_of_foldlM keys.front ran
  exact ⟨front, entry, back, rfl, earlier.accepts,
    (register_eq_error_iff earlier.same_config (keys entry (by simp))).1 refused⟩

/-- A pass succeeds if no entry is refused. -/
theorem exists_foldlM_register_iff (kind : EntryKind) (resources : Resources F)
    (keys : Keyed entries) :
    (∃ next, entries.foldlM kind.register resources = .ok next) ↔
      kind.Accepts resources.config entries := by
  constructor
  · rintro ⟨next, done⟩
    exact (pass_of_foldlM keys done).accepts
  · intro accepts
    cases done : entries.foldlM kind.register resources with
    | ok next => exact ⟨next, rfl⟩
    | error e => exact absurd accepts (firstRefused_of_foldlM keys done).not_accepts

/-- A pass fails at the first entry that is refused, and with its error. -/
theorem foldlM_register_eq_error_iff (keys : Keyed entries) {e : Error} :
    entries.foldlM kind.register resources = .error e ↔
      kind.FirstRefused resources.config entries e := by
  refine ⟨firstRefused_of_foldlM keys, ?_⟩
  rintro ⟨front, entry, back, rfl, accepts, refused⟩
  obtain ⟨middle, ran⟩ := (exists_foldlM_register_iff kind resources keys.front).2 accepts
  refine foldlM_eq_error_iff.2 ⟨front, entry, back, middle, rfl, ran, ?_⟩
  exact (register_eq_error_iff (pass_of_foldlM keys.front ran).same_config (keys entry (by simp))).2
    refused

/-! ## What is accepted -/

theorem accepts_string (config : Resources.Config) : EntryKind.string.Accepts config entries :=
  fun entry _ => ⟨.string entry.2, rfl⟩

theorem read_color_eq_ok_iff {config : Resources.Config} {entry : String × String} {value : Entry} :
    EntryKind.color.read config entry = .ok value ↔
      ∃ color, Color.ofHex entry.2 = .ok color ∧ value = .color color := by
  rw [read]
  cases Color.ofHex entry.2 <;> simp [eq_comm]

theorem read_size_eq_ok_iff {config : Resources.Config} {entry : String × String} {value : Entry} :
    EntryKind.size.read config entry = .ok value ↔
      ∃ pointSize, Numeral.read 10 UInt32.size entry.2.toList = .ok pointSize ∧ 1 ≤ pointSize ∧
        value = .size pointSize := by
  rw [read]
  cases Numeral.read 10 UInt32.size entry.2.toList with
  | error cause => simp
  | ok pointSize => cases pointSize <;> simp [eq_comm]

theorem accepts_color_iff {config : Resources.Config} :
    EntryKind.color.Accepts config entries ↔
      ∀ entry ∈ entries, ∃ color, Color.ofHex entry.2 = .ok color := by
  simp only [Accepts, read_color_eq_ok_iff]
  simp

theorem accepts_size_iff {config : Resources.Config} :
    EntryKind.size.Accepts config entries ↔
      ∀ entry ∈ entries, ∃ pointSize,
        Numeral.read 10 UInt32.size entry.2.toList = .ok pointSize ∧ 1 ≤ pointSize := by
  simp only [Accepts, read_size_eq_ok_iff]
  simp

end EntryKind

/-! ## All passes -/

section Passes

variable {font : F} {a : Arguments} {name : String}

/-- The resources with a font under a name and the palette. -/
def withPalette (font : F) (name : String) : Resources F :=
  ((Resources.empty default).withFont name font).registerPalette

theorem get?_withPalette (font : F) (name key : String) :
    (withPalette font name).get? key = (Color.palette.lookup key).map .color := by
  rw [← Registry.get?_palette]
  unfold withPalette Resources.get? Resources.registerPalette Registry.insertAll
  rw [List.foldl_map]
  rfl

variable (named : Resources.fontName font a.fontName = .ok name)

include named

/-- A font that has a name is registered, and then come the passes of the three kinds. -/
theorem resourcesWith_eq :
    resourcesWith font a =
      ((a.entries .string).foldlM EntryKind.string.register (withPalette font name)).bind
        fun resources =>
          ((a.entries .color).foldlM EntryKind.color.register resources).bind
            fun resources => (a.entries .size).foldlM EntryKind.size.register resources := by
  have registered : (Resources.empty default).registerFont font a.fontName =
      (.ok name, (Resources.empty default).withFont name font) := by
    simp [Resources.registerFont, named, Resources.empty, Resources.withFont]
  rw [resourcesWith, registered]
  rfl

variable (keys : ∀ kind, EntryKind.Keyed (a.entries kind))

include keys

/-- The passes that have succeeded, one on what the other has left. -/
theorem passes_of_resourcesWith {resources : Resources F}
    (done : resourcesWith font a = .ok resources) :
    ∃ strung colored, EntryKind.string.Pass (a.entries .string) (withPalette font name) strung ∧
      EntryKind.color.Pass (a.entries .color) strung colored ∧
      EntryKind.size.Pass (a.entries .size) colored resources := by
  rw [resourcesWith_eq named] at done
  obtain ⟨strung, ran, done⟩ := bind_eq_ok_iff.1 done
  obtain ⟨colored, ran', done⟩ := bind_eq_ok_iff.1 done
  exact ⟨strung, colored, EntryKind.pass_of_foldlM (keys .string) ran,
    EntryKind.pass_of_foldlM (keys .color) ran', EntryKind.pass_of_foldlM (keys .size) done⟩

/-- The first error is that of the colors, and if there is none, that of the sizes. -/
theorem resourcesWith_eq_error_iff {e : Error} :
    resourcesWith font a = .error e ↔
      EntryKind.color.FirstRefused default (a.entries .color) e ∨
        EntryKind.color.Accepts default (a.entries .color) ∧
          EntryKind.size.FirstRefused default (a.entries .size) e := by
  obtain ⟨strung, ran⟩ := (EntryKind.exists_foldlM_register_iff .string (withPalette font name)
    (keys .string)).2 (EntryKind.accepts_string _)
  have config : strung.config = default := (EntryKind.pass_of_foldlM (keys .string) ran).same_config
  rw [resourcesWith_eq named, ran, ← config]
  show ((a.entries .color).foldlM EntryKind.color.register strung).bind _ = .error e ↔ _
  rw [← EntryKind.foldlM_register_eq_error_iff (keys .color),
    ← EntryKind.exists_foldlM_register_iff .color strung (keys .color)]
  cases done : (a.entries .color).foldlM EntryKind.color.register strung with
  | error cause => simp [Except.bind]
  | ok colored =>
    have kept := (EntryKind.pass_of_foldlM (keys .color) done).same_config
    rw [← kept, ← EntryKind.foldlM_register_eq_error_iff (keys .size)]
    simp [Except.bind]

theorem exists_resourcesWith_iff :
    (∃ resources, resourcesWith font a = .ok resources) ↔
      EntryKind.color.Accepts default (a.entries .color) ∧
        EntryKind.size.Accepts default (a.entries .size) := by
  constructor
  · rintro ⟨resources, done⟩
    obtain ⟨strung, colored, strings, colors, sizes⟩ := passes_of_resourcesWith named keys done
    have config : strung.config = default := strings.same_config
    exact ⟨config ▸ colors.accepts, config ▸ colors.same_config ▸ sizes.accepts⟩
  · rintro ⟨colors, sizes⟩
    cases done : resourcesWith font a with
    | ok resources => exact ⟨resources, rfl⟩
    | error e =>
      rcases (resourcesWith_eq_error_iff named keys).1 done with refused | ⟨-, refused⟩
      · exact absurd colors refused.not_accepts
      · exact absurd sizes refused.not_accepts

/-- The last size of a key counts, or else the last color, or else the last string, or else the
palette. -/
theorem get?_of_resourcesWith {resources : Resources F}
    (done : resourcesWith font a = .ok resources) (key : String) :
    match (a.entries .size).reverse.lookup key, (a.entries .color).reverse.lookup key,
      (a.entries .string).reverse.lookup key with
    | some text, _, _ => ∃ pointSize, Numeral.read 10 UInt32.size text.toList = .ok pointSize ∧
        resources.get? key = some (.size pointSize)
    | none, some text, _ => ∃ color, Color.ofHex text = .ok color ∧
        resources.get? key = some (.color color)
    | none, none, some text => resources.get? key = some (.string text)
    | none, none, none => resources.get? key = (Color.palette.lookup key).map .color := by
  obtain ⟨strung, colored, strings, colors, sizes⟩ := passes_of_resourcesWith named keys done
  cases size : (a.entries .size).reverse.lookup key with
  | some text =>
    obtain ⟨value, found, holds⟩ := sizes.last key text size
    obtain ⟨pointSize, numeral, -, rfl⟩ := EntryKind.read_size_eq_ok_iff.1 found
    exact ⟨pointSize, numeral, holds⟩
  | none =>
    have kept := sizes.others key size
    cases color : (a.entries .color).reverse.lookup key with
    | some text =>
      obtain ⟨value, found, holds⟩ := colors.last key text color
      obtain ⟨value, hex, rfl⟩ := EntryKind.read_color_eq_ok_iff.1 found
      exact ⟨value, hex, kept.trans holds⟩
    | none =>
      replace kept := kept.trans (colors.others key color)
      cases string : (a.entries .string).reverse.lookup key with
      | some text =>
        obtain ⟨value, found, holds⟩ := strings.last key text string
        cases found
        exact kept.trans holds
      | none =>
        exact (kept.trans (strings.others key string)).trans (get?_withPalette font name key)

end Passes

/-- The text that is given last for a key of a kind. -/
def lastGiven (kind : EntryKind) (options : List (EntryKind × String)) (key : String) :
    Option String :=
  (given kind options).reverse.lookup key

/-- Given are a parser of fonts, the files and a database of fonts; a command line, of which the
options of each kind are collected in order, each value having been cut; and arguments with what is
collected, whose font can be loaded and has a name. These get their resources exactly if every color
is a hexadecimal one and every size is the numeral of a 32-bit number and not zero. A key then has
the last size that is given for it, or else the last color, or else the last string, or else its
color in the palette, and nothing if it is no name of the palette, however options of different
kinds are mixed. Otherwise the error is that of the first color that is refused, or of the first
size if there is no such color. Each value is cut at its first equals sign, and it is refused
exactly if it has none or its key is empty. -/
theorem resources_of_options {Db : Type} [FontDatabase Db] {parser : FontParser}
    {env : Environment Db} {a : Arguments} {font : TrueTypeFont parser} {name : String}
    {options : List (EntryKind × String)}
    (collected : ∀ kind, (EntryKind.texts kind options).mapM parseKeyValue = .ok (a.entries kind))
    (loaded : loadFont parser env a = .ok font)
    (named : Resources.fontName font a.fontName = .ok name) :
    ((∃ resources, loadResources parser env a = .ok resources) ↔
      (∀ entry ∈ given .color options, ∃ color, Color.ofHex entry.2 = .ok color) ∧
      ∀ entry ∈ given .size options, ∃ pointSize,
        Numeral.read 10 UInt32.size entry.2.toList = .ok pointSize ∧ 1 ≤ pointSize) ∧
    (∀ resources, loadResources parser env a = .ok resources → ∀ key,
      match lastGiven .size options key, lastGiven .color options key,
        lastGiven .string options key with
      | some text, _, _ => ∃ pointSize, Numeral.read 10 UInt32.size text.toList = .ok pointSize ∧
          resources.get? key = some (.size pointSize)
      | none, some text, _ => ∃ color, Color.ofHex text = .ok color ∧
          resources.get? key = some (.color color)
      | none, none, some text => resources.get? key = some (.string text)
      | none, none, none => resources.get? key = (Color.palette.lookup key).map .color) ∧
    (∀ e, loadResources parser env a = .error e ↔
      EntryKind.color.FirstRefused default (given .color options) e ∨
        (∀ entry ∈ given .color options, ∃ color, Color.ofHex entry.2 = .ok color) ∧
          EntryKind.size.FirstRefused default (given .size options) e) ∧
    (∀ kind text, (kind, text) ∈ options → ∃ entry, parseKeyValue text = .ok entry) ∧
    (∀ text key value, parseKeyValue text = .ok (key, value) ↔
      key ≠ "" ∧ '=' ∉ key.toList ∧ text = key ++ "=" ++ value) ∧
    ∀ text reason, parseKeyValue text = .error reason ↔
      ('=' ∉ text.toList ∨ text.toList.head? = some '=') ∧
        reason = "expected KEY=VALUE, got '" ++ text ++ "'" := by
  have entries (kind : EntryKind) : a.entries kind = given kind options :=
    (given_of_mapM (collected kind)).1.symm
  have keys : ∀ kind, EntryKind.Keyed (a.entries kind) := by
    intro kind entry inside
    rw [entries] at inside
    exact key_ne_empty_of_given inside
  have registered : loadResources parser env a = resourcesWith font a := by
    rw [loadResources, loaded]
    rfl
  rw [registered]
  refine ⟨?_, ?_, ?_, ?_, ?_, ?_⟩
  · rw [exists_resourcesWith_iff named keys, entries, entries, EntryKind.accepts_color_iff,
      EntryKind.accepts_size_iff]
  · intro resources done key
    have holds := get?_of_resourcesWith named keys done key
    rw [entries, entries, entries] at holds
    exact holds
  · intro e
    rw [resourcesWith_eq_error_iff named keys, entries, entries, EntryKind.accepts_color_iff]
  · exact fun kind => (given_of_mapM (collected kind)).2
  · exact fun text key value => parseKeyValue_eq_ok_iff
  · exact fun text reason => parseKeyValue_eq_error_iff

/-- Entries of all kinds under one key, one of which has an equals sign in its value, and a name of
the palette that is given as a string. -/
def mixedOptions : List (EntryKind × String) :=
  [(.size, "gold=14"), (.color, "gold=#123"), (.string, "gold=a=b"), (.color, "sea=#00f"),
    (.string, "red=wine"), (.size, "gold=+18")]

/-- What the options say, for a font file and a name of the font. -/
def mixedArguments : Arguments where
  markup := "text"
  font := some "wide.ttf"
  fontName := some "main"
  strings := [("gold", "a=b"), ("red", "wine")]
  colors := [("gold", "#123"), ("sea", "#00f")]
  sizes := [("gold", "14"), ("gold", "+18")]

/-- Surroundings with one font file and no installed fonts. -/
def wideEnvironment : Environment Sfnt.Database := ⟨fun _ => .ok Sfnt.wideFile, .empty⟩

theorem resources_of_options_mixed :
    ∃ font resources,
      (∀ kind, (EntryKind.texts kind mixedOptions).mapM parseKeyValue =
        .ok (mixedArguments.entries kind)) ∧
      loadFont Sfnt.parse wideEnvironment mixedArguments = .ok font ∧
      Resources.fontName font mixedArguments.fontName = .ok "main" ∧
      loadResources Sfnt.parse wideEnvironment mixedArguments = .ok resources ∧
      resources.get? "gold" = some (.size 18) ∧
      resources.get? "sea" = some (.color ⟨0, 0, 255, 255⟩) ∧
      resources.get? "red" = some (.string "wine") ∧
      resources.get? "blue" = some (.color ⟨0, 0, 255, 255⟩) := by
  obtain ⟨font, loaded⟩ := Sfnt.exists_ofBytes_wideFile 24
  have collected : ∀ kind, (EntryKind.texts kind mixedOptions).mapM parseKeyValue =
      .ok (mixedArguments.entries kind) := by
    intro kind
    cases kind <;> rfl
  have opened : loadFont Sfnt.parse wideEnvironment mixedArguments = .ok font :=
    congrArg (·.mapError Error.font) loaded
  obtain ⟨succeeds, holds, -⟩ := resources_of_options collected opened rfl
  have strings : given .string mixedOptions = mixedArguments.strings := by decide +kernel
  have colors : given .color mixedOptions = mixedArguments.colors := by decide +kernel
  have sizes : given .size mixedOptions = mixedArguments.sizes := by decide +kernel
  rw [colors, sizes] at succeeds
  have hexadecimal : ∀ entry ∈ mixedArguments.colors, ∃ color, Color.ofHex entry.2 = .ok color := by
    simp only [mixedArguments, List.forall_mem_cons]
    exact ⟨⟨_, rfl⟩, ⟨_, rfl⟩, by simp⟩
  have numerals : ∀ entry ∈ mixedArguments.sizes, ∃ pointSize,
      Numeral.read 10 UInt32.size entry.2.toList = .ok pointSize ∧ 1 ≤ pointSize := by
    simp only [mixedArguments, List.forall_mem_cons]
    exact ⟨⟨14, rfl, by decide⟩, ⟨18, rfl, by decide⟩, by simp⟩
  obtain ⟨resources, done⟩ := succeeds.2 ⟨hexadecimal, numerals⟩
  simp only [lastGiven, strings, colors, sizes] at holds
  obtain ⟨size, numeral, gold⟩ := holds resources done "gold"
  obtain ⟨color, hex, sea⟩ := holds resources done "sea"
  cases numeral
  cases hex
  exact ⟨font, resources, collected, opened, rfl, done, gold, sea, holds resources done "red",
    holds resources done "blue"⟩

end CommandLine
end StyledText
