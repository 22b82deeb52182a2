import LatexTree.Proofs.Overlay
import LatexTree.Settings.Config
import LatexTree.Settings.Environment
import LatexTree.Toml.Item
import Mathlib.Data.List.Forall2
import Mathlib.Tactic.Choose

/-! What the values of settings mean.

A configuration has four keys in two tables. A setting, an item of a document and the text of a variable
give a key a scalar or a list of scalars, whatever place they carry. What such a value says at a key is
a relation of its own, and the readers of typed settings answer by it. -/
namespace LatexTree

inductive ConfigKey where
  | extensions
  | defaultPath
  | format
  | pretty
deriving DecidableEq, Repr

namespace ConfigKey

def table : ConfigKey → String
  | .extensions => "processor"
  | .defaultPath => "processor"
  | .format => "output"
  | .pretty => "output"

def name : ConfigKey → String
  | .extensions => "extensions"
  | .defaultPath => "default_file_path"
  | .format => "format"
  | .pretty => "pretty"

def path (known : ConfigKey) : List String := [known.table, known.name]

def text (known : ConfigKey) : String := known.table ++ "." ++ known.name

end ConfigKey

/-- A value in which nothing is named. -/
inductive PlainValue where
  | scalar (value : Scalar)
  | list (values : List Scalar)
deriving DecidableEq, Repr

namespace Setting

def scalar? : Setting → Option Scalar
  | .scalar _ value => some value
  | _ => none

def plain? : Setting → Option PlainValue
  | .scalar _ value => some (.scalar value)
  | .list _ items => (items.mapM scalar?).map .list
  | .table _ _ => none

end Setting

namespace Toml.Item

/-- A date is a text like any other. -/
def scalar? : Item → Option Scalar
  | .scalar value => some value
  | .date text => some (.text text)
  | _ => none

def plain? : Item → Option PlainValue
  | .list items => (items.mapM scalar?).map .list
  | item => item.scalar?.map .scalar

end Toml.Item

/-- The text of a variable is the scalar that it spells; any other text stands for itself, or for the
list between its commas where a list is wanted. -/
def ConfigKey.ofText (known : ConfigKey) (text : String) : PlainValue :=
  match Environment.scalar? text with
  | some scalar => .scalar scalar
  | none =>
    if known = .extensions then .list ((parts ',' text).map .text) else .scalar (.text text)

/-! ### Meaning -/

inductive Scalar.Spells : Scalar → String → Prop
  | text (value : String) : Spells (.text value) value
  | bool (value : Bool) : Spells (.bool value) (if value then "true" else "false")
  | int (value : Int) : Spells (.int value) (toString value)
  | real (value : RealValue) : Spells (.real value) (value.text RealValue.plainLayout)

theorem Scalar.spells_texts (texts : List String) : List.Forall₂ Spells (texts.map .text) texts := by
  rw [List.forall₂_map_left_iff, List.forall₂_same]
  exact fun text _ => .text text

inductive Scalar.Says : Scalar → Bool → Prop
  | bool (value : Bool) : Says (.bool value) value
  | int (value : Int) : Says (.int value) (decide (value ≠ 0))
  | real (value : RealValue) : Says (.real value) (!value.isZero)
  | yes (word : String) (meant : lowercase word ∈ ["1", "true", "on", "yes"]) : Says (.text word) true
  | no (word : String) (meant : lowercase word ∈ ["0", "false", "off", "no"]) : Says (.text word) false

def OutputFormat.name : OutputFormat → String
  | .json => "json"
  | .outline => "outline"

namespace ConfigKey

/-- The configuration has at the key what the value says there. -/
inductive Means (config : Config) : ConfigKey → PlainValue → Prop
  | extensions (values : List Scalar)
      (spelled : List.Forall₂ Scalar.Spells values config.processor.extensions) :
      Means config .extensions (.list values)
  | defaultPath (value : Scalar) (spelled : value.Spells config.processor.defaultPath) :
      Means config .defaultPath (.scalar value)
  | format (name : String) (named : lowercase name = config.output.format.name) :
      Means config .format (.scalar (.text name))
  | pretty (value : Scalar) (said : value.Says config.output.pretty) :
      Means config .pretty (.scalar value)

/-- The value is one of the key's type. -/
def Fits (known : ConfigKey) (value : PlainValue) : Prop := ∃ config, Means config known value

/-- Each key has a part of the configuration to itself. -/
theorem exists_means {values : ConfigKey → PlainValue}
    (fits : ∀ known : ConfigKey, known.Fits (values known)) :
    ∃ config, ∀ known : ConfigKey, Means config known (values known) := by
  obtain ⟨forExtensions, extensions⟩ := fits .extensions
  obtain ⟨forPath, path⟩ := fits .defaultPath
  obtain ⟨forFormat, format⟩ := fits .format
  obtain ⟨forPretty, pretty⟩ := fits .pretty
  refine ⟨⟨⟨forExtensions.processor.extensions, forPath.processor.defaultPath⟩,
    ⟨forFormat.output.format, forPretty.output.pretty⟩⟩, ?_⟩
  intro known
  cases known with
  | extensions =>
    generalize values .extensions = value at extensions ⊢
    cases extensions with
    | extensions values spelled => exact .extensions values spelled
  | defaultPath =>
    generalize values .defaultPath = value at path ⊢
    cases path with
    | defaultPath value spelled => exact .defaultPath value spelled
  | format =>
    generalize values .format = value at format ⊢
    cases format with
    | format name named => exact .format name named
  | pretty =>
    generalize values .pretty = value at pretty ⊢
    cases pretty with
    | pretty value said => exact .pretty value said

end ConfigKey

/-! ### Readers -/

theorem forall₂_of_mapM {α β : Type} {view : α → Option β} {items : List α} {values : List β}
    (viewed : items.mapM view = some values) :
    List.Forall₂ (fun item value => view item = some value) items values := by
  induction items generalizing values with
  | nil =>
    obtain rfl := Option.some.inj viewed
    exact .nil
  | cons item rest ih =>
    rw [List.mapM_cons] at viewed
    obtain ⟨value, first, viewed⟩ := Option.bind_eq_some_iff.mp viewed
    obtain ⟨others, later, viewed⟩ := Option.bind_eq_some_iff.mp viewed
    obtain rfl := Option.some.inj viewed
    exact .cons first (ih later)

namespace Setting

theorem eq_of_scalar? {setting : Setting} {value : Scalar} (viewed : setting.scalar? = some value) :
    ∃ origin, setting = .scalar origin value := by
  cases setting with
  | scalar origin own => exact ⟨origin, congrArg _ (Option.some.inj viewed)⟩
  | list origin items => cases viewed
  | table origin entries => cases viewed

theorem eq_of_plain?_scalar {setting : Setting} {value : Scalar}
    (viewed : setting.plain? = some (.scalar value)) : ∃ origin, setting = .scalar origin value := by
  cases setting with
  | scalar origin own =>
    obtain rfl := PlainValue.scalar.inj (Option.some.inj viewed)
    exact ⟨origin, rfl⟩
  | list origin items => simp [plain?] at viewed
  | table origin entries => cases viewed

theorem eq_of_plain?_list {setting : Setting} {values : List Scalar}
    (viewed : setting.plain? = some (.list values)) :
    ∃ origin items, setting = .list origin items ∧
      List.Forall₂ (fun item value => scalar? item = some value) items values := by
  cases setting with
  | scalar origin own => cases viewed
  | list origin items =>
    obtain ⟨values, each, same⟩ := Option.map_eq_some_iff.mp viewed
    obtain rfl := PlainValue.list.inj same
    exact ⟨origin, items, rfl, forall₂_of_mapM each⟩
  | table origin entries => cases viewed

end Setting

namespace Config

theorem readText_of_spells (key : String) (origin : Option String) {value : Scalar} {text : String}
    (spelled : value.Spells text) : readText key (.scalar origin value) = .ok text := by
  cases spelled with
  | text | bool | int | real => rfl

theorem readBool_of_says (key : String) (origin : Option String) {value : Scalar} {flag : Bool}
    (said : value.Says flag) : readBool key (.scalar origin value) = .ok flag := by
  cases said with
  | bool | real => rfl
  | int value =>
    by_cases zero : value = 0
    · simp [readBool, zero]
    · simp [readBool, zero]
  | yes word meant => exact if_pos meant
  | no word meant =>
    have other : lowercase word ∉ yesWords := by
      intro yes
      simp only [yesWords, List.mem_cons, List.not_mem_nil, or_false] at yes meant
      rcases yes with yes | yes | yes | yes <;> simp [yes] at meant
    exact (if_neg other).trans (if_pos meant)

theorem readFormat_of_named (key : String) (origin : Option String) {name : String}
    {format : OutputFormat} (named : lowercase name = format.name) :
    readFormat key (.scalar origin (.text name)) = .ok format := by
  cases format with
  | json => simp [readFormat, OutputFormat.named?, named, OutputFormat.name]
  | outline => simp [readFormat, OutputFormat.named?, named, OutputFormat.name]

theorem readTexts_of_spells (key : String) (origin : Option String) {items : List Setting}
    {values : List Scalar} {texts : List String}
    (viewed : List.Forall₂ (fun item value => item.scalar? = some value) items values)
    (spelled : List.Forall₂ Scalar.Spells values texts) :
    readTexts key (.list origin items) = .ok texts := by
  have each : ∀ index, (items.zipIdx index).mapM
      (fun entry => readText (itemKey key entry.2) entry.1) = .ok texts := by
    induction viewed generalizing texts with
    | nil =>
      cases spelled
      intro index
      rfl
    | cons first later ih =>
      intro index
      obtain ⟨origin, rfl⟩ := Setting.eq_of_scalar? first
      cases spelled with
      | cons own others =>
        rw [List.zipIdx_cons, List.mapM_cons, readText_of_spells _ _ own, ih others]
        rfl
  exact each 0

end Config

/-! ### Settings that are made of items and texts -/

namespace Toml.Item

theorem setting_scalar? (origin : Option String) (item : Item) :
    (item.setting origin).scalar? = item.scalar? := by
  cases item <;> simp [setting, Setting.scalar?, scalar?]

theorem settings_eq_map (origin : Option String) (items : List Item) :
    settings origin items = items.map (setting origin) := by
  induction items with
  | nil => rfl
  | cons item rest ih => rw [settings, ih, List.map_cons]

theorem entrySettings_eq_map (origin : Option String) (entries : List (String × Item)) :
    entrySettings origin entries = entries.map fun entry => (entry.1, entry.2.setting origin) := by
  induction entries with
  | nil => rfl
  | cons entry rest ih => rw [entrySettings, ih, List.map_cons]

theorem setting_plain? (origin : Option String) (item : Item) :
    (item.setting origin).plain? = item.plain? := by
  cases item with
  | scalar value => rfl
  | date text => rfl
  | list items =>
    have each : Setting.scalar? ∘ setting origin = scalar? := funext (setting_scalar? origin)
    rw [setting, Setting.plain?, settings_eq_map, List.mapM_map, each, plain?]
  | table kind entries => rfl
  | tables earlier last =>
    -- The last of the tables is no scalar, so that the whole is no plain value.
    have last : [Setting.table origin (entrySettings origin last)].mapM Setting.scalar? = none := rfl
    rw [setting, Setting.plain?, List.mapM_append, last]
    cases (settings origin earlier).mapM Setting.scalar? <;> rfl

end Toml.Item

theorem Environment.setting_plain? (known : ConfigKey) (text : String) :
    (Environment.setting known.text text).plain? = some (known.ofText text) := by
  have list : known.text = listKey ↔ known = .extensions := by
    cases known <;> decide
  unfold Environment.setting ConfigKey.ofText
  cases scalar? text with
  | some scalar => rfl
  | none =>
    by_cases wanted : known = .extensions
    · have each (items : List String) :
          (items.map fun item => Setting.scalar (some place) (.text item)).mapM Setting.scalar? =
            some (items.map .text) := by
        induction items with
        | nil => rfl
        | cons item rest ih =>
          rw [List.map_cons, List.mapM_cons, ih]
          rfl
      simp only [if_pos wanted, if_pos (list.mpr wanted), Setting.plain?, each]
      rfl
    · simp only [if_neg wanted, if_neg (mt list.mp wanted), Setting.plain?]

/-! ### Configurations -/

namespace Config

/-- Reads the settings of the four keys, the first error first. -/
def assembled (settings : ConfigKey → Setting) : Except ConfigError Config := do
  let extensions ← readTexts (ConfigKey.text .extensions) (settings .extensions)
  let path ← readText (ConfigKey.text .defaultPath) (settings .defaultPath)
  let format ← readFormat (ConfigKey.text .format) (settings .format)
  let pretty ← readBool (ConfigKey.text .pretty) (settings .pretty)
  return ⟨⟨extensions, path⟩, ⟨format, pretty⟩⟩

theorem readField_of_get? {α : Type} {name : String} {root setting : Setting}
    (found : root.get? [name] = some setting) (expected key : String) (index : Nat)
    (read : Reading α) :
    readField expected index name read key root = some <$> read (fieldKey key name) setting := by
  cases root with
  | scalar _ _ | list _ _ => simp [Setting.get?, Setting.asTable] at found
  | table origin entries =>
    have entry : entries.lookup name = some setting := by
      simpa [Setting.get?, Setting.asTable] using found
    simp only [readField, entry]

theorem readProcessor_of_get? {root extensions path : Setting}
    (hasExtensions : root.get? ["extensions"] = some extensions)
    (hasPath : root.get? ["default_file_path"] = some path) (key : String) :
    readProcessor key root = do
      let extensions ← readTexts (fieldKey key "extensions") extensions
      let path ← readText (fieldKey key "default_file_path") path
      return ⟨extensions, path⟩ := by
  rw [readProcessor, readField_of_get? hasExtensions, readField_of_get? hasPath]
  cases readTexts (fieldKey key "extensions") extensions with
  | error error => rfl
  | ok extensions => cases readText (fieldKey key "default_file_path") path <;> rfl

theorem readOutput_of_get? {root format pretty : Setting}
    (hasFormat : root.get? ["format"] = some format)
    (hasPretty : root.get? ["pretty"] = some pretty) (key : String) :
    readOutput key root = do
      let format ← readFormat (fieldKey key "format") format
      let pretty ← readBool (fieldKey key "pretty") pretty
      return ⟨format, pretty⟩ := by
  rw [readOutput, readField_of_get? hasFormat, readField_of_get? hasPretty]
  cases readFormat (fieldKey key "format") format with
  | error error => rfl
  | ok format => cases readBool (fieldKey key "pretty") pretty <;> rfl

end Config

/-- Two paths that go through one name find what they find in one entry. -/
theorem Setting.get?_pair {table first second : String} {root one other : Setting}
    (foundOne : root.get? [table, first] = some one)
    (foundOther : root.get? [table, second] = some other) :
    ∃ inner, root.get? [table] = some inner ∧ inner.get? [first] = some one ∧
      inner.get? [second] = some other := by
  obtain ⟨inner, entry, one⟩ := Option.bind_eq_some_iff.mp foundOne
  obtain ⟨same, again, other⟩ := Option.bind_eq_some_iff.mp foundOther
  obtain rfl := Option.some.inj (entry.symm.trans again)
  refine ⟨inner, ?_, one, other⟩
  rw [get?, entry]
  rfl

theorem ConfigKey.fieldKey_text (known : ConfigKey) :
    Config.fieldKey (Config.fieldKey "" known.table) known.name = known.text := by
  cases known <;> rfl

theorem Config.ofSetting_of_get? {root : Setting} {settings : ConfigKey → Setting}
    (found : ∀ known : ConfigKey, root.get? known.path = some (settings known)) :
    ofSetting root = assembled settings := by
  obtain ⟨processor, hasProcessor, hasExtensions, hasPath⟩ :=
    Setting.get?_pair (found .extensions) (found .defaultPath)
  obtain ⟨output, hasOutput, hasFormat, hasPretty⟩ :=
    Setting.get?_pair (found .format) (found .pretty)
  change root.get? ["processor"] = some processor at hasProcessor
  change root.get? ["output"] = some output at hasOutput
  rw [ofSetting, readField_of_get? hasProcessor, readField_of_get? hasOutput,
    readProcessor_of_get? hasExtensions hasPath, readOutput_of_get? hasFormat hasPretty]
  have extensions := ConfigKey.fieldKey_text .extensions
  have path := ConfigKey.fieldKey_text .defaultPath
  have format := ConfigKey.fieldKey_text .format
  have pretty := ConfigKey.fieldKey_text .pretty
  simp only [ConfigKey.table, ConfigKey.name] at extensions path format pretty
  rw [extensions, path, format, pretty, assembled]
  cases readTexts (ConfigKey.text .extensions) (settings .extensions) with
  | error error => rfl
  | ok _ =>
    cases readText (ConfigKey.text .defaultPath) (settings .defaultPath) with
    | error error => rfl
    | ok _ =>
      cases readFormat (ConfigKey.text .format) (settings .format) with
      | error error => rfl
      | ok _ => cases readBool (ConfigKey.text .pretty) (settings .pretty) <;> rfl

namespace ConfigKey.Means

variable {config : Config} {setting : Setting} {value : PlainValue}

theorem readTexts (means : Means config .extensions value) (viewed : setting.plain? = some value)
    (key : String) : Config.readTexts key setting = .ok config.processor.extensions := by
  cases means with
  | extensions values spelled =>
    obtain ⟨origin, items, rfl, each⟩ := Setting.eq_of_plain?_list viewed
    exact Config.readTexts_of_spells key origin each spelled

theorem readText (means : Means config .defaultPath value) (viewed : setting.plain? = some value)
    (key : String) : Config.readText key setting = .ok config.processor.defaultPath := by
  cases means with
  | defaultPath value spelled =>
    obtain ⟨origin, rfl⟩ := Setting.eq_of_plain?_scalar viewed
    exact Config.readText_of_spells key origin spelled

theorem readFormat (means : Means config .format value) (viewed : setting.plain? = some value)
    (key : String) : Config.readFormat key setting = .ok config.output.format := by
  cases means with
  | format name named =>
    obtain ⟨origin, rfl⟩ := Setting.eq_of_plain?_scalar viewed
    exact Config.readFormat_of_named key origin named

theorem readBool (means : Means config .pretty value) (viewed : setting.plain? = some value)
    (key : String) : Config.readBool key setting = .ok config.output.pretty := by
  cases means with
  | pretty value said =>
    obtain ⟨origin, rfl⟩ := Setting.eq_of_plain?_scalar viewed
    exact Config.readBool_of_says key origin said

end ConfigKey.Means

/-- What stands at a key, as far as it is plain. -/
def Setting.at? (root : Setting) (known : ConfigKey) : Option PlainValue :=
  (root.get? known.path).bind plain?

theorem Config.ofSetting_of_means {root : Setting} {values : ConfigKey → PlainValue} {config : Config}
    (found : ∀ known : ConfigKey, root.at? known = some (values known))
    (means : ∀ known : ConfigKey, ConfigKey.Means config known (values known)) :
    ofSetting root = .ok config := by
  have each (known : ConfigKey) : ∃ setting, root.get? known.path = some setting ∧
      setting.plain? = some (values known) := Option.bind_eq_some_iff.mp (found known)
  choose settings gets viewed using each
  rw [ofSetting_of_get? gets, assembled, (means _).readTexts (viewed _), (means _).readText (viewed _),
    (means _).readFormat (viewed _), (means _).readBool (viewed _)]
  rfl

end LatexTree
