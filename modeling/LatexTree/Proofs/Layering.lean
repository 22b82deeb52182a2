import LatexTree.Proofs.PlainValues
import LatexTree.Settings.Layer

/-! Where each key of a configuration comes from.

Every file, the environment and every single setting may set any of the four keys. What they set is told
from the text of the file and of the variables, not from what is made of them on the way. Each step of
building the settings is shown to change, at the four keys, only what it sets itself; by induction the
last step that sets a key decides it. Single settings are put on after all other layers, wherever they
stand among them. -/
namespace LatexTree

/-- The last entry of a table that has the name, in any case. -/
def Toml.Item.field? (name : String) : Item → Option Item
  | .table _ entries =>
    latest? (fun entry => if lowercase entry.1 = name then some entry.2 else none) entries
  | _ => none

namespace ConfigKey

def builtin : ConfigKey → PlainValue
  | .extensions => .list []
  | .defaultPath => .scalar (.text "<latex>")
  | .format => .scalar (.text "json")
  | .pretty => .scalar (.bool true)

/-- The name of the variable that sets a key, in lower case. -/
def variableName (known : ConfigKey) : String := "latex_ast_" ++ known.table ++ "__" ++ known.name

def ofVariable? (known : ConfigKey) (entry : String × String) : Option PlainValue :=
  if lowercase entry.1 = known.variableName then some (known.ofText entry.2) else none

/-- What an entry of a document sets a key to. It is named as the whole key, or it is named as the table
and has a field with the name. -/
def ofItem? (known : ConfigKey) (entry : String × Toml.Item) : Option PlainValue :=
  if entry.1 = known.text then entry.2.plain?
  else if lowercase entry.1 = known.table then (entry.2.field? known.name).bind Toml.Item.plain?
  else none

end ConfigKey

namespace Files

def text? (files : Files) (path : String) : Option String :=
  match files path with
  | .ok (.text content) => some content
  | _ => none

/-- The text of the settings file with a name: of the file itself or else, where the name leads to no
file, of the one with the extension. -/
def settings? (files : Files) (name : String) : Option String :=
  match files name with
  | .ok (.text content) => some content
  | .ok .binary => none
  | _ => (names name).getLast?.bind fun last =>
    if last = ".." then none else files.text? (plain name ++ ".toml")

end Files

namespace Layer

/-- What a file or the environment sets a key to, by the last of its entries that set it. -/
def sets? (surroundings : Surroundings) (known : ConfigKey) : Layer → Option PlainValue
  | .file name _ => (surroundings.files.settings? name).bind fun content =>
    match Toml.parse content with
    | some (.table _ entries) => latest? known.ofItem? entries
    | _ => none
  | .environment => latest? known.ofVariable? surroundings.environment
  | .single _ _ => none

/-- What a single setting sets a key to. -/
def overrides? (known : ConfigKey) : Layer → Option PlainValue
  | .single key value => if key = known.text then value.plain? else none
  | _ => none

end Layer

/-- The value that decides a key: that of the last single setting of the key, or else of the last file
or environment that sets it, or else the built-in one. -/
def ConfigKey.chosen (surroundings : Surroundings) (layers : List Layer) (known : ConfigKey) :
    PlainValue :=
  ((latest? (Layer.overrides? known) layers).or
    (latest? (Layer.sets? surroundings known) layers)).getD known.builtin

/-! ### Clean layers -/

/-- A key that sets none of the four, nor anything in the place of the two tables or below the four. -/
def Foreign (key : String) : Prop :=
  '[' ∉ key.toList ∧ ∀ known : ConfigKey,
    match parts '.' key with
    | [] => True
    | [name] => lowercase name ≠ known.table
    | first :: second :: _ => ¬ (lowercase first = known.table ∧ lowercase second = known.name)

/-- An entry of a document that sets keys to values of the right type, or none. A table may have other
entries as well. -/
inductive CleanEntry : String × Toml.Item → Prop
  | whole (known : ConfigKey) (item : Toml.Item) (value : PlainValue)
      (plain : item.plain? = some value) (fits : known.Fits value) : CleanEntry (known.text, item)
  | table (known : ConfigKey) (name : String) (kind : Toml.TableKind) (entries : Toml.Entries)
      (named : lowercase name = known.table)
      (fits : ∀ other : ConfigKey, other.table = known.table → ∀ entry ∈ entries,
        lowercase entry.1 = other.name → ∃ value, entry.2.plain? = some value ∧ other.Fits value) :
      CleanEntry (name, .table kind entries)
  | foreign (key : String) (item : Toml.Item) (apart : Foreign key) : CleanEntry (key, item)

/-- A variable that sets one of the four keys to a value of its type, or none of them. One without the
marker sets nothing, whatever it is called. -/
inductive CleanVariable : String × String → Prop
  | known (known : ConfigKey) (name text : String) (named : lowercase name = known.variableName)
      (fits : known.Fits (known.ofText text)) : CleanVariable (name, text)
  | foreign (name text : String)
      (apart : ∀ rest, lowercase name = "latex_ast_" ++ rest →
        Foreign (String.ofList (Environment.dotted rest.toList))) : CleanVariable (name, text)

/-- A file that may be missing or is a document with clean entries, an environment with clean
variables, or a single setting of one of the four keys. -/
def Layer.Clean (surroundings : Surroundings) : Layer → Prop
  | .file name required =>
    match surroundings.files.settings? name with
    | none => required = false
    | some content => ∃ kind entries, Toml.parse content = some (.table kind entries) ∧
      ∀ entry ∈ entries, CleanEntry entry
  | .environment => ∀ entry ∈ surroundings.environment, CleanVariable entry
  | .single key value => ∃ (known : ConfigKey) (plain : PlainValue),
    key = known.text ∧ value.plain? = some plain ∧ known.Fits plain

/-! ### Steps and runs -/

namespace Setting

/-- At the four keys, one setting is another with what is given put over it. -/
def Updated (given : ConfigKey → Option PlainValue) (before after : Setting) : Prop :=
  ∀ known : ConfigKey, after.at? known = (given known).or (before.at? known)

theorem updated_same (root : Setting) : Updated (fun _ => none) root root := by
  intro known
  rfl

theorem Updated.trans {first second : ConfigKey → Option PlainValue} {before middle after : Setting}
    (early : Updated first before middle) (late : Updated second middle after) :
    Updated (fun known => (second known).or (first known)) before after := by
  intro known
  rw [late known, early known, Option.or_assoc]

/-- What is given at a key covers what would have been given there before it. -/
theorem Updated.covers {given : ConfigKey → Option PlainValue} {before after : Setting}
    (updated : Updated given before after) {covered : ConfigKey} (covers : (given covered).isSome)
    (plain : PlainValue) :
    Updated (fun known => (given known).or (if covered = known then some plain else none))
      before after := by
  intro known
  rw [updated known]
  by_cases same : covered = known
  · obtain ⟨value, found⟩ := Option.isSome_iff_exists.mp covers
    simp only [← same, found, Option.some_or]
  · simp only [if_neg same, Option.or_none]

/-- If every step updates by what it gives, a run updates by the last that is given. -/
theorem foldlM_updated {ε α : Type} {step : Setting → α → Except ε Setting}
    {gives : ConfigKey → α → Option PlainValue} {items : List α}
    (each : ∀ item ∈ items, ∀ root, ∃ after, step root item = .ok after ∧
      Updated (fun known => gives known item) root after) (root : Setting) :
    ∃ after, items.foldlM step root = .ok after ∧
      Updated (fun known => latest? (gives known) items) root after := by
  induction items generalizing root with
  | nil => exact ⟨root, rfl, updated_same root⟩
  | cons item rest ih =>
    obtain ⟨first, others⟩ := List.forall_mem_cons.mp each
    obtain ⟨middle, stepped, early⟩ := first root
    obtain ⟨after, ran, late⟩ := ih others middle
    refine ⟨after, ?_, ?_⟩
    · rw [List.foldlM_cons, stepped]
      exact ran
    · simp only [latest?_cons]
      exact early.trans late

/-- A value at a key gives the four keys plain values, and puts nothing in their way. -/
def Gives (key : String) (value : Setting) (given : ConfigKey → Option PlainValue) : Prop :=
  ∃ tree, spread? key value = some tree ∧ ∀ known : ConfigKey, tree.Spares known.path ∧
    (tree.given? known.path).map plain? = (given known).map some

theorem Gives.put {key : String} {value : Setting} {given : ConfigKey → Option PlainValue}
    (gives : Gives key value given) (root : Setting) :
    ∃ after, putKey key value root = .ok after ∧ Updated given root after := by
  obtain ⟨tree, spread, each⟩ := gives
  obtain ⟨after, put, gets⟩ := get?_putKey spread root
  refine ⟨after, put, ?_⟩
  intro known
  obtain ⟨spares, own⟩ := each known
  have found : after.get? known.path = (tree.given? known.path).or (root.get? known.path) :=
    gets _ _ spares
  rw [at?, found]
  cases gave : tree.given? known.path with
  | none =>
    rw [gave] at own
    rw [Option.map_eq_none_iff.mp own.symm]
    rfl
  | some setting =>
    rw [gave] at own
    obtain ⟨plain, put, same⟩ := Option.map_eq_some_iff.mp own.symm
    rw [put]
    exact same.symm

end Setting

/-! ### Single keys -/

theorem Setting.not_isTable {value : Setting} {plain : PlainValue} (viewed : value.plain? = some plain) :
    ¬ value.IsTable := by
  rintro ⟨origin, entries, rfl⟩
  cases viewed

namespace ConfigKey

def keyPath (known : ConfigKey) : KeyPath := ⟨known.table, [.child known.name]⟩

theorem parse_text (known : ConfigKey) : KeyPath.parse known.text = .ok known.keyPath := by
  cases known with
  | extensions => rfl
  | defaultPath => rfl
  | format => rfl
  | pretty => rfl

theorem text_inj {known other : ConfigKey} : known.text = other.text ↔ known = other := by
  cases known <;> cases other <;> decide

theorem name_inj {known other : ConfigKey} : known.name = other.name ↔ known = other := by
  cases known <;> cases other <;> decide

theorem keyPath_inj {known other : ConfigKey} : known.keyPath = other.keyPath ↔ known = other := by
  cases known <;> cases other <;> decide

theorem variableName_inj {known other : ConfigKey} :
    known.variableName = other.variableName ↔ known = other := by
  cases known <;> cases other <;> decide

theorem lowercase_table (known : ConfigKey) : lowercase known.table = known.table := by
  cases known <;> rfl

theorem lowercase_name (known : ConfigKey) : lowercase known.name = known.name := by
  cases known <;> rfl

theorem lowercase_text_ne (known other : ConfigKey) : lowercase known.text ≠ other.table := by
  cases known <;> cases other <;> decide

theorem spread_text (known : ConfigKey) (value : Setting) :
    Setting.spread? known.text value = some (.nest known.path value) := by
  rw [Setting.spread?, parse_text]
  rfl

theorem given?_path (known other : ConfigKey) (value : Setting) :
    (Setting.nest known.path value).given? other.path = if known = other then some value else none := by
  rw [path, path, Setting.given?_nest_cons, Setting.given?_nest_cons, lowercase_table, lowercase_name]
  by_cases same : known = other
  · rw [same, if_pos rfl, if_pos rfl, if_pos rfl]
    rfl
  · rw [if_neg same, if_neg (mt name_inj.mp same), ite_self]

theorem spares_path (known other : ConfigKey) {value : Setting} (plain : ¬ value.IsTable) :
    (Setting.nest known.path value).Spares other.path :=
  Setting.spares_nest_cons fun _ => Setting.spares_nest_cons fun _ => plain

theorem gives_text (known : ConfigKey) {value : Setting} {plain : PlainValue}
    (viewed : value.plain? = some plain) :
    Setting.Gives known.text value fun other => if known = other then some plain else none := by
  refine ⟨_, known.spread_text value, ?_⟩
  intro other
  refine ⟨known.spares_path other (Setting.not_isTable viewed), ?_⟩
  rw [given?_path]
  by_cases same : known = other
  · simp only [if_pos same, Option.map_some, viewed]
  · simp only [if_neg same, Option.map_none]

/-- No character of a table's name divides a key. -/
theorem clean_of_lowercase {known : ConfigKey} {name : String} (named : lowercase name = known.table) :
    '.' ∉ name.toList ∧ '[' ∉ name.toList := by
  have absent : '.' ∉ known.table.toList ∧ '[' ∉ known.table.toList := by
    cases known <;> decide
  constructor
  · intro member
    exact lowercase_ne (by decide) rfl member absent.1 named
  · intro member
    exact lowercase_ne (by decide) rfl member absent.2 named

theorem ofItem?_text (known other : ConfigKey) (item : Toml.Item) :
    other.ofItem? (known.text, item) = if known = other then item.plain? else none := by
  simp only [ofItem?, text_inj, if_neg (known.lowercase_text_ne other)]

theorem ofItem?_table {known : ConfigKey} {name : String} (named : lowercase name = known.table)
    (other : ConfigKey) (item : Toml.Item) :
    other.ofItem? (name, item) =
      if lowercase name = other.table then (item.field? other.name).bind Toml.Item.plain? else none := by
  have whole : name ≠ other.text := by
    rintro rfl
    exact other.lowercase_text_ne known named
  rw [ofItem?, if_neg whole]

end ConfigKey

/-! ### Entries of documents -/

namespace Foreign

variable {key : String}

theorem ne_table (foreign : Foreign key) (known : ConfigKey) : lowercase key ≠ known.table := by
  intro named
  have apart := foreign.2 known
  rw [parts_clean (ConfigKey.clean_of_lowercase named).1] at apart
  exact apart named

theorem ne_text (foreign : Foreign key) (known : ConfigKey) : key ≠ known.text := by
  rintro rfl
  have apart := foreign.2 known
  have names : parts '.' known.text = [known.table, known.name] := by
    cases known <;> decide
  rw [names] at apart
  exact apart ⟨known.lowercase_table, known.lowercase_name⟩

theorem ofItem?_none (foreign : Foreign key) (known : ConfigKey) (item : Toml.Item) :
    known.ofItem? (key, item) = none := by
  rw [ConfigKey.ofItem?, if_neg (foreign.ne_text known), if_neg (foreign.ne_table known)]

theorem gives (foreign : Foreign key) (value : Setting) :
    Setting.Gives key value fun _ => none := by
  rcases Setting.spread?_names foreign.1 value with spread | spread
  · refine ⟨_, spread, ?_⟩
    intro known
    have apart := foreign.2 known
    match parted : parts '.' key with
    | [] => exact absurd (List.map_eq_nil_iff.mp parted) (splitAt_ne_nil _ _)
    | [name] =>
      rw [parted] at apart
      refine ⟨Setting.spares_nest_cons fun same => absurd same apart, ?_⟩
      rw [ConfigKey.path, Setting.given?_nest_cons, if_neg apart]
      rfl
    | first :: second :: rest =>
      rw [parted] at apart
      constructor
      · apply Setting.spares_nest_cons
        intro same
        apply Setting.spares_nest_cons
        intro same'
        exact absurd ⟨same, same'⟩ apart
      · rw [ConfigKey.path, Setting.given?_nest_cons, Setting.given?_nest_cons]
        by_cases same : lowercase first = known.table
        · rw [if_pos same, if_neg fun same' => apart ⟨same, same'⟩]
          rfl
        · rw [if_neg same]
          rfl
  · refine ⟨_, spread, ?_⟩
    intro known
    have other := foreign.ne_table known
    refine ⟨Setting.spares_nest_cons fun same => absurd same other, ?_⟩
    rw [ConfigKey.path, Setting.given?_nest_cons, if_neg other]
    rfl

end Foreign

theorem Toml.Item.exists_of_field? {name : String} {kind : Toml.TableKind} {entries : Toml.Entries}
    {item : Toml.Item} (found : (Toml.Item.table kind entries).field? name = some item) :
    ∃ entry ∈ entries, lowercase entry.1 = name ∧ entry.2 = item := by
  obtain ⟨entry, member, given⟩ := exists_of_latest? found
  obtain ⟨hit, own⟩ := Option.ite_none_right_eq_some.mp given
  exact ⟨entry, member, hit, Option.some.inj own⟩

section

variable {name : String} {entries : Toml.Entries}
  (plain : ∀ entry ∈ entries, lowercase entry.1 = name → ∃ value, entry.2.plain? = some value)
  (kind : Toml.TableKind) (origin : Option String)

include plain

theorem Toml.Item.spares_table : ((table kind entries).setting origin).Spares [name] := by
  refine ⟨⟨_, _, rfl⟩, ?_⟩
  intro entry member hit
  rw [setting, Setting.asTable, entrySettings_eq_map] at member
  obtain ⟨own, inside, rfl⟩ := List.mem_map.mp member
  obtain ⟨value, viewed⟩ := plain own inside hit
  exact Setting.not_isTable (by rw [setting_plain?, viewed])

theorem Toml.Item.given?_table :
    (((table kind entries).setting origin).given? [name]).map Setting.plain? =
      (((table kind entries).field? name).bind plain?).map some := by
  have found : ((table kind entries).setting origin).given? [name] =
      ((table kind entries).field? name).map (setting origin) := by
    rw [setting, Setting.given?, Setting.asTable, entrySettings_eq_map, latest?_map, field?,
      map_latest?]
    congr 1
    funext entry
    by_cases same : lowercase entry.1 = name
    · simp [same, Setting.given?]
    · simp [same]
  rw [found]
  cases last : (table kind entries).field? name with
  | none => rfl
  | some item =>
    obtain ⟨entry, member, hit, rfl⟩ := exists_of_field? last
    obtain ⟨value, viewed⟩ := plain entry member hit
    simp only [Option.map_some, Option.bind_some, setting_plain?, viewed]

end

namespace CleanEntry

theorem gives_table {known : ConfigKey} {name : String} {entries : Toml.Entries}
    (named : lowercase name = known.table)
    (fits : ∀ other : ConfigKey, other.table = known.table → ∀ entry ∈ entries,
      lowercase entry.1 = other.name → ∃ value, entry.2.plain? = some value ∧ other.Fits value)
    (kind : Toml.TableKind) (origin : Option String) :
    Setting.Gives name ((Toml.Item.table kind entries).setting origin)
      fun other => other.ofItem? (name, .table kind entries) := by
  obtain ⟨point, bracket⟩ := ConfigKey.clean_of_lowercase named
  refine ⟨_, Setting.spread?_clean point bracket _, ?_⟩
  intro other
  have plain (same : lowercase name = other.table) : ∀ entry ∈ entries,
      lowercase entry.1 = other.name → ∃ value, entry.2.plain? = some value := by
    intro entry member hit
    obtain ⟨value, viewed, -⟩ := fits other (same.symm.trans named) entry member hit
    exact ⟨value, viewed⟩
  constructor
  · apply Setting.spares_nest_cons
    intro same
    exact Toml.Item.spares_table (plain same) kind origin
  · simp only [ConfigKey.ofItem?_table named]
    rw [ConfigKey.path, Setting.given?_nest_cons, Setting.nest]
    by_cases same : lowercase name = other.table
    · rw [if_pos same, if_pos same]
      exact Toml.Item.given?_table (plain same) kind origin
    · rw [if_neg same, if_neg same]
      rfl

theorem gives {entry : String × Toml.Item} (clean : CleanEntry entry) (origin : Option String) :
    Setting.Gives entry.1 (entry.2.setting origin) fun known => known.ofItem? entry := by
  cases clean with
  | whole known item value plain fits =>
    simp only [known.ofItem?_text, plain]
    exact known.gives_text (by rw [Toml.Item.setting_plain?, plain])
  | table known name kind entries named fits => exact gives_table named fits kind origin
  | foreign key item apart =>
    simp only [apart.ofItem?_none]
    exact apart.gives _

end CleanEntry

/-! ### Variables -/

theorem ConfigKey.key?_of_named {known : ConfigKey} {name : String}
    (named : lowercase name = known.variableName) : Environment.key? name = some known.text := by
  unfold Environment.key?
  rw [named]
  cases known <;> decide

theorem Environment.key?_eq_some {name key : String} (read : Environment.key? name = some key) :
    ∃ rest, lowercase name = "latex_ast_" ++ rest ∧ key = String.ofList (dotted rest.toList) := by
  obtain ⟨marked, same⟩ := Option.ite_none_right_eq_some.mp read
  obtain ⟨rest, whole⟩ := List.isPrefixOf_iff_prefix.mp marked
  refine ⟨String.ofList rest, ?_, ?_⟩
  · apply String.toList_inj.mp
    simp [← whole, marker]
  · rw [← Option.some.inj same, ← whole, String.toList_ofList, ← String.length_toList,
      List.drop_left]

theorem Foreign.of_key? {name key : String}
    (apart : ∀ rest, lowercase name = "latex_ast_" ++ rest →
      Foreign (String.ofList (Environment.dotted rest.toList)))
    (read : Environment.key? name = some key) : Foreign key := by
  obtain ⟨rest, named, rfl⟩ := Environment.key?_eq_some read
  exact apart rest named

/-- A variable changes what it sets itself, if it is one of settings at all. -/
theorem CleanVariable.put {entry : String × String} (clean : CleanVariable entry) (root : Setting) :
    ∃ after : Setting, (match Environment.key? entry.1 with
        | some key => Setting.putKey key (Environment.setting key entry.2) root
        | none => .ok root) = .ok after ∧
      Setting.Updated (fun known => known.ofVariable? entry) root after := by
  cases clean with
  | known known name text named fits =>
    have given : (fun other : ConfigKey => other.ofVariable? (name, text)) =
        fun other => if known = other then some (known.ofText text) else none := by
      funext other
      simp only [ConfigKey.ofVariable?, named, ConfigKey.variableName_inj]
      by_cases same : known = other
      · rw [if_pos same, if_pos same, same]
      · rw [if_neg same, if_neg same]
    simp only [ConfigKey.key?_of_named named, given]
    exact (known.gives_text (Environment.setting_plain? known text)).put root
  | foreign name text apart =>
    have given : (fun known : ConfigKey => known.ofVariable? (name, text)) = fun _ => none := by
      funext known
      refine if_neg fun named => ?_
      exact (Foreign.of_key? apart (ConfigKey.key?_of_named named)).ne_text known rfl
    rw [given]
    cases read : Environment.key? name with
    | none => exact ⟨root, rfl, Setting.updated_same root⟩
    | some key => exact ((Foreign.of_key? apart read).gives _).put root

theorem Environment.put_updated {environment : Environment}
    (clean : ∀ entry ∈ environment, CleanVariable entry) (root : Setting) :
    ∃ after, environment.put root = .ok after ∧
      Setting.Updated (fun known => latest? known.ofVariable? environment) root after := by
  apply Setting.foldlM_updated
  intro entry member root
  exact (clean entry member).put root

/-! ### Layers -/

namespace Layer

variable {surroundings : Surroundings} {layers : List Layer}

theorem readFile_text? {files : Files} {name path : String}
    (found : resolve files name = if files.isFile path then some path else none) :
    (readFile files name).toOption.map Prod.snd = files.text? path := by
  rw [readFile, found, Files.text?]
  cases own : files path with
  | error error =>
    simp only [Files.isFile, own]
    rfl
  | ok entry =>
    cases entry with
    | text | binary | device | directory =>
      simp only [Files.isFile, Files.read, own, if_true]
      rfl

theorem settings?_eq (files : Files) (name : String) :
    files.settings? name =
      if files.isFile name then files.text? name
      else (Files.names name).getLast?.bind fun last =>
        if last = ".." then none else files.text? (Files.plain name ++ ".toml") := by
  cases own : files name with
  | error error => simp [Files.settings?, Files.isFile, own]
  | ok entry =>
    cases entry with
    | text | binary | device | directory =>
      simp [Files.settings?, Files.isFile, Files.text?, own]

/-- A file is read as the text that there is for its name. -/
theorem readFile_settings? (files : Files) (name : String) :
    (readFile files name).toOption.map Prod.snd = files.settings? name := by
  rw [settings?_eq]
  by_cases own : files.isFile name
  · have resolved : resolve files name = if files.isFile name then some name else none := by
      rw [resolve, if_pos own, if_pos own]
    rw [readFile_text? resolved, if_pos own]
  · rw [if_neg own]
    have resolved : resolve files name = (extended? name).filter files.isFile := by
      rw [resolve, if_neg own]
    unfold extended? at resolved
    cases last : (Files.names name).getLast? with
    | none =>
      rw [last] at resolved
      rw [readFile, resolved]
      rfl
    | some last' =>
      rw [last] at resolved
      by_cases above : last' = ".."
      · simp only [if_pos above] at resolved
        rw [readFile, resolved, Option.bind_some, if_pos above]
        rfl
      · simp only [if_neg above] at resolved
        rw [Option.bind_some, if_neg above]
        exact readFile_text? resolved

theorem readFile_of_some {files : Files} {name content : String}
    (found : files.settings? name = some content) :
    ∃ origin, readFile files name = .ok (origin, content) := by
  rw [← readFile_settings?] at found
  cases read : readFile files name with
  | error error =>
    rw [read] at found
    cases found
  | ok text =>
    rw [read] at found
    obtain rfl := Option.some.inj found
    exact ⟨text.1, rfl⟩

theorem readFile_of_none {files : Files} {name : String} (absent : files.settings? name = none) :
    ∃ error, readFile files name = .error error := by
  rw [← readFile_settings?] at absent
  cases read : readFile files name with
  | error error => exact ⟨error, rfl⟩
  | ok text =>
    rw [read] at absent
    cases absent

theorem putEntries_updated {entries : Toml.Entries} (clean : ∀ entry ∈ entries, CleanEntry entry)
    (origin : String) (root : Setting) :
    ∃ after, putEntries origin entries root = .ok after ∧
      Setting.Updated (fun known => latest? known.ofItem? entries) root after := by
  apply Setting.foldlM_updated
  intro entry member root
  exact ((clean entry member).gives (some origin)).put root

theorem put_updated {layer : Layer} (clean : layer.Clean surroundings) (root : Setting) :
    ∃ after, layer.put surroundings root = .ok after ∧
      Setting.Updated (fun known => layer.sets? surroundings known) root after := by
  cases layer with
  | single key value => exact ⟨root, rfl, Setting.updated_same root⟩
  | environment =>
    obtain ⟨after, ran, updated⟩ := Environment.put_updated clean root
    refine ⟨after, ?_, updated⟩
    rw [put, ran]
    rfl
  | file name required =>
    cases text : surroundings.files.settings? name with
    | none =>
      have optional : required = false := by simpa only [Clean, text] using clean
      obtain ⟨error, read⟩ := readFile_of_none text
      refine ⟨root, ?_, ?_⟩
      · simp [put, putFile, read, optional]
      · simpa only [sets?, text, Option.bind_none] using Setting.updated_same root
    | some content =>
      simp only [Clean, text] at clean
      obtain ⟨kind, entries, parsed, each⟩ := clean
      obtain ⟨origin, read⟩ := readFile_of_some text
      obtain ⟨after, ran, updated⟩ := putEntries_updated each origin root
      refine ⟨after, ?_, ?_⟩
      · simp only [put, putFile, read, parsed, ran]
        rfl
      · simpa only [sets?, text, Option.bind_some, parsed] using updated

end Layer

/-! ### Single settings -/

namespace Layer

variable {surroundings : Surroundings} {layers : List Layer}

theorem singles_cons (known : ConfigKey) (value : Setting) {singles : List (KeyPath × Setting)}
    (rest : Layer.singles layers = .ok singles) :
    Layer.singles (.single known.text value :: layers) = .ok ((known.keyPath, value) :: singles) := by
  unfold Layer.singles at rest ⊢
  rw [List.filterMap_cons_some (by rfl), List.mapM_cons, rest]
  simp only [known.parse_text]
  rfl

theorem put_text (known : ConfigKey) (value root : Setting) :
    Setting.putKey known.text value root = known.keyPath.put value root := by
  rw [Setting.putKey, known.parse_text]

theorem overrides?_text (known other : ConfigKey) {value : Setting} {plain : PlainValue}
    (viewed : value.plain? = some plain) :
    overrides? other (.single known.text value) = if known = other then some plain else none := by
  simp only [overrides?, ConfigKey.text_inj, viewed]

/-- Single settings come last, and of several for one key only the last is put on. -/
theorem putSingles_updated (clean : ∀ layer ∈ layers, layer.Clean surroundings) :
    ∃ singles, Layer.singles layers = .ok singles ∧
      (∀ known : ConfigKey, singles.any (·.1 = known.keyPath) →
        (latest? (overrides? known) layers).isSome) ∧
      ∀ root, ∃ after, Layer.putSingles root singles = .ok after ∧
        Setting.Updated (fun known => latest? (overrides? known) layers) root after := by
  induction layers with
  | nil => exact ⟨[], rfl, by simp, fun root => ⟨root, rfl, Setting.updated_same root⟩⟩
  | cons layer rest ih =>
    obtain ⟨own, others⟩ := List.forall_mem_cons.mp clean
    obtain ⟨singles, parsed, listed, run⟩ := ih others
    simp only [latest?_cons]
    cases layer with
    | file _ _ | environment =>
      simp only [overrides?, Option.or_none]
      exact ⟨singles, parsed, listed, run⟩
    | single key value =>
      obtain ⟨known, plain, rfl, viewed, fits⟩ := own
      simp only [overrides?_text known _ viewed]
      refine ⟨_, singles_cons known value parsed, ?_, ?_⟩
      · intro other met
        rw [List.any_cons, Bool.or_eq_true, decide_eq_true_eq] at met
        rcases met with same | later
        · simp [ConfigKey.keyPath_inj.mp same]
        · simp [listed other later]
      · intro root
        by_cases again : singles.any (·.1 = known.keyPath)
        · -- A later setting of the key stands in for this one.
          obtain ⟨after, ran, updated⟩ := run root
          refine ⟨after, ?_, updated.covers (listed known again) plain⟩
          rw [putSingles, lastOfEach, if_pos again]
          exact ran
        · obtain ⟨middle, put, early⟩ := (known.gives_text viewed).put root
          obtain ⟨after, ran, late⟩ := run middle
          refine ⟨after, ?_, early.trans late⟩
          rw [putSingles, lastOfEach, if_neg again, List.foldlM_cons, ← put_text, put]
          exact ran

end Layer

/-! ### The settings of all layers -/

theorem CleanEntry.fits {entry : String × Toml.Item} (clean : CleanEntry entry) {known : ConfigKey}
    {value : PlainValue} (given : known.ofItem? entry = some value) : known.Fits value := by
  cases clean with
  | whole own item plain viewed fits =>
    rw [own.ofItem?_text] at given
    obtain ⟨rfl, same⟩ := Option.ite_none_right_eq_some.mp given
    obtain rfl := Option.some.inj (viewed.symm.trans same)
    exact fits
  | table own name kind entries named fits =>
    rw [ConfigKey.ofItem?_table named] at given
    obtain ⟨same, given⟩ := Option.ite_none_right_eq_some.mp given
    obtain ⟨item, field, viewed⟩ := Option.bind_eq_some_iff.mp given
    obtain ⟨entry, member, hit, rfl⟩ := Toml.Item.exists_of_field? field
    obtain ⟨plain, own, fits⟩ := fits known (same.symm.trans named) entry member hit
    obtain rfl := Option.some.inj (own.symm.trans viewed)
    exact fits
  | foreign key item apart =>
    rw [apart.ofItem?_none] at given
    cases given

theorem CleanVariable.fits {entry : String × String} (clean : CleanVariable entry) {known : ConfigKey}
    {value : PlainValue} (given : known.ofVariable? entry = some value) : known.Fits value := by
  obtain ⟨hit, same⟩ := Option.ite_none_right_eq_some.mp given
  obtain rfl := Option.some.inj same
  cases clean with
  | known own name text named fits =>
    obtain rfl := ConfigKey.variableName_inj.mp (named.symm.trans hit)
    exact fits
  | foreign name text apart =>
    exact absurd rfl ((Foreign.of_key? apart (ConfigKey.key?_of_named hit)).ne_text known)

theorem ConfigKey.builtin_fits (known : ConfigKey) : known.Fits known.builtin := by
  refine ⟨⟨⟨[], "<latex>"⟩, ⟨.json, true⟩⟩, ?_⟩
  cases known with
  | extensions => exact .extensions [] .nil
  | defaultPath => exact .defaultPath _ (.text "<latex>")
  | format => exact .format "json" rfl
  | pretty => exact .pretty _ (.bool true)

namespace Layer

variable {surroundings : Surroundings} {layer : Layer} {known : ConfigKey} {value : PlainValue}

theorem sets?_fits (clean : layer.Clean surroundings)
    (given : layer.sets? surroundings known = some value) : known.Fits value := by
  cases layer with
  | single key value => cases given
  | environment =>
    obtain ⟨entry, member, given⟩ := exists_of_latest? given
    exact (clean entry member).fits given
  | file name required =>
    obtain ⟨content, text, given⟩ := Option.bind_eq_some_iff.mp given
    simp only [Clean, text] at clean
    obtain ⟨kind, entries, parsed, each⟩ := clean
    simp only [parsed] at given
    obtain ⟨entry, member, given⟩ := exists_of_latest? given
    exact (each entry member).fits given

theorem overrides?_fits (clean : layer.Clean surroundings)
    (given : layer.overrides? known = some value) : known.Fits value := by
  cases layer with
  | file _ _ | environment => cases given
  | single key setting =>
    obtain ⟨own, plain, rfl, viewed, fits⟩ := clean
    rw [overrides?_text own known viewed] at given
    obtain ⟨rfl, same⟩ := Option.ite_none_right_eq_some.mp given
    rw [← Option.some.inj same]
    exact fits

end Layer

section

variable {surroundings : Surroundings} {layers : List Layer}
  (clean : ∀ layer ∈ layers, layer.Clean surroundings)

include clean

theorem Config.settings_chosen :
    ∃ root, Config.settings surroundings layers = .ok root ∧
      ∀ known : ConfigKey, root.at? known = some (known.chosen surroundings layers) := by
  have each : ∀ layer ∈ layers, ∀ root, ∃ after, Layer.put surroundings root layer = .ok after ∧
      Setting.Updated (fun known => layer.sets? surroundings known) root after :=
    fun layer member root => Layer.put_updated (clean layer member) root
  obtain ⟨singles, parsed, -, putSingles⟩ := Layer.putSingles_updated clean
  obtain ⟨middle, ran, early⟩ := Setting.foldlM_updated each Config.defaultSettings
  obtain ⟨root, put, late⟩ := putSingles middle
  refine ⟨root, ?_, ?_⟩
  · simp only [settings, parsed, ran, put, bind, Except.bind]
    rfl
  · intro known
    have builtin : Config.defaultSettings.at? known = some known.builtin := by
      cases known <;> rfl
    rw [(early.trans late) known, builtin, Option.or_some]
    rfl

theorem ConfigKey.chosen_fits (known : ConfigKey) : known.Fits (known.chosen surroundings layers) := by
  unfold chosen
  cases last : latest? (Layer.overrides? known) layers with
  | some value =>
    obtain ⟨layer, member, given⟩ := exists_of_latest? last
    exact Layer.overrides?_fits (clean layer member) given
  | none =>
    cases last : latest? (Layer.sets? surroundings known) layers with
    | some value =>
      obtain ⟨layer, member, given⟩ := exists_of_latest? last
      exact Layer.sets?_fits (clean layer member) given
    | none => exact known.builtin_fits

end

namespace Specimen

def document : String :=
  "[processor]\nextensions = [\"cls\"]\ndefault_file_path = \"paper.tex\"\n[output]\nformat = \"json\"\n"

def surroundings : Surroundings where
  files path := if path = "latex.toml" then .ok (.text document) else .error .missing
  environment := [("LATEX_AST_OUTPUT__PRETTY", "off"), ("HOME", "/"),
    ("LATEX_AST_PROCESSOR__EXTENSIONS", "tex,sty")]

/-- The single settings stand before the file that sets the same key. -/
def layers : List Layer :=
  [.single "output.format" (.scalar none (.text "json")),
    .single "output.format" (.scalar none (.text "Outline")), .file "latex" true,
    .file "absent" false, .environment]

theorem settings_latex : surroundings.files.settings? "latex" = some document := rfl

theorem settings_absent : surroundings.files.settings? "absent" = none := rfl

theorem parse_document : Toml.parse document = some (.table .defined
    [("processor", .table .defined [("extensions", .list [.scalar (.text "cls")]),
        ("default_file_path", .scalar (.text "paper.tex"))]),
      ("output", .table .defined [("format", .scalar (.text "json"))])]) := by rfl

theorem extensions_fit (texts : List String) : ConfigKey.Fits .extensions (.list (texts.map .text)) :=
  ⟨⟨⟨texts, ""⟩, ⟨.json, true⟩⟩, .extensions _ (Scalar.spells_texts texts)⟩

theorem path_fits (text : String) : ConfigKey.Fits .defaultPath (.scalar (.text text)) :=
  ⟨⟨⟨[], text⟩, ⟨.json, true⟩⟩, .defaultPath _ (.text text)⟩

theorem format_fits {name : String} (format : OutputFormat) (named : lowercase name = format.name) :
    ConfigKey.Fits .format (.scalar (.text name)) :=
  ⟨⟨default, ⟨format, true⟩⟩, .format name named⟩

/-- A table whose entries have the names of keys in lower case. -/
theorem table_clean (known : ConfigKey) {entries : Toml.Entries} (kind : Toml.TableKind)
    (each : ∀ entry ∈ entries, ∃ (own : ConfigKey) (value : PlainValue),
      entry.1 = own.name ∧ entry.2.plain? = some value ∧ own.Fits value) :
    CleanEntry (known.table, .table kind entries) := by
  refine .table known _ kind entries known.lowercase_table ?_
  intro other _ entry member hit
  obtain ⟨own, value, named, viewed, fits⟩ := each entry member
  rw [named, own.lowercase_name, ConfigKey.name_inj] at hit
  exact ⟨value, viewed, hit ▸ fits⟩

theorem file_clean : Layer.Clean surroundings (.file "latex" true) := by
  simp only [Layer.Clean, settings_latex]
  refine ⟨_, _, parse_document, ?_⟩
  simp only [List.forall_mem_cons, List.not_mem_nil, false_implies, implies_true, and_true]
  constructor
  · refine table_clean .extensions _ ?_
    simp only [List.forall_mem_cons, List.not_mem_nil, false_implies, implies_true, and_true]
    exact ⟨⟨.extensions, _, rfl, rfl, extensions_fit ["cls"]⟩,
      ⟨.defaultPath, _, rfl, rfl, path_fits "paper.tex"⟩⟩
  · refine table_clean .format _ ?_
    simp only [List.forall_mem_cons, List.not_mem_nil, false_implies, implies_true, and_true]
    exact ⟨.format, _, rfl, rfl, format_fits .json rfl⟩

theorem environment_clean : Layer.Clean surroundings .environment := by
  simp only [Layer.Clean, surroundings, List.forall_mem_cons, List.not_mem_nil, false_implies,
    implies_true, and_true]
  refine ⟨.known .pretty _ _ rfl ?_, .foreign _ _ ?_, .known .extensions _ _ rfl ?_⟩
  · exact ⟨⟨default, ⟨.json, false⟩⟩, .pretty _ (.no "off" (by decide))⟩
  · intro rest named
    have home : lowercase "HOME" = "home" := rfl
    have letters := congrArg String.toList (home.symm.trans named)
    simp at letters
  · exact extensions_fit ["tex", "sty"]

theorem layers_clean : ∀ layer ∈ layers, layer.Clean surroundings := by
  simp only [layers, List.forall_mem_cons, List.not_mem_nil, false_implies, implies_true, and_true]
  refine ⟨⟨.format, _, rfl, rfl, format_fits .json rfl⟩,
    ⟨.format, _, rfl, rfl, format_fits .outline rfl⟩, file_clean, ?_, environment_clean⟩
  simp only [Layer.Clean, settings_absent]

theorem chosen_defaultPath :
    ConfigKey.chosen surroundings layers .defaultPath = .scalar (.text "paper.tex") := by
  have file : Layer.sets? surroundings .defaultPath (.file "latex" true) =
      some (.scalar (.text "paper.tex")) := by
    simp only [Layer.sets?, settings_latex, Option.bind_some, parse_document]
    rfl
  have absent : Layer.sets? surroundings .defaultPath (.file "absent" false) = none := by
    simp only [Layer.sets?, settings_absent, Option.bind_none]
  have environment : Layer.sets? surroundings .defaultPath .environment = none := by rfl
  have single : latest? (Layer.overrides? .defaultPath) layers = none := by rfl
  have set : latest? (Layer.sets? surroundings .defaultPath) layers =
      some (.scalar (.text "paper.tex")) := by
    simp only [layers, latest?_cons, latest?_nil, file, absent, environment, Option.or_none,
      Option.none_or]
    rfl
  rw [ConfigKey.chosen, single, set]
  rfl

end Specimen

end LatexTree
