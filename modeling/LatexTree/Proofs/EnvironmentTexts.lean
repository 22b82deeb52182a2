import LatexTree.Proofs.Layering
import Mathlib.Data.List.TakeWhile

/-! Texts that come from the environment.

A variable is first tried as a boolean, an integer and a real number. A text that spells one of these is
written anew when it is read as a text, and is no list. A comma stands in no such spelling, so that a
list of two or more items is always read as it was joined. -/
namespace LatexTree

/-! ### What scalars are spelled with -/

def NumeralChar (c : Char) : Prop := c.isDigit = true ∨ c ∈ ['+', '-', '.', 'e', 'E']

instance (c : Char) : Decidable (NumeralChar c) := inferInstanceAs (Decidable (_ ∨ _))

namespace RealValue

theorem mem_signed {text : List Char} {c : Char} (member : c ∈ text) :
    NumeralChar c ∨ c ∈ (signed text).2 := by
  have sign : NumeralChar '+' ∧ NumeralChar '-' := by decide
  unfold signed
  split
  · rcases List.mem_cons.mp member with rfl | member
    · exact .inl sign.1
    · exact .inr member
  · rcases List.mem_cons.mp member with rfl | member
    · exact .inl sign.2
    · exact .inr member
  · exact .inr member

theorem exponent?_chars {text : List Char} {exponent : Int} (read : exponent? text = some exponent) :
    ∀ c ∈ text, NumeralChar c := by
  cases text with
  | nil => simp
  | cons mark rest =>
    simp only [exponent?] at read
    split at read
    · next spelled =>
      obtain ⟨letter, _, digits⟩ := spelled
      intro c member
      rcases List.mem_cons.mp member with rfl | member
      · rcases letter with rfl | rfl <;> simp [NumeralChar]
      · rcases mem_signed member with numeral | digit
        · exact numeral
        · exact .inl (List.all_eq_true.mp digits c digit)
    · cases read

theorem mem_dropWhile_digits {text : List Char} {c : Char} (member : c ∈ text) :
    NumeralChar c ∨ c ∈ text.dropWhile Char.isDigit := by
  rw [← List.takeWhile_append_dropWhile (p := Char.isDigit) (l := text), List.mem_append] at member
  rcases member with digit | rest
  · exact .inl (.inl (List.mem_takeWhile_imp digit))
  · exact .inr rest

theorem unsigned?_chars {negative : Bool} {text : List Char} {value : RealValue}
    (read : unsigned? negative text = some value) : ∀ c ∈ text, NumeralChar c := by
  intro c member
  rcases mem_dropWhile_digits member with numeral | member
  · exact numeral
  simp only [unsigned?] at read
  split at read
  · next rest point =>
    rw [point] at member
    rcases List.mem_cons.mp member with rfl | member
    · simp [NumeralChar]
    rcases mem_dropWhile_digits member with numeral | member
    · exact numeral
    obtain ⟨_, read⟩ := Option.ite_none_left_eq_some.mp read
    obtain ⟨exponent, parsed, _⟩ := Option.map_eq_some_iff.mp read
    exact exponent?_chars parsed c member
  · obtain ⟨_, read⟩ := Option.ite_none_left_eq_some.mp read
    obtain ⟨exponent, parsed, _⟩ := Option.map_eq_some_iff.mp read
    exact exponent?_chars parsed c member

theorem comma_of_parse? {text : String} {value : RealValue} (read : parse? text = some value) :
    ',' ∉ text.toList := by
  intro comma
  have inside : ',' ∈ (signed text.toList).2 :=
    (mem_signed comma).resolve_left (by decide)
  have lowered : ',' ∈ (String.ofList ((signed text.toList).2.map Char.toLower)).toList := by
    rw [String.toList_ofList]
    exact List.mem_map.mpr ⟨',', inside, rfl⟩
  simp only [parse?] at read
  split at read
  · next word => rcases word with word | word <;> rw [word] at lowered <;> exact absurd lowered (by decide)
  · split at read
    · next word => rw [word] at lowered; exact absurd lowered (by decide)
    · exact absurd (unsigned?_chars read ',' inside) (by decide)

end RealValue

namespace Environment

theorem comma_of_integer? {text : String} {value : Int} (read : integer? text = some value) :
    ',' ∉ text.toList := by
  intro comma
  have inside : ',' ∈ (RealValue.signed text.toList).2 :=
    (RealValue.mem_signed comma).resolve_left (by decide)
  simp only [integer?] at read
  obtain ⟨digits, _⟩ := Option.ite_none_left_eq_some.mp read
  simp only [not_or, Bool.not_eq_true, Bool.not_eq_false', List.all_eq_true] at digits
  exact absurd (digits.2 ',' inside) (by decide)

theorem scalar?_comma {text : String} (comma : ',' ∈ text.toList) : scalar? text = none := by
  have yes : lowercase text ≠ "true" := lowercase_ne (by decide) rfl comma (by decide)
  have no : lowercase text ≠ "false" := lowercase_ne (by decide) rfl comma (by decide)
  have integer : integer? text = none := by
    cases read : integer? text with
    | none => rfl
    | some value => exact absurd comma (comma_of_integer? read)
  have real : RealValue.parse? text = none := by
    cases read : RealValue.parse? text with
    | none => rfl
    | some value => exact absurd comma (RealValue.comma_of_parse? read)
  rw [scalar?, if_neg yes, if_neg no, integer, real]
  rfl

end Environment

/-! ### Lists -/

theorem splitAt_intercalate {mark : Char} {items : List (List Char)} (given : items ≠ [])
    (clean : ∀ item ∈ items, mark ∉ item) :
    splitAt mark ([mark].intercalate items) = items := by
  induction items with
  | nil => exact absurd rfl given
  | cons item rest ih =>
    obtain ⟨own, others⟩ := List.forall_mem_cons.mp clean
    cases rest with
    | nil => simpa using splitAt_clean own
    | cons next rest =>
      rw [List.intercalate_cons_cons, List.append_assoc, List.singleton_append, splitAt_mark own,
        ih (List.cons_ne_nil _ _) others]

theorem parts_intercalate {items : List String} (given : items ≠ [])
    (clean : ∀ item ∈ items, ',' ∉ item.toList) : parts ',' (",".intercalate items) = items := by
  have comma : ",".toList = [','] := rfl
  rw [parts, String.toList_intercalate, comma, splitAt_intercalate (by simpa using given)
    (by simpa using clean), List.map_map]
  simp [Function.comp_def]

namespace Environment

def pathVariable : String := "LATEX_AST_PROCESSOR__DEFAULT_FILE_PATH"

def listVariable : String := "LATEX_AST_PROCESSOR__EXTENSIONS"

theorem key?_pathVariable : key? pathVariable = some (ConfigKey.text .defaultPath) := by
  decide

theorem key?_listVariable : key? listVariable = some (ConfigKey.text .extensions) := by
  decide

/-- Of all variables only the one with the name is a setting. -/
def Sets (environment : Environment) (name value : String) : Prop :=
  (environment.filter fun entry => (key? entry.1).isSome) = [(name, value)]

theorem put_filter (environment : Environment) (root : Setting) :
    put (environment.filter fun entry => (key? entry.1).isSome) root = environment.put root := by
  unfold put
  rw [List.foldlM_filter]
  refine congrArg (fun step => environment.foldlM step root) ?_
  funext root entry
  cases named : key? entry.1 with
  | none => simp [named]; rfl
  | some key => simp [named]

theorem Sets.put {environment : Environment} {name value key : String}
    (sets : environment.Sets name value) (named : key? name = some key) (root : Setting) :
    environment.put root = Setting.putKey key (setting key value) root := by
  rw [← put_filter, sets]
  simp only [Environment.put, List.foldlM_cons, List.foldlM_nil, named]
  cases Setting.putKey key (setting key value) root <;> rfl

end Environment

/-! ### Texts that are kept -/

namespace Environment

theorem scalar?_cases {text : String} {scalar : Scalar} (found : scalar? text = some scalar) :
    (∃ value, scalar = .bool value) ∨ (∃ value, integer? text = some value ∧ scalar = .int value) ∨
      ∃ value, scalar = .real value := by
  unfold scalar? at found
  split at found
  · exact .inl ⟨true, (Option.some.inj found).symm⟩
  · split at found
    · exact .inl ⟨false, (Option.some.inj found).symm⟩
    · rcases Option.or_eq_some_iff.mp found with made | ⟨_, made⟩
      · obtain ⟨value, read, rfl⟩ := Option.map_eq_some_iff.mp made
        exact .inr (.inl ⟨value, read, rfl⟩)
      · obtain ⟨value, _, rfl⟩ := Option.map_eq_some_iff.mp made
        exact .inr (.inr ⟨value, rfl⟩)

/-- The text that a text from the environment is read as. -/
def respelled (text : String) : String :=
  match scalar? text with
  | some (.bool value) => if value then "true" else "false"
  | some (.int value) => s!"{value}"
  | some (.real value) => value.text RealValue.plainLayout
  | _ => text

theorem readText_setting {key : String} (single : key ≠ listKey) (text : String) :
    Config.readText key (setting key text) = .ok (respelled text) := by
  unfold setting respelled
  cases found : scalar? text with
  | none => simp [Config.readText, single]
  | some scalar =>
    obtain ⟨value, rfl⟩ | ⟨value, _, rfl⟩ | ⟨value, rfl⟩ := scalar?_cases found
    · rfl
    · rfl
    · rfl

theorem integer?_fits {text : String} {value : Int} (read : integer? text = some value) :
    -Int.pow 2 63 ≤ value ∧ value < Int.pow 2 63 := by
  simp only [integer?] at read
  obtain ⟨_, read⟩ := Option.ite_none_left_eq_some.mp read
  obtain ⟨fits, same⟩ := Option.ite_none_right_eq_some.mp read
  rw [← Option.some.inj same]
  exact fits

/-- What the environment keeps: texts that spell no scalar, and the spellings that scalars are given. -/
inductive Kept : String → Prop
  | text (text : String) (plain : scalar? text = none) : Kept text
  | bool (value : Bool) : Kept (if value then "true" else "false")
  | int (value : Int) (fits : -Int.pow 2 63 ≤ value ∧ value < Int.pow 2 63) : Kept (toString value)
  | real (value : RealValue)
      (spelled : scalar? (value.text RealValue.plainLayout) = some (.real value)) :
      Kept (value.text RealValue.plainLayout)

end Environment

theorem toList_toString (value : Int) :
    (toString value).toList = (if value < 0 then ['-'] else []) ++ Nat.toDigits 10 value.natAbs := by
  cases value with
  | ofNat n => exact Nat.toList_repr
  | negSucc n =>
    rw [Int.toString_eq_repr, Int.repr, String.toList_append, Nat.toList_repr,
      if_pos (Int.negSucc_lt_zero n)]
    rfl

theorem caseless_of_isDigit {c : Char} (digit : c.isDigit = true) :
    c.toNat < 0x80 ∧ c.toLower = c := by
  simp only [Char.isDigit, Bool.and_eq_true, decide_eq_true_eq] at digit
  have low : c.val.toNat ≤ 57 := UInt32.le_iff_toNat_le.mp digit.2
  constructor
  · change c.val.toNat < 0x80
    omega
  · refine dif_neg ?_
    intro upper
    have high : 65 ≤ c.val.toNat := UInt32.le_iff_toNat_le.mp upper.1
    omega

theorem isDigit_of_mem {n : Nat} {c : Char} (member : c ∈ Nat.toDigits 10 n) : c.isDigit = true :=
  Nat.isDigit_of_mem_toDigits (by decide) (by decide) member

theorem digitsValue_toDigits (n : Nat) : digitsValue (Nat.toDigits 10 n) = n := by
  calc
    digitsValue (Nat.toDigits 10 n) = Nat.ofDigitChars 10 (Nat.toDigits 10 n) 0 := by
      simp only [digitsValue, digitValue, Nat.ofDigitChars, Nat.mul_comm]
    _ = n := Nat.ofDigitChars_ten_toDigits

namespace RealValue

theorem signed_toDigits (n : Nat) : signed (Nat.toDigits 10 n) = (false, Nat.toDigits 10 n) := by
  unfold signed
  split
  · next rest plus =>
    have digit : '+'.isDigit = true := isDigit_of_mem (n := n) (by simp [plus])
    exact absurd digit (by decide)
  · next rest minus =>
    have digit : '-'.isDigit = true := isDigit_of_mem (n := n) (by simp [minus])
    exact absurd digit (by decide)
  · rfl

end RealValue

namespace Environment

theorem integer?_toString {value : Int} (fits : -Int.pow 2 63 ≤ value ∧ value < Int.pow 2 63) :
    integer? (toString value) = some value := by
  have digits : (Nat.toDigits 10 value.natAbs).all Char.isDigit = true :=
    List.all_eq_true.mpr fun c member => isDigit_of_mem member
  have signed : RealValue.signed (toString value).toList =
      (decide (value < 0), Nat.toDigits 10 value.natAbs) := by
    rw [toList_toString]
    by_cases negative : value < 0
    · simp [negative, RealValue.signed]
    · simp [negative, RealValue.signed_toDigits]
  have same : (if decide (value < 0) = true then -(value.natAbs : Int) else value.natAbs) = value := by
    by_cases negative : value < 0
    · rw [if_pos (decide_eq_true negative)]
      omega
    · rw [if_neg (by simpa using negative)]
      omega
  simp only [integer?, signed, digitsValue_toDigits, same]
  simpa [digits] using fits

theorem scalar?_toString {value : Int} (fits : -Int.pow 2 63 ≤ value ∧ value < Int.pow 2 63) :
    scalar? (toString value) = some (.int value) := by
  -- A digit has no case, and the two words have no digits.
  obtain ⟨c, first⟩ := List.exists_mem_of_ne_nil (Nat.toDigits 10 value.natAbs) Nat.toDigits_ne_nil
  have digit := isDigit_of_mem first
  have member : c ∈ (toString value).toList := by
    rw [toList_toString]
    exact List.mem_append_right _ first
  obtain ⟨ascii, caseless⟩ := caseless_of_isDigit digit
  have other : ∀ word : String, word.toList.any Char.isDigit = false →
      lowercase (toString value) ≠ word := by
    intro word letters
    apply lowercase_ne ascii caseless member
    intro letter
    have found : word.toList.any Char.isDigit = true := List.any_eq_true.mpr ⟨c, letter, digit⟩
    rw [letters] at found
    cases found
  rw [scalar?, if_neg (other "true" rfl), if_neg (other "false" rfl), integer?_toString fits]
  rfl

theorem respelled_eq_iff (text : String) : respelled text = text ↔ Kept text := by
  constructor
  · intro same
    unfold respelled at same
    cases found : scalar? text with
    | none => exact .text text found
    | some scalar =>
      rw [found] at same
      obtain ⟨value, rfl⟩ | ⟨value, read, rfl⟩ | ⟨value, rfl⟩ := scalar?_cases found
      · exact same ▸ .bool value
      · exact same ▸ .int value (integer?_fits read)
      · rw [← same] at found ⊢
        exact .real value found
  · intro kept
    cases kept with
    | text _ plain => simp [respelled, plain]
    | bool value => cases value <;> rfl
    | int value fits => simp only [respelled, scalar?_toString fits]
    | real value spelled => simp only [respelled, spelled]

end Environment

/-! ### Loading -/

namespace Config

def builtinSetting : ConfigKey → Setting
  | .extensions => .list none []
  | .defaultPath => .scalar none (.text Options.builtinPath)
  | .format => .scalar none (.text "json")
  | .pretty => .scalar none (.bool true)

/-- The built-in settings with one key set. -/
def settingsWith (known : ConfigKey) (setting : Setting) (other : ConfigKey) : Setting :=
  if known = other then setting else builtinSetting other

theorem ofSetting_putKey (known : ConfigKey) {value : Setting} (plain : ¬ value.IsTable) :
    ∃ root, Setting.putKey known.text value defaultSettings = .ok root ∧
      ofSetting root = assembled (settingsWith known value) := by
  obtain ⟨root, put, gets⟩ := Setting.get?_putKey (known.spread_text value) defaultSettings
  refine ⟨root, put, ofSetting_of_get? ?_⟩
  intro other
  have builtin : defaultSettings.get? other.path = some (builtinSetting other) := by
    cases other <;> rfl
  have found : root.get? other.path =
      ((Setting.nest known.path value).given? other.path).or (defaultSettings.get? other.path) :=
    gets _ _ (known.spares_path other plain)
  rw [found, builtin, ConfigKey.given?_path, settingsWith]
  by_cases same : known = other
  · rw [if_pos same, if_pos same]
    rfl
  · rw [if_neg same, if_neg same]
    rfl

variable {surroundings : Surroundings}

theorem load_environment {known : ConfigKey} {name value : String}
    (sets : surroundings.environment.Sets name value)
    (named : Environment.key? name = some known.text) :
    load surroundings [.environment] =
      assembled (settingsWith known (Environment.setting known.text value)) := by
  have plain : ¬ (Environment.setting known.text value).IsTable := by
    rintro ⟨origin, entries, table⟩
    unfold Environment.setting at table
    split at table
    · cases table
    · split at table <;> cases table
  obtain ⟨root, put, read⟩ := ofSetting_putKey known plain
  have settled : settings surroundings [.environment] = .ok root := by
    have laid := sets.put named defaultSettings
    rw [put] at laid
    simp only [settings, List.foldlM_cons, List.foldlM_nil, Layer.put, laid]
    rfl
  rw [load, settled]
  exact read

theorem load_single (known : ConfigKey) {value : Setting} (plain : ¬ value.IsTable) :
    load surroundings [.single known.text value] = assembled (settingsWith known value) := by
  obtain ⟨root, put, read⟩ := ofSetting_putKey known plain
  have settled : settings surroundings [.single known.text value] = .ok root := by
    have nothing : Layer.singles [] = .ok [] := rfl
    have alone : Layer.lastOfEach [(known.keyPath, value)] = [(known.keyPath, value)] := rfl
    rw [Layer.put_text] at put
    simp only [settings, Layer.singles_cons known value nothing, Layer.putSingles, alone,
      List.foldlM_cons, List.foldlM_nil, Layer.put, put, bind, Except.bind, pure, Except.pure]
    rfl
  rw [load, settled]
  exact read

theorem assembled_path {setting : Setting} {path : String}
    (reads : readText (ConfigKey.text .defaultPath) setting = .ok path) :
    assembled (settingsWith .defaultPath setting) = .ok ⟨⟨[], path⟩, ⟨.json, true⟩⟩ := by
  have format : readFormat (ConfigKey.text .format) (builtinSetting .format) = .ok .json := rfl
  simp only [assembled, settingsWith, reduceCtorEq, if_false, if_true, reads, format]
  rfl

theorem assembled_extensions (setting : Setting) :
    assembled (settingsWith .extensions setting) =
      (readTexts (ConfigKey.text .extensions) setting).map fun extensions =>
        ⟨⟨extensions, Options.builtinPath⟩, ⟨.json, true⟩⟩ := by
  have format : readFormat (ConfigKey.text .format) (builtinSetting .format) = .ok .json := rfl
  simp only [assembled, settingsWith, reduceCtorEq, if_false, if_true, format]
  cases readTexts (ConfigKey.text .extensions) setting <;> rfl

theorem readTexts_texts (key : String) (origin : Option String) (items : List String) :
    readTexts key (.list origin (items.map fun item => .scalar origin (.text item))) = .ok items := by
  have viewed : List.Forall₂ (fun item value => Setting.scalar? item = some value)
      (items.map fun item => .scalar origin (.text item)) (items.map .text) := by
    rw [List.forall₂_map_left_iff, List.forall₂_map_right_iff, List.forall₂_same]
    exact fun _ _ => rfl
  exact readTexts_of_spells key origin viewed (Scalar.spells_texts items)

theorem load_path {text : String}
    (sets : surroundings.environment.Sets Environment.pathVariable text) :
    load surroundings [.environment] =
      .ok ⟨⟨[], Environment.respelled text⟩, ⟨.json, true⟩⟩ := by
  have other : ConfigKey.text .defaultPath ≠ Environment.listKey := by decide
  rw [load_environment sets Environment.key?_pathVariable]
  exact assembled_path (Environment.readText_setting other text)

section

variable {items : List String}
  (sets : surroundings.environment.Sets Environment.listVariable (",".intercalate items))

include sets

theorem load_list_of_none (given : items ≠ []) (clean : ∀ item ∈ items, ',' ∉ item.toList)
    (plain : Environment.scalar? (",".intercalate items) = none) :
    load surroundings [.environment] = .ok ⟨⟨items, Options.builtinPath⟩, ⟨.json, true⟩⟩ := by
  have list : ConfigKey.text .extensions = Environment.listKey := rfl
  have set : Environment.setting (ConfigKey.text .extensions) (",".intercalate items) =
      .list (some Environment.place)
        (items.map fun item => .scalar (some Environment.place) (.text item)) := by
    simp only [Environment.setting, plain, if_pos list, parts_intercalate given clean]
  rw [load_environment sets Environment.key?_listVariable, assembled_extensions, set, readTexts_texts]
  rfl

theorem load_list_of_some {scalar : Scalar}
    (spelled : Environment.scalar? (",".intercalate items) = some scalar) :
    load surroundings [.environment] =
      .error (.shape (Setting.scalar (some Environment.place) scalar).describe "a sequence") := by
  rw [load_environment sets Environment.key?_listVariable, assembled_extensions, Environment.setting, spelled]
  rfl

end

end Config

theorem Environment.scalar?_intercalate {items : List String} (given : items ≠ []) :
    scalar? (",".intercalate items) = none ↔ ∀ item, items = [item] → scalar? item = none := by
  match items with
  | [] => exact absurd rfl given
  | [item] => simp
  | first :: second :: rest =>
    have comma : ',' ∈ (",".intercalate (first :: second :: rest)).toList := by
      rw [String.toList_intercalate, List.map_cons, List.map_cons, List.intercalate_cons_cons]
      simp
    rw [scalar?_comma comma]
    simp

/-- Texts from the environment. A path is read as the spelling of the scalar that it spells, and means
the same as in a single setting just if it is kept. A list is read as it was
joined, just if it is not one item that spells a scalar; such a list is refused. -/
theorem Config.environment_texts (surroundings : Surroundings) :
    (∀ text, surroundings.environment.Sets Environment.pathVariable text →
      load surroundings [.environment] =
          .ok ⟨⟨[], Environment.respelled text⟩, ⟨.json, true⟩⟩ ∧
        load surroundings [.single "processor.default_file_path" (.scalar none (.text text))] =
          .ok ⟨⟨[], text⟩, ⟨.json, true⟩⟩ ∧
        (load surroundings [.environment] =
            load surroundings [.single "processor.default_file_path" (.scalar none (.text text))] ↔
          Environment.Kept text)) ∧
    ∀ items, items ≠ [] → (∀ item ∈ items, ',' ∉ item.toList) →
      surroundings.environment.Sets Environment.listVariable (",".intercalate items) →
      (load surroundings [.environment] = .ok ⟨⟨items, Options.builtinPath⟩, ⟨.json, true⟩⟩ ↔
          ∀ item, items = [item] → Environment.scalar? item = none) ∧
        ∀ item scalar, items = [item] → Environment.scalar? item = some scalar →
          load surroundings [.environment] =
            .error (.shape (Setting.scalar (some Environment.place) scalar).describe "a sequence") := by
  constructor
  · intro text sets
    have own := load_path sets
    have plain : ¬ (Setting.scalar none (.text text)).IsTable := by simp [Setting.IsTable]
    have single : load surroundings
          [.single "processor.default_file_path" (.scalar none (.text text))] =
        .ok ⟨⟨[], text⟩, ⟨.json, true⟩⟩ := by
      rw [← assembled_path (rfl : readText _ (.scalar none (.text text)) = .ok text)]
      exact load_single .defaultPath plain
    refine ⟨own, single, ?_⟩
    rw [own, single, ← Environment.respelled_eq_iff]
    simp
  · intro items given clean sets
    constructor
    · rw [← Environment.scalar?_intercalate given]
      constructor
      · intro loaded
        cases spelled : Environment.scalar? (",".intercalate items) with
        | none => rfl
        | some scalar =>
          rw [load_list_of_some sets spelled] at loaded
          cases loaded
      · exact load_list_of_none sets given clean
    · rintro item scalar rfl spelled
      have joined : ",".intercalate [item] = item := by simp
      exact load_list_of_some sets (by rw [joined, spelled])

namespace Specimen

def surrounded (name value : String) : Surroundings where
  files := fun _ => .error .missing
  environment := [("HOME", "/"), (name, value)]

theorem surrounded_sets {name key : String} (value : String)
    (named : Environment.key? name = some key) :
    (surrounded name value).environment.Sets name value := by
  have home : Environment.key? "HOME" = none := rfl
  simp [surrounded, Environment.Sets, named, home]

end Specimen

theorem Config.environment_texts_specimen :
    load (Specimen.surrounded Environment.pathVariable "-7") [.environment] =
        load (Specimen.surrounded Environment.pathVariable "-7")
          [.single "processor.default_file_path" (.scalar none (.text "-7"))] ∧
      load (Specimen.surrounded Environment.listVariable ".sty,.5") [.environment] =
        .ok ⟨⟨[".sty", ".5"], Options.builtinPath⟩, ⟨.json, true⟩⟩ ∧
      load (Specimen.surrounded Environment.listVariable "+1") [.environment] =
        .error (.shape "integer `1`" "a sequence") := by
  have path := (environment_texts (Specimen.surrounded Environment.pathVariable "-7")).1 "-7"
    (Specimen.surrounded_sets _ Environment.key?_pathVariable)
  have list := (environment_texts (Specimen.surrounded Environment.listVariable ".sty,.5")).2
    [".sty", ".5"] (by decide) (by decide)
    (Specimen.surrounded_sets _ Environment.key?_listVariable)
  have refused := (environment_texts (Specimen.surrounded Environment.listVariable "+1")).2
    ["+1"] (by decide) (by decide) (Specimen.surrounded_sets _ Environment.key?_listVariable)
  have number : toString (-7 : Int) = "-7" := by decide
  refine ⟨path.2.2.mpr (number ▸ .int (-7) (by decide)), list.1.mpr (by simp), ?_⟩
  exact refused.2 "+1" (.int 1) rfl (by decide)

/-- Zeros in front of a number are lost, and the one extension `.5` is taken for a number. -/
theorem Config.environment_texts_lost :
    load (Specimen.surrounded Environment.pathVariable "007") [.environment] =
        .ok ⟨⟨[], "7"⟩, ⟨.json, true⟩⟩ ∧
      load (Specimen.surrounded Environment.listVariable ".5") [.environment] =
        .error (.shape "floating point `0.5`" "a sequence") := by
  constructor
  · have seven : Environment.respelled "007" = "7" := by decide
    rw [load_path (Specimen.surrounded_sets _ Environment.key?_pathVariable), seven]
  · have joined : ",".intercalate [".5"] = ".5" := rfl
    have half : Environment.scalar? ".5" =
      some (.real (.finite ⟨false, 4503599627370496, -53⟩)) := by decide +kernel
    have described : (Setting.scalar (some Environment.place)
        (.real (.finite ⟨false, 4503599627370496, -53⟩))).describe = "floating point `0.5`" := by
      decide +kernel
    have sets := Specimen.surrounded_sets ".5" Environment.key?_listVariable
    rw [← joined] at sets half ⊢
    rw [load_list_of_some sets half, described]

end LatexTree
