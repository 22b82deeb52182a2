import LatexTree.Settings.Key
import LatexTree.Text.Split
import Mathlib.Data.List.TakeWhile

/-! Settings laid over settings.

Of a value laid over others one may ask what it gives at a path of names. If on the way there it has
tables only, and no table at the end, then what stands at the path afterwards is what it gives, or else
what stood there before: tables are merged, everything else is replaced. -/
namespace LatexTree

/-- What is given by the last of the items that give anything. -/
def latest? {α β : Type} (gives : α → Option β) (items : List α) : Option β :=
  items.reverse.findSome? gives

theorem latest?_nil {α β : Type} (gives : α → Option β) : latest? gives [] = none := rfl

theorem latest?_cons {α β : Type} (gives : α → Option β) (item : α) (rest : List α) :
    latest? gives (item :: rest) = (latest? gives rest).or (gives item) := by
  rw [latest?, List.reverse_cons, List.findSome?_append]
  simp [latest?]

theorem latest?_map {α β γ : Type} (gives : β → Option γ) (make : α → β) (items : List α) :
    latest? gives (items.map make) = latest? (gives ∘ make) items := by
  rw [latest?, ← List.map_reverse, List.findSome?_map]
  rfl

theorem map_latest? {α β γ : Type} (gives : α → Option β) (change : β → γ) (items : List α) :
    (latest? gives items).map change = latest? (fun item => (gives item).map change) items :=
  List.map_findSome?

theorem exists_of_latest? {α β : Type} {gives : α → Option β} {items : List α} {value : β}
    (found : latest? gives items = some value) : ∃ item ∈ items, gives item = some value := by
  obtain ⟨item, member, given⟩ := List.exists_of_findSome?_eq_some found
  exact ⟨item, List.mem_reverse.mp member, given⟩

namespace Setting

/-- What stands at a path of names. -/
def get? : List String → Setting → Option Setting
  | [], root => some root
  | name :: rest, root => (root.asTable.2.lookup name).bind (get? rest)

/-- What a value gives at a path, by the last of its entries that give anything there. Names count in
any case. -/
def given? : List String → Setting → Option Setting
  | [], value => some value
  | name :: rest, value =>
    latest? (fun entry => if lowercase entry.1 = name then given? rest entry.2 else none)
      value.asTable.2

def IsTable (value : Setting) : Prop := ∃ origin entries, value = .table origin entries

/-- On the way along the path the value has tables only, and no table where the path ends. -/
def Spares : List String → Setting → Prop
  | [], value => ¬ value.IsTable
  | name :: rest, value => value.IsTable ∧
    ∀ entry ∈ value.asTable.2, lowercase entry.1 = name → Spares rest entry.2

theorem lookup_alter (name other : String) (change : Option Setting → Setting)
    (entries : List (String × Setting)) :
    (alter name change entries).lookup other =
      if other = name then some (change (entries.lookup name)) else entries.lookup other := by
  induction entries with
  | nil =>
    by_cases same : other = name
    · simp [alter, same]
    · simp [alter, same]
  | cons entry rest ih =>
    obtain ⟨first, value⟩ := entry
    by_cases hit : first = name
    · subst hit
      by_cases same : other = first
      · simp [alter, same]
      · simp [alter, same, List.lookup_cons, beq_false_of_ne same]
    · have miss : (name == first) = false := beq_false_of_ne (Ne.symm hit)
      by_cases same : other = first
      · subst same
        simp [alter, hit]
      · simp [alter, hit, List.lookup_cons, beq_false_of_ne same, miss, ih]

theorem get?_alterEntry (name first : String) (rest : List String)
    (change : Option Setting → Setting) (root : Setting) :
    get? (first :: rest) (root.alterEntry name change) =
      if lowercase name = first then get? rest (change (root.asTable.2.lookup first))
      else get? (first :: rest) root := by
  have entries : (root.alterEntry name change).asTable.2 =
      alter (lowercase name) change root.asTable.2 := rfl
  rw [get?, entries, lookup_alter]
  by_cases same : lowercase name = first
  · rw [if_pos same, if_pos same.symm, same]
    rfl
  · rw [if_neg same, if_neg (Ne.symm same)]
    rfl

theorem get?_put_other {name first : String} (other : lowercase name ≠ first) (rest : List String)
    (value root : Setting) : get? (first :: rest) (put name value root) = get? (first :: rest) root := by
  cases value with
  | scalar origin scalar => rw [put, get?_alterEntry, if_neg other]
  | list origin items => rw [put, get?_alterEntry, if_neg other]
  | table origin entries => rw [put, get?_alterEntry, if_neg other]

/-- Where nothing stands, a path that goes on finds as little as in an empty table. -/
theorem get?_getD (name : String) (rest : List String) (old : Option Setting) :
    get? (name :: rest) (old.getD empty) = old.bind (get? (name :: rest)) := by
  cases old with
  | none => rfl
  | some value => rfl

/-- A table at which a path goes on gives there what its entries give. -/
private theorem get?_putAll_of {first : String} {rest : List String}
    (each : ∀ (name : String) (value root : Setting), (lowercase name = first → Spares rest value) →
      get? (first :: rest) (put name value root) =
        (if lowercase name = first then given? rest value else none).or (get? (first :: rest) root))
    (entries : List (String × Setting)) (root : Setting)
    (spares : ∀ entry ∈ entries, lowercase entry.1 = first → Spares rest entry.2) :
    get? (first :: rest) (putAll entries root) =
      (latest? (fun entry => if lowercase entry.1 = first then given? rest entry.2 else none)
        entries).or (get? (first :: rest) root) := by
  induction entries generalizing root with
  | nil => rfl
  | cons entry others ih =>
    obtain ⟨own, later⟩ := List.forall_mem_cons.mp spares
    have step := each entry.1 entry.2 root own
    rw [putAll, ih (put entry.1 entry.2 root) later, step, latest?_cons, Option.or_assoc]

/-- What stands at a path after a value was laid over others: what the value gives there, or else what
stood there before. -/
theorem get?_put {name first : String} {rest : List String} {value : Setting} (root : Setting)
    (spares : lowercase name = first → Spares rest value) :
    get? (first :: rest) (put name value root) =
      (if lowercase name = first then given? rest value else none).or (get? (first :: rest) root) := by
  induction rest generalizing name first value root with
  | nil =>
    by_cases same : lowercase name = first
    · rw [if_pos same]
      cases value with
      | scalar origin scalar =>
        rw [put, get?_alterEntry, if_pos same]
        rfl
      | list origin items =>
        rw [put, get?_alterEntry, if_pos same]
        rfl
      | table origin entries => exact absurd ⟨origin, entries, rfl⟩ (spares same)
    · rw [get?_put_other same, if_neg same, Option.none_or]
  | cons second rest ih =>
    by_cases same : lowercase name = first
    · rw [if_pos same]
      obtain ⟨⟨origin, entries, rfl⟩, below⟩ := spares same
      have merged := get?_putAll_of (fun _ _ root spares => ih root spares) entries
        ((root.asTable.2.lookup first).getD empty) below
      have former : get? (second :: rest) ((root.asTable.2.lookup first).getD empty) =
          get? (first :: second :: rest) root := get?_getD _ _ _
      rw [put, get?_alterEntry, if_pos same, merged, former]
      rfl
    · rw [get?_put_other same, if_neg same, Option.none_or]

/-! ### Keys -/

theorem alter_lookup (name : String) (change : Option Setting → Setting)
    (entries : List (String × Setting)) :
    alter name (fun _ => change (entries.lookup name)) entries = alter name change entries := by
  induction entries with
  | nil => rfl
  | cons entry rest ih =>
    obtain ⟨first, value⟩ := entry
    by_cases hit : first = name
    · simp [alter, hit]
    · have miss : (name == first) = false := beq_false_of_ne (Ne.symm hit)
      simp [alter, hit, List.lookup_cons, miss, ih]

theorem put_nil (name : String) (value : Setting) : put name value nil = put name value empty := by
  cases value with
  | scalar origin scalar => rfl
  | list origin items => rfl
  | table origin entries => rfl

/-- Tables with one entry each, one in another. -/
def nest : List String → Setting → Setting
  | [], value => value
  | name :: rest, value => .table none [(name, nest rest value)]

theorem given?_nest_cons (name first : String) (names rest : List String) (value : Setting) :
    (nest (name :: names) value).given? (first :: rest) =
      if lowercase name = first then (nest names value).given? rest else none := by
  rw [nest, given?, asTable, latest?_cons, latest?_nil, Option.none_or]

theorem spares_nest_cons {name first : String} {names rest : List String} {value : Setting}
    (below : lowercase name = first → (nest names value).Spares rest) :
    (nest (name :: names) value).Spares (first :: rest) := by
  refine ⟨⟨_, _, rfl⟩, ?_⟩
  intro entry only same
  obtain rfl := List.mem_singleton.mp only
  exact below same

end Setting

/-- The tables with one entry each, one in another, that steps by name stand for. -/
def KeyPath.wrap? : List KeyStep → Setting → Option Setting
  | [], value => some value
  | .child name :: rest, value => (wrap? rest value).map fun inner => .table none [(name, inner)]
  | .item _ :: _, _ => none

theorem KeyPath.putFrom_wrapped {rest : List KeyStep} {value inner : Setting}
    (wrapped : wrap? rest value = some inner) (name : String) (root : Setting) :
    putFrom value (.child name) rest root = .ok (.put name inner root) := by
  induction rest generalizing name inner root with
  | nil =>
    obtain rfl := Option.some.inj wrapped
    rfl
  | cons step rest ih =>
    cases step with
    | item subscript => simp [wrap?] at wrapped
    | child next =>
      obtain ⟨deeper, below, rfl⟩ := Option.map_eq_some_iff.mp wrapped
      have inner := ih below next ((root.entry? name).getD .nil)
      have same : Setting.put next deeper ((root.entry? name).getD .nil) =
          Setting.put next deeper ((root.entry? name).getD .empty) := by
        cases root.entry? name with
        | none => exact Setting.put_nil next deeper
        | some value => rfl
      rw [putFrom, inner, same]
      have altered := Setting.alter_lookup (lowercase name)
        (fun old => Setting.put next deeper (old.getD .empty)) root.asTable.2
      exact congrArg (fun entries => Except.ok (Setting.table root.asTable.1 entries)) altered

theorem KeyPath.wrap?_child (names : List String) (value : Setting) :
    wrap? (names.map .child) value = some (.nest names value) := by
  induction names with
  | nil => rfl
  | cons name rest ih =>
    rw [List.map_cons, wrap?, ih]
    rfl

namespace Setting

/-- The table that a value at a key stands for, if the key has no subscripts. -/
def spread? (key : String) (value : Setting) : Option Setting :=
  match KeyPath.parse key with
  | .ok path => KeyPath.wrap? (.child path.first :: path.rest) value
  | .error _ => some (.table none [(key, value)])

theorem putKey_spread {key : String} {value tree : Setting} (spread : spread? key value = some tree) :
    ∃ name inner, tree = .table none [(name, inner)] ∧
      ∀ root, putKey key value root = .ok (put name inner root) := by
  unfold spread? at spread
  unfold putKey
  cases parsed : KeyPath.parse key with
  | error error =>
    rw [parsed] at spread
    exact ⟨key, value, (Option.some.inj spread).symm, fun root => rfl⟩
  | ok path =>
    rw [parsed] at spread
    obtain ⟨inner, wrapped, rfl⟩ := Option.map_eq_some_iff.mp spread
    exact ⟨path.first, inner, rfl, KeyPath.putFrom_wrapped wrapped path.first⟩

theorem get?_putKey {key : String} {value tree : Setting} (spread : spread? key value = some tree)
    (root : Setting) :
    ∃ after, putKey key value root = .ok after ∧
      ∀ first rest, tree.Spares (first :: rest) →
        after.get? (first :: rest) = (tree.given? (first :: rest)).or (root.get? (first :: rest)) := by
  obtain ⟨name, inner, rfl, put⟩ := putKey_spread spread
  refine ⟨_, put root, ?_⟩
  intro first rest spares
  have own := spares.2 (name, inner) List.mem_cons_self
  rw [get?_put root own, given?, asTable, latest?_cons, latest?_nil, Option.none_or]

end Setting

/-! ### Names in keys -/

/-- Characters of ASCII that have no other case stay in the lower-case form of a text. -/
theorem mem_lowercase {text : String} {c : Char} (ascii : c.toNat < 0x80) (caseless : c.toLower = c)
    (member : c ∈ text.toList) : c ∈ (lowercase text).toList := by
  have kept : ∀ before after, lowered before c after = [c] := by
    intro before after
    have dotted : c ≠ '\u0130' := fun same => absurd (same ▸ ascii) (by decide)
    have sigma : c ≠ '\u03a3' := fun same => absurd (same ▸ ascii) (by decide)
    rw [lowered, if_neg dotted, if_neg sigma, lowerChar, if_pos ascii, caseless]
  have inside : ∀ (chars before : List Char), c ∈ chars → c ∈ lowerFrom before chars := by
    intro chars
    induction chars with
    | nil => simp
    | cons first rest ih =>
      intro before member
      rw [lowerFrom, List.mem_append]
      rcases List.mem_cons.mp member with rfl | member
      · exact .inl (by rw [kept]; exact List.mem_singleton_self c)
      · exact .inr (ih _ member)
  rw [lowercase, String.toList_ofList]
  exact inside text.toList [] member

theorem lowercase_ne {text word : String} {c : Char} (ascii : c.toNat < 0x80)
    (caseless : c.toLower = c) (member : c ∈ text.toList) (absent : c ∉ word.toList) :
    lowercase text ≠ word := by
  intro same
  have lowered := mem_lowercase ascii caseless member
  rw [same] at lowered
  exact absent lowered

namespace KeyPath

/-- A name and what has been read of the steps after it are the parts between the points. -/
theorem splitAt_name {chars : List Char} {names : List String}
    (after : chars.dropWhile isNameChar = [] ∧ names = [] ∨
      ∃ rest, chars.dropWhile isNameChar = '.' :: rest ∧
        names = (splitAt '.' rest).map String.ofList) :
    (splitAt '.' chars).map String.ofList =
      String.ofList (chars.takeWhile isNameChar) :: names := by
  have clean : '.' ∉ chars.takeWhile isNameChar := by
    intro member
    exact absurd (List.mem_takeWhile_imp member) (by decide)
  have whole := List.takeWhile_append_dropWhile (p := isNameChar) (l := chars)
  rcases after with ⟨ended, rfl⟩ | ⟨rest, next, rfl⟩
  · rw [ended, List.append_nil] at whole
    have parted := splitAt_clean clean
    rw [whole] at parted ⊢
    rw [parted]
    rfl
  · rw [next] at whole
    have parted := splitAt_mark clean rest
    rw [whole] at parted
    rw [parted]
    rfl

theorem stepsFrom_names {fuel : Nat} {chars : List Char} {steps : List KeyStep}
    (read : stepsFrom fuel chars = .ok steps) (plain : '[' ∉ chars) :
    ∃ names : List String, steps = names.map .child ∧
      (chars = [] ∧ names = [] ∨
        ∃ rest, chars = '.' :: rest ∧ names = (splitAt '.' rest).map String.ofList) := by
  induction fuel generalizing chars steps with
  | zero =>
    cases chars with
    | nil => exact ⟨[], (Except.ok.inj read).symm, .inl ⟨rfl, rfl⟩⟩
    | cons c rest => simp [stepsFrom] at read
  | succ fuel ih =>
    cases chars with
    | nil => exact ⟨[], (Except.ok.inj read).symm, .inl ⟨rfl, rfl⟩⟩
    | cons c rest =>
      obtain ⟨bracket, clean⟩ := List.ne_and_not_mem_of_not_mem_cons plain
      by_cases point : c = '.'
      · subst point
        simp only [stepsFrom] at read
        split at read
        · cases read
        · cases later : stepsFrom fuel (rest.dropWhile isNameChar) with
          | error error =>
            rw [later] at read
            cases read
          | ok others =>
            rw [later] at read
            have inside : '[' ∉ rest.dropWhile isNameChar :=
              fun member => clean ((List.dropWhile_sublist _).mem member)
            obtain ⟨names, rfl, after⟩ := ih later inside
            refine ⟨String.ofList (rest.takeWhile isNameChar) :: names, (Except.ok.inj read).symm,
              .inr ⟨rest, rfl, ?_⟩⟩
            exact (splitAt_name after).symm
      · simp [stepsFrom, point, Ne.symm bracket] at read

theorem parse_names {key : String} {path : KeyPath} (read : parse key = .ok path)
    (plain : '[' ∉ key.toList) :
    ∃ names, parts '.' key = path.first :: names ∧ path.rest = names.map .child := by
  simp only [parse] at read
  split at read
  · cases read
  · cases later : stepsFrom key.toList.length (key.toList.dropWhile isNameChar) with
    | error error =>
      rw [later] at read
      cases read
    | ok steps =>
      rw [later] at read
      have inside : '[' ∉ key.toList.dropWhile isNameChar :=
        fun member => plain ((List.dropWhile_sublist _).mem member)
      obtain ⟨names, rfl, after⟩ := stepsFrom_names later inside
      obtain rfl := Except.ok.inj read
      exact ⟨names, splitAt_name after, rfl⟩

end KeyPath

/-- A key without brackets stands for the names between its points, or for itself if it is no path. -/
theorem Setting.spread?_names {key : String} (plain : '[' ∉ key.toList) (value : Setting) :
    spread? key value = some (nest (parts '.' key) value) ∨
      spread? key value = some (nest [key] value) := by
  unfold spread?
  cases read : KeyPath.parse key with
  | error error => exact .inr rfl
  | ok path =>
    obtain ⟨names, named, steps⟩ := KeyPath.parse_names read plain
    left
    rw [named, ← KeyPath.wrap?_child, List.map_cons, ← steps]

theorem parts_clean {mark : Char} {text : String} (clean : mark ∉ text.toList) :
    parts mark text = [text] := by
  rw [parts, splitAt_clean clean, List.map_singleton, String.ofList_toList]

theorem Setting.spread?_clean {key : String} (point : '.' ∉ key.toList) (bracket : '[' ∉ key.toList)
    (value : Setting) : spread? key value = some (nest [key] value) := by
  have spread := spread?_names bracket value
  rw [parts_clean point, or_self] at spread
  exact spread

end LatexTree
