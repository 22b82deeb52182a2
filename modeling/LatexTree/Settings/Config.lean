import LatexTree.Processor
import LatexTree.Settings.Key
import LatexTree.Text.Quoted

/-! Settings with types, and how they are read from settings without. -/
namespace LatexTree

inductive OutputFormat where
  | json
  | outline
deriving DecidableEq, Repr

def OutputFormat.named? (name : String) : Option OutputFormat :=
  if lowercase name = "json" then some .json
  else if lowercase name = "outline" then some .outline
  else none

structure Output where
  format : OutputFormat
  pretty : Bool
deriving DecidableEq, Repr

structure Config where
  processor : Options
  output : Output
deriving DecidableEq, Repr

inductive ConfigError where
  | badKey (error : KeyError)
  | badItem (error : ItemError)
  | missingFile (name : String)
  | encoding
  | malformed
  | rootShape (found file : String)
  /-- A setting of the wrong kind where a structure or a list is due. -/
  | shape (found expected : String)
  | length (count : Nat) (expected : String)
  | unknownFormat (name : String)
  | formatShape
  /-- A setting of the wrong kind where a scalar is due. -/
  | kind (found expected key : String) (origin : Option String)
  | missingField (name : String)
deriving DecidableEq, Repr

namespace ConfigError

def message : ConfigError → String
  | .badKey error => error.message
  | .badItem error => error.message
  | .missingFile name => s!"configuration file \"{name}\" not found"
  | .encoding => "stream did not contain valid UTF-8"
  | .malformed => "TOML parse error"
  | .rootShape found file => s!"invalid type: {found}, expected a map in {file} in {file}"
  | .shape found expected => s!"invalid type: {found}, expected {expected}"
  | .length count expected => s!"invalid length {count}, expected {expected} with 2 elements"
  | .unknownFormat name => s!"enum OutputFormat does not have variant constructor {name}"
  | .formatShape =>
    "value of enum OutputFormat should be represented by either string or table with exactly one key"
  | .kind found expected key origin =>
    let place := (origin.map (" in " ++ ·)).getD ""
    s!"invalid type: {found}, expected {expected} for key `{key}`{place}"
  | .missingField name => s!"missing field `{name}`"

end ConfigError

def Setting.describe : Setting → String
  | .scalar _ .nil => "unit value"
  | .scalar _ (.bool value) => s!"boolean `{value}`"
  | .scalar _ (.int value) => s!"integer `{value}`"
  | .scalar _ (.real value) =>
    let text := value.text RealValue.pointLayout
    s!"floating point `{text}`"
  | .scalar _ (.text value) => s!"string {quoted value}"
  | .list _ _ => "sequence"
  | .table _ _ => "map"

namespace Config

abbrev Reading (α : Type) := String → Setting → Except ConfigError α

def refuse {α : Type} (expected : String) : Reading α := fun key setting =>
  .error (.kind setting.describe expected key setting.origin)

def readText : Reading String := fun key setting =>
  match setting with
  | .scalar _ (.text value) => .ok value
  | .scalar _ (.bool value) => .ok (if value then "true" else "false")
  | .scalar _ (.int value) => .ok s!"{value}"
  | .scalar _ (.real value) => .ok (value.text RealValue.plainLayout)
  | setting => refuse "a string" key setting

def yesWords : List String := ["1", "true", "on", "yes"]

def noWords : List String := ["0", "false", "off", "no"]

/-- A number means yes unless it is zero, and a few words mean yes or no in any case. -/
def readBool : Reading Bool := fun key setting =>
  match setting with
  | .scalar _ (.bool value) => .ok value
  | .scalar _ (.int value) => .ok (value != 0)
  | .scalar _ (.real value) => .ok !value.isZero
  | .scalar origin (.text value) =>
    let word := lowercase value
    if word ∈ yesWords then .ok true
    else if word ∈ noWords then .ok false
    else refuse "a boolean" key (.scalar origin (.text word))
  | setting => refuse "a boolean" key setting

/-- A format is its name, or a table with the name as its only entry. -/
def readFormat : Reading OutputFormat := fun _ setting =>
  let named (name : String) : Except ConfigError OutputFormat :=
    (OutputFormat.named? name).elim (.error (.unknownFormat name)) .ok
  match setting with
  | .scalar _ (.text name) => named name
  | .table _ [(name, _)] => named name
  | _ => .error .formatShape

def itemKey (key : String) (index : Nat) : String := s!"{key}[{index}]"

def readTexts : Reading (List String) := fun key setting =>
  match setting with
  | .list _ items => items.zipIdx.mapM fun (item, index) => readText (itemKey key index) item
  | setting => .error (.shape setting.describe "a sequence")

def fieldKey (key name : String) : String := if key.isEmpty then name else s!"{key}.{name}"

/-- Reads a field of a section: an entry of a table, which may be missing, or an item of a list. -/
def readField {α : Type} (expected : String) (index : Nat) (name : String) (read : Reading α) :
    Reading (Option α) := fun key setting =>
  match setting with
  | .table _ entries =>
    match entries.lookup name with
    | some setting => some <$> read (fieldKey key name) setting
    | none => .ok none
  | .list _ items =>
    match items[index]? with
    | some setting => some <$> read (itemKey key index) setting
    | none => .error (.length index expected)
  | setting => .error (.shape setting.describe expected)

def require {α : Type} (name : String) : Option α → Except ConfigError α
  | some value => .ok value
  | none => .error (.missingField name)

def readProcessor : Reading Options := fun key setting => do
  let extensions ← readField "struct ProcessorConfig" 0 "extensions" readTexts key setting
  let path ← readField "struct ProcessorConfig" 1 "default_file_path" readText key setting
  return ⟨← require "extensions" extensions, ← require "default_file_path" path⟩

def readOutput : Reading Output := fun key setting => do
  let format ← readField "struct OutputConfig" 0 "format" readFormat key setting
  let pretty ← readField "struct OutputConfig" 1 "pretty" readBool key setting
  return ⟨← require "format" format, ← require "pretty" pretty⟩

def ofSetting (root : Setting) : Except ConfigError Config := do
  let processor ← readField "struct LatexConfig" 0 "processor" readProcessor "" root
  let output ← readField "struct LatexConfig" 1 "output" readOutput "" root
  return ⟨← require "processor" processor, ← require "output" output⟩

end Config

end LatexTree
