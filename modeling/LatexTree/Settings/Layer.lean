import LatexTree.Files
import LatexTree.Settings.Config
import LatexTree.Settings.Environment
import LatexTree.Toml.Document

/-! Configurations made of layers: files and the environment over the defaults, each over those before
it, and single settings over all of them. -/
namespace LatexTree

structure Surroundings where
  files : Files
  environment : Environment

inductive Layer where
  | file (name : String) (required : Bool)
  | environment
  | single (key : String) (value : Setting)

namespace Layer

def extended? (name : String) : Option String :=
  match (Files.names name).getLast? with
  | some last =>
    if last = ".." then none else some (Files.plain name ++ ".toml")
  | none => none

/-- The name of the file that is read for a name: itself, or else the extended one. -/
def resolve (files : Files) (name : String) : Option String :=
  if files.isFile name then some name else (extended? name).filter files.isFile

def putEntries (origin : String) (entries : Toml.Entries) (root : Setting) :
    Except ItemError Setting :=
  entries.foldlM (fun root (key, item) => Setting.putKey key (item.setting (some origin)) root) root

def readFile (files : Files) (name : String) : Except ConfigError (String × String) :=
  match resolve files name with
  | none => .error (.missingFile name)
  | some path => match files.read path with
    | .ok content => .ok (Files.plain path, content)
    | .error _ => .error .encoding

/-- Lays a file over others. One that need not be there may also be no text, but whatever text it is
has to be well formed. -/
def putFile (files : Files) (name : String) (required : Bool) (root : Setting) :
    Except ConfigError Setting :=
  match readFile files name with
  | .error error => if required then .error error else .ok root
  | .ok (origin, content) =>
    match Toml.parse content with
    | some (.table _ entries) => (putEntries origin entries root).mapError .badItem
    | some item => .error (.rootShape (item.setting none).describe origin)
    | none => .error .malformed

/-- Single settings wait until all other layers are in place. -/
def put (surroundings : Surroundings) (root : Setting) : Layer → Except ConfigError Setting
  | .file name required => putFile surroundings.files name required root
  | .environment => (surroundings.environment.put root).mapError .badItem
  | .single _ _ => .ok root

def single? : Layer → Option (String × Setting)
  | .single key value => some (key, value)
  | _ => none

def singles (layers : List Layer) : Except ConfigError (List (KeyPath × Setting)) :=
  (layers.filterMap single?).mapM fun (key, value) =>
    match KeyPath.parse key with
    | .ok path => .ok (path, value)
    | .error error => .error (.badKey error)

/-- Of several values for one path only the last is kept. -/
def lastOfEach : List (KeyPath × Setting) → List (KeyPath × Setting)
  | [] => []
  | first :: rest =>
    if rest.any (·.1 = first.1) then lastOfEach rest else first :: lastOfEach rest

def putSingles (root : Setting) (singles : List (KeyPath × Setting)) : Except ItemError Setting :=
  (lastOfEach singles).foldlM (fun root (single : KeyPath × Setting) => single.1.put single.2 root) root

end Layer

namespace Config

def defaultSettings : Setting := .table none [
  ("processor", .table none [("extensions", .list none []),
    ("default_file_path", .scalar none (.text Options.builtinPath))]),
  ("output", .table none [("format", .scalar none (.text "json")),
    ("pretty", .scalar none (.bool true))])]

/-- The settings of all layers together. Malformed keys are found before any file is read. -/
def settings (surroundings : Surroundings) (layers : List Layer) : Except ConfigError Setting := do
  let singles ← Layer.singles layers
  let root ← layers.foldlM (Layer.put surroundings) defaultSettings
  (Layer.putSingles root singles).mapError .badItem

def load (surroundings : Surroundings) (layers : List Layer) : Except ConfigError Config := do
  ofSetting (← settings surroundings layers)

end Config

end LatexTree
