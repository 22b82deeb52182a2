import LatexTree.Command.Arguments
import LatexTree.Log.Filter
import LatexTree.Node.Outline
import LatexTree.Settings.Layer
import LatexTree.Wire.Options

/-! Running a command: what it prints, what it logs, and how it fails. -/
namespace LatexTree

inductive Failure where
  | filter (error : FilterError)
  | config (error : ConfigError)
  | unreadable (path : String) (error : FileError)
  | parsed (path : String) (fault : Json.Fault)
  | process (path : String) (error : StageError)
  | messages (path : String) (fault : Json.Fault)

namespace Failure

/-- A failure and its causes, the outermost first; some of them include the text of the next. -/
def chain : Failure → List String
  | .filter error => error.chain
  | .config error => ["failed to load configuration", error.message]
  | .unreadable path error => [s!"failed to read {path}", error.message]
  | .parsed path fault => [s!"failed to load grammar output from {path}",
      (GrammarError.malformed fault).message, fault.message]
  | .process path error =>
    [s!"failed to process {path}", Processor.failure error, error.message]
  | .messages path fault => [s!"{path} is not a JSON array of diagnostics", fault.message]

def message (failure : Failure) : String := "Error: " ++ ": ".intercalate failure.chain

def isCrash : Failure → Bool
  | .filter .boundary => true
  | .config (.badItem _) => true
  | _ => false

def exitCode (failure : Failure) : Nat := if failure.isCrash then 101 else 1

end Failure

structure Outcome where
  log : List String
  result : Except Failure String

namespace Outcome

/-- What is printed; a run that fails prints nothing. -/
def output (outcome : Outcome) : String :=
  match outcome.result with
  | .ok text => text
  | .error _ => ""

def exitCode (outcome : Outcome) : Nat :=
  match outcome.result with
  | .ok _ => 0
  | .error failure => failure.exitCode

end Outcome

abbrev Run := StateT (List String) (Except (List String × Failure))

namespace Run

def check {ε α : Type} (failure : ε → Failure) (result : Except ε α) : Run α := fun log =>
  match result with
  | .ok value => .ok (value, log)
  | .error error => .error (log, failure error)

def outcome (run : Run String) : Outcome :=
  match run [] with
  | .ok (text, log) => ⟨log, .ok text⟩
  | .error (log, failure) => ⟨log, .error failure⟩

end Run

def trimEnd (text : String) : String :=
  String.ofList (text.toList.reverse.dropWhile Char.isWhitespace).reverse

def Output.layout (output : Output) : Json.Layout := if output.pretty then .pretty else .compact

def Output.render (output : Output) (root : Node) : String :=
  match output.format with
  | .json => (Wire.nodeValue root).render output.layout
  | .outline => root.outline

namespace Invocation

def filterVariable : String := "RUST_LOG"

def defaultFilter : Filter := [{ level := some .warn }]

/-- A filter among the arguments wins over one in the environment, which counts only if it is well
formed. -/
def filter (invocation : Invocation) (environment : Environment) : Except FilterError Filter :=
  match invocation.logFilter with
  | some text => Filter.parse text
  | none => match (environment.lookup filterVariable).map Filter.parse with
    | some (.ok filter) => .ok filter
    | some (.error .boundary) => .error .boundary
    | _ => .ok defaultFilter

def overrides : Command → List Layer
  | .merge _ _ format compact =>
    (match format with
      | some .json => [.single "output.format" (.scalar none (.text "json"))]
      | some .outline => [.single "output.format" (.scalar none (.text "outline"))]
      | none => []) ++
    (if compact then [.single "output.pretty" (.scalar none (.text "false"))] else [])
  | _ => []

def layers (invocation : Invocation) : List Layer :=
  (invocation.config.map (Layer.file · true)).toList ++ [.environment] ++
    overrides invocation.command

def startRecord (source : String) : LogRecord :=
  ⟨.program, .info, "merging comments", [("source", source)]⟩

def merge (filter : Filter) (config : Config) (files : Files) (parsed source : String) :
    Run String := do
  let json ← Run.check (.unreadable parsed) (files.read parsed)
  let text ← Run.check (.unreadable source) (files.read source)
  let tree ← Run.check (.parsed parsed) (Parsed.ofJson json)
  let processor : Processor := ⟨Grammar.preParsed tree, config.processor⟩
  set (filter.lines none [startRecord source] ++
    filter.lines (some ⟨Processor.commentStage⟩) ((processor.log text).map LogEvent.record))
  let root ← Run.check (.process source) (processor.run text)
  return trimEnd (config.output.render root) ++ "\n"

def label (config : Config) (files : Files) (messages : String) (path : Option String) :
    Run String := do
  let json ← Run.check (.unreadable messages) (files.read messages)
  let list ← Run.check (.messages messages) (Json.decode (Wire.readMessages Json.depthLimit) json)
  let labelled := config.processor.label list path
  return (Wire.labelledValue labelled).render config.output.layout ++ "\n"

def start (invocation : Invocation) (surroundings : Surroundings) : Run String := do
  let filter ← Run.check .filter (invocation.filter surroundings.environment)
  let config ← Run.check .config (Config.load surroundings invocation.layers)
  match invocation.command with
  | .merge parsed source _ _ => merge filter config surroundings.files parsed source
  | .extensions => return String.join (config.processor.availableExtensions.map (· ++ "\n"))
  | .label messages path => label config surroundings.files messages path

def run (invocation : Invocation) (surroundings : Surroundings) : Outcome :=
  (invocation.start surroundings).outcome

end Invocation

namespace Command

def name : String := "latex-ast"

def version : String := "0.1.0"

def versionText : String := s!"{name} {version}\n"

end Command

end LatexTree
