import LatexTree.Merge.Complete
import LatexTree.Pipeline
import LatexTree.Wire.Parsed

/-! Pre-processing a text into a tree with its comments, and labelling the messages about it. -/
namespace LatexTree

inductive GrammarError where
  | ungrammatical (message : String)
  | malformed (fault : Json.Fault)
deriving DecidableEq, Repr

def GrammarError.message : GrammarError → String
  | .ungrammatical message => s!"syntax error: {message}"
  | .malformed fault => s!"malformed grammar output: {fault.message}"

abbrev Grammar := String → Except GrammarError Parsed

namespace Grammar

def preParsed (parsed : Parsed) : Grammar := fun _ => .ok parsed

def failing (message : String) : Grammar := fun _ => .error (.ungrammatical message)

end Grammar

structure Options where
  extensions : List String
  defaultPath : String
deriving DecidableEq, Repr

namespace Options

def builtinExtensions : List String := [".tex", ".cls"]

def builtinPath : String := "<latex>"

instance : Inhabited Options := ⟨⟨[], builtinPath⟩⟩

def availableExtensions (options : Options) : List String :=
  builtinExtensions ++ options.extensions

end Options

structure Labelled where
  messages : List Json.Value
  path : String
deriving Repr

/-- An empty path counts as none. -/
def Options.label (options : Options) (messages : List Json.Value) (path : Option String) :
    Labelled :=
  ⟨messages, (path.filter (· ≠ "")).getD options.defaultPath⟩

structure Processor where
  grammar : Grammar
  options : Options

namespace Processor

def grammarStage : String := "grammar"

def commentStage : String := "complete-comments"

def request (text : String) (parsed : Parsed) : Request :=
  ⟨.ofString text, parsed.root, parsed.comments⟩

def pipeline (processor : Processor) : Pipeline String Node :=
  .andThen
    (.start grammarStage fun text =>
      match processor.grammar text with
      | .error error => .error (.plain error.message)
      | .ok parsed => .ok (request text parsed))
    (.step commentStage fun request => request.complete.mapError fun refusal =>
      .plain refusal.message)

def run (processor : Processor) (text : String) : Except StageError Node :=
  processor.pipeline.run text

/-- What the run logs, all of it in the comment stage. -/
def log (processor : Processor) (text : String) : List LogEvent :=
  match processor.grammar text with
  | .error _ => []
  | .ok parsed => (request text parsed).log

def failure (error : StageError) : String :=
  s!"failed to pre-process LaTeX source: {error.message}"

end Processor

end LatexTree
