import LatexTree.Merge.Complete

/-! Log records: what happened, how much it matters, and the target that filters know it by. -/
namespace LatexTree

inductive Level where
  | error
  | warn
  | info
  | debug
  | trace
deriving DecidableEq, Repr

namespace Level

/-- A higher rank tells more. -/
def rank : Level → Nat
  | .error => 1
  | .warn => 2
  | .info => 3
  | .debug => 4
  | .trace => 5

def name : Level → String
  | .error => "ERROR"
  | .warn => "WARN"
  | .info => "INFO"
  | .debug => "DEBUG"
  | .trace => "TRACE"

end Level

inductive LogTarget where
  | program
  | stage
  | completion
  | leaf
  | placement
deriving DecidableEq, Repr

def LogTarget.name : LogTarget → String
  | .program => "latex_ast"
  | .stage => "latex_ast::latex::transforms"
  | .completion => "latex_ast::latex::assembling::stages::complete_comments"
  | .leaf => "latex_ast::latex::assembling::stages::complete_comments::normalize"
  | .placement => "latex_ast::latex::assembling::stages::complete_comments::insert"

structure LogRecord where
  target : LogTarget
  level : Level
  message : String
  fields : List (String × String)
deriving DecidableEq, Repr

def LogEvent.record : LogEvent → LogRecord
  | .leafMade span loc =>
    ⟨.leaf, .trace, "normalized comment token", [("range", span.text), ("loc", loc.text)]⟩
  | .started count => ⟨.completion, .debug, "completing comments", [("count", s!"{count}")]⟩
  | .placed placement =>
    ⟨.placement, .debug,
      if placement.last then "appending comment after last sibling"
      else "placing comment before sibling",
      [("range", placement.span.text), ("depth", s!"{placement.depth}"),
        ("index", s!"{placement.index}")]⟩
  | .refused refusal =>
    ⟨.completion, .warn, "completed tree failed structural validation", [("error", refusal.message)]⟩

end LatexTree
