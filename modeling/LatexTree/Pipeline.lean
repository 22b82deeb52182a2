/-! Pipelines of named stages.

A pipeline starts with a step and goes on with stages, each a step or a whole pipeline. The first
failure ends the run, and a failure that names no stage is put down to the stage it came from. -/
namespace LatexTree

inductive StageError where
  | plain (message : String)
  | failed (stage message : String)
deriving DecidableEq, Repr

namespace StageError

def message : StageError → String
  | .plain message => message
  | .failed stage message => s!"Stage '{stage}' failed: {message}"

/-- Names the stage, unless one is named already. -/
def blame (stage : String) : StageError → StageError
  | .plain message => .failed stage message
  | .failed stage message => .failed stage message

end StageError

mutual

inductive Stage : Type → Type → Type 1 where
  | step {α β : Type} (name : String) (run : α → Except StageError β) : Stage α β
  | nested {α β : Type} (pipeline : Pipeline α β) : Stage α β

inductive Pipeline : Type → Type → Type 1 where
  | start {α β : Type} (name : String) (run : α → Except StageError β) : Pipeline α β
  | andThen {α β γ : Type} (first : Pipeline α β) (next : Stage β γ) : Pipeline α γ

end

namespace Pipeline

/-- A pipeline is called by its first step. -/
def name {α β : Type} : Pipeline α β → String
  | .start name _ => name
  | .andThen first _ => first.name

end Pipeline

def Stage.name {α β : Type} : Stage α β → String
  | .step name _ => name
  | .nested pipeline => pipeline.name

def Pipeline.stages {α β : Type} : Pipeline α β → List String
  | .start name _ => [name]
  | .andThen first next => first.stages ++ [next.name]

mutual

def Stage.run {α β : Type} : Stage α β → α → Except StageError β
  | .step _ run, input => run input
  | .nested pipeline, input => pipeline.run input

def Pipeline.run {α β : Type} : Pipeline α β → α → Except StageError β
  | .start name run, input => (run input).mapError (·.blame name)
  | .andThen first next, input =>
    match first.run input with
    | .error error => .error error
    | .ok between => (next.run between).mapError (·.blame next.name)

end

inductive TextStep where
  | keep
  | append (suffix : String)
  | fail (error : StageError)
  | reject (text : String)
deriving DecidableEq, Repr

def TextStep.run : TextStep → String → Except StageError String
  | .keep, text => .ok text
  | .append suffix, text => .ok (text ++ suffix)
  | .fail error, _ => .error error
  | .reject refused, text =>
    if text = refused then .error (.plain s!"rejected {refused}") else .ok text

end LatexTree
