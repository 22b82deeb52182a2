import LatexTree.Pipeline

/-! Pipelines within pipelines.

However its stages are nested, a pipeline does what its steps do in a row. A pipeline names the stage
of every failure that leaves it, so the pipelines around it have nothing to add: the name is that of
the step that failed, at any depth. Only the list of stages shows how the steps are grouped. -/
namespace LatexTree

/-- Steps in a row, each of which takes what the one before it gives. -/
inductive Row : Type → Type → Type 1 where
  | nil {α : Type} : Row α α
  | cons {α β γ : Type} (name : String) (step : α → Except StageError β) (rest : Row β γ) : Row α γ

namespace Row

variable {α β γ : Type}

def append {α β γ : Type} : Row α β → Row β γ → Row α γ
  | .nil, second => second
  | .cons name step rest, second => .cons name step (rest.append second)

def names {α β : Type} : Row α β → List String
  | .nil => []
  | .cons name _ rest => name :: rest.names

/-- Takes the steps from left to right up to the first that fails; the failure comes with the name of
that step. -/
def run {α β : Type} : Row α β → α → Except (String × StageError) β
  | .nil, input => .ok input
  | .cons name step rest, input =>
    match step input with
    | .error error => .error (name, error)
    | .ok between => rest.run between

theorem run_append (first : Row α β) (second : Row β γ) (input : α) :
    (first.append second).run input = first.run input >>= second.run := by
  induction first with
  | nil => rfl
  | cons name step rest ih =>
    rw [append, run, run]
    cases step input with
    | error error => rfl
    | ok between => exact ih second between

theorem names_append (first : Row α β) (second : Row β γ) :
    (first.append second).names = first.names ++ second.names := by
  induction first with
  | nil => rfl
  | cons name step rest ih => rw [append, names, names, ih, List.cons_append]

end Row

mutual

/-- The steps of a stage, with those of nested pipelines in their place. -/
def Stage.row {α β : Type} : Stage α β → Row α β
  | .step name run => .cons name run .nil
  | .nested pipeline => pipeline.row

def Pipeline.row {α β : Type} : Pipeline α β → Row α β
  | .start name run => .cons name run .nil
  | .andThen first next => first.row.append next.row

end

/-- The names of the steps, those of each stage together. -/
def Pipeline.groups {α β : Type} : Pipeline α β → List (List String)
  | .start name _ => [[name]]
  | .andThen first next => first.groups ++ [next.row.names]

namespace StageError

theorem blame_blame (outer inner : String) (error : StageError) :
    (error.blame inner).blame outer = error.blame inner := by
  cases error with
  | plain message => rfl
  | failed stage message => rfl

theorem blame_ne_plain (stage message : String) (error : StageError) :
    error.blame stage ≠ .plain message := by
  cases error with
  | plain message => simp [blame]
  | failed stage message => simp [blame]

end StageError

/-- The failure of a row, put down to the step that failed. -/
def Row.report {β : Type} (result : Except (String × StageError) β) : Except StageError β :=
  result.mapError fun failure => failure.2.blame failure.1

theorem Row.report_blame {β : Type} (result : Except (String × StageError) β) (stage : String) :
    (report result).mapError (·.blame stage) = report result := by
  cases result with
  | error failure =>
    have settled := StageError.blame_blame stage failure.1 failure.2
    exact congrArg Except.error settled
  | ok output => rfl

theorem Row.report_single {α β : Type} (name : String) (step : α → Except StageError β) (input : α) :
    report ((Row.cons name step .nil).run input) = (step input).mapError (·.blame name) := by
  rw [run]
  cases step input with
  | error error => rfl
  | ok output => rfl

mutual

theorem Stage.run_blame {α β : Type} : ∀ (stage : Stage α β) (input : α),
    (stage.run input).mapError (·.blame stage.name) = Row.report (stage.row.run input)
  | .step name run, input => (Row.report_single name run input).symm
  | .nested pipeline, input => by
    have inner := pipeline.run_eq_report input
    rw [Stage.run, Stage.name, Stage.row, inner]
    exact Row.report_blame _ _

theorem Pipeline.run_eq_report {α β : Type} : ∀ (pipeline : Pipeline α β) (input : α),
    pipeline.run input = Row.report (pipeline.row.run input)
  | .start name run, input => (Row.report_single name run input).symm
  | .andThen first next, input => by
    have early := first.run_eq_report input
    rw [Pipeline.run, Pipeline.row, Row.run_append, early]
    cases first.row.run input with
    | error failure => rfl
    | ok between => exact next.run_blame between

end

/-! ### The list of stages -/

mutual

theorem Stage.head_names {α β : Type} : ∀ stage : Stage α β,
    stage.row.names.head? = some stage.name
  | .step _ _ => rfl
  | .nested pipeline => pipeline.head_names

theorem Pipeline.head_names {α β : Type} : ∀ pipeline : Pipeline α β,
    pipeline.row.names.head? = some pipeline.name
  | .start _ _ => rfl
  | .andThen first next => by
    have early := first.head_names
    rw [Pipeline.row, Row.names_append, List.head?_append, early]
    rfl

end

namespace Pipeline

theorem names_row {α β : Type} : ∀ pipeline : Pipeline α β,
    pipeline.row.names = pipeline.groups.flatten
  | .start _ _ => rfl
  | .andThen first next => by
    have early := first.names_row
    rw [row, groups, Row.names_append, early, List.flatten_append, List.flatten_singleton]

theorem stages_groups {α β : Type} : ∀ pipeline : Pipeline α β,
    pipeline.stages.map some = pipeline.groups.map List.head?
  | .start _ _ => rfl
  | .andThen first next => by
    have early := first.stages_groups
    have last := next.head_names
    rw [stages, groups, List.map_append, List.map_append, early, List.map_singleton,
      List.map_singleton, last]

/-- Nesting changes nothing but the list of stages. A pipeline runs as its steps do in a row, up to the
first that fails: a plain failure is put down to that very step, one that names a stage comes out as it
is, and no plain failure is left. The stages are listed by the first step of each. -/
theorem run_flattened {α β : Type} (pipeline : Pipeline α β) (input : α) :
    (pipeline.run input =
      match pipeline.row.run input with
      | .ok output => .ok output
      | .error (step, .plain message) => .error (.failed step message)
      | .error (_, .failed stage message) => .error (.failed stage message)) ∧
    (∀ message, pipeline.run input ≠ .error (.plain message)) ∧
    pipeline.row.names = pipeline.groups.flatten ∧
    pipeline.stages.map some = pipeline.groups.map List.head? := by
  have flat := pipeline.run_eq_report input
  refine ⟨?_, ?_, pipeline.names_row, pipeline.stages_groups⟩
  · rw [flat]
    cases pipeline.row.run input with
    | ok output => rfl
    | error failure =>
      obtain ⟨step, error⟩ := failure
      cases error with
      | plain message => rfl
      | failed stage message => rfl
  · intro message
    rw [flat]
    cases pipeline.row.run input with
    | ok output => exact nofun
    | error failure =>
      intro same
      have plain : failure.2.blame failure.1 = .plain message := Except.error.inj same
      exact StageError.blame_ne_plain _ _ _ plain

end Pipeline

namespace Specimen

/-- A pipeline within a pipeline within a pipeline; the innermost rejects an empty text. -/
def pipeline : Pipeline String String :=
  .andThen
    (.andThen (.start "read" TextStep.keep.run)
      (.nested (.andThen (.start "trim" TextStep.keep.run)
        (.nested (.andThen (.start "mark" (TextStep.append "%").run)
          (.step "check" (TextStep.reject "%").run))))))
    (.step "write" TextStep.keep.run)

end Specimen

theorem Pipeline.run_flattened_specimen :
    Specimen.pipeline.run "" = .error (.failed "check" "rejected %") ∧
      Specimen.pipeline.row.names = ["read", "trim", "mark", "check", "write"] ∧
      Specimen.pipeline.stages.map some = [some "read", some "trim", some "write"] := by
  obtain ⟨flat, -, steps, stages⟩ := run_flattened Specimen.pipeline ""
  exact ⟨flat.trans rfl, steps.trans rfl, stages.trans rfl⟩

end LatexTree
