import LatexTree.Log.Directive
import LatexTree.Text.Quoted
import LatexTree.Text.Split

/-! Log filters: directives between commas. Some of them ask for a target and for fields that a record
has; others, for the span around the stage that a record is made in. -/
namespace LatexTree

namespace Threshold

/-- A higher rank lets more through. -/
def rank (threshold : Option Level) : Nat := (threshold.map Level.rank).getD 0

def enables (threshold : Option Level) (level : Level) : Bool := level.rank ≤ rank threshold

end Threshold

structure StageSpan where
  stage : String
deriving DecidableEq, Repr

namespace StageSpan

def name : String := "stage"

def field : String := "stage"

def target : LogTarget := .stage

def level : Level := .debug

def text (span : StageSpan) : String := s!"{name}\x7b{field}=" ++ quoted span.stage ++ "\x7d: "

end StageSpan

def LogRecord.fieldNames (record : LogRecord) : List String :=
  "message" :: record.fields.map Prod.fst

namespace Directive

def covers (directive : Directive) (target : LogTarget) : Bool :=
  match directive.target with
  | some text => text.toList.isPrefixOf target.name.toList
  | none => true

/-- A directive with a span or a field looks at spans. -/
def isForSpans (directive : Directive) : Bool := directive.span.isSome || directive.field.isSome

def hasValue (directive : Directive) : Bool := (directive.field.bind FieldTest.value).isSome

/-- A directive without a span and without a value looks at records wherever they are made. -/
def isForRecords (directive : Directive) : Bool := directive.span.isNone && !directive.hasValue

def sameScope (first second : Directive) : Bool :=
  first.target == second.target && first.span == second.span && first.field == second.field

/-- A directive with a field decides only about records that have it. -/
def decidesRecord (directive : Directive) (record : LogRecord) : Bool :=
  directive.covers record.target &&
    directive.field.all fun test => record.fieldNames.contains test.name

def watchesStage (directive : Directive) : Bool :=
  directive.covers StageSpan.target && directive.span.all (· == StageSpan.name) &&
    directive.field.all fun test => test.name == StageSpan.field

def matchesStage (directive : Directive) (span : StageSpan) : Bool :=
  match directive.field.bind FieldTest.value with
  | none => true
  | some .literal => false
  | some (.pattern _ pattern) => pattern.fits span.stage

/-- A longer target of its own makes a directive more specific, then a field, then a greater name of
the field. -/
def lessSpecific (first second : Directive) : Bool :=
  let length (directive : Directive) := directive.target.map String.utf8ByteSize
  let field (directive : Directive) := directive.field.map FieldTest.name
  let below {α : Type} (less : α → α → Bool) : Option α → Option α → Bool
    | none, some _ => true
    | some first, some second => less first second
    | _, none => false
  below (· < ·) (length first) (length second) ||
    length first == length second && below (· < ·) (field first) (field second)

/-- The more specific one of two directives, and the later one if they are alike. -/
def moreSpecific (chosen : Option Directive) (next : Directive) : Option Directive :=
  match chosen with
  | none => some next
  | some chosen => some (if next.lessSpecific chosen then chosen else next)

end Directive

abbrev Filter := List Directive

namespace Filter

/-- Errors alone are logged if nothing else is said. -/
def parse (text : String) : Except FilterError Filter := do
  let directives ← ((splitAt ',' text.toList).filter (· ≠ [])).mapM Directive.parse
  return if directives.isEmpty then [{ level := some .error }] else directives

def forRecords (filter : Filter) : Filter := filter.filter Directive.isForRecords

def forSpans (filter : Filter) : Filter := filter.filter Directive.isForSpans

/-- The directives that no later one with the same scope replaces. -/
def effective : Filter → Filter
  | [] => []
  | directive :: rest =>
    if rest.any directive.sameScope then effective rest else directive :: effective rest

def decided (filter : Filter) : Option Level :=
  (filter.foldl Directive.moreSpecific none).bind Directive.level

/-- The rank up to which anything is looked at. Fields are looked at in any case if their values
count. -/
def reach (filter : Filter) : Nat :=
  if filter.any Directive.hasValue then Level.trace.rank
  else (filter.map fun directive => Threshold.rank directive.level).foldl max 0

def watching (filter : Filter) : Filter :=
  filter.forSpans.effective.filter Directive.watchesStage

def showsStage (filter : Filter) : Bool :=
  StageSpan.level.rank ≤ filter.reach &&
    (!filter.watching.isEmpty ||
      Threshold.enables
        (decided (filter.forRecords.filter (·.covers StageSpan.target))) StageSpan.level)

def stageRank (filter : Filter) (span : StageSpan) : Nat :=
  if filter.showsStage then
    ((filter.watching.filter (·.matchesStage span)).map fun directive =>
      Threshold.rank directive.level).foldl max 0
  else 0

def enables (filter : Filter) (span : Option StageSpan) (record : LogRecord) : Bool :=
  span.any (fun span => record.level.rank ≤ filter.stageRank span) ||
    Threshold.enables (decided (filter.forRecords.filter (·.decidesRecord record))) record.level

def fieldText (field : String × String) : String := s!" {field.1}={field.2}"

def line (filter : Filter) (span : Option StageSpan) (record : LogRecord) : String :=
  let stage := if filter.showsStage then (span.map StageSpan.text).getD "" else ""
  s!"{record.level.name} {stage}{record.message}" ++ String.join (record.fields.map fieldText)

def lines (filter : Filter) (span : Option StageSpan) (records : List LogRecord) : List String :=
  (records.filter (filter.enables span)).map (filter.line span)

end Filter

end LatexTree
