import LatexTree.Log
import LatexTree.Log.Pattern.Reader
import LatexTree.Number.RealValue
import LatexTree.Text.Alphanumeric
import LatexTree.Text.Blank

/-! Directives of log filters, such as `info`, `target=debug` and `target[span{field=value}]=trace`. -/
namespace LatexTree

inductive FieldValue where
  /-- A truth value or a number; no text is one. -/
  | literal
  | pattern (text : String) (pattern : Pattern)
deriving DecidableEq, Repr

structure FieldTest where
  name : String
  value : Option FieldValue
deriving DecidableEq, Repr

structure Directive where
  target : Option String := none
  span : Option String := none
  field : Option FieldTest := none
  level : Option Level := some .trace
deriving DecidableEq, Repr

inductive FilterError where
  | directive
  | level
  | field (pattern : String) (error : Pattern.PatternError)
  /-- A part of a directive begins or ends inside a character. -/
  | boundary
deriving DecidableEq, Repr

namespace FilterError

def levelMessage : String :=
  "error parsing level filter: expected one of \"off\", \"error\", \"warn\", \"info\", \"debug\", \"trace\", or a number 0-5"

/-- The error and its causes, the outermost first; some of them include the text of the next. -/
def chain : FilterError → List String
  | .directive => ["invalid filter directive"]
  | .level => [levelMessage, levelMessage]
  | .field pattern error =>
    let causes := error.chain pattern
    ("invalid field filter: " ++ causes.head?.getD "") :: causes
  | .boundary => []

end FilterError

namespace Directive

def ofRank : Nat → Option (Option Level)
  | 0 => some none
  | 1 => some (some .error)
  | 2 => some (some .warn)
  | 3 => some (some .info)
  | 4 => some (some .debug)
  | 5 => some (some .trace)
  | _ => none

def thresholdNames : List (String × Option Level) := [
  ("off", none), ("error", some .error), ("warn", some .warn), ("info", some .info),
  ("debug", some .debug), ("trace", some .trace)]

/-- A threshold is a number or a name in any case. -/
def threshold? (text : List Char) : Option (Option Level) :=
  let digits := match text with
    | '+' :: rest => rest
    | text => text
  let number := if digits.isEmpty ∨ !digits.all Char.isDigit then none
    else ofRank (digitsValue digits)
  number.or (thresholdNames.lookup (String.ofList (text.map Char.toLower)))

/-- A threshold after its mark; none at all lets everything through. -/
def thresholdOf (text : List Char) : Except FilterError (Option Level) :=
  if text.isEmpty then .ok (some .trace)
  else (threshold? text).elim (.error .level) .ok

def isLiteral (text : List Char) : Bool :=
  text == "true".toList || text == "false".toList ||
    (RealValue.parse? (String.ofList text)).isSome

/-- A test of a field: its name, and the value after an equals sign, up to the next one. -/
def fieldTest (text : List Char) : Except FilterError FieldTest :=
  let name := String.ofList (text.takeWhile (· ≠ '='))
  match text.dropWhile (· ≠ '=') with
  | [] => .ok ⟨name, none⟩
  | _ :: rest =>
    let value := rest.takeWhile (· ≠ '=')
    if isLiteral value then .ok ⟨name, some .literal⟩
    else
      let shown := String.ofList value
      match Pattern.parse value with
      | .ok pattern => .ok ⟨name, some (.pattern shown pattern)⟩
      | .error error => .error (.field shown error)

inductive Part where
  | start
  | word (first : Nat)
  | span (first : Nat)
  | field (first : Nat)
  | fieldEnd
  | spanEnd
  | level (first : Nat)
deriving DecidableEq, Repr

def isFirst (c : Char) : Bool := isAlphanumeric c || c == '-' || c == ':' || c == '_'

def dropBytes : List Char → Nat → Option (List Char)
  | [], count => if count = 0 then some [] else none
  | c :: rest, count =>
    if count = 0 then some (c :: rest)
    else if c.utf8Size ≤ count then dropBytes rest (count - c.utf8Size)
    else none

def takeBytes : List Char → Nat → Option (List Char)
  | [], count => if count = 0 then some [] else none
  | c :: rest, count =>
    if count = 0 then some []
    else if c.utf8Size ≤ count then (c :: ·) <$> takeBytes rest (count - c.utf8Size)
    else none

def sliceFrom (text : List Char) (first : Nat) : Except FilterError (List Char) :=
  (dropBytes text first).elim (.error .boundary) .ok

def slice (text : List Char) (first last : Nat) : Except FilterError (List Char) := do
  (takeBytes (← sliceFrom text first) (last - first)).elim (.error .boundary) .ok

def step (text : List Char) (place : Nat) (c : Char) :
    Part × Directive → Except FilterError (Part × Directive)
  | (.start, directive) =>
    if c = '[' then .ok (.span (place + 1), directive)
    else if isFirst c then .ok (.word place, directive)
    else .error .directive
  | (.word first, directive) =>
    if c = '=' ∨ c = '[' then do
      let target := String.ofList (← slice text first place)
      let next := if c = '=' then Part.level (place + 1) else .span (place + 1)
      return (next, { directive with target := some target })
    else .ok (.word first, directive)
  | (.span first, directive) =>
    if c = ']' then do
      let name := String.ofList (← slice text first place)
      return (.spanEnd, { directive with span := some name })
    else if c = '\x7b' then do
      let name := String.ofList (← slice text first place)
      return (.field (place + 1), { directive with span := if name.isEmpty then none else some name })
    else .ok (.span first, directive)
  | (.field first, directive) =>
    if c = '\x7d' then do
      let test ← slice text first place
      if test.isEmpty then .error .directive
      else return (.fieldEnd, { directive with field := some (← fieldTest test) })
    else .ok (.field first, directive)
  | (.fieldEnd, directive) =>
    if c = ']' then .ok (.spanEnd, directive) else .error .directive
  | (.spanEnd, directive) =>
    if c = '=' then .ok (.level (place + 1), directive) else .error .directive
  | (.level first, directive) => .ok (.level first, directive)

def steps (text : List Char) : Nat → Part × Directive → List Char →
    Except FilterError (Part × Directive)
  | _, state, [] => .ok state
  | place, state, c :: rest => do
    steps text (place + c.utf8Size) (← step text place c state) rest

/-- What is known at the end of a directive. A word alone is a threshold or else a target. -/
def finish (text : List Char) : Part × Directive → Except FilterError Directive
  | (.word first, directive) => do
    let word ← sliceFrom text first
    match threshold? word with
    | some level => return { directive with level }
    | none => return { directive with target := some (String.ofList word) }
  | (.level first, directive) => do
    return { directive with level := ← thresholdOf (← sliceFrom text first) }
  | (.spanEnd, directive) => .ok directive
  | _ => .error .directive

/-- Reads a directive. Blanks around it are passed over to find where its parts begin and end, but
the places are counted from the beginning with them. -/
def parse (text : List Char) : Except FilterError Directive := do
  finish text (← steps text 0 (.start, {}) (trimmed text))

end Directive

end LatexTree
