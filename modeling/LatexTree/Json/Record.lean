import LatexTree.Json.Skip

/-! Reading values of a known kind.

A record is written as an object, its members in any order, or as a list of its fields in their
order. A draft collects the fields that have been read. -/
namespace LatexTree.Json

def depthLimit : Nat := 127

structure Field (δ : Type) where
  name : String
  required : Bool
  present : δ → Bool
  read : δ → Reader δ

structure Shape (δ α : Type) where
  name : String
  draft : δ
  fields : List (Field δ)
  finish : δ → Except Fault α

def need {β : Type} (name : String) (value : Option β) : Except Fault β :=
  match value with
  | some value => .ok value
  | none => .error (.missing name)

/-- A list may end before fields that are not required. -/
def fieldsFrom {δ : Type} (expected : Expected) : List (Field δ) → Nat → Bool → δ → Reader δ
  | [], _, _, draft => return draft
  | field :: rest, index, first, draft => do
    if ← nextItem first then fieldsFrom expected rest (index + 1) false (← field.read draft)
    else if field.required then throw (.wrongLength index expected)
    else fieldsFrom expected rest (index + 1) first draft

/-- Members that are no fields are passed over. -/
def addMember {δ : Type} (fields : List (Field δ)) (key : String) (draft : δ) : Reader δ :=
  match fields.find? (·.name = key) with
  | none => do
    readColon
    skipValue
    return draft
  | some field => do
    if field.present draft then throw (.duplicate key)
    readColon
    field.read draft

/-- Reads a record whose fields have one bracket less to open. -/
def readRecord {δ α : Type} (budget : Nat) (shape : Nat → Shape δ α) : Reader α := do
  let shape := shape (budget - 1)
  match ← peek with
  | none => throw (.ended .value)
  | some '[' =>
    openBracket budget
    let expected := .fields shape.name shape.fields.length
    let draft ← fieldsFrom expected shape.fields 0 true shape.draft
    let value ← shape.finish draft
    closeList
    return value
  | some '\x7b' =>
    openBracket budget
    let draft ← readMembers (addMember shape.fields) shape.draft
    let value ← shape.finish draft
    advance
    return value
  | some _ => mismatch (.record shape.name)

def readString : Reader String := do
  match ← peek with
  | some '"' => advance; readText
  | _ => mismatch .text

def readList {α : Type} (budget : Nat) (item : Nat → Reader α) : Reader (List α) := do
  match ← peek with
  | some '[' =>
    openBracket budget
    let items ← readItems (item (budget - 1))
    closeList
    return items
  | _ => mismatch .sequence

def readNat : Reader Nat := do
  match ← peek with
  | none => throw (.ended .value)
  | some c =>
    if c = '-' ∨ c.isDigit then
      if c = '-' then advance
      match ← scan (number (c = '-')) with
      | .natural value => return value
      | .negative value => throw (.wrongValue (.number (.negative value)) .natural)
      | .real value => throw (.wrongType (.number (.real value)) .natural)
    else mismatch .natural

def readOptional {α : Type} (reader : Reader α) : Reader (Option α) := do
  match ← peek with
  | some 'n' =>
    advance
    scan (wordRest ['u', 'l', 'l'])
    return none
  | _ => return some (← reader)

def readNull : Reader Unit := do
  match ← peek with
  | some 'n' => advance; scan (wordRest ['u', 'l', 'l'])
  | _ => mismatch .nothing

/-! ### Values of any kind -/

def readLayer (budget : Nat) (inner : Reader Value) : Reader Value := do
  match ← peek with
  | none => throw (.ended .value)
  | some 'n' => advance; scan (wordRest ['u', 'l', 'l']); return .null
  | some 't' => advance; scan (wordRest ['r', 'u', 'e']); return .bool true
  | some 'f' => advance; scan (wordRest ['a', 'l', 's', 'e']); return .bool false
  | some '-' => advance; return .number (← scan (number true))
  | some '"' => advance; return .text (← readText)
  | some '[' =>
    openBracket budget
    let items ← readItems inner
    closeList
    return .list items
  | some '\x7b' =>
    openBracket budget
    let members ← readMembers (fun key members => do
      readColon
      return putMember key (← inner) members) []
    advance
    return .object members
  | some c => if c.isDigit then return .number (← scan (number false)) else throw .expectedValue

/-- Members come out sorted by name, and of two with one name the later counts. -/
def readValue : Nat → Reader Value
  | 0 => readLayer 0 (throw .tooDeep)
  | budget + 1 => readLayer (budget + 1) (readValue budget)

end LatexTree.Json
