import LatexTree.Number.RealValue
import LatexTree.Text.Lowercase

/-! Settings before they are given a type: nested tables of values, each with the place it came
from. Names in tables are in lower case. -/
namespace LatexTree

inductive Scalar where
  | nil
  | bool (value : Bool)
  | int (value : Int)
  | real (value : RealValue)
  | text (value : String)
deriving DecidableEq, Repr

inductive Setting where
  | scalar (origin : Option String) (value : Scalar)
  | list (origin : Option String) (items : List Setting)
  | table (origin : Option String) (entries : List (String × Setting))
deriving Repr, Inhabited

inductive ItemError where
  | beforeFirst
  | tooLong
deriving DecidableEq, Repr

def ItemError.message : ItemError → String
  | .beforeFirst => "index out of bounds: the len is 0 but the index is 18446744073709551615"
  | .tooLong => "capacity overflow"

namespace Setting

def nil : Setting := .scalar none .nil

def empty : Setting := .table none []

def origin : Setting → Option String
  | .scalar origin _ => origin
  | .list origin _ => origin
  | .table origin _ => origin

def alter (name : String) (change : Option Setting → Setting) :
    List (String × Setting) → List (String × Setting)
  | [] => [(name, change none)]
  | (name', value) :: rest =>
    if name' = name then (name', change (some value)) :: rest
    else (name', value) :: alter name change rest

/-- The setting as a table; anything else gives way to an empty one. -/
def asTable : Setting → Option String × List (String × Setting)
  | .table origin entries => (origin, entries)
  | _ => (none, [])

def asList : Setting → Option String × List Setting
  | .list origin items => (origin, items)
  | _ => (none, [])

def alterEntry (name : String) (change : Option Setting → Setting) (root : Setting) : Setting :=
  let (origin, entries) := root.asTable
  .table origin (alter (lowercase name) change entries)

mutual

/-- Lays a value over the entry with the name. A table goes over it entry by entry, so that an empty
table leaves what is there; any other value takes its place. -/
def put (name : String) : Setting → Setting → Setting
  | .table _ entries, root => root.alterEntry name fun old => putAll entries (old.getD empty)
  | .list origin items, root => root.alterEntry name fun _ => .list origin items
  | .scalar origin value, root => root.alterEntry name fun _ => .scalar origin value

def putAll : List (String × Setting) → Setting → Setting
  | [], root => root
  | (name, value) :: rest, root => putAll rest (put name value root)

end

def entry? (name : String) (root : Setting) : Option Setting :=
  root.asTable.2.lookup (lowercase name)

def lengthLimit : Nat := Nat.pow 2 32

/-- The place of a list that a subscript means; one below zero counts from the end. -/
def place (subscript : Int) (length : Nat) : Except ItemError Nat :=
  if 0 ≤ subscript then
    if subscript.toNat < lengthLimit then .ok subscript.toNat else .error .tooLong
  else if subscript.natAbs ≤ length then .ok (length - subscript.natAbs)
  else if subscript.natAbs = length + 1 then .error .beforeFirst
  else .error .tooLong

/-- Changes an item of a list, which is padded up to it. -/
def alterItem (subscript : Int) (change : Setting → Except ItemError Setting) (root : Setting) :
    Except ItemError Setting := do
  let (origin, items) := root.asList
  let index ← place subscript items.length
  let padded := items ++ List.replicate (index + 1 - items.length) nil
  return .list origin (padded.set index (← change (padded[index]?.getD nil)))

end Setting

end LatexTree
