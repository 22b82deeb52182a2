import LatexTree.Settings.Value
import LatexTree.Toml.Token

/-! The tables of a TOML document while it is read. How a table came about decides what may still be
added to it. -/
namespace LatexTree.Toml

inductive TableKind where
  /-- Has a header of its own. -/
  | defined
  /-- Stands above a table with a header. -/
  | implied
  | dotted
  /-- Written between braces. -/
  | closed
deriving DecidableEq, Repr

inductive Item where
  | scalar (value : Scalar)
  | date (text : String)
  | list (items : List Item)
  | table (kind : TableKind) (entries : List (String × Item))
  /-- A list of tables with headers, the last of which is still open. -/
  | tables (earlier : List Item) (last : List (String × Item))
deriving Repr, Inhabited

abbrev Entries := List (String × Item)

abbrev Opening := Entries × (Entries → Item)

namespace Item

/-- A header passes through tables of any kind but closed ones, and makes those it lacks. -/
def openHeader : Option Item → Option Opening
  | none => some ([], .table .implied)
  | some (.table kind entries) => if kind = .closed then none else some (entries, .table kind)
  | some (.tables earlier last) => some (last, .tables earlier)
  | some _ => none

/-- A dotted key passes through tables without a header; the one it adds to was made by a dotted key
too. -/
def openDotted (innermost : Bool) : Option Item → Option Opening
  | none => some ([], .table .dotted)
  | some (.table .dotted entries) => some (entries, .table .dotted)
  | some (.table .implied entries) => if innermost then none else some (entries, .table .implied)
  | some (.tables earlier last) => if innermost then none else some (last, .tables earlier)
  | some _ => none

def defineTable : Option Item → Option Item
  | none => some (.table .defined [])
  | some (.table .implied entries) => some (.table .defined entries)
  | some _ => none

def appendTable : Option Item → Option Item
  | none => some (.tables [] [])
  | some (.tables earlier last) => some (.tables (earlier ++ [.table .defined last]) [])
  | some _ => none

def ofWord : Word → Item
  | .scalar value => .scalar value
  | .date text => .date text

/-- A table whose first key is this one stands for a date. -/
def dateKey : String := "$__toml_private_datetime"

def ofDate? : Item → Option Item
  | .scalar (.text text) => (quotedDate? text.toList).map .date
  | _ => none

mutual

def resolve? : Item → Option Item
  | .scalar value => some (.scalar value)
  | .date text => some (.date text)
  | .list items => return .list (← resolveAll? items)
  | .table kind [] => some (.table kind [])
  | .table kind ((name, item) :: rest) =>
    if name = dateKey then ofDate? item
    else return .table kind ((name, ← resolve? item) :: (← resolveEntries? rest))
  | .tables earlier [] => return .list ((← resolveAll? earlier) ++ [.table .defined []])
  | .tables earlier ((name, item) :: rest) => do
    let earlier ← resolveAll? earlier
    let last ← if name = dateKey then ofDate? item
      else do return .table .defined ((name, ← resolve? item) :: (← resolveEntries? rest))
    return .list (earlier ++ [last])

def resolveAll? : List Item → Option (List Item)
  | [] => some []
  | item :: rest => return (← resolve? item) :: (← resolveAll? rest)

def resolveEntries? : List (String × Item) → Option (List (String × Item))
  | [] => some []
  | (name, item) :: rest => return (name, ← resolve? item) :: (← resolveEntries? rest)

end

mutual

def setting (origin : Option String) : Item → Setting
  | .scalar value => .scalar origin value
  | .date text => .scalar origin (.text text)
  | .list items => .list origin (settings origin items)
  | .table _ entries => .table origin (entrySettings origin entries)
  | .tables earlier last =>
    .list origin (settings origin earlier ++ [.table origin (entrySettings origin last)])

def settings (origin : Option String) : List Item → List Setting
  | [] => []
  | item :: rest => setting origin item :: settings origin rest

def entrySettings (origin : Option String) : List (String × Item) → List (String × Setting)
  | [] => []
  | (name, item) :: rest => (name, setting origin item) :: entrySettings origin rest

end

end Item

namespace Entries

def alter (name : String) (change : Option Item → Option Item) : Entries → Option Entries
  | [] => do return [(name, ← change none)]
  | (name', item) :: rest =>
    if name' = name then do return (name', ← change (some item)) :: rest
    else do return (name', item) :: (← alter name change rest)

/-- Gives a dotted key its value; no key has two. -/
def define (item : Item) : List String → Entries → Option Entries
  | [], _ => none
  | [name], entries => alter name (fun old => if old.isNone then some item else none) entries
  | name :: next :: rest, entries =>
    alter name (fun old => do
      let (inner, close) ← Item.openDotted rest.isEmpty old
      return close (← define item (next :: rest) inner)) entries

def atHeader (change : Option Item → Option Item) : List String → Entries → Option Entries
  | [], _ => none
  | [name], entries => alter name change entries
  | name :: next :: rest, entries =>
    alter name (fun old => do
      let (inner, close) ← Item.openHeader old
      return close (← atHeader change (next :: rest) inner)) entries

def inTable (change : Entries → Option Entries) : List String → Entries → Option Entries
  | [], entries => change entries
  | name :: rest, entries =>
    alter name (fun old => do
      let (inner, close) ← Item.openHeader old
      return close (← inTable change rest inner)) entries

end Entries

end LatexTree.Toml
