import LatexTree.Toml.Item

/-! TOML documents. Reading gives the table that the document is, or the date that it stands for, or
nothing if any part of it is malformed. -/
namespace LatexTree.Toml

def scalarItem : Scanner Item := fun text =>
  match text with
  | '"' :: _ | '\'' :: _ => (string text).map fun (value, rest) => (.scalar (.text value), rest)
  | _ => (word text).map fun (word, rest) => (.ofWord word, rest)

def listItems (item : Scanner Item) : Nat → Scanner (List Item)
  | 0, _ => none
  | fuel + 1, text => do
    match ← skipLayout false text with
    | ']' :: rest => return ([], rest)
    | text =>
      let (first, rest) ← item text
      match ← skipLayout false rest with
      | ']' :: rest => return ([first], rest)
      | ',' :: rest =>
        let (items, rest) ← listItems item fuel rest
        return (first :: items, rest)
      | _ => none

def keyValue (item : Scanner Item) : Scanner (List String × Item) := fun text => do
  let (key, rest) ← key text
  match rest with
  | '=' :: rest =>
    let (value, rest) ← item (skipBlanks rest)
    return ((key, value), skipBlanks rest)
  | _ => none

/-- The entries of a table between braces, on one line and with no comma at the end. -/
def inlineEntries (item : Scanner Item) : Nat → Entries → Scanner Entries
  | 0, _, _ => none
  | fuel + 1, entries, text => do
    let ((key, value), rest) ← keyValue item text
    let entries ← entries.define value key
    match rest with
    | '\x7d' :: rest => return (entries, rest)
    | ',' :: rest => inlineEntries item fuel entries rest
    | _ => none

/-- A value in which so many brackets and braces may be open at once. -/
def value : Nat → Scanner Item
  | depth + 1, '[' :: rest =>
    (listItems (value depth) (rest.length + 1) rest).map fun (items, rest) => (.list items, rest)
  | depth + 1, '\x7b' :: rest =>
    match skipBlanks rest with
    | '\x7d' :: rest => some (.table .closed [], rest)
    | _ => (inlineEntries (value depth) (rest.length + 1) [] rest).map fun (entries, rest) =>
      (.table .closed entries, rest)
  | _, text => scalarItem text

structure Document where
  entries : Entries
  header : List String

namespace Document

def line (document : Document) : Scanner Document
  | '[' :: '[' :: rest => do
    match ← key rest with
    | (header, ']' :: ']' :: rest) =>
      return (⟨← document.entries.atHeader Item.appendTable header, header⟩, rest)
    | _ => none
  | '[' :: rest => do
    match ← key rest with
    | (header, ']' :: rest) =>
      return (⟨← document.entries.atHeader Item.defineTable header, header⟩, rest)
    | _ => none
  | text => do
    let ((key, item), rest) ← keyValue (value depthLimit) text
    let entries ← document.entries.inTable (Entries.define item key) document.header
    return (⟨entries, document.header⟩, rest)

def isLineStart : List Char → Bool
  | [] => false
  | c :: _ => c != '#' && c != '\n' && c != '\r'

/-- Reads line after line; each takes at least one character. -/
def lines : Nat → Document → List Char → Option Document
  | _, document, [] => some document
  | 0, _, _ => none
  | fuel + 1, document, text => do
    let text := skipBlanks text
    let (document, rest) ← if isLineStart text then document.line text else some (document, text)
    lines fuel document (← lineRest rest)

end Document

def parse (text : String) : Option Item := do
  let chars := match text.toList with
    | '\ufeff' :: rest => rest
    | chars => chars
  let document ← Document.lines chars.length ⟨[], []⟩ chars
  Item.resolve? (.table .defined document.entries)

end LatexTree.Toml
