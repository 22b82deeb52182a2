import LatexTree.Json.Value

/-! JSON text, on one line or with a line for each item. -/
namespace LatexTree.Json

inductive Layout where
  | compact
  | pretty
deriving DecidableEq, Repr

namespace Layout

/-- What stands before an item, and before the bracket that closes the items. -/
def gap : Layout → Nat → List Char
  | .compact, _ => []
  | .pretty, depth => '\n' :: List.replicate (2 * depth) ' '

def colon : Layout → List Char
  | .compact => [':']
  | .pretty => [':', ' ']

end Layout

def hexDigit (n : Nat) : Char := Nat.digitChar n

/-- Quotes, backslashes and controls are escaped, nothing else is. -/
def escapedChar (c : Char) : List Char :=
  if c = '"' then ['\\', '"']
  else if c = '\\' then ['\\', '\\']
  else if c = '\x08' then ['\\', 'b']
  else if c = '\t' then ['\\', 't']
  else if c = '\n' then ['\\', 'n']
  else if c = '\x0c' then ['\\', 'f']
  else if c = '\r' then ['\\', 'r']
  else if c.toNat < 0x20 then
    ['\\', 'u', '0', '0', hexDigit (c.toNat / 16), hexDigit (c.toNat % 16)]
  else [c]

def textChars (text : String) : List Char := '"' :: (text.toList.flatMap escapedChar ++ ['"'])

mutual

def Value.chars (layout : Layout) (depth : Nat) : Value → List Char
  | .null => ['n', 'u', 'l', 'l']
  | .bool true => ['t', 'r', 'u', 'e']
  | .bool false => ['f', 'a', 'l', 's', 'e']
  | .number value => value.chars
  | .text value => textChars value
  | .list [] => ['[', ']']
  | .list (item :: rest) =>
    '[' :: (layout.gap (depth + 1) ++ item.chars layout (depth + 1) ++
      itemsChars layout (depth + 1) rest ++ layout.gap depth ++ [']'])
  | .object [] => ['\x7b', '\x7d']
  | .object ((name, value) :: rest) =>
    '\x7b' :: (layout.gap (depth + 1) ++ textChars name ++ layout.colon ++
      value.chars layout (depth + 1) ++ membersChars layout (depth + 1) rest ++
      layout.gap depth ++ ['\x7d'])

def itemsChars (layout : Layout) (depth : Nat) : List Value → List Char
  | [] => []
  | item :: rest =>
    ',' :: (layout.gap depth ++ item.chars layout depth ++ itemsChars layout depth rest)

def membersChars (layout : Layout) (depth : Nat) : List (String × Value) → List Char
  | [] => []
  | (name, value) :: rest =>
    ',' :: (layout.gap depth ++ textChars name ++ layout.colon ++ value.chars layout depth ++
      membersChars layout depth rest)

end

def Value.render (layout : Layout) (value : Value) : String := String.ofList (value.chars layout 0)

end LatexTree.Json
