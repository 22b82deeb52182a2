import LatexTree.Settings.Value

/-! Key paths such as `output.format` and `processor.extensions[0]`. -/
namespace LatexTree

inductive KeyStep where
  | child (name : String)
  | item (subscript : Int)
deriving DecidableEq, Repr

structure KeyPath where
  first : String
  rest : List KeyStep
deriving DecidableEq, Repr

inductive KeyError where
  | name
  | step
  | digit
  | range
deriving DecidableEq, Repr

def KeyError.message : KeyError → String
  | .name => "IsA"
  | .step => "Char"
  | .digit => "Digit"
  | .range => "Map on Result"

namespace KeyPath

def isNameChar (c : Char) : Bool := c.isAlphanum || c == ' ' || c == '_' || c == '-'

def isSpace (c : Char) : Bool := c == ' ' || c == '\t'

def subscript (text : List Char) : Except KeyError (Int × List Char) :=
  let text := text.dropWhile isSpace
  let (negative, text) := match text with
    | '-' :: rest => (true, rest)
    | rest => (false, rest)
  let digits := text.takeWhile Char.isDigit
  if digits.isEmpty then .error .digit
  else
    let magnitude := digitsValue digits
    if magnitude ≤ Nat.pow 2 63 - (if negative then 0 else 1) then
      match (text.dropWhile Char.isDigit).dropWhile isSpace with
      | ']' :: rest => .ok (if negative then -(magnitude : Int) else magnitude, rest)
      | _ => .error .step
    else .error .range

/-- The steps of a path; each takes at least one character. -/
def stepsFrom : Nat → List Char → Except KeyError (List KeyStep)
  | _, [] => .ok []
  | 0, _ => .error .step
  | fuel + 1, '.' :: rest =>
    let name := rest.takeWhile isNameChar
    if name.isEmpty then .error .step
    else do return .child (String.ofList name) :: (← stepsFrom fuel (rest.dropWhile isNameChar))
  | fuel + 1, '[' :: rest => do
    let (subscript, rest) ← subscript rest
    return .item subscript :: (← stepsFrom fuel rest)
  | _, _ => .error .step

def parse (text : String) : Except KeyError KeyPath :=
  let chars := text.toList
  let name := chars.takeWhile isNameChar
  if name.isEmpty then .error .name
  else do return ⟨String.ofList name, ← stepsFrom chars.length (chars.dropWhile isNameChar)⟩

/-- Puts a value at the end of a path. What stands in the way gives way to tables and lists. -/
def putFrom (value : Setting) : KeyStep → List KeyStep → Setting → Except ItemError Setting
  | .child name, [], root => .ok (.put name value root)
  | .item subscript, [], root => root.alterItem subscript fun _ => .ok value
  | .child name, step :: rest, root => do
    let inner ← putFrom value step rest ((root.entry? name).getD .nil)
    return root.alterEntry name fun _ => inner
  | .item subscript, step :: rest, root => root.alterItem subscript (putFrom value step rest)

def put (path : KeyPath) (value root : Setting) : Except ItemError Setting :=
  putFrom value (.child path.first) path.rest root

end KeyPath

/-- Puts a value where a key says, or under the key itself if it is no path. -/
def Setting.putKey (key : String) (value root : Setting) : Except ItemError Setting :=
  match KeyPath.parse key with
  | .ok path => path.put value root
  | .error _ => .ok (.put key value root)

end LatexTree
