import LatexTree.Settings.Key
import LatexTree.Text.Split

/-! Settings from environment variables. The name of a variable tells the key, and its value the kind
of setting. -/
namespace LatexTree

abbrev Environment := List (String × String)

namespace Environment

def marker : String := "latex_ast_"

def place : String := "the environment"

def listKey : String := "processor.extensions"

/-- Two underscores divide the parts of a key. -/
def dotted : List Char → List Char
  | '_' :: '_' :: rest => '.' :: dotted rest
  | c :: rest => c :: dotted rest
  | [] => []

/-- The key that a variable sets, if it sets any; the case of its name does not matter. -/
def key? (name : String) : Option String :=
  let chars := (lowercase name).toList
  if marker.toList.isPrefixOf chars then
    some (String.ofList (dotted (chars.drop marker.length)))
  else none

def integer? (text : String) : Option Int :=
  let (negative, digits) := RealValue.signed text.toList
  if digits.isEmpty ∨ !digits.all Char.isDigit then none
  else
    let magnitude : Int := digitsValue digits
    let value := if negative then -magnitude else magnitude
    if -Int.pow 2 63 ≤ value ∧ value < Int.pow 2 63 then some value else none

/-- The scalar that a text spells, other than itself. -/
def scalar? (text : String) : Option Scalar :=
  if lowercase text = "true" then some (.bool true)
  else if lowercase text = "false" then some (.bool false)
  else ((integer? text).map .int).or ((RealValue.parse? text).map .real)

def setting (key value : String) : Setting :=
  match scalar? value with
  | some scalar => .scalar (some place) scalar
  | none =>
    if key = listKey then
      .list (some place) ((parts ',' value).map fun part => .scalar (some place) (.text part))
    else .scalar (some place) (.text value)

def put (environment : Environment) (root : Setting) : Except ItemError Setting :=
  environment.foldlM (fun root (name, value) =>
    match key? name with
    | some key => Setting.putKey key (setting key value) root
    | none => .ok root) root

end Environment

end LatexTree
