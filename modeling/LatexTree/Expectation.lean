import LatexTree.Merge.Refusal
import LatexTree.Text.Quoted

/-! Expectations about a tree. The first that is not met is reported, with the path to its node. -/
namespace LatexTree

inductive Expectation where
  | tag (expected : String)
  | comment
  | leaf
  | span (expected : Span)
  | raw (expected : String)
  | value (expected : String)
  | childCount (expected : Nat)
  | childTags (expected : List String)
  | child (index : Nat) (expectations : List Expectation)
deriving Repr, Inhabited

def unequal (message left right : String) : String :=
  s!"assertion `left == right` failed: {message}\n  left: {left}\n right: {right}"

def bracketed (items : List String) : String := "[" ++ ", ".intercalate items ++ "]"

def spanFields (span : Span) : String :=
  s!"Range \x7b start: {span.start}, end: {span.stop} \x7d"

def optionText (value : Option String) : String :=
  match value with
  | some text => s!"Some({quoted text})"
  | none => "None"

namespace Node

def summary (nodes : List Node) : String := bracketed (nodes.map (·.label.text))

def expectTag (node : Node) (path expected : String) : Except String Unit :=
  if node.tag = expected then .ok ()
  else .error (unequal s!"{path}: Expected node type {expected}, found {node.tag}"
    (quoted node.tag) (quoted expected))

def expectLeaf (node : Node) (path : String) : Except String Unit :=
  match node with
  | .leaf .. => .ok ()
  | .parent _ children =>
    .error s!"{path}: Expected a leaf, found a parent with {children.length} children"

def expectChildren (node : Node) (path : String) : Except String (List Node) :=
  match node with
  | .parent _ children => .ok children
  | .leaf head _ =>
    .error s!"{path}: Expected a parent, found leaf {head.tag} {head.span.text}"

mutual

def meets (node : Node) (path : String) : Expectation → Except String Unit
  | .tag expected => node.expectTag path expected
  | .comment => do
    node.expectTag path Tag.comment
    node.expectLeaf path
  | .leaf => node.expectLeaf path
  | .span expected =>
    if node.span = expected then .ok ()
    else .error (unequal s!"{path}: Expected range {expected.text}, found {node.span.text}"
      (spanFields node.span) (spanFields expected))
  | .raw expected =>
    if node.raw = expected then .ok ()
    else .error (unequal
      s!"{path}: Expected raw text {quoted expected}, found {quoted node.raw}"
      (quoted node.raw) (quoted expected))
  | .value expected =>
    if node.value? = some expected then .ok ()
    else .error (unequal
      s!"{path}: Expected value {quoted expected}, found {optionText node.value?}"
      (optionText node.value?) (optionText (some expected)))
  | .childCount expected => do
    let children ← node.expectChildren path
    let count := children.length
    if count = expected then .ok ()
    else
      let found := summary children
      .error (unequal
        s!"{path}: Expected {expected} children, found {count} children: {found}"
        s!"{count}" s!"{expected}")
  | .childTags expected => do
    let children ← node.expectChildren path
    let tags := children.map (·.tag)
    if tags = expected then .ok ()
    else .error (unequal s!"{path}: Unexpected child types"
      (bracketed (tags.map quoted)) (bracketed (expected.map quoted)))
  | .child index expectations => do
    let children ← node.expectChildren path
    match children[index]? with
    | some child => child.meetsAll s!"{path}[{index}]" expectations
    | none =>
      let count := children.length
      let found := summary children
      .error s!"{path}: Child index {index} out of bounds ({count} children: {found})"

def meetsAll (node : Node) (path : String) : List Expectation → Except String Unit
  | [] => .ok ()
  | expectation :: rest => do
    node.meets path expectation
    node.meetsAll path rest

end

def check (node : Node) (expectations : List Expectation) : Except String Unit :=
  node.meetsAll node.tag expectations

end Node

end LatexTree
