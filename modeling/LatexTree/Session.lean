import LatexTree.Fixture
import LatexTree.Merge.Complete
import LatexTree.Node.Comments
import LatexTree.Node.Outline
import LatexTree.Wire.Node

/-! Sessions: a tree is built from a fixture, comments are merged into it, and it is looked at, step
by step. A step that fails says why and leaves the state as it is, pending comments apart. -/
namespace LatexTree

inductive Step where
  | text
  | leaf (tag : String) (span : Span)
  | commentLeaf (span : Span)
  | parent (tag : String) (span : Span) (count : Nat)
  | nest (tag : String) (times : Nat)
  | comment (span : Span)
  | document
  | merge
  | mergeNone
  | insert
  | strip
  | unwrap (index : Nat)
  | validate
  | count
  | path (start : Nat)
  | outline
  | visit
  | json
  | save
  | same
deriving Repr

inductive Answer where
  | text (text : String)
  | head (node : Node)
  | stackSize (size : Nat)
  | token (token : CommentToken)
  | root (outline : String)
  | absent
  | valid
  | number (value : Nat)
  | path (tags : Option (List String))
  | visit (events : List Event)
  | saved
  | same (value : Bool)
  | misfit (misfit : Misfit)
  | refused (refusal : Refusal)
  | noRoot
deriving Repr

structure Session where
  fixture : Fixture
  stack : List Node := []
  pending : List CommentToken := []
  root : Option Node := none
  saved : Option Node := none
deriving Repr

namespace Session

def push (session : Session) (made : Except Misfit Node) : Session × Answer :=
  match made with
  | .error misfit => (session, .misfit misfit)
  | .ok node => ({ session with stack := session.stack ++ [node] }, .head node)

def group (session : Session) (tag : String) (span : Span) (count : Nat) : Session × Answer :=
  let kept := session.stack.length - count
  match session.fixture.parent tag span (session.stack.drop kept) with
  | .error misfit => (session, .misfit misfit)
  | .ok node => ({ session with stack := session.stack.take kept ++ [node] }, .head node)

def wrap (fixture : Fixture) (tag : String) : Nat → Node → Except Misfit Node
  | 0, node => .ok node
  | times + 1, node => do wrap fixture tag times (← fixture.parent tag node.span [node])

/-- Wraps the top of the stack. On an empty stack the first parent is an empty one at the beginning of
the text. -/
def nest (session : Session) (tag : String) (times : Nat) : Session × Answer :=
  let wrapped := match session.stack.getLast?, times with
    | some top, times => (wrap session.fixture tag times top).map ([·])
    | none, 0 => .ok []
    | none, times + 1 => do
      return [← wrap session.fixture tag times (← session.fixture.parent tag ⟨0, 0⟩ [])]
  match wrapped with
  | .error misfit => (session, .misfit misfit)
  | .ok nodes =>
    let stack := session.stack.dropLast ++ nodes
    ({ session with stack }, .stackSize stack.length)

def addComment (session : Session) (span : Span) : Session × Answer :=
  match session.fixture.comment span with
  | .error misfit => (session, .misfit misfit)
  | .ok token => ({ session with pending := session.pending ++ [token] }, .token token)

def setRoot (session : Session) (root : Node) : Session × Answer :=
  ({ session with root := some root }, .root root.outline)

def withRoot (session : Session) (use : Node → Session × Answer) : Session × Answer :=
  match session.root with
  | none => (session, .noRoot)
  | some root => use root

def look (session : Session) (view : Node → Answer) : Session × Answer :=
  session.withRoot fun root => (session, view root)

def merge (session : Session) (comments : Option (List CommentToken)) : Session × Answer :=
  session.withRoot fun root =>
    match (Request.mk session.fixture.source root comments).complete with
    | .error refusal => (session, .refused refusal)
    | .ok merged => session.setRoot merged

/-- Places comments without a check of the result. -/
def insert (session : Session) (tokens : List CommentToken) : Session × Answer :=
  session.withRoot fun root =>
    match commentLeaves session.fixture.source tokens with
    | .error refusal => (session, .refused refusal)
    | .ok comments =>
      session.setRoot (root.withChildren (Forest.insertAll (root.children?.getD []) comments))

def taken (session : Session) : Session := { session with pending := [] }

def step (session : Session) : Step → Session × Answer
  | .text => (session, .text session.fixture.text)
  | .leaf tag span => session.push (session.fixture.leaf tag span)
  | .commentLeaf span => session.push (session.fixture.commentLeaf span)
  | .parent tag span count => session.group tag span count
  | .nest tag times => session.nest tag times
  | .comment span => session.addComment span
  | .document =>
    let root := session.fixture.document session.stack
    ({ session with root := some root, stack := [] }, .head root)
  | .merge => session.taken.merge (some session.pending)
  | .mergeNone => session.merge none
  | .insert => session.taken.insert session.pending
  | .strip => session.withRoot fun root => session.setRoot root.stripComments
  | .unwrap index => session.withRoot fun root =>
    match (root.children?.getD [])[index]? with
    | none => (session, .absent)
    | some child => session.setRoot child
  | .validate => session.look fun root =>
    match root.validate with
    | .error refusal => .refused refusal
    | .ok _ => .valid
  | .count => session.look fun root => .number root.commentCount
  | .path start => session.look fun root => .path (root.commentPath start)
  | .outline => session.look fun root => .text root.outline
  | .visit => session.look fun root => .visit (root.events 0)
  | .json => session.look fun root => .text ((Wire.nodeValue root).render .compact)
  | .save => ({ session with saved := session.root }, .saved)
  | .same => (session, .same (session.saved = session.root))

def run (session : Session) : List Step → List Answer
  | [] => []
  | step :: rest =>
    let (next, answer) := session.step step
    answer :: next.run rest

end Session

end LatexTree
