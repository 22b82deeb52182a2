import LatexTree.Merge.Validity
import LatexTree.Proofs.Validity

/-! Which violation is reported.

Said as a recursion, validation stops at the first violation: that of a node comes before that of the
order of its children, and both come before anything below the node. A visitor has no way to stop. It
is led through the whole tree, and holds on to what it has found first. -/
namespace LatexTree

def Head.examine (head : Head) : Except Refusal Unit :=
  if head.span.stop < head.span.start ∨ head.loc.stop < head.loc.start then
    .error (.inverted head.tag head.span)
  else .ok ()

/-- Refuses the leftmost two neighbours of which the first ends after the second starts. -/
def Head.examineOrder (head : Head) (children : List Node) : Except Refusal Unit :=
  match (children.zip children.tail).find? fun pair => pair.2.span.start < pair.1.span.stop with
  | some (previous, next) =>
    .error (.overlap ⟨head.tag, head.span⟩ ⟨previous.tag, previous.span⟩ ⟨next.tag, next.span⟩)
  | none => .ok ()

mutual

/-- Stops at the first refusal. -/
def Node.examine : Node → Except Refusal Unit
  | .leaf head _ => head.examine
  | .parent head children => do
    head.examine
    head.examineOrder children
    Forest.examine children

def Forest.examine : List Node → Except Refusal Unit
  | [] => .ok ()
  | node :: rest => do
    node.examine
    Forest.examine rest

end

/-- What becomes of a state when a parent is entered, when it is left and when a leaf is met. -/
structure Visitor (σ : Type) where
  enter : Node → Nat → σ → σ
  leave : Node → Nat → σ → σ
  leaf : Node → Nat → σ → σ

mutual

/-- Leads the visitor through the node and everything below it, one level deeper for the children. -/
def Node.accept {σ : Type} (visitor : Visitor σ) (depth : Nat) (state : σ) : Node → σ
  | .parent head children =>
    let entered := visitor.enter (.parent head children) depth state
    visitor.leave (.parent head children) depth (Forest.accept visitor (depth + 1) entered children)
  | .leaf head value => visitor.leaf (.leaf head value) depth state

def Forest.accept {σ : Type} (visitor : Visitor σ) (depth : Nat) (state : σ) : List Node → σ
  | [] => state
  | node :: rest => Forest.accept visitor depth (node.accept visitor depth state) rest

end

namespace Node

def inversion (node : Node) : Option Refusal :=
  if node.span.Inverted ∨ node.loc.Inverted then some (.inverted node.tag node.span) else none

def clash (node : Node) : Option Refusal :=
  (Forest.firstClash (node.children?.getD [])).map fun pair =>
    .overlap node.label pair.1.label pair.2.label

end Node

namespace Validator

-- Neither check looks at the node once a refusal has been found.
def checkNode (node : Node) : Option Refusal → Option Refusal
  | some found => some found
  | none => node.inversion

def checkSiblings (node : Node) : Option Refusal → Option Refusal
  | some found => some found
  | none => node.clash

end Validator

def validator : Visitor (Option Refusal) where
  enter node _ found := Validator.checkSiblings node (Validator.checkNode node found)
  leave _ _ found := found
  leaf node _ found := Validator.checkNode node found

def verdict : Option Refusal → Except Refusal Unit
  | some refusal => .error refusal
  | none => .ok ()

theorem verdict_or (first second : Option Refusal) :
    verdict (first.or second) = verdict first >>= fun _ => verdict second := by
  cases first with
  | none => rfl
  | some refusal => rfl

theorem Node.violation_eq_or (node : Node) : node.violation = node.inversion.or node.clash := by
  unfold violation inversion clash
  split
  · rfl
  · rfl

theorem validator_enter (node : Node) (depth : Nat) (found : Option Refusal) :
    validator.enter node depth found = found.or (node.inversion.or node.clash) := by
  cases found with
  | some refusal => rfl
  | none =>
    change Validator.checkSiblings node node.inversion = node.inversion.or node.clash
    cases node.inversion with
    | some refusal => rfl
    | none => rfl

theorem validator_leaf (node : Node) (depth : Nat) (found : Option Refusal) :
    validator.leaf node depth found = found.or node.inversion := by
  cases found with
  | some refusal => rfl
  | none => rfl

theorem Forest.firstClash_eq_find? (forest : List Node) :
    firstClash forest =
      (forest.zip forest.tail).find? fun pair => pair.2.span.start < pair.1.span.stop := by
  induction forest with
  | nil => rfl
  | cons first rest ih =>
    cases rest with
    | nil => rfl
    | cons second rest =>
      rw [firstClash, List.tail_cons, List.zip_cons_cons, List.find?_cons]
      by_cases before : first.span.Before second.span
      · have inOrder : ¬ second.span.start < first.span.stop := Nat.not_lt.mpr before
        rw [if_pos before, ih, decide_eq_false inOrder]
        rfl
      · have overlap : second.span.start < first.span.stop := Nat.lt_of_not_le before
        rw [if_neg before, decide_eq_true overlap]

theorem Node.examine_head (node : Node) : node.head.examine = verdict node.inversion := by
  unfold Head.examine inversion
  by_cases inverted : node.span.Inverted ∨ node.loc.Inverted
  · rw [if_pos inverted]
    exact if_pos inverted
  · rw [if_neg inverted]
    exact if_neg inverted

theorem Head.examineOrder_eq (head : Head) (children : List Node) :
    head.examineOrder children = verdict (Node.parent head children).clash := by
  have pairs : (Node.parent head children).clash =
      (Forest.firstClash children).map fun pair =>
        .overlap (Node.parent head children).label pair.1.label pair.2.label := rfl
  rw [pairs, Forest.firstClash_eq_find?, examineOrder]
  cases (children.zip children.tail).find? fun pair => pair.2.span.start < pair.1.span.stop with
  | none => rfl
  | some pair => rfl

namespace Forest

def firstViolation (forest : List Node) : Option Refusal :=
  (subtrees forest).findSome? Node.violation

theorem firstViolation_leaf (head : Head) (value : String) (rest : List Node) :
    firstViolation (.leaf head value :: rest) =
      (Node.leaf head value).inversion.or (firstViolation rest) := by
  have alone : (Node.leaf head value).violation = (Node.leaf head value).inversion := by
    rw [Node.violation_eq_or]
    exact Option.or_none
  rw [firstViolation, subtrees_leaf, List.findSome?_cons, alone]
  cases (Node.leaf head value).inversion with
  | none => rfl
  | some refusal => rfl

theorem firstViolation_parent (head : Head) (children rest : List Node) :
    firstViolation (.parent head children :: rest) =
      (Node.parent head children).inversion.or ((Node.parent head children).clash.or
        ((firstViolation children).or (firstViolation rest))) := by
  rw [firstViolation, subtrees_parent, List.findSome?_cons, List.findSome?_append,
    ← Option.or_assoc, ← Node.violation_eq_or]
  cases (Node.parent head children).violation with
  | none => rfl
  | some refusal => rfl

theorem examine_eq_verdict (forest : List Node) : examine forest = verdict (firstViolation forest) := by
  induction forest using Forest.induct with
  | nil => rfl
  | leaf head value rest ih =>
    have own := Node.examine_head (.leaf head value)
    rw [firstViolation_leaf, verdict_or, ← own, ← ih]
    rfl
  | parent head children rest below ih =>
    have own := Node.examine_head (.parent head children)
    have order := head.examineOrder_eq children
    rw [firstViolation_parent, verdict_or, verdict_or, verdict_or, ← own, ← order, ← below, ← ih]
    rw [examine, Node.examine, bind_assoc, bind_assoc]
    rfl

/-- The visitor leaves with the refusal it came with, or else with the first that there is. -/
theorem accept_validator (forest : List Node) (depth : Nat) (found : Option Refusal) :
    accept validator depth found forest = found.or (firstViolation forest) := by
  induction forest using Forest.induct generalizing depth found with
  | nil => exact Option.or_none.symm
  | leaf head value rest ih =>
    have met := validator_leaf (.leaf head value) depth found
    rw [accept, ih, Node.accept, met, firstViolation_leaf, Option.or_assoc]
  | parent head children rest below ih =>
    have entered := validator_enter (.parent head children) depth found
    rw [accept, ih, Node.accept, entered, below, firstViolation_parent]
    simp only [validator, Option.or_assoc]

end Forest

namespace Node

/-- Validation reports the first violation. It answers as the recursion that stops at the first
refusal, and so does a visitor that is led through the whole tree and then asked what it has found. -/
theorem validate_reports_first (root : Node) :
    root.validate = root.examine ∧ verdict (root.accept validator 0 none) = root.examine := by
  have recursion : root.examine = verdict (Forest.firstViolation [root]) := by
    rw [← Forest.examine_eq_verdict, Forest.examine]
    exact (bind_pure root.examine).symm
  have visited : root.accept validator 0 none = Forest.firstViolation [root] :=
    Forest.accept_validator [root] 0 none
  have searched : root.validate = verdict (Forest.firstViolation [root]) := by
    rw [validate, subtrees_eq, Forest.firstViolation]
    cases (Forest.subtrees [root]).findSome? violation with
    | none => rfl
    | some refusal => rfl
  exact ⟨searched.trans recursion.symm, by rw [visited, recursion]⟩

-- Two children overlap; that a leaf within the first of them is inverted is not reported.
example :
    (Node.parent ⟨"Document", "", ⟨0, 9⟩, default⟩
      [.parent ⟨"Paragraph", "", ⟨0, 5⟩, default⟩ [.leaf ⟨"Str", "", ⟨3, 2⟩, default⟩ ""],
        .leaf ⟨"Str", "", ⟨4, 6⟩, default⟩ ""]).validate =
      .error (.overlap ⟨"Document", ⟨0, 9⟩⟩ ⟨"Paragraph", ⟨0, 5⟩⟩ ⟨"Str", ⟨4, 6⟩⟩) := rfl

end Node

end LatexTree
