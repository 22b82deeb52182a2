import LatexTree.Merge.Placement

/-! The placement of one comment as a rule system.

`Inserts` says what may become of a list of siblings, without depths, indices or a traversal state.
Insertion follows the rules and the rules leave no choice, so that a property of insertion is proved
by induction on a derivation: one case for each rule. -/
namespace LatexTree

mutual

private theorem Node.extends {motive : List Node → Prop} (nil : motive [])
    (leaf : ∀ head value rest, motive rest → motive (.leaf head value :: rest))
    (parent : ∀ head children rest, motive children → motive rest →
      motive (.parent head children :: rest)) :
    ∀ node rest, motive rest → motive (node :: rest)
  | .leaf head value, rest, tail => leaf head value rest tail
  | .parent head children, rest, tail =>
    parent head children rest (Forest.induct nil leaf parent children) tail

@[elab_as_elim]
theorem Forest.induct {motive : List Node → Prop} (nil : motive [])
    (leaf : ∀ head value rest, motive rest → motive (.leaf head value :: rest))
    (parent : ∀ head children rest, motive children → motive rest →
      motive (.parent head children :: rest)) :
    ∀ forest, motive forest
  | [] => nil
  | node :: rest => Node.extends nil leaf parent node rest (Forest.induct nil leaf parent rest)

end

namespace Node

@[simp] theorem span_parent (head : Head) (children : List Node) :
    (Node.parent head children).span = head.span := rfl

@[simp] theorem span_leaf (head : Head) (value : String) :
    (Node.leaf head value).span = head.span := rfl

/-- The node is a parent that includes the span. -/
def Admits (node : Node) (span : Span) : Prop := node.isParent = true ∧ node.span.Includes span

instance (node : Node) (span : Span) : Decidable (node.Admits span) :=
  inferInstanceAs (Decidable (_ ∧ _))

@[simp] theorem admits_parent (head : Head) (children : List Node) (span : Span) :
    (Node.parent head children).Admits span ↔ head.span.Includes span := by
  simp [Admits, isParent]

@[simp] theorem not_admits_leaf (head : Head) (value : String) (span : Span) :
    ¬ (Node.leaf head value).Admits span := by
  simp [Admits, isParent]

theorem not_admits_of_leaf {node : Node} (leaf : node.isParent = false) (span : Span) :
    ¬ node.Admits span := by
  simp [Admits, leaf]

end Node

namespace Forest

/-- The rules of placement. A comment goes last in an empty list, before a sibling that starts no
earlier than the comment ends, inside a parent that includes it, and otherwise past the sibling. -/
inductive Inserts (comment : Node) : List Node → List Node → Prop
  | last : Inserts comment [] [comment]
  | before (sibling : Node) (rest : List Node) (ahead : comment.span.Before sibling.span) :
      Inserts comment (sibling :: rest) (comment :: sibling :: rest)
  | inside (head : Head) (children settled rest : List Node)
      (behind : ¬ comment.span.Before head.span) (includes : head.span.Includes comment.span)
      (placed : Inserts comment children settled) :
      Inserts comment (.parent head children :: rest) (.parent head settled :: rest)
  | past (sibling : Node) (rest settled : List Node)
      (behind : ¬ comment.span.Before sibling.span) (closed : ¬ sibling.Admits comment.span)
      (placed : Inserts comment rest settled) :
      Inserts comment (sibling :: rest) (sibling :: settled)

section

variable (comment : Node) (depth index : Nat)

theorem settle_nil :
    settle comment depth index [] = ⟨[comment], ⟨comment.span, depth, index, true⟩⟩ := by
  simp [settle]

theorem settle_ahead (sibling : Node) (rest : List Node)
    (ahead : comment.span.Before sibling.span) :
    settle comment depth index (sibling :: rest) =
      ⟨comment :: sibling :: rest, ⟨comment.span, depth, index, false⟩⟩ := by
  simp [settle, ahead]

theorem settle_inside (head : Head) (children rest : List Node)
    (behind : ¬ comment.span.Before head.span) (includes : head.span.Includes comment.span) :
    settle comment depth index (.parent head children :: rest) =
      ⟨.parent head (settle comment (depth + 1) 0 children).result :: rest,
        (settle comment (depth + 1) 0 children).placement⟩ := by
  simp [settle, Node.takeIn, behind, includes]

theorem settle_past (sibling : Node) (rest : List Node)
    (behind : ¬ comment.span.Before sibling.span) (closed : ¬ sibling.Admits comment.span) :
    settle comment depth index (sibling :: rest) =
      ⟨sibling :: (settle comment depth (index + 1) rest).result,
        (settle comment depth (index + 1) rest).placement⟩ := by
  cases sibling with
  | leaf head value => simp_all [settle, Node.takeIn]
  | parent head children => simp_all [settle, Node.takeIn]

end

/-- The walk of one insertion: it ends at the end of a list or before a sibling, goes down into a
parent, or goes on to the next sibling. -/
theorem settle_induct (comment : Node) {motive : Nat → Nat → List Node → Prop}
    (last : ∀ depth index, motive depth index [])
    (ahead : ∀ depth index sibling rest, comment.span.Before sibling.span →
      motive depth index (sibling :: rest))
    (inside : ∀ depth index head children rest, ¬ comment.span.Before head.span →
      head.span.Includes comment.span → motive (depth + 1) 0 children →
      motive depth index (.parent head children :: rest))
    (past : ∀ depth index sibling rest, ¬ comment.span.Before sibling.span →
      ¬ sibling.Admits comment.span → motive depth (index + 1) rest →
      motive depth index (sibling :: rest))
    (depth index : Nat) (forest : List Node) : motive depth index forest := by
  induction forest using Forest.induct generalizing depth index with
  | nil => exact last depth index
  | leaf head value rest ih =>
    by_cases before : comment.span.Before head.span
    · exact ahead depth index _ rest before
    · exact past depth index _ rest before (Node.not_admits_leaf _ _ _) (ih depth (index + 1))
  | parent head children rest below ih =>
    by_cases before : comment.span.Before head.span
    · exact ahead depth index _ rest before
    · by_cases includes : head.span.Includes comment.span
      · exact inside depth index head children rest before includes (below (depth + 1) 0)
      · have closed : ¬ (Node.parent head children).Admits comment.span := by simpa using includes
        exact past depth index _ rest before closed (ih depth (index + 1))

theorem inserts_settle (comment : Node) (forest : List Node) (depth index : Nat) :
    Inserts comment forest (settle comment depth index forest).result := by
  induction depth, index, forest using settle_induct comment with
  | last depth index =>
    rw [settle_nil]
    exact .last
  | ahead depth index sibling rest before =>
    rw [settle_ahead _ _ _ _ _ before]
    exact .before sibling rest before
  | inside depth index head children rest behind includes ih =>
    rw [settle_inside _ _ _ _ _ _ behind includes]
    exact .inside head children _ rest behind includes ih
  | past depth index sibling rest behind closed ih =>
    rw [settle_past _ _ _ _ _ behind closed]
    exact .past sibling rest _ behind closed ih

theorem inserts_insert (comment : Node) (forest : List Node) :
    Inserts comment forest (insert forest comment) :=
  inserts_settle comment forest 0 0

theorem Inserts.unique {comment : Node} {forest first second : List Node}
    (one : Inserts comment forest first) (other : Inserts comment forest second) :
    first = second := by
  induction one generalizing second with
  | last =>
    cases other
    rfl
  | before sibling rest ahead =>
    cases other with
    | before => rfl
    | inside _ _ _ _ behind => exact absurd ahead behind
    | past _ _ _ behind => exact absurd ahead behind
  | inside head children settled rest behind includes placed ih =>
    cases other with
    | before _ _ ahead => exact absurd ahead behind
    | inside _ _ _ _ _ _ placed' => rw [ih placed']
    | past _ _ _ _ closed => exact absurd ((Node.admits_parent _ _ _).mpr includes) closed
  | past sibling rest settled behind closed placed ih =>
    cases other with
    | before _ _ ahead => exact absurd ahead behind
    | inside _ _ _ _ _ includes => exact absurd ((Node.admits_parent _ _ _).mpr includes) closed
    | past _ _ _ _ _ placed' => rw [ih placed']

theorem inserts_iff (comment : Node) (forest settled : List Node) :
    Inserts comment forest settled ↔ insert forest comment = settled := by
  constructor
  · intro placed
    exact (inserts_insert comment forest).unique placed
  · rintro rfl
    exact inserts_insert comment forest

theorem inserts_front {comment : Node} {forest : List Node}
    (ahead : ∀ sibling ∈ forest, comment.span.Before sibling.span) :
    Inserts comment forest (comment :: forest) := by
  cases forest with
  | nil => exact .last
  | cons sibling rest => exact .before sibling rest (ahead sibling List.mem_cons_self)

@[simp] theorem insertAll_nil (forest : List Node) : insertAll forest [] = forest := rfl

@[simp] theorem insertAll_cons (forest : List Node) (comment : Node) (rest : List Node) :
    insertAll forest (comment :: rest) = insertAll (insert forest comment) rest := rfl

end Forest

end LatexTree
