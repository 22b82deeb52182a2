import LatexTree.Proofs.Completion

/-! What a refused merge reports.

In a valid tree neighbours are in order. An insertion puts a comment before a sibling that starts after
it, or after siblings that all start before it ends. So where two neighbours are out of order after a
run of insertions, whatever else the run has put on their level, the second of them is a comment that
overlaps the first. -/
namespace LatexTree

namespace Forest

/-- The first ends before the second starts, unless the second is one of the comments; then it ends
after the first starts. -/
def Follows (comments : List Label) (first second : Label) : Prop :=
  first.span.Before second.span ∨ second ∈ comments ∧ first.span.start < second.span.stop

/-- Each of the siblings follows the one on its left. -/
def Graded (comments : List Label) (level : List Node) : Prop :=
  (level.map Node.label).IsChain (Follows comments)

theorem graded_of_ordered (comments : List Label) {level : List Node} (ordered : Ordered level) :
    Graded comments level := by
  have chain := List.Pairwise.isChain ordered
  rw [Graded, List.isChain_map]
  apply chain.imp
  intro first second before
  exact .inl before

theorem Graded.neighbours {comments : List Label} {front back : List Node} {previous next : Node}
    (graded : Graded comments (front ++ previous :: next :: back)) :
    Follows comments previous.label next.label := by
  rw [Graded, List.map_append, List.map_cons, List.map_cons] at graded
  exact (List.isChain_cons_cons.mp graded.right_of_append).1

namespace Inserts

variable {comment : Node} {forest settled : List Node}

theorem first_label (placed : Inserts comment forest settled) :
    (settled.map Node.label).head? = some comment.label ∨
      (settled.map Node.label).head? = (forest.map Node.label).head? := by
  cases placed with
  | last => exact .inl rfl
  | before sibling rest ahead => exact .inl rfl
  | inside head children settled rest behind includes placed => exact .inr rfl
  | past sibling rest settled behind closed placed => exact .inr rfl

theorem graded {comments : List Label} (placed : Inserts comment forest settled)
    (listed : comment.label ∈ comments) (before : Graded comments forest) :
    Graded comments settled := by
  induction placed with
  | last => exact .singleton _
  | before sibling rest ahead => exact List.isChain_cons_cons.mpr ⟨.inl ahead, before⟩
  | inside head children settled rest behind includes placed ih => exact before
  | past sibling rest settled behind closed placed ih =>
    obtain ⟨follows, others⟩ := List.isChain_cons.mp before
    refine List.isChain_cons.mpr ⟨?_, ih others⟩
    -- The sibling is followed by what followed it before, or by the comment that has passed it.
    intro next first
    rcases placed.first_label with same | same
    · obtain rfl : comment.label = next := Option.some.inj (same.symm.trans first)
      have passed : sibling.span.start < comment.span.stop := Nat.lt_of_not_le behind
      exact .inr ⟨listed, passed⟩
    · exact follows next (same.symm.trans first)

/-- A property of the comment and of all nodes before an insertion is one of all nodes after it, if a
parent keeps it when the comment goes in among its children. -/
theorem forall_subtrees (placed : Inserts comment forest settled) (leaf : comment.isParent = false)
    {property : Node → Prop} (own : property comment)
    (kept : ∀ head children inner, Inserts comment children inner →
      property (.parent head children) → property (.parent head inner))
    (before : ∀ node ∈ subtrees forest, property node) :
    ∀ node ∈ subtrees settled, property node := by
  induction placed with
  | last => exact (forall_subtrees_leaf property leaf).mpr own
  | before sibling rest ahead =>
    exact (forall_subtrees_cons property comment _).mpr
      ⟨(forall_subtrees_leaf property leaf).mpr own, before⟩
  | inside head children inner rest behind includes placed ih =>
    obtain ⟨first, others⟩ := (forall_subtrees_cons property _ _).mp before
    obtain ⟨top, below⟩ := (forall_subtrees_parent property _ _).mp first
    have inside := (forall_subtrees_parent property head inner).mpr
      ⟨kept head children inner placed top, ih below⟩
    exact (forall_subtrees_cons property _ _).mpr ⟨inside, others⟩
  | past sibling rest settled behind closed placed ih =>
    obtain ⟨first, others⟩ := (forall_subtrees_cons property _ _).mp before
    exact (forall_subtrees_cons property _ _).mpr ⟨first, ih others⟩

end Inserts

end Forest

/-- What insertions of upright comments leave of a node in a valid tree. -/
structure Node.Accountable (comments parents : List Label) (node : Node) : Prop where
  upright : node.Upright
  graded : Forest.Graded comments (node.children?.getD [])
  known : node.isParent = true → node.label ∈ parents

namespace Forest

theorem insertAll_graded {comments : List Label} {forest leaves : List Node}
    (listed : ∀ leaf ∈ leaves, leaf.label ∈ comments) (before : Graded comments forest) :
    Graded comments (insertAll forest leaves) := by
  induction leaves generalizing forest with
  | nil => exact before
  | cons leaf rest ih =>
    obtain ⟨first, others⟩ := List.forall_mem_cons.mp listed
    exact ih others ((inserts_insert leaf forest).graded first before)

theorem insertAll_accountable {comments parents : List Label} {forest leaves : List Node}
    (single : ∀ leaf ∈ leaves, leaf.isParent = false) (upright : ∀ leaf ∈ leaves, leaf.Upright)
    (listed : ∀ leaf ∈ leaves, leaf.label ∈ comments)
    (before : ∀ node ∈ subtrees forest, node.Accountable comments parents) :
    ∀ node ∈ subtrees (insertAll forest leaves), node.Accountable comments parents := by
  induction leaves generalizing forest with
  | nil => exact before
  | cons leaf rest ih =>
    obtain ⟨alone, single⟩ := List.forall_mem_cons.mp single
    obtain ⟨forward, upright⟩ := List.forall_mem_cons.mp upright
    obtain ⟨first, listed⟩ := List.forall_mem_cons.mp listed
    apply ih single upright listed
    apply (inserts_insert leaf forest).forall_subtrees alone _ _ before
    · refine ⟨forward, ?_, by simp [alone]⟩
      cases leaf with
      | parent head children => simp [Node.isParent] at alone
      | leaf head value => exact .nil
    · intro head children inner placed held
      exact ⟨held.upright, placed.graded first held.graded, held.known⟩

theorem firstClash_eq_some {forest : List Node} {previous next : Node}
    (found : firstClash forest = some (previous, next)) :
    ¬ previous.span.Before next.span ∧ ∃ front back, forest = front ++ previous :: next :: back := by
  induction forest with
  | nil => simp [firstClash] at found
  | cons first rest ih =>
    cases rest with
    | nil => simp [firstClash] at found
    | cons second rest =>
      rw [firstClash] at found
      split at found
      · obtain ⟨clash, front, back, same⟩ := ih found
        exact ⟨clash, first :: front, back, by rw [same, List.cons_append]⟩
      · next clash =>
        obtain ⟨rfl, rfl⟩ := Prod.mk.inj (Option.some.inj found)
        exact ⟨clash, [], rest, rfl⟩

end Forest

namespace Node

theorem validate_eq_error {root : Node} {refusal : Refusal} (failed : root.validate = .error refusal) :
    ∃ node ∈ root.subtrees, node.violation = some refusal := by
  rw [validate] at failed
  split at failed
  · next found first =>
    obtain rfl := Except.error.inj failed
    exact List.exists_of_findSome?_eq_some first
  · simp at failed

theorem Accountable.violation {comments parents : List Label} {node : Node} {refusal : Refusal}
    (held : node.Accountable comments parents) (found : node.violation = some refusal) :
    ∃ parent ∈ parents, ∃ previous, ∃ next ∈ comments, refusal = .overlap parent previous next ∧
      previous.span.start < next.span.stop ∧ next.span.start < previous.span.stop := by
  have forward : ¬ (node.span.Inverted ∨ node.loc.Inverted) := not_or.mpr held.upright
  rw [Node.violation, if_neg forward] at found
  obtain ⟨⟨previous, next⟩, clashes, rfl⟩ := Option.map_eq_some_iff.mp found
  obtain ⟨clash, front, back, level⟩ := Forest.firstClash_eq_some clashes
  have overlap : next.span.start < previous.span.stop := Nat.lt_of_not_le clash
  have parent : node.isParent = true := by
    cases node with
    | parent head children => rfl
    | leaf head value => simp [children?] at level
  have graded := held.graded
  rw [level] at graded
  rcases graded.neighbours with before | ⟨listed, reaches⟩
  · exact absurd before clash
  · exact ⟨node.label, held.known parent, previous.label, next.label, listed, rfl, reaches, overlap⟩

end Node

/-- Where the root has children and every token makes a leaf, only validation can refuse. -/
theorem Request.complete_eq_error {request : Request} {head : Head} {children leaves : List Node}
    {refusal : Refusal} (shape : request.root = .parent head children)
    (made : List.Forall₂ (fun token leaf => token.toNode request.source = .ok leaf)
      request.tokens leaves)
    (failed : request.complete = .error refusal) :
    (Node.parent head (Forest.insertAll children leaves)).validate = .error refusal := by
  have normal := (commentLeaves_eq_ok _ _ _).mpr made
  cases verdict : (Node.parent head (Forest.insertAll children leaves)).validate with
  | ok done =>
    have completed : request.complete = .ok (.parent head (Forest.insertAll children leaves)) :=
      (request.complete_eq_ok _).mpr ⟨head, children, leaves, shape, made, rfl, verdict⟩
    rw [completed] at failed
    cases failed
  | error found =>
    unfold complete at failed
    simp only [shape, normal, assemble, Node.withChildren, Node.head, bind, Except.bind, verdict]
      at failed
    rw [Except.error.inj failed]

/-- Refusals blame the right comment. If tokens that all make upright leaves are not merged into a
valid tree, the reason is an overlap: of the two nodes named, the second is a comment with the span of
a token and shares text with the first, and the parent named is the root or a parent below it. -/
theorem complete_blames_comment (request : Request) (head : Head) (children : List Node)
    (refusal : Refusal) (shape : request.root = .parent head children)
    (valid : request.root.validate = .ok ())
    (normal : ∀ token ∈ request.tokens,
      (∃ leaf, token.toNode request.source = .ok leaf) ∧ ¬ token.loc.Inverted)
    (failed : request.complete = .error refusal) :
    ∃ parent previous next, refusal = .overlap parent previous next ∧
      next.tag = Tag.comment ∧ (∃ token ∈ request.tokens, next.span = token.span) ∧
      previous.span.start < next.span.stop ∧ next.span.start < previous.span.stop ∧
      ∃ node ∈ request.root.subtrees, node.isParent = true ∧
        parent.tag = node.tag ∧ parent.span = node.span := by
  obtain ⟨leaves, made⟩ := exists_leaves_iff.mpr fun token member => (normal token member).1
  have shapes := comments_of_tokens made
  have upright : ∀ leaf ∈ leaves, leaf.Upright :=
    (forall_places_iff made fun span loc => ¬ span.Inverted ∧ ¬ loc.Inverted).mpr
      fun token member => by
        obtain ⟨⟨leaf, single⟩, forward⟩ := normal token member
        exact ⟨(CommentToken.toNode_eq_ok single).1, forward⟩
  have listed : ∀ leaf ∈ leaves, leaf.label ∈ leaves.map Node.label :=
    fun leaf member => List.mem_map_of_mem member
  -- Before the first insertion every node is accountable, since validation has passed it.
  have before : ∀ node ∈ request.root.subtrees, node.Accountable (leaves.map Node.label)
      ((request.root.subtrees.filter Node.isParent).map Node.label) := by
    intro node member
    obtain ⟨forward, ordered⟩ := (Node.validate_iff_ordered _).mp valid node member
    refine ⟨forward, Forest.graded_of_ordered _ ordered, ?_⟩
    intro parent
    exact List.mem_map_of_mem (List.mem_filter.mpr ⟨member, parent⟩)
  rw [shape] at before
  obtain ⟨top, below⟩ := List.forall_mem_cons.mp before
  have after := Forest.insertAll_accountable (fun leaf member => (shapes leaf member).1) upright
    listed below
  have root : (Node.parent head (Forest.insertAll children leaves)).Accountable _ _ :=
    ⟨top.upright, Forest.insertAll_graded listed top.graded, top.known⟩
  obtain ⟨node, member, found⟩ := Node.validate_eq_error (request.complete_eq_error shape made failed)
  have held := List.forall_mem_cons.mpr ⟨root, after⟩ node member
  obtain ⟨parent, known, previous, next, comment, same, reaches, overlaps⟩ := held.violation found
  obtain ⟨leaf, inserted, rfl⟩ := List.mem_map.mp comment
  obtain ⟨above, kept, rfl⟩ := List.mem_map.mp known
  obtain ⟨kept, isParent⟩ := List.mem_filter.mp kept
  obtain ⟨token, given, single⟩ := token_of_leaf made inserted
  obtain ⟨-, raw, rfl⟩ := CommentToken.toNode_eq_ok single
  rw [← shape] at kept
  exact ⟨above.label, previous, _, same, rfl, ⟨token, given, rfl⟩, reaches, overlaps, above, kept,
    isParent, rfl, rfl⟩

namespace Specimen

/-- A token that crosses the inner one and the leaf before it. -/
def crossingToken : CommentToken := ⟨.comment, "A", ⟨⟨0, 1, 1⟩, ⟨2, 1, 3⟩⟩⟩

def crossed : Request := request [outerToken, innerToken, crossingToken]

end Specimen

theorem complete_blames_specimen :
    Specimen.crossed.complete =
        .error (.overlap ⟨"Emphasis", ⟨0, 5⟩⟩ ⟨Tag.comment, ⟨1, 4⟩⟩ ⟨Tag.comment, ⟨0, 2⟩⟩) ∧
      ∃ node ∈ Specimen.crossed.root.subtrees, node.isParent = true ∧
        "Emphasis" = node.tag ∧ ⟨0, 5⟩ = node.span := by
  have failed : Specimen.crossed.complete =
      .error (.overlap ⟨"Emphasis", ⟨0, 5⟩⟩ ⟨Tag.comment, ⟨1, 4⟩⟩ ⟨Tag.comment, ⟨0, 2⟩⟩) := rfl
  have normal : ∀ token ∈ [Specimen.outerToken, Specimen.innerToken, Specimen.crossingToken],
      (∃ leaf, token.toNode Specimen.source = .ok leaf) ∧ ¬ token.loc.Inverted := by
    simp only [List.forall_mem_cons]
    exact ⟨⟨⟨_, rfl⟩, by decide⟩, ⟨⟨_, rfl⟩, by decide⟩, ⟨⟨_, rfl⟩, by decide⟩, by simp⟩
  obtain ⟨parent, previous, next, same, -, -, -, -, known⟩ :=
    complete_blames_comment Specimen.crossed Specimen.root _ _ rfl rfl normal failed
  obtain ⟨rfl, rfl, rfl⟩ := Refusal.overlap.inj same
  exact ⟨failed, known⟩

end LatexTree
