import LatexTree.Proofs.Conservation
import LatexTree.Proofs.DocumentOrder
import Mathlib.Data.List.Infix

/-! What stripping takes out of a tree.

A comment is told by its tag, and what stands under a removed node goes with it. The traversal of the
stripped tree is thus that of the whole one, less the visits at or below a comment. These are the visits
of comment leaves alone, and the nodes lost are as many as the comments counted, just if no parent below
the root is tagged as a comment. -/
namespace LatexTree

/-- Whether the event is the first of its node. -/
def Event.opens : Event → Bool
  | .leave .. => false
  | _ => true

theorem Event.isCommentLeaf_leaf (depth : Nat) (head : Head) (value : String) :
    (Event.leaf depth head value).isCommentLeaf = (Node.leaf head value).isComment := rfl

namespace Node

/-- No comment stands at the address or above it, the root apart. -/
def Exposed (root : Node) (address : List Nat) : Prop :=
  ∀ above, above <+: address → above ≠ [] →
    ∀ node, root.at? above = some node → node.isComment = false

instance (root : Node) (address : List Nat) : Decidable (root.Exposed address) :=
  decidable_of_iff
    (∀ above ∈ address.inits, above ≠ [] → ∀ node ∈ root.at? above, node.isComment = false)
    (by simp [Exposed])

theorem exposed_nil (root : Node) : root.Exposed [] := by
  intro above shorter nonempty
  exact absurd (List.prefix_nil.mp shorter) nonempty

theorem exposed_child (head : Head) (front back : List Node) (child : Node) (address : List Nat) :
    (Node.parent head (front ++ child :: back)).Exposed (front.length :: address) ↔
      child.isComment = false ∧ child.Exposed address := by
  constructor
  · intro exposed
    have below (above : List Nat) (shorter : above <+: address) (node : Node)
        (stands : child.at? above = some node) : node.isComment = false := by
      apply exposed (front.length :: above) (List.cons_prefix_cons.mpr ⟨rfl, shorter⟩) (by simp)
      rw [at?_child, stands]
    exact ⟨below [] List.nil_prefix child rfl, fun above shorter _ => below above shorter⟩
  · rintro ⟨plain, exposed⟩ above shorter nonempty node stands
    cases above with
    | nil => exact absurd rfl nonempty
    | cons index above =>
      obtain ⟨rfl, inner⟩ := List.cons_prefix_cons.mp shorter
      rw [at?_child] at stands
      cases above with
      | nil =>
        obtain rfl := Option.some.inj stands
        exact plain
      | cons next above => exact exposed _ inner (by simp) node stands

/-- The traversal of the node less the visits at or below a comment. -/
def exposedEvents (depth : Nat) (node : Node) : List Event :=
  ((node.visits depth).filter fun visit => node.Exposed visit.address).map Visit.event

end Node

namespace Forest

/-- The same for the last children of a parent, those in front being passed already. -/
def exposedEvents (depth : Nat) (head : Head) (front forest : List Node) : List Event :=
  ((visits depth front.length forest).filter fun visit =>
    (Node.parent head (front ++ forest)).Exposed visit.address).map Visit.event

theorem exposedEvents_cons (depth : Nat) (head : Head) (front : List Node) (node : Node)
    (rest : List Node) :
    exposedEvents depth head front (node :: rest) =
      (if node.isComment then [] else node.exposedEvents depth) ++
        exposedEvents depth head (front ++ [node]) rest := by
  have own : ((node.visits depth).map (Visit.under front.length)).filter (fun visit =>
        (Node.parent head (front ++ node :: rest)).Exposed visit.address) =
      ((node.visits depth).filter fun visit =>
        node.isComment = false ∧ node.Exposed visit.address).map (Visit.under front.length) := by
    rw [List.filter_map]
    simp only [Function.comp_def, Visit.under_address, Node.exposed_child]
  rw [exposedEvents, visits, List.filter_append, List.map_append, own]
  congr 1
  · cases tagged : node.isComment with
    | true => simp
    | false => simp [Node.exposedEvents, Function.comp_def]
  · simp [exposedEvents]

end Forest

theorem Node.exposedEvents_leaf (depth : Nat) (head : Head) (value : String) :
    (Node.leaf head value).exposedEvents depth = [.leaf depth head value] := by
  simp [exposedEvents, visits, exposed_nil]

theorem Node.exposedEvents_parent (depth : Nat) (head : Head) (children : List Node) :
    (Node.parent head children).exposedEvents depth =
      .enter depth head ::
        (Forest.exposedEvents (depth + 1) head [] children ++ [.leave depth head]) := by
  simp [exposedEvents, Forest.exposedEvents, visits, exposed_nil]

namespace Forest

theorem strip_events (depth : Nat) (head : Head) (front forest : List Node) :
    events depth (stripComments forest) = exposedEvents depth head front forest := by
  induction forest using Forest.induct generalizing depth head front with
  | nil => rfl
  | leaf own value rest ih =>
    rw [exposedEvents_cons, ← ih depth head (front ++ [Node.leaf own value]), stripComments]
    split
    · rfl
    · rw [Node.exposedEvents_leaf]
      rfl
  | parent own children rest below ih =>
    rw [exposedEvents_cons, ← ih depth head (front ++ [Node.parent own children]), stripComments]
    split
    · rfl
    · rw [Node.exposedEvents_parent, ← below (depth + 1) own []]
      rfl

/-- Where the comments are leaves, no other event is lost. -/
theorem strip_events_of_leaves (depth : Nat) {forest : List Node}
    (leaves : ∀ node ∈ subtrees forest, node.isComment = true → node.isParent = false) :
    events depth (stripComments forest) =
      (events depth forest).filter fun event => !event.isCommentLeaf := by
  induction forest using Forest.induct generalizing depth with
  | nil => rfl
  | leaf head value rest ih =>
    rw [subtrees_leaf, List.forall_mem_cons] at leaves
    rw [stripComments, events_cons, Node.events, List.filter_append, List.filter_singleton,
      Event.isCommentLeaf_leaf, ← ih depth leaves.2]
    cases (Node.leaf head value).isComment <;> rfl
  | parent head children rest below ih =>
    rw [subtrees_parent, List.forall_mem_cons, List.forall_mem_append] at leaves
    obtain ⟨own, inside, others⟩ := leaves
    have plain : ¬ (Node.parent head children).isComment = true := by
      intro tagged
      simpa [Node.isParent] using own tagged
    rw [stripComments, if_neg plain, Node.stripComments, events_parent, events_parent,
      below (depth + 1) inside, ih depth others]
    simp [Event.isCommentLeaf]

theorem count_leaf (depth : Nat) (head : Head) (value : String) (rest : List Node) :
    (events depth (.leaf head value :: rest)).countP Event.isCommentLeaf =
      (if (Node.leaf head value).isComment then 1 else 0) +
        (events depth rest).countP Event.isCommentLeaf := by
  rw [events_cons, Node.events, List.countP_append, List.countP_singleton,
    Event.isCommentLeaf_leaf]

theorem count_parent (depth : Nat) (head : Head) (children rest : List Node) :
    (events depth (.parent head children :: rest)).countP Event.isCommentLeaf =
      (events (depth + 1) children).countP Event.isCommentLeaf +
        (events depth rest).countP Event.isCommentLeaf := by
  simp [events_parent, Event.isCommentLeaf]

/-- A comment takes at least the comment leaves at or below it along, and more if it is a parent. -/
theorem strip_count (depth : Nat) (forest : List Node) :
    (subtrees (stripComments forest)).length + (events depth forest).countP Event.isCommentLeaf ≤
        (subtrees forest).length ∧
      ((subtrees (stripComments forest)).length +
          (events depth forest).countP Event.isCommentLeaf = (subtrees forest).length ↔
        ∀ node ∈ subtrees forest, node.isComment = true → node.isParent = false) := by
  induction forest using Forest.induct generalizing depth with
  | nil => simp [stripComments, events]
  | leaf head value rest ih =>
    obtain ⟨bound, equal⟩ := ih depth
    have single : (Node.leaf head value).isParent = false := rfl
    rw [count_leaf, stripComments, subtrees_leaf, List.forall_mem_cons, ← equal, List.length_cons]
    split
    · simp only [single, implies_true, true_and]
      omega
    · simp only [single, implies_true, true_and, Node.stripComments, subtrees_leaf, List.length_cons]
      omega
  | parent head children rest below ih =>
    obtain ⟨bound, equal⟩ := ih depth
    obtain ⟨bound', equal'⟩ := below (depth + 1)
    have whole : (Node.parent head children).isParent = true := rfl
    rw [count_parent, stripComments, subtrees_parent, List.forall_mem_cons, List.forall_mem_append,
      ← equal, ← equal', List.length_cons, List.length_append]
    split
    · next tagged =>
      simp only [whole, tagged, Bool.true_eq_false, forall_const, false_and, iff_false]
      omega
    · next plain =>
      simp only [plain, false_implies, true_and, Node.stripComments, subtrees_parent,
        List.length_cons, List.length_append, Bool.false_eq_true]
      omega

theorem length_subtrees (depth : Nat) (forest : List Node) :
    (subtrees forest).length = (events depth forest).countP Event.opens := by
  induction forest using Forest.induct generalizing depth with
  | nil => rfl
  | leaf head value rest ih =>
    rw [subtrees_leaf, List.length_cons, ih depth, events_cons, Node.events, List.cons_append,
      List.nil_append, List.countP_cons_of_pos rfl]
  | parent head children rest below ih =>
    rw [subtrees_parent, List.length_cons, List.length_append, below (depth + 1), ih depth,
      events_parent, List.countP_cons_of_pos rfl, List.countP_append,
      List.countP_cons_of_neg (by simp [Event.opens])]

/-- With a parent, more nodes are lost than comment leaves. -/
theorem strip_events_iff (depth : Nat) (forest : List Node) :
    events depth (stripComments forest) =
        (events depth forest).filter (fun event => !event.isCommentLeaf) ↔
      ∀ node ∈ subtrees forest, node.isComment = true → node.isParent = false := by
  constructor
  · intro same
    have leaves : ((events depth forest).filter Event.isCommentLeaf).countP Event.opens =
        (events depth forest).countP Event.isCommentLeaf := by
      rw [List.countP_filter]
      congr 1
      funext event
      cases event <;> rfl
    have counts := List.countP_eq_countP_filter_add (events depth forest) Event.opens
      Event.isCommentLeaf
    rw [leaves, ← same, ← length_subtrees, ← length_subtrees, Nat.add_comm] at counts
    exact (strip_count depth forest).2.mp counts.symm
  · exact strip_events_of_leaves depth

end Forest

/-- Stripping a parent. Its traversal loses the visits at or below a comment, and no others. Just if
every comment below it is a leaf, it loses the events of comment leaves and nothing else; and just then
it loses as many nodes as comments are counted in it. -/
theorem Node.stripComments_removes_covered (head : Head) (children : List Node) :
    (Node.parent head children).stripComments.events 0 =
        (((Node.parent head children).visits 0).filter fun visit =>
          (Node.parent head children).Exposed visit.address).map Visit.event ∧
      ((Node.parent head children).stripComments.events 0 =
          ((Node.parent head children).events 0).filter (fun event => !event.isCommentLeaf) ↔
        ∀ node ∈ Forest.subtrees children, node.isComment = true → node.isParent = false) ∧
      ((Node.parent head children).stripComments.subtrees.length +
            (Node.parent head children).commentCount =
          (Node.parent head children).subtrees.length ↔
        ∀ node ∈ Forest.subtrees children, node.isComment = true → node.isParent = false) := by
  refine ⟨?_, ?_, ?_⟩
  · have shown := Node.exposedEvents_parent 0 head children
    rw [← Forest.strip_events, exposedEvents] at shown
    exact shown.symm
  · rw [← Forest.strip_events_iff 1 children]
    simp [Node.stripComments, Node.events, Event.isCommentLeaf, List.filter_append]
  · have counted : (Node.parent head children).commentCount =
        (Forest.events 1 children).countP Event.isCommentLeaf := by
      simp [Node.commentCount, Node.events, Event.isCommentLeaf]
    rw [← (Forest.strip_count 1 children).2, counted]
    simp only [Node.stripComments, Node.subtrees, List.length_cons]
    omega

namespace Specimen

/-- A parent tagged as a comment, with a word in it. -/
def commentParent : Node :=
  .parent root [.parent (head Tag.comment "A" 0 1) [.leaf (head Tag.str "A" 0 1) "A"]]

end Specimen

/-- The word is lost, though no comment is counted. -/
theorem Node.stripComments_loses_word :
    Specimen.commentParent.stripComments.events 0 ≠
        (Specimen.commentParent.events 0).filter (fun event => !event.isCommentLeaf) ∧
      Specimen.commentParent.commentCount = 0 ∧
      Specimen.commentParent.subtrees.length = 3 ∧
      Specimen.commentParent.stripComments.subtrees.length = 1 := by
  decide

end LatexTree
