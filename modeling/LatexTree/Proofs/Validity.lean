import LatexTree.Merge.Validity
import LatexTree.Proofs.Geometry

/-! What validation accepts.

Validation compares neighbours only. Where no span is inverted, that orders all siblings of a level
pairwise, and this is the form in which validity is used: `Sound` for the children of an accepted
root. What a traversal meets is the root and every child of what it meets. -/
namespace LatexTree

def Node.Upright (node : Node) : Prop := ¬ node.span.Inverted ∧ ¬ node.loc.Inverted

instance (node : Node) : Decidable node.Upright := inferInstanceAs (Decidable (_ ∧ _))

namespace Forest

def Ordered (forest : List Node) : Prop :=
  forest.Pairwise fun first second => first.span.Before second.span

/-- The siblings are in order, and so are those of every level below; all nodes are upright. -/
structure Sound (forest : List Node) : Prop where
  ordered : Ordered forest
  upright : ∀ node ∈ subtrees forest, node.Upright
  levels : ∀ node ∈ subtrees forest, Ordered (node.children?.getD [])

theorem ordered_cons (node : Node) (rest : List Node) :
    Ordered (node :: rest) ↔ (∀ later ∈ rest, node.span.Before later.span) ∧ Ordered rest :=
  List.pairwise_cons

theorem firstClash_eq_none (forest : List Node)
    (upright : ∀ node ∈ forest, ¬ node.span.Inverted) :
    firstClash forest = none ↔ Ordered forest := by
  have chain : firstClash forest = none ↔ (forest.map Node.span).IsChain Span.Before := by
    clear upright
    induction forest with
    | nil => simp [firstClash]
    | cons first rest ih =>
      cases rest with
      | nil => simp [firstClash]
      | cons second rest =>
        by_cases before : first.span.Before second.span
        · rw [firstClash, if_pos before, ih]
          simp [before]
        · simp [firstClash, before]
  rw [chain, Span.isChain_before_iff (by simpa using upright), List.pairwise_map]
  rfl

end Forest

namespace Node

theorem subtrees_eq (root : Node) : root.subtrees = Forest.subtrees [root] := by
  simp [Forest.subtrees_cons]

theorem violation_eq_none (node : Node) :
    node.violation = none ↔
      node.Upright ∧ Forest.firstClash (node.children?.getD []) = none := by
  unfold violation Upright
  by_cases inverted : node.span.Inverted ∨ node.loc.Inverted
  · rw [if_pos inverted, ← not_or]
    simp [inverted]
  · rw [if_neg inverted, Option.map_eq_none_iff, ← not_or]
    simp [inverted]

theorem validate_eq_ok (root : Node) :
    root.validate = .ok () ↔ ∀ node ∈ root.subtrees, node.violation = none := by
  rw [← List.findSome?_eq_none_iff, validate]
  cases root.subtrees.findSome? violation <;> simp

/-- Of the two checks at a node, the second may ask for the order of all its children. -/
theorem validate_iff_ordered (root : Node) :
    root.validate = .ok () ↔
      ∀ node ∈ root.subtrees, node.Upright ∧ Forest.Ordered (node.children?.getD []) := by
  rw [validate_eq_ok, subtrees_eq]
  simp only [violation_eq_none]
  -- A child of a node is met by the traversal too, so its own check makes it upright.
  have clash (upright : ∀ node ∈ Forest.subtrees [root], node.Upright) (node : Node)
      (member : node ∈ Forest.subtrees [root]) :
      Forest.firstClash (node.children?.getD []) = none ↔
        Forest.Ordered (node.children?.getD []) := by
    apply Forest.firstClash_eq_none
    intro child below
    exact (upright child (Forest.child_mem_subtrees member below)).1
  constructor
  · intro passed node member
    have upright := fun node member => (passed node member).1
    exact ⟨upright node member, (clash upright node member).mp (passed node member).2⟩
  · intro passed node member
    have upright := fun node member => (passed node member).1
    exact ⟨upright node member, (clash upright node member).mpr (passed node member).2⟩

theorem validate_parent (head : Head) (children : List Node) :
    (Node.parent head children).validate = .ok () ↔
      (Node.parent head children).Upright ∧ Forest.Sound children := by
  have whole : (Node.parent head children).subtrees =
      .parent head children :: Forest.subtrees children := rfl
  rw [validate_iff_ordered, whole, List.forall_mem_cons]
  constructor
  · rintro ⟨⟨upright, ordered⟩, below⟩
    exact ⟨upright, ordered, fun node member => (below node member).1,
      fun node member => (below node member).2⟩
  · rintro ⟨upright, sound⟩
    exact ⟨⟨upright, sound.ordered⟩,
      fun node member => ⟨sound.upright node member, sound.levels node member⟩⟩

/-- The root itself, a child of the root, a child of such a child and so on. -/
inductive Holds (root : Node) : Node → Prop
  | top : Holds root root
  | child (head : Head) (children : List Node) (node : Node)
      (above : Holds root (.parent head children)) (member : node ∈ children) : Holds root node

theorem Holds.trans {root middle node : Node} (first : root.Holds middle)
    (second : middle.Holds node) : root.Holds node := by
  induction second with
  | top => exact first
  | child head children node _ member ih => exact .child head children node ih member

end Node

namespace Forest

theorem holds_of_mem_subtrees {forest : List Node} {node : Node} (member : node ∈ subtrees forest) :
    ∃ top ∈ forest, top.Holds node := by
  induction forest using Forest.induct with
  | nil => simp at member
  | leaf head value rest ih =>
    rcases List.mem_cons.mp member with rfl | member
    · exact ⟨_, List.mem_cons_self, .top⟩
    · obtain ⟨top, beside, holds⟩ := ih member
      exact ⟨top, List.mem_cons_of_mem _ beside, holds⟩
  | parent head children rest below ih =>
    rcases List.mem_cons.mp member with rfl | member
    · exact ⟨_, List.mem_cons_self, .top⟩
    · rcases List.mem_append.mp member with member | member
      · obtain ⟨child, inside, holds⟩ := below member
        have step : (Node.parent head children).Holds child := .child head children child .top inside
        exact ⟨_, List.mem_cons_self, step.trans holds⟩
      · obtain ⟨top, beside, holds⟩ := ih member
        exact ⟨top, List.mem_cons_of_mem _ beside, holds⟩

end Forest

namespace Node

theorem mem_subtrees_iff (root node : Node) : node ∈ root.subtrees ↔ root.Holds node := by
  rw [subtrees_eq]
  constructor
  · intro member
    obtain ⟨top, single, holds⟩ := Forest.holds_of_mem_subtrees member
    obtain rfl := List.mem_singleton.mp single
    exact holds
  · intro holds
    induction holds with
    | top => exact Forest.mem_subtrees List.mem_cons_self
    | child head children node _ member ih => exact Forest.child_mem_subtrees ih member

/-- Comparing neighbours is enough: validation accepts a tree exactly if no node in it is inverted, by
its span or by its location, and of any two children of a node the one on the left ends no later than
the other starts. -/
theorem validate_iff_all_pairs (root : Node) :
    root.validate = .ok () ↔
      (∀ node, root.Holds node → ¬ node.span.Inverted ∧ ¬ node.loc.Inverted) ∧
      ∀ head children, root.Holds (.parent head children) →
        ∀ (i j : Nat) (first second : Node), i < j → children[i]? = some first →
          children[j]? = some second → first.span.stop ≤ second.span.start := by
  rw [validate_iff_ordered]
  simp only [mem_subtrees_iff]
  constructor
  · intro passed
    refine ⟨fun node holds => (passed node holds).1, ?_⟩
    intro head children holds i j first second left atFirst atSecond
    have ordered : Forest.Ordered children := (passed _ holds).2
    obtain ⟨bound, rfl⟩ := List.getElem?_eq_some_iff.mp atFirst
    obtain ⟨bound', rfl⟩ := List.getElem?_eq_some_iff.mp atSecond
    exact List.pairwise_iff_getElem.mp ordered i j bound bound' left
  · intro conditions node holds
    obtain ⟨upright, pairs⟩ := conditions
    refine ⟨upright node holds, ?_⟩
    cases node with
    | leaf head value => exact .nil
    | parent head children =>
      apply List.pairwise_iff_getElem.mpr
      intro i j bound bound' left
      exact pairs head children holds i j _ _ left (List.getElem?_eq_getElem bound)
        (List.getElem?_eq_getElem bound')

end Node

namespace Forest

theorem sound_cons (node : Node) (rest : List Node) :
    Sound (node :: rest) ↔
      (∀ later ∈ rest, node.span.Before later.span) ∧ Sound [node] ∧ Sound rest := by
  constructor
  · rintro ⟨ordered, upright, levels⟩
    rw [forall_subtrees_cons] at upright levels
    obtain ⟨ahead, ordered⟩ := (ordered_cons _ _).mp ordered
    exact ⟨ahead, ⟨List.pairwise_singleton .., upright.1, levels.1⟩, ordered, upright.2, levels.2⟩
  · rintro ⟨ahead, first, sound⟩
    refine ⟨(ordered_cons _ _).mpr ⟨ahead, sound.ordered⟩, ?_, ?_⟩
    · rw [forall_subtrees_cons]
      exact ⟨first.upright, sound.upright⟩
    · rw [forall_subtrees_cons]
      exact ⟨first.levels, sound.levels⟩

theorem sound_leaf {node : Node} (leaf : node.isParent = false) : Sound [node] ↔ node.Upright := by
  cases node with
  | parent head children => simp [Node.isParent] at leaf
  | leaf head value =>
    constructor
    · intro sound
      exact sound.upright _ (by simp)
    · intro upright
      exact ⟨List.pairwise_singleton .., by simpa using upright, by simp [Node.children?, Ordered]⟩

theorem sound_parent (head : Head) (children : List Node) :
    Sound [.parent head children] ↔ (Node.parent head children).Upright ∧ Sound children := by
  constructor
  · rintro ⟨_, upright, levels⟩
    rw [forall_subtrees_parent] at upright levels
    exact ⟨upright.1, levels.1, upright.2, levels.2⟩
  · rintro ⟨upright, sound⟩
    refine ⟨List.pairwise_singleton .., ?_, ?_⟩
    · rw [forall_subtrees_parent]
      exact ⟨upright, sound.upright⟩
    · rw [forall_subtrees_parent]
      exact ⟨sound.ordered, sound.levels⟩

theorem Sound.below {forest : List Node} (sound : Sound forest) {head : Head} {children : List Node}
    (member : .parent head children ∈ forest) : Sound children := by
  induction forest with
  | nil => simp at member
  | cons first rest ih =>
    obtain ⟨_, alone, others⟩ := (sound_cons _ _).mp sound
    rcases List.mem_cons.mp member with rfl | member
    · exact ((sound_parent _ _).mp alone).2
    · exact ih others member

/-- The parts of a node all end before the parts of its later siblings start. -/
theorem Sound.across {node : Node} {rest : List Node} (sound : Sound (node :: rest))
    (nested : Nested (node :: rest)) {part other : Node} (early : part ∈ subtrees [node])
    (late : other ∈ subtrees rest) : part.span.Before other.span := by
  obtain ⟨alone, others⟩ := (nested_cons _ _).mp nested
  obtain ⟨top, single, within⟩ := alone.enclosing early
  obtain rfl := List.mem_singleton.mp single
  exact (others.before_all ((sound_cons _ _).mp sound).1 other late).shrink within (.refl _)

end Forest

end LatexTree
