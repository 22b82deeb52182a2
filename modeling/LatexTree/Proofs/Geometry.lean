import LatexTree.Node.Traversal
import LatexTree.Proofs.Insertion
import Mathlib.Data.List.Chain

/-! How spans lie to one another, and trees whose parents enclose their children.

A comment is either included by a parent or apart from it; nothing that lies in one of two spans that
are apart reaches into the other. -/
namespace LatexTree

namespace Span

def Within (inner outer : Span) : Prop := outer.start ≤ inner.start ∧ inner.stop ≤ outer.stop

/-- One of the two ends no later than the other starts. -/
def Apart (first second : Span) : Prop := first.Before second ∨ second.Before first

/-- Both spans are empty, at one and the same offset. -/
def Ties (first second : Span) : Prop := first = second ∧ first.start = first.stop

instance (inner outer : Span) : Decidable (inner.Within outer) :=
  inferInstanceAs (Decidable (_ ∧ _))

instance (first second : Span) : Decidable (first.Apart second) :=
  inferInstanceAs (Decidable (_ ∨ _))

instance (first second : Span) : Decidable (first.Ties second) :=
  inferInstanceAs (Decidable (_ ∧ _))

theorem Within.refl (span : Span) : span.Within span := ⟨Nat.le_refl _, Nat.le_refl _⟩

theorem Within.trans {inner middle outer : Span} (first : inner.Within middle)
    (second : middle.Within outer) : inner.Within outer :=
  ⟨Nat.le_trans second.1 first.1, Nat.le_trans first.2 second.2⟩

theorem Apart.symm {first second : Span} (apart : first.Apart second) : second.Apart first :=
  Or.symm apart

theorem Before.shrink {first second inner inner' : Span} (before : first.Before second)
    (inside : inner.Within first) (inside' : inner'.Within second) : inner.Before inner' := by
  unfold Before Within at *
  omega

theorem Apart.shrink {first second inner inner' : Span} (apart : first.Apart second)
    (inside : inner.Within first) (inside' : inner'.Within second) : inner.Apart inner' := by
  rcases apart with before | after
  · exact .inl (before.shrink inside inside')
  · exact .inr (after.shrink inside' inside)

theorem Before.trans {first middle last : Span} (before : first.Before middle)
    (upright : ¬ middle.Inverted) (after : middle.Before last) : first.Before last := by
  unfold Before Inverted at *
  omega

/-- Only spans that tie come each before the other. -/
theorem Before.ties {first second : Span} (before : first.Before second)
    (after : second.Before first) (upright : ¬ first.Inverted) (upright' : ¬ second.Inverted) :
    first.Ties second := by
  cases first
  cases second
  simp only [Before, Inverted, Ties, mk.injEq] at *
  omega

/-- Where no span is inverted, an order of neighbours is an order of all. -/
theorem isChain_before_iff {spans : List Span} (upright : ∀ span ∈ spans, ¬ span.Inverted) :
    spans.IsChain Before ↔ spans.Pairwise Before := by
  constructor
  · intro chain
    induction spans with
    | nil => exact .nil
    | cons first rest ih =>
      cases rest with
      | nil => exact List.pairwise_singleton _ _
      | cons second rest =>
        obtain ⟨before, chain⟩ := List.isChain_cons_cons.mp chain
        have ordered := ih (List.forall_mem_cons.mp upright).2 chain
        refine List.pairwise_cons.mpr ⟨?_, ordered⟩
        rintro later (_ | ⟨_, member⟩)
        · exact before
        · exact before.trans (upright second (by simp))
            ((List.pairwise_cons.mp ordered).1 later member)
  · exact List.Pairwise.isChain

theorem Includes.within {container candidate : Span} (includes : container.Includes candidate) :
    candidate.Within container := by
  unfold Includes at includes
  unfold Within
  split at includes <;> omega

theorem Includes.not_apart {container candidate : Span} (includes : container.Includes candidate)
    (upright : ¬ candidate.Inverted) : ¬ container.Apart candidate := by
  unfold Includes at includes
  unfold Apart Before Inverted at *
  split at includes <;> omega

theorem Within.includes {container candidate : Span} (inside : candidate.Within container)
    (filled : ¬ candidate.Empty) : container.Includes candidate := by
  unfold Empty at filled
  unfold Includes
  rw [if_neg filled]
  exact inside

end Span

namespace Forest

@[simp] theorem subtrees_nil : subtrees [] = [] := rfl

@[simp] theorem subtrees_leaf (head : Head) (value : String) (rest : List Node) :
    subtrees (.leaf head value :: rest) = .leaf head value :: subtrees rest := rfl

@[simp] theorem subtrees_parent (head : Head) (children rest : List Node) :
    subtrees (.parent head children :: rest) =
      .parent head children :: (subtrees children ++ subtrees rest) := rfl

theorem subtrees_cons (node : Node) (rest : List Node) :
    subtrees (node :: rest) = node.subtrees ++ subtrees rest := rfl

theorem subtrees_append (front back : List Node) :
    subtrees (front ++ back) = subtrees front ++ subtrees back := by
  induction front with
  | nil => rfl
  | cons node rest ih => rw [List.cons_append, subtrees_cons, subtrees_cons, ih, List.append_assoc]

theorem forall_subtrees_cons (property : Node → Prop) (node : Node) (rest : List Node) :
    (∀ part ∈ subtrees (node :: rest), property part) ↔
      (∀ part ∈ subtrees [node], property part) ∧ ∀ part ∈ subtrees rest, property part := by
  have parts : subtrees (node :: rest) = subtrees [node] ++ subtrees rest :=
    subtrees_append [node] rest
  rw [parts, List.forall_mem_append]

theorem forall_subtrees_leaf (property : Node → Prop) {node : Node} (leaf : node.isParent = false) :
    (∀ part ∈ subtrees [node], property part) ↔ property node := by
  cases node with
  | parent head children => simp [Node.isParent] at leaf
  | leaf head value => simp

theorem forall_subtrees_parent (property : Node → Prop) (head : Head) (children : List Node) :
    (∀ part ∈ subtrees [.parent head children], property part) ↔
      property (.parent head children) ∧ ∀ part ∈ subtrees children, property part := by
  rw [subtrees_parent, subtrees_nil, List.append_nil, List.forall_mem_cons]

theorem mem_subtrees {forest : List Node} {node : Node} (member : node ∈ forest) :
    node ∈ subtrees forest := by
  induction forest using Forest.induct with
  | nil => simp at member
  | leaf head value rest ih =>
    rcases List.mem_cons.mp member with rfl | member
    · simp
    · simp [ih member]
  | parent head children rest _ ih =>
    rcases List.mem_cons.mp member with rfl | member
    · simp
    · simp [ih member]

theorem child_mem_subtrees {forest : List Node} {node child : Node}
    (member : node ∈ subtrees forest) (below : child ∈ node.children?.getD []) :
    child ∈ subtrees forest := by
  induction forest using Forest.induct with
  | nil => simp at member
  | leaf head value rest ih =>
    rcases List.mem_cons.mp member with rfl | member
    · simp [Node.children?] at below
    · exact List.mem_cons_of_mem _ (ih member)
  | parent head children rest deeper ih =>
    rcases List.mem_cons.mp member with rfl | member
    · have top : child ∈ children := below
      simp [mem_subtrees top]
    · rcases List.mem_append.mp member with member | member
      · simp [deeper member]
      · simp [ih member]

end Forest

def Node.Encloses (node : Node) : Prop :=
  ∀ child ∈ node.children?.getD [], child.span.Within node.span

instance (node : Node) : Decidable node.Encloses :=
  inferInstanceAs (Decidable (∀ child ∈ node.children?.getD [], _))

namespace Forest

/-- Every parent of the forest encloses its children. Nothing is said of what the forest itself
stands in. -/
def Nested (forest : List Node) : Prop := ∀ node ∈ subtrees forest, node.Encloses

instance (forest : List Node) : Decidable (Nested forest) :=
  inferInstanceAs (Decidable (∀ node ∈ subtrees forest, _))

theorem nested_cons (node : Node) (rest : List Node) :
    Nested (node :: rest) ↔ Nested [node] ∧ Nested rest :=
  forall_subtrees_cons Node.Encloses node rest

theorem nested_leaf {node : Node} (leaf : node.isParent = false) : Nested [node] := by
  rw [Nested, forall_subtrees_leaf _ leaf]
  cases node with
  | parent head children => simp [Node.isParent] at leaf
  | leaf head value => simp [Node.Encloses, Node.children?]

theorem nested_parent (head : Head) (children : List Node) :
    Nested [.parent head children] ↔
      (∀ child ∈ children, child.span.Within head.span) ∧ Nested children :=
  forall_subtrees_parent Node.Encloses head children

/-- Everything below a nested forest lies within one of the siblings at its top. -/
theorem Nested.enclosing {forest : List Node} (nested : Nested forest) {node : Node}
    (member : node ∈ subtrees forest) : ∃ sibling ∈ forest, node.span.Within sibling.span := by
  induction forest using Forest.induct with
  | nil => simp at member
  | leaf head value rest ih =>
    rcases List.mem_cons.mp member with rfl | member
    · exact ⟨_, List.mem_cons_self, .refl _⟩
    · obtain ⟨sibling, top, inside⟩ := ih ((nested_cons _ _).mp nested).2 member
      exact ⟨sibling, List.mem_cons_of_mem _ top, inside⟩
  | parent head children rest below ih =>
    obtain ⟨first, nested⟩ := (nested_cons _ _).mp nested
    obtain ⟨enclosed, deeper⟩ := (nested_parent _ _).mp first
    rcases List.mem_cons.mp member with rfl | member
    · exact ⟨_, List.mem_cons_self, .refl _⟩
    · rcases List.mem_append.mp member with member | member
      · obtain ⟨child, top, inside⟩ := below deeper member
        exact ⟨_, List.mem_cons_self, inside.trans (enclosed child top)⟩
      · obtain ⟨sibling, top, inside⟩ := ih nested member
        exact ⟨sibling, List.mem_cons_of_mem _ top, inside⟩

theorem nested_append (front back : List Node) :
    Nested (front ++ back) ↔ Nested front ∧ Nested back := by
  simp [Nested, subtrees_append, or_imp, forall_and]

theorem Nested.admits_none {forest : List Node} (nested : Nested forest) {outer span : Span}
    (apart : ∀ sibling ∈ forest, sibling.span.Apart outer) (within : span.Within outer)
    (upright : ¬ span.Inverted) : ∀ node ∈ subtrees forest, ¬ node.Admits span := by
  rintro node member ⟨_, includes⟩
  obtain ⟨sibling, top, inside⟩ := nested.enclosing member
  exact includes.not_apart upright ((apart sibling top).shrink inside within)

theorem Nested.before_all {forest : List Node} (nested : Nested forest) {span : Span}
    (ahead : ∀ sibling ∈ forest, span.Before sibling.span) :
    ∀ node ∈ subtrees forest, span.Before node.span := by
  intro node member
  obtain ⟨sibling, top, inside⟩ := nested.enclosing member
  exact (ahead sibling top).shrink (.refl _) inside

end Forest

end LatexTree
