import LatexTree.Node.Traversal
import LatexTree.Proofs.Clearance
import LatexTree.Proofs.Completion

/-! The order of a merged tree.

A node is told from others that look like it by its address, the indices that lead down to it; it is
an ancestor of another if its address is a prefix of the other's. Validation orders the siblings of
each level, nesting keeps what stands below them inside, and together the two order any two nodes
neither of which is an ancestor of the other. -/
namespace LatexTree

def Event.head : Event → Head
  | .enter _ head => head
  | .leave _ head => head
  | .leaf _ head _ => head

def Node.at? (node : Node) : List Nat → Option Node
  | [] => some node
  | index :: address => (node.children?.getD [])[index]?.bind fun child => child.at? address

theorem Node.at?_child (head : Head) (front back : List Node) (child : Node) (address : List Nat) :
    (Node.parent head (front ++ child :: back)).at? (front.length :: address) =
      child.at? address := by
  simp [Node.at?, Node.children?]

/-- An event of a traversal with the address of the node that it is about. -/
structure Visit where
  address : List Nat
  event : Event
deriving DecidableEq, Repr

namespace Visit

def under (index : Nat) (visit : Visit) : Visit := ⟨index :: visit.address, visit.event⟩

@[simp] theorem under_address (index : Nat) (visit : Visit) :
    (visit.under index).address = index :: visit.address := rfl

@[simp] theorem under_event (index : Nat) (visit : Visit) :
    (visit.under index).event = visit.event := rfl

/-- The node of the first visit ends before that of the second, unless one is above the other. -/
def InOrder (first second : Visit) : Prop :=
  ¬ first.address <+: second.address → ¬ second.address <+: first.address →
    first.event.head.span.Before second.event.head.span

@[simp] theorem under_inOrder (index : Nat) (first second : Visit) :
    (first.under index).InOrder (second.under index) ↔ first.InOrder second := by
  simp [InOrder, List.cons_prefix_cons]

end Visit

mutual

/-- The traversal of a node with the addresses of what it meets. -/
def Node.visits (depth : Nat) : Node → List Visit
  | .parent head children =>
    ⟨[], .enter depth head⟩ ::
      (Forest.visits (depth + 1) 0 children ++ [⟨[], .leave depth head⟩])
  | .leaf head value => [⟨[], .leaf depth head value⟩]

def Forest.visits (depth index : Nat) : List Node → List Visit
  | [] => []
  | node :: rest =>
    (node.visits depth).map (Visit.under index) ++ Forest.visits depth (index + 1) rest

end

/-- A traversal meets the node at the first address before the one at the second. -/
def Node.MeetsFirst (node : Node) (first second : List Nat) : Prop :=
  ((node.visits 0).map Visit.address).idxOf first < ((node.visits 0).map Visit.address).idxOf second

instance (node : Node) (first second : List Nat) : Decidable (node.MeetsFirst first second) :=
  inferInstanceAs (Decidable (_ < _))

namespace Forest

theorem visits_events (depth index : Nat) (forest : List Node) :
    (visits depth index forest).map Visit.event = events depth forest := by
  induction forest using Forest.induct generalizing depth index with
  | nil => rfl
  | leaf head value rest ih => simp [visits, Node.visits, events, Node.events, ih]
  | parent head children rest below ih =>
    simp [visits, Node.visits, events, Node.events, Function.comp_def, below, ih]

theorem mem_visits (depth index : Nat) (forest : List Node) (visit : Visit) :
    visit ∈ visits depth index forest ↔
      ∃ (place : Nat) (child : Node) (inner : Visit), forest[place]? = some child ∧
        inner ∈ child.visits depth ∧ visit = inner.under (index + place) := by
  induction forest generalizing index with
  | nil => simp [visits]
  | cons node rest ih =>
    rw [visits, List.mem_append, List.mem_map, ih]
    constructor
    · rintro (⟨inner, member, rfl⟩ | ⟨place, child, inner, found, member, rfl⟩)
      · exact ⟨0, node, inner, rfl, member, rfl⟩
      · exact ⟨place + 1, child, inner, found, member, by rw [Nat.add_right_comm, Nat.add_assoc]⟩
    · rintro ⟨place, child, inner, found, member, rfl⟩
      cases place with
      | zero =>
        obtain rfl := Option.some.inj found
        exact .inl ⟨inner, member, rfl⟩
      | succ place =>
        exact .inr ⟨place, child, inner, found, member, by rw [Nat.add_right_comm, Nat.add_assoc]⟩

end Forest

namespace Node

theorem visits_events (depth : Nat) (node : Node) :
    (node.visits depth).map Visit.event = node.events depth := by
  cases node with
  | parent head children => simp [visits, events, Forest.visits_events]
  | leaf head value => rfl

/-- The traversal of a parent meets the parent itself, and what its children's traversals meet. -/
theorem mem_visits_parent (depth : Nat) (head : Head) (children : List Node) (visit : Visit) :
    visit ∈ (Node.parent head children).visits depth ↔
      visit = ⟨[], .enter depth head⟩ ∨ visit = ⟨[], .leave depth head⟩ ∨
        ∃ (place : Nat) (child : Node) (inner : Visit), children[place]? = some child ∧
          inner ∈ child.visits (depth + 1) ∧ visit = inner.under place := by
  rw [visits, List.mem_cons, List.mem_append, List.mem_singleton, Forest.mem_visits]
  simp only [Nat.zero_add]
  rw [or_comm (b := visit = _)]

/-- What a traversal says of an address is so: the node that stands there has the head it shows. -/
theorem at?_of_visit {depth : Nat} {node : Node} {visit : Visit} (member : visit ∈ node.visits depth) :
    ∃ found, node.at? visit.address = some found ∧ found.head = visit.event.head := by
  obtain ⟨address, event⟩ := visit
  induction address generalizing depth node with
  | nil =>
    refine ⟨node, rfl, ?_⟩
    cases node with
    | parent head children =>
      rcases (mem_visits_parent _ _ _ _).mp member with same | same | ⟨_, _, _, _, _, same⟩
      · obtain ⟨_, rfl⟩ := Visit.mk.inj same
        rfl
      · obtain ⟨_, rfl⟩ := Visit.mk.inj same
        rfl
      · simp [Visit.under] at same
    | leaf head value =>
      obtain ⟨_, rfl⟩ := Visit.mk.inj (List.mem_singleton.mp member)
      rfl
  | cons index address ih =>
    cases node with
    | parent head children =>
      rcases (mem_visits_parent _ _ _ _).mp member with
        same | same | ⟨place, child, inner, found, below, same⟩
      · simp at same
      · simp at same
      · obtain ⟨⟨rfl, rfl⟩, rfl⟩ : (index = place ∧ address = inner.address) ∧ event = inner.event := by
          simpa [Visit.under] using same
        simpa [at?, children?, found] using ih below
    | leaf head value => simp [visits] at member

theorem visit_of_at? {node found : Node} {address : List Nat} (stands : node.at? address = some found)
    (depth : Nat) : ∃ visit ∈ node.visits depth, visit.address = address := by
  induction address generalizing depth node with
  | nil =>
    cases node with
    | parent head children => exact ⟨⟨[], .enter depth head⟩, by simp [visits], rfl⟩
    | leaf head value => exact ⟨⟨[], .leaf depth head value⟩, by simp [visits], rfl⟩
  | cons index address ih =>
    obtain ⟨child, place, inside⟩ := Option.bind_eq_some_iff.mp stands
    cases node with
    | parent head children =>
      obtain ⟨visit, member, rfl⟩ := ih inside (depth + 1)
      exact ⟨visit.under index,
        (mem_visits_parent _ _ _ _).mpr (.inr (.inr ⟨index, child, visit, place, member, rfl⟩)), rfl⟩
    | leaf head value => simp [children?] at place

end Node

namespace Forest

theorem head_of_visit {depth index : Nat} {forest : List Node} {visit : Visit}
    (member : visit ∈ visits depth index forest) :
    ∃ node ∈ subtrees forest, node.head = visit.event.head := by
  induction forest using Forest.induct generalizing depth index visit with
  | nil => simp [visits] at member
  | leaf head value rest ih =>
    rcases List.mem_append.mp member with member | member
    · obtain rfl := List.mem_singleton.mp member
      exact ⟨.leaf head value, by simp, rfl⟩
    · obtain ⟨node, inside, same⟩ := ih member
      exact ⟨node, by simp [inside], same⟩
  | parent head children rest below ih =>
    rcases List.mem_append.mp member with member | member
    · obtain ⟨inner, under, rfl⟩ := List.mem_map.mp member
      rw [Node.visits, List.mem_cons, List.mem_append, List.mem_singleton] at under
      rcases under with rfl | under | rfl
      · exact ⟨.parent head children, by simp, rfl⟩
      · obtain ⟨node, inside, same⟩ := below under
        exact ⟨node, by simp [inside], same⟩
      · exact ⟨.parent head children, by simp, rfl⟩
    · obtain ⟨node, inside, same⟩ := ih member
      exact ⟨node, by simp [inside], same⟩

theorem visits_parent_inOrder {depth : Nat} (head : Head) {children : List Node}
    (below : (visits (depth + 1) 0 children).Pairwise Visit.InOrder) :
    ((Node.parent head children).visits depth).Pairwise Visit.InOrder := by
  rw [Node.visits, List.pairwise_cons, List.pairwise_append]
  refine ⟨?_, below, List.pairwise_singleton _ _, ?_⟩
  · intro visit _ apart
    exact absurd List.nil_prefix apart
  · intro visit _ last member _ apart
    obtain rfl := List.mem_singleton.mp member
    exact absurd List.nil_prefix apart

theorem visits_cons_inOrder {node : Node} {rest : List Node} (sound : Sound (node :: rest))
    (nested : Nested (node :: rest)) {depth index : Nat}
    (first : (node.visits depth).Pairwise Visit.InOrder)
    (others : (visits depth (index + 1) rest).Pairwise Visit.InOrder) :
    (visits depth index (node :: rest)).Pairwise Visit.InOrder := by
  rw [visits, List.pairwise_append, List.pairwise_map]
  refine ⟨by simpa using first, others, ?_⟩
  intro early member late member' _ _
  have alone : early ∈ visits depth index [node] := by simpa [visits] using member
  obtain ⟨part, inside, same⟩ := head_of_visit alone
  obtain ⟨other, inside', same'⟩ := head_of_visit member'
  rw [← same, ← same']
  exact sound.across nested inside inside'

/-- A traversal of a sound and nested forest goes through the text from left to right. -/
theorem visits_inOrder {forest : List Node} (sound : Sound forest) (nested : Nested forest)
    (depth index : Nat) : (visits depth index forest).Pairwise Visit.InOrder := by
  induction forest using Forest.induct generalizing depth index with
  | nil => exact .nil
  | leaf head value rest ih =>
    exact visits_cons_inOrder sound nested (List.pairwise_singleton _ _)
      (ih ((sound_cons _ _).mp sound).2.2 ((nested_cons _ _).mp nested).2 depth (index + 1))
  | parent head children rest below ih =>
    obtain ⟨_, alone, others⟩ := (sound_cons _ _).mp sound
    obtain ⟨alone', others'⟩ := (nested_cons _ _).mp nested
    have inner := below ((sound_parent _ _).mp alone).2 ((nested_parent _ _).mp alone').2 (depth + 1) 0
    exact visits_cons_inOrder sound nested (visits_parent_inOrder head inner)
      (ih others others' depth (index + 1))

end Forest

namespace Node

/-- Every address of the node is visited, and its first visit shows what stands there. -/
theorem first_visit {node found : Node} {address : List Nat}
    (stands : node.at? address = some found) :
    ∃ bound : ((node.visits 0).map Visit.address).idxOf address < (node.visits 0).length,
      (node.visits 0)[((node.visits 0).map Visit.address).idxOf address].address = address ∧
      (node.visits 0)[((node.visits 0).map Visit.address).idxOf address].event.head = found.head := by
  obtain ⟨visit, member, rfl⟩ := visit_of_at? stands 0
  have bound := List.idxOf_lt_length_of_mem (List.mem_map_of_mem (f := Visit.address) member)
  have address := List.getElem_idxOf bound
  rw [List.length_map] at bound
  rw [List.getElem_map] at address
  obtain ⟨shown, stands', same⟩ := at?_of_visit (List.getElem_mem bound)
  rw [address, stands] at stands'
  obtain rfl := Option.some.inj stands'
  exact ⟨bound, address, same.symm⟩

theorem before_of_meetsFirst {node one other : Node} {first second : List Nat}
    (inOrder : (node.visits 0).Pairwise Visit.InOrder) (here : node.at? first = some one)
    (there : node.at? second = some other) (apart : ¬ first <+: second)
    (apart' : ¬ second <+: first) (met : node.MeetsFirst first second) :
    one.span.Before other.span := by
  obtain ⟨bound, address, same⟩ := first_visit here
  obtain ⟨bound', address', same'⟩ := first_visit there
  have ordered := List.pairwise_iff_getElem.mp inOrder _ _ bound bound' met
  rw [Visit.InOrder, address, address', same, same'] at ordered
  exact ordered apart apart'

end Node

/-- The order of a merged tree. Where the given tree is nested below its root, the merged one is too,
and of two nodes neither of which is an ancestor of the other, the one that a traversal meets first
ends no later than the other starts. -/
theorem complete_in_document_order (request : Request) (head : Head) (children : List Node)
    (merged : Node) (shape : request.root = .parent head children) (nested : Forest.Nested children)
    (completed : request.complete = .ok merged) :
    (∃ settled, merged = .parent head settled ∧ Forest.Nested settled) ∧
    (merged.visits 0).map Visit.event = merged.events 0 ∧
    (∀ visit ∈ merged.visits 0,
      ∃ node, merged.at? visit.address = some node ∧ node.head = visit.event.head) ∧
    ∀ (first second : List Nat) (one other : Node),
      merged.at? first = some one → merged.at? second = some other →
      ¬ first <+: second → ¬ second <+: first → merged.MeetsFirst first second →
      one.span.Before other.span := by
  obtain ⟨_, _, leaves, same, made, rfl, passed⟩ := (request.complete_eq_ok merged).mp completed
  obtain ⟨rfl, rfl⟩ := Node.parent.inj (shape.symm.trans same)
  have sound := ((Node.validate_parent _ _).mp passed).2
  have settled := Forest.insertAll_nested nested
    fun leaf member => (comments_of_tokens made leaf member).1
  refine ⟨⟨_, rfl, settled⟩, Node.visits_events 0 _, fun visit member => Node.at?_of_visit member, ?_⟩
  intro first second one other here there apart apart' met
  have inOrder := Forest.visits_parent_inOrder head (Forest.visits_inOrder sound settled 1 0)
  exact Node.before_of_meetsFirst inOrder here there apart apart' met

/-- The last leaf of the two parents, and the empty comment just after them. -/
theorem complete_in_document_order_specimen :
    Forest.Nested (Specimen.children [] []) ∧
      (Specimen.request [Specimen.outerToken, Specimen.emptyToken, Specimen.innerToken]).complete =
        .ok (.parent Specimen.root (Specimen.children [Specimen.innerLeaf]
          [Specimen.emptyLeaf, Specimen.outerLeaf])) ∧
      (Specimen.head Tag.str "C" 4 5).span.Before Specimen.emptyLeaf.span := by
  have nested : Forest.Nested (Specimen.children [] []) := by decide
  refine ⟨nested, rfl, ?_⟩
  exact (complete_in_document_order
    (Specimen.request [Specimen.outerToken, Specimen.emptyToken, Specimen.innerToken])
    Specimen.root _ _ rfl nested rfl).2.2.2 [0, 0, 2] [1] (.leaf (Specimen.head Tag.str "C" 4 5) "C")
      Specimen.emptyLeaf rfl rfl (by decide) (by decide) (by decide)

end LatexTree
