import LatexTree.Node.Traversal
import LatexTree.Proofs.Budget
import LatexTree.Proofs.WireGrammar

/-! Nodes written and read again.

A written node mirrors itself, so the reader takes it exactly if the budget of brackets is enough. A
node at depth `d` stands under `2 * d` brackets and opens three of its own; with fewer to open, the
text is refused as too deep. -/
namespace LatexTree

def Event.depth : Event → Nat
  | .enter depth _ => depth
  | .leave depth _ => depth
  | .leaf depth _ _ => depth

def Location.Fits (location : Location) : Prop := location.start.Fits ∧ location.stop.Fits

instance (location : Location) : Decidable location.Fits := inferInstanceAs (Decidable (_ ∧ _))

def Head.Fits (head : Head) : Prop := head.span.Fits ∧ head.loc.Fits

instance (head : Head) : Decidable head.Fits := inferInstanceAs (Decidable (_ ∧ _))

/-- All numbers of the tree are numbers of 64 bits. -/
def Node.Fits (node : Node) : Prop := ∀ part ∈ node.subtrees, part.head.Fits

instance (node : Node) : Decidable node.Fits :=
  inferInstanceAs (Decidable (∀ part ∈ node.subtrees, part.head.Fits))

def Forest.Fits (forest : List Node) : Prop := ∀ part ∈ Forest.subtrees forest, part.head.Fits

theorem Node.fits_leaf (head : Head) (value : String) : (Node.leaf head value).Fits ↔ head.Fits := by
  simp [Node.Fits, Node.subtrees, Node.head]

theorem Node.fits_parent (head : Head) (children : List Node) :
    (Node.parent head children).Fits ↔ head.Fits ∧ Forest.Fits children := by
  simp [Node.Fits, Forest.Fits, Node.subtrees, Node.head]

theorem Forest.fits_cons (node : Node) (rest : List Node) :
    Forest.Fits (node :: rest) ↔ node.Fits ∧ Forest.Fits rest := by
  simp only [Forest.Fits, Node.Fits, Forest.subtrees, List.forall_mem_append]

mutual

theorem Node.events_depth_le (bound : Nat) : ∀ (node : Node) (depth : Nat),
    (∀ event ∈ node.events depth, event.depth ≤ bound) ↔ depth + node.height ≤ bound
  | .leaf head value, depth => by simp [Node.events, Event.depth, Node.height]
  | .parent head children, depth => by
    have below := Forest.events_depth_le bound children (depth + 1)
    have height := Forest.height_le children (bound - depth)
    rw [Node.events, List.forall_mem_cons, List.forall_mem_append, below, List.forall_mem_singleton,
      Node.height]
    simp only [Event.depth]
    constructor
    · rintro ⟨own, all, -⟩
      have := height.mpr fun node member => by
        have := all node member
        omega
      omega
    · intro total
      refine ⟨by omega, ?_, by omega⟩
      intro node member
      have := height.mp (by omega) node member
      omega

theorem Forest.events_depth_le (bound : Nat) : ∀ (forest : List Node) (depth : Nat),
    (∀ event ∈ Forest.events depth forest, event.depth ≤ bound) ↔
      ∀ node ∈ forest, depth + node.height ≤ bound
  | [], depth => by simp [Forest.events]
  | node :: rest, depth => by
    rw [Forest.events, List.forall_mem_append, Node.events_depth_le bound node depth,
      Forest.events_depth_le bound rest depth, List.forall_mem_cons]

end

namespace Wire
open Json

theorem positionValue_form {position : Position} (fits : position.Fits) :
    PositionForm (positionValue position) position :=
  ⟨_, rfl, ⟨_, rfl, rfl, fits.1⟩, ⟨_, rfl, rfl, fits.2⟩⟩

theorem headForm_written {head : Head} (fits : head.Fits) (more : List (String × Value)) :
    HeadForm (("type", .text head.tag) :: ("raw", .text head.raw) :: ("range", spanValue head.span) ::
      ("loc", locationValue head.loc) :: more) head := by
  have start := positionValue_form fits.2.1
  have stop := positionValue_form fits.2.2
  have loc : LocationForm (locationValue head.loc) head.loc :=
    ⟨_, rfl, ⟨_, rfl, start⟩, ⟨_, rfl, stop⟩⟩
  exact ⟨⟨_, rfl, rfl⟩, ⟨_, rfl, rfl⟩, ⟨_, rfl, rfl, fits.1⟩, _, rfl, loc⟩

mutual

theorem nodeValue_mirrors : ∀ {node : Node}, node.Fits → Mirrors (nodeValue node) node
  | .leaf head value, fits =>
    .leaf rfl (headForm_written ((Node.fits_leaf head value).mp fits) _) (.inl rfl)
      (show Maybe TextForm _ (some value) from ⟨_, rfl, rfl⟩)
  | .parent head children, fits =>
    .parent rfl (headForm_written ((Node.fits_parent head children).mp fits).1 _) rfl
      (forestValues_mirror ((Node.fits_parent head children).mp fits).2)
      (show Maybe TextForm _ none from .inl rfl)

theorem forestValues_mirror : ∀ {forest : List Node}, Forest.Fits forest →
    List.Forall₂ Mirrors (forestValues forest) forest
  | [], _ => .nil
  | node :: rest, fits =>
    .cons (nodeValue_mirrors ((Forest.fits_cons node rest).mp fits).1)
      (forestValues_mirror ((Forest.fits_cons node rest).mp fits).2)

end

mutual

theorem nodeValue_proper : ∀ node : Node, (nodeValue node).Proper
  | .leaf head value => by simp [nodeValue, spanValue, locationValue, positionValue]
  | .parent head children => by
    simpa [nodeValue, spanValue, locationValue, positionValue] using forestValues_proper children

theorem forestValues_proper : ∀ forest : List Node, ∀ value ∈ forestValues forest, value.Proper
  | [] => by simp [forestValues]
  | node :: rest => by
    rw [forestValues, List.forall_mem_cons]
    exact ⟨nodeValue_proper node, forestValues_proper rest⟩

end

theorem readNode_written {node : Node} (fits : node.Fits) (layout : Layout) (budget : Nat)
    (enough : 2 * node.height + 3 ≤ budget) :
    decode (readNode budget) ((nodeValue node).render layout) = .ok node := by
  have proper := nodeValue_proper node
  rw [decode_recognized (readNode_recognizes budget) proper (Value.spelling_render layout proper)]
  exact ⟨nodeValue_mirrors fits, enough⟩

theorem readNode_deep {node : Node} (fits : node.Fits) (layout : Layout) {budget : Nat}
    (few : budget < 2 * node.height + 3) :
    decode (readNode budget) ((nodeValue node).render layout) = .error .tooDeep := by
  have proper := nodeValue_proper node
  have written := readNode_written fits layout _ (Nat.le_refl _)
  rcases decode_capped (readNode_capped (Nat.le_of_lt few)) ((nodeValue node).render layout) with
    same | deep
  · rw [written, decode_recognized (readNode_recognizes budget) proper
      (Value.spelling_render layout proper)] at same
    omega
  · exact deep

/-- The depth limit of 62 is exact, in either layout. -/
theorem node_round_trip (node : Node) (fits : node.Fits) (layout : Layout) :
    ((∀ event ∈ node.events 0, event.depth ≤ 62) →
      decode (readNode depthLimit) ((nodeValue node).render layout) = .ok node) ∧
    (¬ (∀ event ∈ node.events 0, event.depth ≤ 62) →
      ∃ fault, decode (readNode depthLimit) ((nodeValue node).render layout) = .error fault ∧
        fault.category = .illFormed ∧ fault.message = "recursion limit exceeded") := by
  rw [node.events_depth_le 62 0, Nat.zero_add]
  constructor
  · intro shallow
    exact readNode_written fits layout _ (by simp only [depthLimit]; omega)
  · intro deep
    exact ⟨.tooDeep, readNode_deep fits layout (by simp only [depthLimit]; omega), rfl, rfl⟩

/-- Parents one in another, with a leaf in the innermost. -/
def tower : Nat → Node
  | 0 => .leaf ⟨Tag.str, "a\n\"", ⟨0, wordLimit⟩, ⟨⟨1, 0⟩, ⟨2, 1⟩⟩⟩ ""
  | levels + 1 => .parent ⟨Tag.document, "a\n\"", ⟨0, wordLimit⟩, ⟨⟨1, 0⟩, ⟨2, 1⟩⟩⟩ [tower levels]

theorem tower_height (levels : Nat) : (tower levels).height = levels := by
  induction levels with
  | zero => rfl
  | succ levels ih => simp [tower, Node.height, Forest.height, ih]

theorem tower_fits (levels : Nat) : (tower levels).Fits := by
  have own : (⟨0, wordLimit⟩ : Span).Fits ∧ (⟨1, 0⟩ : Position).Fits ∧ (⟨2, 1⟩ : Position).Fits := by
    simp [Span.Fits, Position.Fits, wordLimit]
  induction levels with
  | zero => rwa [tower, Node.fits_leaf]
  | succ levels ih =>
    rw [tower, Node.fits_parent, Forest.fits_cons]
    exact ⟨own, ih, by simp [Forest.Fits, Forest.subtrees]⟩

theorem node_round_trip_tower : (tower 62).Fits ∧ (tower 63).Fits ∧
    decode (readNode depthLimit) ((nodeValue (tower 62)).render .pretty) = .ok (tower 62) ∧
      ∃ fault, decode (readNode depthLimit) ((nodeValue (tower 63)).render .compact) = .error fault ∧
        fault.category = .illFormed ∧ fault.message = "recursion limit exceeded" := by
  have depths (levels : Nat) := (tower levels).events_depth_le 62 0
  simp only [tower_height] at depths
  refine ⟨tower_fits 62, tower_fits 63, ?_, ?_⟩
  · exact (node_round_trip (tower 62) (tower_fits 62) .pretty).1 ((depths 62).mpr (by decide))
  · apply (node_round_trip (tower 63) (tower_fits 63) .compact).2
    intro shallow
    exact absurd ((depths 63).mp shallow) (by decide)

end Wire

end LatexTree
