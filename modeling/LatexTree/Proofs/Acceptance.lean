import LatexTree.Proofs.Clearance
import LatexTree.Proofs.Completion

/-! The exact condition under which a merge succeeds. -/
namespace LatexTree

theorem Forest.clear_iff (span : Span) (forest : List Node) :
    Forest.Clear span forest ↔
      (∀ node ∈ Forest.subtrees forest, node.isParent = false → span.Apart node.span) ∧
      ∀ node ∈ Forest.subtrees forest, node.isParent = true →
        node.span.Includes span ∨ span.Apart node.span := by
  unfold Forest.Clear Node.Admits
  constructor
  · intro clear
    refine ⟨fun node member leaf => ?_, fun node member parent => ?_⟩
    · rcases clear node member with ⟨parent, _⟩ | apart
      · simp [leaf] at parent
      · exact apart
    · rcases clear node member with ⟨_, includes⟩ | apart
      · exact .inl includes
      · exact .inr apart
  · rintro ⟨leaves, parents⟩ node member
    cases shape : node.isParent with
    | false => exact .inr (leaves node member shape)
    | true =>
      rcases parents node member shape with includes | apart
      · exact .inl ⟨rfl, includes⟩
      · exact .inr apart

/-- A merge into a nested tree succeeds exactly if the tree is valid, every token makes an upright
leaf, the tokens lie apart from each other and from all leaves, and each parent below the root
includes a token or lies apart from it. -/
theorem complete_succeeds_iff (request : Request) (head : Head) (children : List Node)
    (shape : request.root = .parent head children) (nested : Forest.Nested children) :
    (∃ merged, request.complete = .ok merged) ↔
      request.root.validate = .ok () ∧
      (∀ token ∈ request.tokens,
        (∃ leaf, token.toNode request.source = .ok leaf) ∧ ¬ token.loc.Inverted) ∧
      request.tokens.Pairwise (fun first second => first.span.Apart second.span) ∧
      (∀ token ∈ request.tokens, ∀ node ∈ Forest.subtrees children,
        node.isParent = false → token.span.Apart node.span) ∧
      ∀ token ∈ request.tokens, ∀ node ∈ Forest.subtrees children,
        node.isParent = true → node.span.Includes token.span ∨ token.span.Apart node.span := by
  rw [shape, Node.validate_parent]
  constructor
  · rintro ⟨merged, completed⟩
    obtain ⟨_, _, leaves, same, made, rfl, passed⟩ := (request.complete_eq_ok merged).mp completed
    obtain ⟨rfl, rfl⟩ := Node.parent.inj (shape.symm.trans same)
    obtain ⟨upright, after⟩ := (Node.validate_parent _ _).mp passed
    have comments := comments_of_tokens made
    obtain ⟨sound, each, apart⟩ := (Forest.insertAll_sound_iff nested
      fun leaf member => (comments leaf member).1).mp after
    have clear := (forall_places_iff made fun span loc =>
      (¬ span.Inverted ∧ ¬ loc.Inverted) ∧ Forest.Clear span children).mp each
    refine ⟨⟨upright, sound⟩, fun token member => ⟨?_, (clear token member).1.2⟩,
      (pairwise_spans_iff made Span.Apart).mp apart, fun token member => ?_, fun token member => ?_⟩
    · exact exists_leaves_iff.mp ⟨leaves, made⟩ token member
    · exact ((Forest.clear_iff _ _).mp (clear token member).2).1
    · exact ((Forest.clear_iff _ _).mp (clear token member).2).2
  · rintro ⟨⟨upright, sound⟩, normal, apart, leavesApart, parents⟩
    obtain ⟨leaves, made⟩ := exists_leaves_iff.mpr fun token member => (normal token member).1
    have comments := comments_of_tokens made
    have each := (forall_places_iff made fun span loc =>
      (¬ span.Inverted ∧ ¬ loc.Inverted) ∧ Forest.Clear span children).mpr fun token member => by
        obtain ⟨⟨leaf, single⟩, forward⟩ := normal token member
        exact ⟨⟨(CommentToken.toNode_eq_ok single).1, forward⟩,
          (Forest.clear_iff _ _).mpr ⟨leavesApart token member, parents token member⟩⟩
    have after := (Forest.insertAll_sound_iff nested fun leaf member => (comments leaf member).1).mpr
      ⟨sound, each, (pairwise_spans_iff made Span.Apart).mpr apart⟩
    exact ⟨_, (request.complete_eq_ok _).mpr
      ⟨head, children, leaves, shape, made, rfl, (Node.validate_parent _ _).mpr ⟨upright, after⟩⟩⟩

theorem complete_succeeds_iff_specimen :
    Forest.Nested (Specimen.children [] []) ∧
      ∃ merged, (Specimen.request [Specimen.outerToken, Specimen.emptyToken,
        Specimen.innerToken]).complete = .ok merged := by
  have nested : Forest.Nested (Specimen.children [] []) := by decide
  refine ⟨nested, (complete_succeeds_iff _ Specimen.root _ rfl nested).mpr
    ⟨rfl, ?_, by decide, by decide, by decide⟩⟩
  rintro token (_ | ⟨_, _ | ⟨_, _ | ⟨_, ⟨⟩⟩⟩⟩)
  · exact ⟨⟨Specimen.outerLeaf, rfl⟩, by decide⟩
  · exact ⟨⟨Specimen.emptyLeaf, rfl⟩, by decide⟩
  · exact ⟨⟨Specimen.innerLeaf, rfl⟩, by decide⟩

end LatexTree
