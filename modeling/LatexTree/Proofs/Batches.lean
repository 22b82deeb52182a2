import LatexTree.Proofs.Clearance
import LatexTree.Proofs.Completion

/-! Merging in batches.

A merge validates the tree once, after its last insertion. No insertion mends an unsound forest, so a
validation in between refuses no request that the last one accepts: the tokens may come in any number
of batches. -/
namespace LatexTree

theorem Forest.insertAll_append (forest first second : List Node) :
    insertAll forest (first ++ second) = insertAll (insertAll forest first) second :=
  List.foldl_append

theorem leaves_append_iff (source : Source) (first second : List CommentToken)
    (leaves : List Node) :
    List.Forall₂ (fun token leaf => token.toNode source = .ok leaf) (first ++ second) leaves ↔
      ∃ early late, leaves = early ++ late ∧
        List.Forall₂ (fun token leaf => token.toNode source = .ok leaf) first early ∧
        List.Forall₂ (fun token leaf => token.toNode source = .ok leaf) second late := by
  constructor
  · intro made
    have flipped : List.Forall₂ (fun leaf token => token.toNode source = .ok leaf) leaves
        (first ++ second) := made.flip
    exact ⟨leaves.take first.length, leaves.drop first.length, (List.take_append_drop _ _).symm,
      (List.forall₂_take_append _ _ _ flipped).flip, (List.forall₂_drop_append _ _ _ flipped).flip⟩
  · rintro ⟨early, late, rfl, one, other⟩
    exact List.rel_append one other

namespace Request

theorem complete_append (source : Source) (root : Node) (first second : List CommentToken)
    (merged : Node) :
    complete ⟨source, root, some (first ++ second)⟩ = .ok merged ↔
      ∃ middle, complete ⟨source, root, some first⟩ = .ok middle ∧
        complete ⟨source, middle, some second⟩ = .ok merged := by
  simp only [complete_eq_ok]
  constructor
  · rintro ⟨head, children, leaves, shape, made, rfl, passed⟩
    obtain ⟨early, late, rfl, one, other⟩ := (leaves_append_iff _ _ _ _).mp made
    rw [Forest.insertAll_append] at passed ⊢
    obtain ⟨upright, sound⟩ := (Node.validate_parent _ _).mp passed
    have halfway : (Node.parent head (Forest.insertAll children early)).validate = .ok () :=
      (Node.validate_parent _ _).mpr ⟨upright, Forest.sound_of_insertAll sound⟩
    exact ⟨_, ⟨head, children, early, shape, one, rfl, halfway⟩,
      head, _, late, rfl, other, rfl, passed⟩
  · rintro ⟨middle, ⟨head, children, early, shape, one, rfl, _⟩,
      _, _, late, same, other, rfl, passed⟩
    obtain ⟨rfl, rfl⟩ := Node.parent.inj same
    rw [← Forest.insertAll_append] at passed ⊢
    exact ⟨head, children, early ++ late, shape,
      (leaves_append_iff _ _ _ _).mpr ⟨early, late, rfl, one, other⟩, rfl, passed⟩

/-- One merge after the other, each into the tree that the one before it gave. -/
def completeBatches (source : Source) (root : Node) (batches : List (List CommentToken)) :
    Except Refusal Node :=
  batches.foldlM (fun tree batch => complete ⟨source, tree, some batch⟩) root

theorem completeBatches_eq_ok (source : Source) (root : Node) (batch : List CommentToken)
    (batches : List (List CommentToken)) (merged : Node) :
    completeBatches source root (batch :: batches) = .ok merged ↔
      complete ⟨source, root, some (batch :: batches).flatten⟩ = .ok merged := by
  unfold completeBatches
  induction batches generalizing root batch with
  | nil =>
    simp only [List.foldlM_cons, List.foldlM_nil, bind_eq_ok, pure, Except.pure, Except.ok.injEq,
      exists_eq_right, List.flatten_cons, List.flatten_nil, List.append_nil]
  | cons next batches ih =>
    rw [List.foldlM_cons, bind_eq_ok, List.flatten_cons, complete_append]
    simp only [ih]

theorem valid_of_complete {request : Request} {merged : Node}
    (completed : request.complete = .ok merged) : request.root.validate = .ok () := by
  obtain ⟨head, children, leaves, shape, _, rfl, passed⟩ :=
    (request.complete_eq_ok merged).mp completed
  obtain ⟨upright, sound⟩ := (Node.validate_parent _ _).mp passed
  rw [shape]
  exact (Node.validate_parent _ _).mpr ⟨upright, Forest.sound_of_insertAll sound⟩

end Request

/-- Validating once at the end is as good as validating after every step: a merge of two lists of
tokens is a merge of the first followed by a merge of the second, a merge is as good as any number of
merges of consecutive batches, down to single tokens, and none succeeds on an invalid root. Without
any batch there is no merge and no validation. -/
theorem complete_iff_in_batches (source : Source) (root : Node) :
    (∀ (first second : List CommentToken) (merged : Node),
      Request.complete ⟨source, root, some (first ++ second)⟩ = .ok merged ↔
        ∃ middle, Request.complete ⟨source, root, some first⟩ = .ok middle ∧
          Request.complete ⟨source, middle, some second⟩ = .ok merged) ∧
    (∀ (batches : List (List CommentToken)) (merged : Node), batches ≠ [] →
      (Request.complete ⟨source, root, some batches.flatten⟩ = .ok merged ↔
        Request.completeBatches source root batches = .ok merged)) ∧
    (∀ (tokens : List CommentToken) (merged : Node), tokens ≠ [] →
      (Request.complete ⟨source, root, some tokens⟩ = .ok merged ↔
        Request.completeBatches source root (tokens.map fun token => [token]) = .ok merged)) ∧
    ∀ (comments : Option (List CommentToken)) (merged : Node),
      Request.complete ⟨source, root, comments⟩ = .ok merged → root.validate = .ok () := by
  have batched (batches : List (List CommentToken)) (merged : Node) (nonempty : batches ≠ []) :
      Request.complete ⟨source, root, some batches.flatten⟩ = .ok merged ↔
        Request.completeBatches source root batches = .ok merged := by
    obtain ⟨batch, rest, rfl⟩ := List.exists_cons_of_ne_nil nonempty
    exact (Request.completeBatches_eq_ok source root batch rest merged).symm
  refine ⟨Request.complete_append source root, batched, ?_, ?_⟩
  · intro tokens merged nonempty
    have single := batched (tokens.map fun token => [token]) merged (by simpa using nonempty)
    rwa [← List.flatMap_def, List.flatMap_singleton'] at single
  · intro comments merged completed
    exact Request.valid_of_complete completed

theorem complete_in_batches_specimen :
    (∃ middle,
      (Specimen.request [Specimen.outerToken]).complete = .ok middle ∧
      Request.complete ⟨Specimen.source, middle, some [Specimen.emptyToken, Specimen.innerToken]⟩ =
        .ok (.parent Specimen.root (Specimen.children [Specimen.innerLeaf]
          [Specimen.emptyLeaf, Specimen.outerLeaf]))) ∧
    Request.completeBatches Specimen.source (.parent Specimen.root (Specimen.children [] []))
        [[Specimen.outerToken, Specimen.emptyToken], [], [Specimen.innerToken]] =
      .ok (.parent Specimen.root (Specimen.children [Specimen.innerLeaf]
        [Specimen.emptyLeaf, Specimen.outerLeaf])) ∧
    Request.completeBatches Specimen.source (.parent Specimen.root (Specimen.children [] []))
        [[Specimen.outerToken], [Specimen.emptyToken], [Specimen.innerToken]] =
      .ok (.parent Specimen.root (Specimen.children [Specimen.innerLeaf]
        [Specimen.emptyLeaf, Specimen.outerLeaf])) ∧
    (Node.parent Specimen.root (Specimen.children [] [])).validate = .ok () := by
  obtain ⟨halves, batched, single, valid⟩ := complete_iff_in_batches Specimen.source
    (.parent Specimen.root (Specimen.children [] []))
  have whole : (Specimen.request [Specimen.outerToken, Specimen.emptyToken,
      Specimen.innerToken]).complete = .ok (.parent Specimen.root
        (Specimen.children [Specimen.innerLeaf] [Specimen.emptyLeaf, Specimen.outerLeaf])) := rfl
  exact ⟨(halves [Specimen.outerToken] [Specimen.emptyToken, Specimen.innerToken] _).mp whole,
    (batched _ _ (by simp)).mp whole,
    (single [Specimen.outerToken, Specimen.emptyToken, Specimen.innerToken] _ (by simp)).mp whole,
    valid _ _ whole⟩

end LatexTree
