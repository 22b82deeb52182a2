import LatexTree.Node.Comments
import LatexTree.Proofs.Completion
import Mathlib.Data.List.Nodup
import Mathlib.Data.List.Perm.Basic

/-! Merging undoes stripping.

Between the stripped tree and the whole one stand the trees that hold some of the comments: `keep`
leaves those in that are in a list. Inserting one more comment leads from such a tree to the next,
whatever the order, so that a run over all comments ends at the whole tree. -/
namespace LatexTree

mutual

/-- The node without the comments below it that are not to be kept. -/
def Node.keep (kept : List Node) : Node → Node
  | .parent head children => .parent head (Forest.keep kept children)
  | .leaf head value => .leaf head value

def Forest.keep (kept : List Node) : List Node → List Node
  | [] => []
  | node :: rest =>
    if node.isComment = true ∧ node ∉ kept then Forest.keep kept rest
    else node.keep kept :: Forest.keep kept rest

end

@[simp] theorem Node.keep_span (kept : List Node) (node : Node) :
    (node.keep kept).span = node.span := by
  cases node <;> rfl

namespace Forest

theorem keep_cons (kept : List Node) (node : Node) (rest : List Node) :
    keep kept (node :: rest) = keep kept [node] ++ keep kept rest := by
  by_cases dropped : node.isComment = true ∧ node ∉ kept
  · simp [keep, dropped]
  · simp [keep, dropped]

theorem keep_none (forest : List Node) : keep [] forest = stripComments forest := by
  induction forest using Forest.induct with
  | nil => rfl
  | leaf head value rest ih => simp [keep, stripComments, Node.keep, Node.stripComments, ih]
  | parent head children rest below ih =>
    simp [keep, stripComments, Node.keep, Node.stripComments, below, ih]

theorem keep_all {kept forest : List Node}
    (all : ∀ node ∈ subtrees forest, node.isComment = true → node ∈ kept) :
    keep kept forest = forest := by
  induction forest using Forest.induct with
  | nil => rfl
  | leaf head value rest ih =>
    simp only [subtrees_leaf, List.forall_mem_cons] at all
    rw [keep, if_neg fun dropped => dropped.2 (all.1 dropped.1), ih all.2]
    rfl
  | parent head children rest below ih =>
    simp only [subtrees_parent, List.forall_mem_cons, List.forall_mem_append] at all
    rw [keep, if_neg fun dropped => dropped.2 (all.1 dropped.1), ih all.2.2, Node.keep,
      below all.2.1]

theorem keep_absent {comment : Node} (kept : List Node) {forest : List Node}
    (absent : comment ∉ subtrees forest) : keep (comment :: kept) forest = keep kept forest := by
  induction forest using Forest.induct with
  | nil => rfl
  | leaf head value rest ih =>
    simp only [subtrees_leaf, List.mem_cons, not_or] at absent
    simp [keep, Node.keep, Ne.symm absent.1, ih absent.2]
  | parent head children rest below ih =>
    simp only [subtrees_parent, List.mem_cons, List.mem_append, not_or] at absent
    simp [keep, Node.keep, Ne.symm absent.1, below absent.2.1, ih absent.2.2]

theorem span_of_keep {kept forest : List Node} {node : Node} (member : node ∈ keep kept forest) :
    ∃ old ∈ forest, node.span = old.span := by
  induction forest with
  | nil => simp [keep] at member
  | cons first rest ih =>
    rw [keep] at member
    split at member
    · obtain ⟨old, former, same⟩ := ih member
      exact ⟨old, List.mem_cons_of_mem _ former, same⟩
    · rcases List.mem_cons.mp member with rfl | member
      · exact ⟨first, List.mem_cons_self, Node.keep_span kept first⟩
      · obtain ⟨old, former, same⟩ := ih member
        exact ⟨old, List.mem_cons_of_mem _ former, same⟩

/-- What a merge restores: a sound and nested forest whose comments are leaves with text in them. -/
structure Restorable (forest : List Node) : Prop where
  sound : Sound forest
  nested : Nested forest
  leaves : ∀ node ∈ subtrees forest, node.isComment = true → node.isParent = false
  filled : ∀ node ∈ subtrees forest, node.isComment = true → ¬ node.span.Empty

theorem Restorable.of_cons {node : Node} {rest : List Node} (whole : Restorable (node :: rest)) :
    Restorable [node] ∧ Restorable rest := by
  obtain ⟨sound, nested, leaves, filled⟩ := whole
  obtain ⟨_, first, others⟩ := (sound_cons _ _).mp sound
  obtain ⟨alone, nested⟩ := (nested_cons _ _).mp nested
  rw [forall_subtrees_cons] at leaves filled
  exact ⟨⟨first, alone, leaves.1, filled.1⟩, others, nested, leaves.2, filled.2⟩

theorem Restorable.of_parent {head : Head} {children : List Node}
    (whole : Restorable [.parent head children]) : Restorable children := by
  obtain ⟨sound, nested, leaves, filled⟩ := whole
  rw [forall_subtrees_parent] at leaves filled
  exact ⟨((sound_parent _ _).mp sound).2, ((nested_parent _ _).mp nested).2, leaves.2, filled.2⟩

private theorem not_before_of_before {first second : Span} (before : first.Before second)
    (upright : ¬ first.Inverted) (filled : ¬ second.Empty) : ¬ second.Before first := by
  unfold Span.Before Span.Inverted Span.Empty at *
  omega

private theorem not_within_of_before {first second : Span} (before : first.Before second)
    (filled : ¬ second.Empty) : ¬ second.Within first := by
  unfold Span.Before Span.Within Span.Empty at *
  omega

section

variable {comment : Node} {kept : List Node}

private theorem inserts_past_kept {node : Node} {forest settled : List Node}
    (placed : Inserts comment forest settled) (before : node.span.Before comment.span)
    (upright : ¬ node.span.Inverted) (filled : ¬ comment.span.Empty) :
    Inserts comment (keep kept [node] ++ forest) (keep kept [node] ++ settled) := by
  by_cases dropped : node.isComment = true ∧ node ∉ kept
  · simpa [keep, dropped] using placed
  · simp only [keep, if_neg dropped, List.cons_append, List.nil_append]
    apply Inserts.past _ _ _ _ _ placed
    · rw [Node.keep_span]
      exact not_before_of_before before upright filled
    · rintro ⟨_, includes⟩
      rw [Node.keep_span] at includes
      exact not_within_of_before before filled includes.within

end

section

variable {comment node : Node} {kept rest : List Node}

theorem Restorable.before_rest (whole : Restorable (node :: rest))
    (member : comment ∈ subtrees rest) : node.span.Before comment.span :=
  whole.of_cons.2.nested.before_all ((sound_cons _ _).mp whole.sound).1 comment member

theorem Restorable.absent (whole : Restorable (node :: rest)) (tagged : comment.isComment = true)
    (member : comment ∈ subtrees rest) : comment ∉ subtrees [node] := by
  intro inside
  obtain ⟨top, single, within⟩ := whole.of_cons.1.nested.enclosing inside
  obtain rfl := List.mem_singleton.mp single
  exact not_within_of_before (whole.before_rest member)
    (whole.of_cons.2.filled comment member tagged) within

private theorem inserts_keep_rest (whole : Restorable (node :: rest))
    (tagged : comment.isComment = true) (member : comment ∈ subtrees rest)
    (placed : Inserts comment (keep kept rest) (keep (comment :: kept) rest)) :
    Inserts comment (keep kept (node :: rest)) (keep (comment :: kept) (node :: rest)) := by
  have upright := whole.sound.upright node (mem_subtrees List.mem_cons_self)
  rw [keep_cons, keep_cons (comment :: kept), keep_absent kept (whole.absent tagged member)]
  exact inserts_past_kept placed (whole.before_rest member) upright.1
    (whole.of_cons.2.filled comment member tagged)

end

/-- Into the tree that holds the comments of a list, a further one goes just where the whole tree has
it. -/
theorem inserts_keep {forest : List Node} (whole : Restorable forest) {comment : Node}
    (member : comment ∈ subtrees forest) (tagged : comment.isComment = true) {kept : List Node}
    (fresh : comment ∉ kept) :
    Inserts comment (keep kept forest) (keep (comment :: kept) forest) := by
  have filled := whole.filled comment member tagged
  induction forest using Forest.induct with
  | nil => simp at member
  | leaf head value rest ih =>
    by_cases later : comment ∈ subtrees rest
    · exact inserts_keep_rest whole tagged later (ih whole.of_cons.2 later)
    · obtain rfl | member := List.mem_cons.mp member
      -- The comment is this leaf: dropped before the insertion and kept after it.
      · rw [keep, if_pos ⟨tagged, fresh⟩, keep, if_neg (by simp), keep_absent kept later]
        apply inserts_front
        intro sibling member
        obtain ⟨old, former, same⟩ := span_of_keep member
        rw [same]
        exact ((sound_cons _ _).mp whole.sound).1 old former
      · exact absurd member later
  | parent head children rest below ih =>
    by_cases later : comment ∈ subtrees rest
    · exact inserts_keep_rest whole tagged later (ih whole.of_cons.2 later)
    · have plain : ¬ (Node.parent head children).isComment = true := by
        intro tagged
        have leaf := whole.leaves _ (mem_subtrees List.mem_cons_self) tagged
        simp [Node.isParent] at leaf
      have deeper : comment ∈ subtrees children := by
        rcases List.mem_cons.mp member with rfl | member
        · exact absurd tagged plain
        · exact (List.mem_append.mp member).resolve_right later
      have within : comment.span.Within head.span := by
        obtain ⟨enclosed, nested⟩ := (nested_parent _ _).mp whole.of_cons.1.nested
        obtain ⟨child, top, inside⟩ := nested.enclosing deeper
        exact inside.trans (enclosed child top)
      rw [keep, if_neg fun dropped => plain dropped.1, keep, if_neg fun dropped => plain dropped.1,
        keep_absent kept later, Node.keep, Node.keep]
      refine .inside head _ _ _ ?_ (within.includes filled)
        (below whole.of_cons.1.of_parent deeper)
      intro before
      exact filled (Nat.le_trans before within.1)

/-- The rest of the comments, in any order, completes a tree that holds some of them. -/
theorem insertAll_keep {forest : List Node} (whole : Restorable forest) {missing kept : List Node}
    (present : ∀ comment ∈ missing, comment ∈ subtrees forest ∧ comment.isComment = true)
    (distinct : missing.Nodup) (fresh : ∀ comment ∈ missing, comment ∉ kept)
    (all : ∀ node ∈ subtrees forest, node.isComment = true → node ∈ missing ∨ node ∈ kept) :
    insertAll (keep kept forest) missing = forest := by
  induction missing generalizing kept with
  | nil => exact keep_all (by simpa using all)
  | cons comment missing ih =>
    obtain ⟨⟨member, tagged⟩, present⟩ := List.forall_mem_cons.mp present
    obtain ⟨first, fresh⟩ := List.forall_mem_cons.mp fresh
    obtain ⟨once, distinct⟩ := List.nodup_cons.mp distinct
    have step := (inserts_iff _ _ _).mp (inserts_keep whole member tagged first)
    rw [insertAll_cons, step]
    apply ih present distinct
    · intro other missing
      rw [List.mem_cons, not_or]
      exact ⟨fun same => once (same ▸ missing), fresh other missing⟩
    · intro node inside comment
      simpa [or_assoc, or_comm, or_left_comm] using all node inside comment

theorem Restorable.comments_nodup {forest : List Node} (whole : Restorable forest) :
    ((subtrees forest).filter Node.isComment).Nodup := by
  induction forest using Forest.induct with
  | nil => simp
  | leaf head value rest ih =>
    have others := ih whole.of_cons.2
    rw [subtrees_leaf, List.filter_cons]
    split
    · next tagged =>
      refine List.nodup_cons.mpr ⟨fun again => ?_, others⟩
      have member := (List.mem_filter.mp again).1
      exact whole.absent tagged member (mem_subtrees List.mem_cons_self)
    · exact others
  | parent head children rest below ih =>
    have whole' := whole.of_cons.1.of_parent
    rw [subtrees_parent, List.filter_cons]
    have apart : List.Disjoint ((subtrees children).filter Node.isComment)
        ((subtrees rest).filter Node.isComment) := by
      intro comment first second
      obtain ⟨first, tagged⟩ := List.mem_filter.mp first
      obtain ⟨second, _⟩ := List.mem_filter.mp second
      exact whole.absent tagged second (by simp [first])
    split
    · next tagged =>
      have leaf := whole.leaves _ (mem_subtrees List.mem_cons_self) tagged
      simp [Node.isParent] at leaf
    · rw [List.filter_append]
      exact List.Nodup.append (below whole') (ih whole.of_cons.2) apart

end Forest

/-- Merging undoes stripping: where the comments of a valid and nested tree are leaves with text in
them that their tokens make, the tokens in any order lead from the stripped tree back to it. -/
theorem complete_restores_stripped (source : Source) (head : Head) (children : List Node)
    (tokens inOrder : List CommentToken)
    (valid : (Node.parent head children).validate = .ok ())
    (nested : Forest.Nested children)
    (filled : ∀ node ∈ Forest.subtrees children, node.isComment = true → ¬ node.span.Empty)
    (matched : List.Forall₂ (fun token node => token.toNode source = .ok node) inOrder
      ((Forest.subtrees children).filter Node.isComment))
    (permuted : tokens.Perm inOrder) :
    Request.complete ⟨source, (Node.parent head children).stripComments, some tokens⟩ =
      .ok (.parent head children) := by
  have shapes := comments_of_tokens matched
  have whole : Forest.Restorable children := by
    refine ⟨((Node.validate_parent _ _).mp valid).2, nested, ?_, filled⟩
    intro node member tagged
    exact (shapes node (List.mem_filter.mpr ⟨member, tagged⟩)).1
  obtain ⟨leaves, made, same⟩ := List.perm_comp_forall₂ permuted matched
  have mem_leaves (node : Node) :
      node ∈ leaves ↔ node ∈ Forest.subtrees children ∧ node.isComment = true := by
    rw [same.mem_iff, List.mem_filter]
  have restored : Forest.insertAll (Forest.stripComments children) leaves = children := by
    rw [← Forest.keep_none]
    apply Forest.insertAll_keep whole
    · exact fun comment member => (mem_leaves comment).mp member
    · exact same.nodup_iff.mpr whole.comments_nodup
    · simp
    · exact fun node member tagged => .inl ((mem_leaves node).mpr ⟨member, tagged⟩)
  refine (Request.complete_eq_ok _ _).mpr
    ⟨head, Forest.stripComments children, leaves, rfl, made, ?_, valid⟩
  rw [restored]

theorem complete_restores_specimen :
    Request.complete ⟨Specimen.source,
        (Node.parent Specimen.root
          (Specimen.children [Specimen.innerLeaf] [Specimen.outerLeaf])).stripComments,
        some [Specimen.outerToken, Specimen.innerToken]⟩ =
      .ok (.parent Specimen.root
        (Specimen.children [Specimen.innerLeaf] [Specimen.outerLeaf])) :=
  complete_restores_stripped Specimen.source Specimen.root _
    [Specimen.outerToken, Specimen.innerToken] [Specimen.innerToken, Specimen.outerToken] rfl
    (by decide) (by decide) (.cons rfl (.cons rfl .nil)) (.swap ..)

end LatexTree
