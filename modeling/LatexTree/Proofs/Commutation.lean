import LatexTree.Proofs.Clearance
import LatexTree.Proofs.Completion
import Mathlib.Data.List.Perm.Basic

/-! The order of the tokens does not matter.

Two insertions may change places where their outcome is sound. On the way the other order may pass
through a forest that this one never meets, but soundness of the outcome tells how the two comments lie
to each other and to every sibling they pass. Only where two comments are empty at one offset does the
later one go before the earlier, whichever that is. -/
namespace LatexTree

namespace Forest

section

variable {first second : Node} (leaf : second.isParent = false)
  (upright : ¬ first.span.Inverted) (upright' : ¬ second.span.Inverted)
  (same : first.span.Ties second.span → first = second)

include leaf upright upright' same

/-- A comment passes one that ends before it, or is that comment over again. -/
private theorem inserts_after_earlier {rest : List Node} (before : second.span.Before first.span)
    (placed : Inserts first rest (first :: rest)) :
    Inserts first (second :: rest) (second :: first :: rest) := by
  by_cases tied : first.span.Before second.span
  · obtain rfl := same (tied.ties before upright upright')
    exact .before first rest tied
  · exact .past second rest _ tied (Node.not_admits_of_leaf leaf _) placed

/-- Two insertions with a sound outcome have the same outcome the other way round. -/
theorem Inserts.exchange {forest middle settled : List Node} (firstLeaf : first.isParent = false)
    (one : Inserts first forest middle) (other : Inserts second middle settled)
    (sound : Sound settled) :
    ∃ swapped, Inserts second forest swapped ∧ Inserts first swapped settled := by
  induction one generalizing settled with
  | last =>
    cases other with
    | before _ _ ahead =>
      exact ⟨_, .last, inserts_after_earlier leaf upright upright' same ahead .last⟩
    | inside => simp [Node.isParent] at firstLeaf
    | past _ _ _ behind closed placed =>
      cases placed
      have ahead := ((sound_cons _ _).mp sound).1 second List.mem_cons_self
      exact ⟨_, .last, .before _ _ ahead⟩
  | before sibling rest ahead =>
    cases other with
    | before _ _ ahead' =>
      exact ⟨_, .before sibling rest (ahead'.trans upright ahead),
        inserts_after_earlier leaf upright upright' same ahead' (.before sibling rest ahead)⟩
    | inside => simp [Node.isParent] at firstLeaf
    | past _ _ settled behind closed placed =>
      exact ⟨settled, placed, inserts_front ((sound_cons _ _).mp sound).1⟩
  | inside head children inner rest behind includes placed ih =>
    cases other with
    | before _ _ ahead =>
      refine ⟨_, .before _ rest ahead, .past _ _ _ ?_ (Node.not_admits_of_leaf leaf _)
        (.inside head children inner rest behind includes placed)⟩
      -- The first comment is inside a parent that starts after the second.
      intro tied
      exact behind (tied.trans upright' ahead)
    | inside _ _ both _ behind' includes' placed' =>
      have deeper := ((sound_parent _ _).mp ((sound_cons _ _).mp sound).2.1).2
      obtain ⟨swapped, single, both⟩ := ih placed' deeper
      exact ⟨_, .inside head children swapped rest behind' includes' single,
        .inside head swapped _ rest behind includes both⟩
    | past _ _ later behind' closed placed' =>
      exact ⟨_, .past (.parent head children) rest later behind' (by simpa using closed) placed',
        .inside head children inner later behind includes placed⟩
  | past sibling rest later behind closed placed ih =>
    cases other with
    | before _ _ ahead =>
      refine ⟨_, .before sibling rest ahead, .past _ _ _ ?_ (Node.not_admits_of_leaf leaf _)
        (.past sibling rest later behind closed placed)⟩
      -- Were the first comment before the second, the two would tie and be one.
      intro tied
      obtain ⟨holder, member, inside⟩ := placed.holder
      have after : second.span.Before first.span :=
        (((sound_cons _ _).mp sound).1 holder (List.mem_cons_of_mem _ member)).shrink (.refl _) inside
      obtain rfl := same (tied.ties after upright upright')
      exact behind ahead
    | inside head children inner _ behind' includes' placed' =>
      exact ⟨_, .inside head children inner rest behind' includes' placed',
        .past (.parent head inner) rest later behind (by simpa using closed) placed⟩
    | past _ _ both behind' closed' placed' =>
      obtain ⟨swapped, single, both⟩ := ih placed' ((sound_cons _ _).mp sound).2.2
      exact ⟨_, .past sibling rest swapped behind' closed' single,
        .past sibling swapped _ behind closed both⟩

end

theorem insert_comm {forest : List Node} {first second : Node} (leaf : first.isParent = false)
    (leaf' : second.isParent = false) (same : first.span.Ties second.span → first = second)
    (sound : Sound (insert (insert forest first) second)) :
    insert (insert forest second) first = insert (insert forest first) second := by
  have one := inserts_insert first forest
  have other := inserts_insert second (insert forest first)
  have upright := (other.sound_before sound).upright first one.mem_settled
  have upright' := sound.upright second other.mem_settled
  obtain ⟨swapped, single, both⟩ :=
    one.exchange leaf' upright.1 upright'.1 same leaf other sound
  rw [(inserts_iff _ _ _).mp single, (inserts_iff _ _ _).mp both]

/-- A run of insertions with a sound outcome has that outcome in every order. -/
theorem insertAll_perm {forest comments permuted : List Node} (perm : comments.Perm permuted)
    (leaves : ∀ comment ∈ comments, comment.isParent = false)
    (same : ∀ first ∈ comments, ∀ second ∈ comments, first.span.Ties second.span → first = second)
    (sound : Sound (insertAll forest comments)) :
    insertAll forest permuted = insertAll forest comments := by
  induction perm generalizing forest with
  | nil => rfl
  | cons comment _ ih =>
    apply ih _ _ sound
    · exact (List.forall_mem_cons.mp leaves).2
    · intro first member second member'
      exact same first (List.mem_cons_of_mem _ member) second (List.mem_cons_of_mem _ member')
  | swap second first rest =>
    simp only [insertAll_cons] at sound ⊢
    rw [insert_comm (leaves first (by simp)) (leaves second (by simp))
      (same first (by simp) second (by simp)) (sound_of_insertAll sound)]
  | trans early late ih ih' =>
    have half := ih leaves same sound
    rw [← half] at sound ⊢
    apply ih' _ _ sound
    · intro comment member
      exact leaves comment (early.mem_iff.mpr member)
    · intro first member second member'
      exact same first (early.mem_iff.mpr member) second (early.mem_iff.mpr member')

end Forest

/-- Of tokens that tie only if they are equal, the leaves tie only if they are equal. -/
theorem leaves_tie {source : Source} {tokens : List CommentToken} {leaves : List Node}
    (made : List.Forall₂ (fun token leaf => token.toNode source = .ok leaf) tokens leaves)
    (distinct : ∀ first ∈ tokens, ∀ second ∈ tokens, first.span.Ties second.span → first = second) :
    ∀ first ∈ leaves, ∀ second ∈ leaves, first.span.Ties second.span → first = second := by
  intro first member second member' tied
  obtain ⟨token, inside, single⟩ := token_of_leaf made member
  obtain ⟨token', inside', single'⟩ := token_of_leaf made member'
  obtain ⟨_, raw, rfl⟩ := CommentToken.toNode_eq_ok single
  obtain ⟨_, raw', rfl⟩ := CommentToken.toNode_eq_ok single'
  obtain rfl := distinct token inside token' inside' tied
  exact Except.ok.inj (single.symm.trans single')

private theorem complete_of_perm {source : Source} {root merged : Node}
    {tokens permuted : List CommentToken} (perm : tokens.Perm permuted)
    (distinct : ∀ first ∈ tokens, ∀ second ∈ tokens, first.span.Ties second.span → first = second)
    (completed : Request.complete ⟨source, root, some tokens⟩ = .ok merged) :
    Request.complete ⟨source, root, some permuted⟩ = .ok merged := by
  obtain ⟨head, children, leaves, shape, made, rfl, passed⟩ :=
    (Request.complete_eq_ok _ _).mp completed
  obtain ⟨others, made', same⟩ := List.perm_comp_forall₂ perm.symm made
  have sound := ((Node.validate_parent _ _).mp passed).2
  have equal : Forest.insertAll children others = Forest.insertAll children leaves :=
    Forest.insertAll_perm same.symm (fun leaf member => (comments_of_tokens made leaf member).1)
      (leaves_tie made distinct) sound
  exact (Request.complete_eq_ok _ _).mpr
    ⟨head, children, others, shape, made', by rw [equal], passed⟩

/-- The order of the tokens does not matter, unless two different ones are empty at the same offset:
one order leads to a tree exactly if the other leads to that tree too. Nothing is assumed of the root,
nor that the tokens lie apart. -/
theorem complete_perm (source : Source) (root merged : Node) (tokens permuted : List CommentToken)
    (perm : tokens.Perm permuted)
    (distinct : ∀ first ∈ tokens, ∀ second ∈ tokens, first.span.Ties second.span → first = second) :
    Request.complete ⟨source, root, some tokens⟩ = .ok merged ↔
      Request.complete ⟨source, root, some permuted⟩ = .ok merged := by
  constructor
  · exact complete_of_perm perm distinct
  · apply complete_of_perm perm.symm
    intro first member second member'
    exact distinct first (perm.mem_iff.mpr member) second (perm.mem_iff.mpr member')

/-- The empty token stands in the list twice. -/
theorem complete_perm_specimen :
    Request.complete ⟨Specimen.source, .parent Specimen.root (Specimen.children [] []),
        some [Specimen.emptyToken, Specimen.innerToken, Specimen.outerToken, Specimen.emptyToken]⟩ =
      .ok (.parent Specimen.root (Specimen.children [Specimen.innerLeaf]
        [Specimen.emptyLeaf, Specimen.emptyLeaf, Specimen.outerLeaf])) := by
  apply (complete_perm Specimen.source _ _ [Specimen.outerToken, Specimen.emptyToken,
    Specimen.emptyToken, Specimen.innerToken] _ ?_ (by decide)).mp
  · rfl
  · decide

end LatexTree
