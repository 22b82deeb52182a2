import LatexTree.Proofs.Ancestry
import LatexTree.Proofs.Commutation
import LatexTree.Proofs.Conservation

/-! The inserted leaves of a merged tree in the order of their tokens.

A traversal of a valid and nested tree meets its leaves in the order of the text, and that is the
order of tokens in source order. It leaves open which of two comments comes first that are empty at the
same offset. There the rule of placement decides: a comment goes before a sibling that starts where it
ends, so the later token's leaf stands before the earlier one's. -/
namespace LatexTree

namespace Forest

theorem events_singleton (depth : Nat) (node : Node) : events depth [node] = node.events depth :=
  List.append_nil _

theorem leaves_of_parent (depth : Nat) (head : Head) (children rest : List Node) :
    (events depth (.parent head children :: rest)).filterMap Event.leaf? =
      (events (depth + 1) children).filterMap Event.leaf? ++
        (events depth rest).filterMap Event.leaf? := by
  rw [events_parent, List.filterMap_cons_none rfl, List.filterMap_append,
    List.filterMap_cons_none rfl]

theorem leaves_of_events (depth : Nat) (forest : List Node) :
    (events depth forest).filterMap Event.leaf? =
      (subtrees forest).filter fun node => !node.isParent := by
  induction forest using Forest.induct generalizing depth with
  | nil => rfl
  | leaf head value rest ih =>
    rw [subtrees_leaf, List.filter_cons_of_pos rfl, ← ih depth]
    rfl
  | parent head children rest below ih =>
    rw [leaves_of_parent, subtrees_parent, List.filter_cons_of_neg (by simp [Node.isParent]),
      List.filter_append, below, ih]

theorem leaves_ordered {forest : List Node} (sound : Sound forest) (nested : Nested forest) :
    Ordered ((subtrees forest).filter fun node => !node.isParent) := by
  induction forest using Forest.induct with
  | nil => exact .nil
  | leaf head value rest ih =>
    have others := ih ((sound_cons _ _).mp sound).2.2 ((nested_cons _ _).mp nested).2
    rw [subtrees_leaf, List.filter_cons_of_pos rfl]
    refine (ordered_cons _ _).mpr ⟨?_, others⟩
    intro later member
    exact sound.across nested (by simp) (List.mem_of_mem_filter member)
  | parent head children rest below ih =>
    obtain ⟨_, alone, others⟩ := (sound_cons _ _).mp sound
    obtain ⟨alone', others'⟩ := (nested_cons _ _).mp nested
    rw [subtrees_parent, List.filter_cons_of_neg (by simp [Node.isParent]), List.filter_append]
    refine List.pairwise_append.mpr ⟨below ((sound_parent _ _).mp alone).2
      ((nested_parent _ _).mp alone').2, ih others others', ?_⟩
    intro part early other late
    exact sound.across nested (by simp [List.mem_of_mem_filter early]) (List.mem_of_mem_filter late)

end Forest

namespace Trace

/-- A traversal of the forest after the run meets the inserted leaves in the order in which they are
listed, others between them. -/
theorem additions_met (depth : Nat) {trace : List Traced}
    (leaves : ∀ entry ∈ additions trace, entry.1.isParent = false) :
    ((additions trace).map Prod.fst).Sublist
      ((Forest.events depth (after trace)).filterMap Event.leaf?) := by
  induction trace using Trace.induct generalizing depth with
  | nil => exact .refl _
  | leaf head value rest ih => exact (ih depth leaves).cons _
  | added rank comment rest ih =>
    obtain ⟨leaf, others⟩ := List.forall_mem_cons.mp leaves
    cases comment with
    | parent head children => simp [Node.isParent] at leaf
    | leaf head value => exact (ih depth others).cons_cons _
  | parent head children rest below ih =>
    obtain ⟨inner, outer⟩ := List.forall_mem_append.mp leaves
    rw [after, Traced.after, Forest.leaves_of_parent, additions, Traced.additions, List.map_append]
    exact (below (depth + 1) inner).append (ih depth outer)

theorem additions_ordered {trace : List Traced}
    (leaves : ∀ entry ∈ additions trace, entry.1.isParent = false)
    (sound : Forest.Sound (after trace)) (nested : Forest.Nested (after trace)) :
    Forest.Ordered ((additions trace).map Prod.fst) := by
  have met := additions_met 0 leaves
  rw [Forest.leaves_of_events] at met
  exact (Forest.leaves_ordered sound nested).sublist met

theorem additions_run_leaves (forest : List Node) {comments : List Node}
    (leaves : ∀ comment ∈ comments, comment.isParent = false) :
    ∀ entry ∈ additions (run forest comments), entry.1.isParent = false := by
  intro entry member
  have listed := (additions_run forest comments).mem_iff.mp member
  exact leaves entry.1 (List.fst_mem_of_mem_zipIdx listed)

/-- The new leaf comes before all that it ties with. -/
theorem additions_insert_split (rank : Nat) (comment : Node) {trace : List Traced}
    (enclosed : Enclosed trace) :
    ∃ front back, additions trace = front ++ back ∧
      additions (insert rank comment trace) = front ++ (comment, rank) :: back ∧
      ∀ entry ∈ front, ¬ entry.1.span.Ties comment.span := by
  fun_induction insert rank comment trace with
  | case1 => exact ⟨[], [], rfl, rfl, by simp⟩
  | case2 head children rest ahead => exact ⟨[], _, rfl, rfl, by simp⟩
  | case3 head children rest behind includes ih =>
    obtain ⟨front, back, old, new, free⟩ := ih enclosed.1.2
    refine ⟨front, back ++ additions rest, ?_, ?_, free⟩
    · simp [additions, Traced.additions, old]
    · simp [additions, Traced.additions, new]
  | case4 head children rest behind excludes ih =>
    obtain ⟨front, back, old, new, free⟩ := ih enclosed.2
    refine ⟨additions children ++ front, back, ?_, ?_, ?_⟩
    · simp [additions, Traced.additions, old]
    · simp [additions, Traced.additions, new]
    · rw [List.forall_mem_append]
      refine ⟨?_, free⟩
      -- The parent includes the leaves below it, and would take in a comment that ties with one.
      rintro entry member ⟨same, _⟩
      exact excludes (same ▸ enclosed.1.1 entry member)
  | case5 node rest single ahead => exact ⟨[], _, rfl, rfl, by simp⟩
  | case6 node rest single behind ih =>
    obtain ⟨front, back, old, new, free⟩ := ih enclosed.2
    refine ⟨node.additions ++ front, back, ?_, ?_, ?_⟩
    · simp [additions, old]
    · simp [additions, new]
    · rw [List.forall_mem_append]
      refine ⟨?_, free⟩
      cases node with
      | parent head children => exact absurd rfl (single head children)
      | leaf head value => simp [Traced.additions]
      | added other leaf =>
        rintro entry member ⟨same, empty⟩
        obtain rfl := List.mem_singleton.mp member
        apply behind
        rw [Span.Before, Traced.span, ← same]
        exact Nat.le_of_eq empty.symm

/-- Of leaves that tie, those of later comments come first. -/
def LatestFirst (entries : List (Node × Nat)) : Prop :=
  entries.Pairwise fun first second => first.1.span.Ties second.1.span → second.2 < first.2

theorem latestFirst_insert {rank : Nat} (comment : Node) {trace : List Traced}
    (enclosed : Enclosed trace) (earlier : ∀ entry ∈ additions trace, entry.2 < rank)
    (latest : LatestFirst (additions trace)) :
    LatestFirst (additions (insert rank comment trace)) := by
  obtain ⟨front, back, old, new, free⟩ := additions_insert_split rank comment enclosed
  rw [old] at earlier latest
  obtain ⟨ahead, behind, across⟩ := List.pairwise_append.mp latest
  rw [new]
  refine List.pairwise_append.mpr ⟨ahead, List.pairwise_cons.mpr ⟨?_, behind⟩, ?_⟩
  · intro entry member _
    exact earlier entry (List.mem_append_right _ member)
  · intro entry member other inside
    rcases List.mem_cons.mp inside with rfl | inside
    · exact fun tied => absurd tied (free entry member)
    · exact across entry member other inside

theorem latestFirst_insertAll {trace : List Traced} {rank : Nat} {comments : List Node}
    (enclosed : Enclosed trace) (earlier : ∀ entry ∈ additions trace, entry.2 < rank)
    (latest : LatestFirst (additions trace)) :
    LatestFirst (additions (insertAll trace rank comments)) := by
  induction comments generalizing trace rank with
  | nil => exact latest
  | cons comment rest ih =>
    apply ih (enclosed_insert rank comment enclosed)
    · intro entry member
      rcases List.mem_cons.mp ((additions_insert rank comment trace).mem_iff.mp member) with
        rfl | member
      · exact Nat.lt_succ_self rank
      · exact Nat.lt_succ_of_lt (earlier entry member)
    · exact latestFirst_insert comment enclosed earlier latest

theorem latestFirst_run (forest comments : List Node) :
    LatestFirst (additions (run forest comments)) := by
  apply latestFirst_insertAll (enclosed_of forest)
  · simp [additions_of]
  · rw [additions_of]
    exact .nil

/-- Two entries in the order of the text have their ranks in it too, unless they tie. -/
theorem rank_lt_of_before {leaves : List Node} (ordered : Forest.Ordered leaves)
    (upright : ∀ leaf ∈ leaves, ¬ leaf.span.Inverted) {first second : Node × Nat}
    (member : first ∈ leaves.zipIdx) (member' : second ∈ leaves.zipIdx)
    (before : first.1.span.Before second.1.span) (free : ¬ first.1.span.Ties second.1.span) :
    first.2 < second.2 := by
  have leaf := List.fst_mem_of_mem_zipIdx member
  have leaf' := List.fst_mem_of_mem_zipIdx member'
  by_contra late
  apply free
  apply before.ties _ (upright _ leaf) (upright _ leaf')
  rw [List.mem_zipIdx_iff_getElem?] at member member'
  obtain ⟨bound, same⟩ := List.getElem?_eq_some_iff.mp member
  obtain ⟨bound', same'⟩ := List.getElem?_eq_some_iff.mp member'
  rcases Nat.lt_or_eq_of_le (Nat.le_of_not_lt late) with less | equal
  · rw [← same, ← same']
    exact List.pairwise_iff_getElem.mp ordered _ _ bound' bound less
  · rw [equal, member] at member'
    have same := Option.some.inj member'
    rwa [same] at before ⊢

section

variable {forest comments : List Node} (ordered : Forest.Ordered comments)
  (leaves : ∀ comment ∈ comments, comment.isParent = false)
  (upright : ∀ comment ∈ comments, ¬ comment.span.Inverted)
  (sound : Forest.Sound (after (run forest comments)))
  (nested : Forest.Nested (after (run forest comments)))

include ordered leaves upright sound nested

/-- A traversal meets the comments of an ordered list in the order of the list, and those that tie in
the reverse of it. -/
theorem additions_run_ranked :
    (additions (run forest comments)).Pairwise fun first second =>
      if first.1.span.Ties second.1.span then second.2 < first.2 else first.2 < second.2 := by
  have read := additions_ordered (additions_run_leaves forest leaves) sound nested
  rw [Forest.Ordered, List.pairwise_map] at read
  have added := additions_run forest comments
  refine (read.and (latestFirst_run forest comments)).imp_of_mem ?_
  rintro first second member member' ⟨before, latest⟩
  split
  · next tied => exact latest tied
  · next free =>
    exact rank_lt_of_before ordered upright (added.mem_iff.mp member) (added.mem_iff.mp member')
      before free

theorem additions_run_listed
    (same : ∀ first ∈ comments, ∀ second ∈ comments, first.span.Ties second.span → first = second) :
    (additions (run forest comments)).map Prod.fst = comments := by
  have read := additions_ordered (additions_run_leaves forest leaves) sound nested
  have listed : ((additions (run forest comments)).map Prod.fst).Perm comments := by
    simpa using (additions_run forest comments).map Prod.fst
  apply List.Perm.eq_of_pairwise _ read ordered listed
  intro first second member member' before after
  have inside := listed.mem_iff.mp member
  exact same first inside second member'
    (before.ties after (upright first inside) (upright second member'))

end

end Trace

/-- The inserted leaves in source order. Where the given tree is nested below its root and each token
ends no later than the next one starts, a traversal of the merged tree meets the leaves of the tokens in
the order of their list, but for those that are empty at one offset: of these it meets the last first.
So if no two different tokens are empty at one offset, it meets the leaves just as the tokens make
them. -/
theorem complete_reads_in_source_order (request : Request) (head : Head) (children : List Node)
    (merged : Node) (shape : request.root = .parent head children) (nested : Forest.Nested children)
    (sorted : request.tokens.IsChain fun first second => first.span.Before second.span)
    (completed : request.complete = .ok merged) :
    ∃ leaves, commentLeaves request.source request.tokens = .ok leaves ∧
      Trace.before (Trace.run children leaves) = children ∧
      merged = .parent head (Trace.after (Trace.run children leaves)) ∧
      (Trace.additions (Trace.run children leaves)).Perm leaves.zipIdx ∧
      ((Trace.additions (Trace.run children leaves)).map Prod.fst).Sublist
        ((merged.events 0).filterMap Event.leaf?) ∧
      (Trace.additions (Trace.run children leaves)).Pairwise (fun first second =>
        if first.1.span.Ties second.1.span then second.2 < first.2 else first.2 < second.2) ∧
      ((∀ first ∈ request.tokens, ∀ second ∈ request.tokens,
          first.span.Ties second.span → first = second) →
        (Trace.additions (Trace.run children leaves)).map Prod.fst = leaves) := by
  obtain ⟨_, _, leaves, same, made, rfl, passed⟩ := (request.complete_eq_ok merged).mp completed
  obtain ⟨rfl, rfl⟩ := Node.parent.inj (shape.symm.trans same)
  have plain : ∀ leaf ∈ leaves, leaf.isParent = false :=
    fun leaf member => (comments_of_tokens made leaf member).1
  have after := Trace.after_run children leaves plain
  have upright := upright_of_tokens made
  have ordered := ordered_of_tokens made sorted
  have sound := ((Node.validate_parent _ _).mp passed).2
  have settled := Forest.insertAll_nested nested plain
  rw [← after] at sound settled ⊢
  refine ⟨leaves, (commentLeaves_eq_ok _ _ _).mpr made, Trace.before_run children leaves, rfl,
    Trace.additions_run children leaves, ?_,
    Trace.additions_run_ranked ordered plain upright sound settled, ?_⟩
  · have met := Trace.additions_met 1 (Trace.additions_run_leaves children plain)
    rw [← Forest.events_singleton, Forest.leaves_of_parent]
    simpa [Forest.events] using met
  · intro distinct
    exact Trace.additions_run_listed ordered plain upright sound settled (leaves_tie made distinct)

theorem complete_reads_specimen :
    Forest.Nested (Specimen.children [] []) ∧
      (Trace.additions (Trace.run (Specimen.children [] [])
        [Specimen.innerLeaf, Specimen.emptyLeaf, Specimen.outerLeaf])).map Prod.fst =
          [Specimen.innerLeaf, Specimen.emptyLeaf, Specimen.outerLeaf] := by
  have nested : Forest.Nested (Specimen.children [] []) := by decide
  obtain ⟨leaves, made, -, -, -, -, -, listed⟩ := complete_reads_in_source_order
    (Specimen.request [Specimen.innerToken, Specimen.emptyToken, Specimen.outerToken])
    Specimen.root _ _ rfl nested (by decide) rfl
  obtain rfl : [Specimen.innerLeaf, Specimen.emptyLeaf, Specimen.outerLeaf] = leaves :=
    Except.ok.inj made
  exact ⟨nested, listed (by decide)⟩

namespace Specimen

/-- A second token without text where the parents end. -/
def laterToken : CommentToken := ⟨.comment, "E", ⟨⟨5, 2, 2⟩, ⟨5, 2, 2⟩⟩⟩

def laterLeaf : Node := .leaf (head Tag.comment "" 5 5) "E"

end Specimen

/-- Tokens in source order that are empty at one offset are read backwards. -/
theorem empty_tokens_read_backwards :
    Forest.Nested (Specimen.children [] []) ∧
      ([Specimen.emptyToken, Specimen.laterToken].IsChain fun first second =>
        first.span.Before second.span) ∧
      commentLeaves Specimen.source [Specimen.emptyToken, Specimen.laterToken] =
        .ok [Specimen.emptyLeaf, Specimen.laterLeaf] ∧
      (Specimen.request [Specimen.emptyToken, Specimen.laterToken]).complete =
        .ok (.parent Specimen.root
          (Specimen.children [] [Specimen.laterLeaf, Specimen.emptyLeaf])) ∧
      (Trace.additions (Trace.run (Specimen.children [] [])
        [Specimen.emptyLeaf, Specimen.laterLeaf])).map Prod.fst ≠
          [Specimen.emptyLeaf, Specimen.laterLeaf] := by
  refine ⟨by decide, by decide, rfl, rfl, ?_⟩
  intro listed
  have plain : ∀ leaf ∈ [Specimen.emptyLeaf, Specimen.laterLeaf], leaf.isParent = false := by decide
  have met := Trace.additions_met 0 (Trace.additions_run_leaves (Specimen.children [] []) plain)
  rw [listed, Trace.after_run _ _ plain] at met
  exact absurd met (by decide)

end LatexTree
