import LatexTree.Proofs.Validity

/-! Which comments a sound forest takes.

A span is clear in a forest if each node is a parent that includes it or lies apart from it. Of one
insertion into a nested forest the level-wise order of the result says exactly that the forest was
sound and the comment clear in it; a run of insertions asks besides that the comments lie apart from
each other. -/
namespace LatexTree.Forest

/-- Every node of the forest admits the span or lies apart from it. -/
def Clear (span : Span) (forest : List Node) : Prop :=
  ∀ node ∈ subtrees forest, node.Admits span ∨ span.Apart node.span

theorem clear_cons (span : Span) (node : Node) (rest : List Node) :
    Clear span (node :: rest) ↔ Clear span [node] ∧ Clear span rest :=
  forall_subtrees_cons _ node rest

theorem clear_leaf (span : Span) {node : Node} (leaf : node.isParent = false) :
    Clear span [node] ↔ span.Apart node.span := by
  rw [Clear, forall_subtrees_leaf _ leaf]
  simp [Node.Admits, leaf]

theorem clear_parent (span : Span) (head : Head) (children : List Node) :
    Clear span [.parent head children] ↔
      (head.span.Includes span ∨ span.Apart head.span) ∧ Clear span children := by
  rw [Clear, forall_subtrees_parent, Node.admits_parent]
  rfl

theorem clear_of_before {span : Span} {forest : List Node} (nested : Nested forest)
    (ahead : ∀ sibling ∈ forest, span.Before sibling.span) : Clear span forest :=
  fun node member => .inr (.inl (nested.before_all ahead node member))

namespace Inserts

variable {comment : Node} {forest settled : List Node}

theorem span_before (placed : Inserts comment forest settled) :
    ∀ node ∈ settled, node = comment ∨ ∃ old ∈ forest, node.span = old.span := by
  induction placed with
  | last => simp
  | before sibling rest _ =>
    intro node member
    rcases List.mem_cons.mp member with rfl | member
    · exact .inl rfl
    · exact .inr ⟨node, member, rfl⟩
  | inside head children settled rest _ _ _ _ =>
    intro node member
    rcases List.mem_cons.mp member with rfl | member
    · exact .inr ⟨_, List.mem_cons_self, rfl⟩
    · exact .inr ⟨node, List.mem_cons_of_mem _ member, rfl⟩
  | past sibling rest settled _ _ _ ih =>
    intro node member
    rcases List.mem_cons.mp member with rfl | member
    · exact .inr ⟨node, List.mem_cons_self, rfl⟩
    · rcases ih node member with same | ⟨old, former, same⟩
      · exact .inl same
      · exact .inr ⟨old, List.mem_cons_of_mem _ former, same⟩

theorem span_after (placed : Inserts comment forest settled) :
    ∀ old ∈ forest, ∃ node ∈ settled, node.span = old.span := by
  induction placed with
  | last => simp
  | before sibling rest _ => exact fun old member => ⟨old, List.mem_cons_of_mem _ member, rfl⟩
  | inside head children settled rest _ _ _ _ =>
    intro old member
    rcases List.mem_cons.mp member with rfl | member
    · exact ⟨_, List.mem_cons_self, rfl⟩
    · exact ⟨old, List.mem_cons_of_mem _ member, rfl⟩
  | past sibling rest settled _ _ _ ih =>
    intro old member
    rcases List.mem_cons.mp member with rfl | member
    · exact ⟨old, List.mem_cons_self, rfl⟩
    · obtain ⟨node, later, same⟩ := ih old member
      exact ⟨node, List.mem_cons_of_mem _ later, same⟩

theorem holder (placed : Inserts comment forest settled) :
    ∃ node ∈ settled, comment.span.Within node.span := by
  induction placed with
  | last => exact ⟨comment, List.mem_cons_self, .refl _⟩
  | before sibling rest _ => exact ⟨comment, List.mem_cons_self, .refl _⟩
  | inside head children settled rest _ includes _ _ =>
    exact ⟨_, List.mem_cons_self, includes.within⟩
  | past sibling rest settled _ _ _ ih =>
    obtain ⟨node, member, inside⟩ := ih
    exact ⟨node, List.mem_cons_of_mem _ member, inside⟩

theorem nested (placed : Inserts comment forest settled) (leaf : comment.isParent = false)
    (before : Nested forest) : Nested settled := by
  induction placed with
  | last => exact nested_leaf leaf
  | before sibling rest _ => exact (nested_cons _ _).mpr ⟨nested_leaf leaf, before⟩
  | inside head children settled rest _ includes placed ih =>
    obtain ⟨first, others⟩ := (nested_cons _ _).mp before
    obtain ⟨enclosed, deeper⟩ := (nested_parent _ _).mp first
    refine (nested_cons _ _).mpr ⟨(nested_parent _ _).mpr ⟨?_, ih deeper⟩, others⟩
    intro child member
    rcases placed.span_before child member with rfl | ⟨old, former, same⟩
    · exact includes.within
    · rw [same]
      exact enclosed old former
  | past sibling rest settled _ _ _ ih =>
    obtain ⟨first, others⟩ := (nested_cons _ _).mp before
    exact (nested_cons _ _).mpr ⟨first, ih others⟩

/-- For any other span the comment is one leaf more to be apart from. -/
theorem clear_iff (placed : Inserts comment forest settled) (leaf : comment.isParent = false)
    (span : Span) : Clear span settled ↔ span.Apart comment.span ∧ Clear span forest := by
  induction placed with
  | last =>
    rw [clear_leaf span leaf]
    simp [Clear]
  | before sibling rest _ => rw [clear_cons, clear_leaf span leaf]
  | inside head children settled rest _ _ _ ih =>
    rw [clear_cons, clear_parent, ih, clear_cons span (.parent head children), clear_parent,
      and_left_comm, and_assoc]
  | past sibling rest settled _ _ _ ih =>
    rw [clear_cons, ih, clear_cons span sibling rest, and_left_comm]

theorem sound (placed : Inserts comment forest settled) (leaf : comment.isParent = false)
    (upright : comment.Upright) (before : Sound forest) (clear : Clear comment.span forest) :
    Sound settled := by
  induction placed with
  | last => exact (sound_leaf leaf).mpr upright
  | before sibling rest ahead =>
    refine (sound_cons _ _).mpr ⟨?_, (sound_leaf leaf).mpr upright, before⟩
    intro later member
    rcases List.mem_cons.mp member with rfl | member
    · exact ahead
    · have forward := (before.upright sibling (mem_subtrees List.mem_cons_self)).1
      exact ahead.trans forward (((sound_cons _ _).mp before).1 later member)
  | inside head children settled rest _ _ _ ih =>
    obtain ⟨ahead, first, others⟩ := (sound_cons _ _).mp before
    obtain ⟨forward, deeper⟩ := (sound_parent _ _).mp first
    have below := ((clear_parent _ _ _).mp ((clear_cons _ _ _).mp clear).1).2
    exact (sound_cons _ _).mpr ⟨ahead, (sound_parent _ _).mpr ⟨forward, ih deeper below⟩, others⟩
  | past sibling rest settled behind closed placed ih =>
    obtain ⟨ahead, first, others⟩ := (sound_cons _ _).mp before
    obtain ⟨alone, free⟩ := (clear_cons _ _ _).mp clear
    -- The sibling neither admits the comment nor starts after it, so it ends before it.
    have passed : sibling.span.Before comment.span := by
      rcases alone sibling (mem_subtrees List.mem_cons_self) with admits | before | after
      · exact absurd admits closed
      · exact absurd before behind
      · exact after
    refine (sound_cons _ _).mpr ⟨?_, first, ih others free⟩
    intro later member
    rcases placed.span_before later member with rfl | ⟨old, former, same⟩
    · exact passed
    · rw [same]
      exact ahead old former

theorem mem_settled (placed : Inserts comment forest settled) : comment ∈ subtrees settled := by
  induction placed with
  | last => exact mem_subtrees List.mem_cons_self
  | before sibling rest _ => exact mem_subtrees List.mem_cons_self
  | inside head children settled rest _ _ _ ih => simp [ih]
  | past sibling rest settled _ _ _ ih =>
    rw [subtrees_cons]
    exact List.mem_append_right _ ih

/-- A forest that is not sound stays so: what an insertion puts between two siblings does not take
them apart. Nothing is assumed of the forest. -/
theorem sound_before (placed : Inserts comment forest settled) (after : Sound settled) :
    Sound forest := by
  induction placed with
  | last => exact ⟨.nil, by simp, by simp⟩
  | before sibling rest _ => exact ((sound_cons _ _).mp after).2.2
  | inside head children settled rest _ _ _ ih =>
    obtain ⟨ahead, first, others⟩ := (sound_cons _ _).mp after
    obtain ⟨forward, deeper⟩ := (sound_parent _ _).mp first
    exact (sound_cons _ _).mpr ⟨ahead, (sound_parent _ _).mpr ⟨forward, ih deeper⟩, others⟩
  | past sibling rest settled _ _ placed ih =>
    obtain ⟨ahead, first, others⟩ := (sound_cons _ _).mp after
    refine (sound_cons _ _).mpr ⟨?_, first, ih others⟩
    intro old former
    obtain ⟨node, later, same⟩ := placed.span_after old former
    rw [← same]
    exact ahead node later

theorem clear_of_sound (placed : Inserts comment forest settled) (nested : Nested forest)
    (after : Sound settled) : Clear comment.span forest := by
  induction placed with
  | last => simp [Clear]
  | before sibling rest _ => exact clear_of_before nested ((sound_cons _ _).mp after).1
  | inside head children settled rest _ includes _ ih =>
    obtain ⟨ahead, first, _⟩ := (sound_cons _ _).mp after
    obtain ⟨alone, nested⟩ := (nested_cons _ _).mp nested
    have free := ih ((nested_parent _ _).mp alone).2 ((sound_parent _ _).mp first).2
    refine (clear_cons _ _ _).mpr ⟨(clear_parent _ _ _).mpr ⟨.inl includes, free⟩, ?_⟩
    -- The later siblings start where the parent has ended, and the comment with it.
    exact clear_of_before nested fun later member =>
      (ahead later member).shrink includes.within (.refl _)
  | past sibling rest settled _ _ placed ih =>
    obtain ⟨ahead, _, others⟩ := (sound_cons _ _).mp after
    obtain ⟨alone, nested⟩ := (nested_cons _ _).mp nested
    -- The comment may stand at any depth to the right, but in a sibling that starts after this one.
    obtain ⟨holder, member, inside⟩ := placed.holder
    have passed : sibling.span.Before comment.span := (ahead holder member).shrink (.refl _) inside
    refine (clear_cons _ _ _).mpr ⟨?_, ih nested others⟩
    intro node member
    obtain ⟨top, single, within⟩ := alone.enclosing member
    obtain rfl := List.mem_singleton.mp single
    exact .inr (.inr (passed.shrink within (.refl _)))

theorem sound_iff (placed : Inserts comment forest settled) (leaf : comment.isParent = false)
    (nested : Nested forest) :
    Sound settled ↔ comment.Upright ∧ Sound forest ∧ Clear comment.span forest := by
  constructor
  · intro after
    exact ⟨after.upright comment placed.mem_settled, placed.sound_before after,
      placed.clear_of_sound nested after⟩
  · rintro ⟨upright, before, clear⟩
    exact placed.sound leaf upright before clear

end Inserts

theorem sound_of_insertAll {forest comments : List Node} (after : Sound (insertAll forest comments)) :
    Sound forest := by
  induction comments generalizing forest with
  | nil => exact after
  | cons comment rest ih => exact (inserts_insert comment forest).sound_before (ih after)

theorem insertAll_nested {forest comments : List Node} (nested : Nested forest)
    (leaves : ∀ comment ∈ comments, comment.isParent = false) :
    Nested (insertAll forest comments) := by
  induction comments generalizing forest with
  | nil => exact nested
  | cons comment rest ih =>
    rw [List.forall_mem_cons] at leaves
    exact ih ((inserts_insert comment forest).nested leaves.1 nested) leaves.2

/-- A run of insertions into a nested forest ends sound exactly if the forest is sound, every comment
is upright and clear in the forest as it was at first, and the comments lie apart. -/
theorem insertAll_sound_iff {forest comments : List Node} (nested : Nested forest)
    (leaves : ∀ comment ∈ comments, comment.isParent = false) :
    Sound (insertAll forest comments) ↔
      Sound forest ∧ (∀ comment ∈ comments, comment.Upright ∧ Clear comment.span forest) ∧
        comments.Pairwise fun first second => first.span.Apart second.span := by
  induction comments generalizing forest with
  | nil => simp
  | cons comment rest ih =>
    rw [List.forall_mem_cons] at leaves
    have placed := inserts_insert comment forest
    rw [insertAll_cons, ih (placed.nested leaves.1 nested) leaves.2,
      placed.sound_iff leaves.1 nested, List.forall_mem_cons, List.pairwise_cons]
    have later (other : Node) : Clear other.span (insert forest comment) ↔
        comment.span.Apart other.span ∧ Clear other.span forest := by
      rw [placed.clear_iff leaves.1 other.span]
      exact and_congr_left fun _ => ⟨.symm, .symm⟩
    simp only [later]
    constructor
    · rintro ⟨⟨upright, sound, clear⟩, others, apart⟩
      exact ⟨sound, ⟨⟨upright, clear⟩, fun other member =>
        ⟨(others other member).1, (others other member).2.2⟩⟩,
        fun other member => (others other member).2.1, apart⟩
    · rintro ⟨sound, ⟨⟨upright, clear⟩, others⟩, first, apart⟩
      exact ⟨⟨upright, sound, clear⟩, fun other member =>
        ⟨(others other member).1, first other member, (others other member).2⟩, apart⟩

end LatexTree.Forest
