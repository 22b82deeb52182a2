import LatexTree.Proofs.Clearance
import LatexTree.Proofs.Completion
import LatexTree.Proofs.Provenance
import Mathlib.Data.List.Pairwise

/-! Where the inserted leaves of a merged tree stand.

The parents above an inserted leaf all include it: an insertion goes down through such parents only,
and later insertions keep their spans. That no other parent includes it follows from validation, which
orders the siblings of every level. -/
namespace LatexTree

namespace Trace

/-- The node stands in the trace below the parents of the trail, outermost first, among the siblings
of the level. -/
inductive At (node : Traced) : (trace trail level : List Traced) → Prop
  | here (trace : List Traced) (member : node ∈ trace) : At node trace [] trace
  | under (head : Head) (children trace trail level : List Traced)
      (member : .parent head children ∈ trace) (inside : At node children trail level) :
      At node trace (.parent head children :: trail) level

end Trace

mutual

/-- Every parent in the trace includes the leaves inserted below it. -/
def Traced.Enclosed : Traced → Prop
  | .parent head children =>
    (∀ entry ∈ Trace.additions children, head.span.Includes entry.1.span) ∧ Trace.Enclosed children
  | _ => True

def Trace.Enclosed : List Traced → Prop
  | [] => True
  | node :: rest => node.Enclosed ∧ Trace.Enclosed rest

end

namespace Trace

theorem mem_additions {trace : List Traced} {node : Traced} (member : node ∈ trace)
    {entry : Node × Nat} (added : entry ∈ node.additions) : entry ∈ additions trace := by
  induction trace with
  | nil => simp at member
  | cons first rest ih =>
    rcases List.mem_cons.mp member with rfl | member
    · exact List.mem_append_left _ added
    · exact List.mem_append_right _ (ih member)

theorem Enclosed.of_mem {trace : List Traced} (enclosed : Enclosed trace) {node : Traced}
    (member : node ∈ trace) : node.Enclosed := by
  induction trace with
  | nil => simp at member
  | cons first rest ih =>
    rcases List.mem_cons.mp member with rfl | member
    · exact enclosed.1
    · exact ih enclosed.2 member

theorem enclosed_of (forest : List Node) : Enclosed (of forest) := by
  induction forest using Forest.induct with
  | nil => trivial
  | leaf head value rest ih => exact ⟨trivial, ih⟩
  | parent head children rest below ih => exact ⟨⟨by simp [additions_of], below⟩, ih⟩

theorem enclosed_insert (rank : Nat) (comment : Node) {trace : List Traced}
    (enclosed : Enclosed trace) : Enclosed (insert rank comment trace) := by
  fun_induction insert rank comment trace with
  | case1 => exact ⟨trivial, trivial⟩
  | case2 head children rest ahead => exact ⟨trivial, enclosed⟩
  | case3 head children rest behind includes ih =>
    obtain ⟨⟨around, below⟩, others⟩ := enclosed
    refine ⟨⟨?_, ih below⟩, others⟩
    intro entry member
    rcases List.mem_cons.mp ((additions_insert rank comment children).mem_iff.mp member) with
      rfl | member
    · exact includes
    · exact around entry member
  | case4 head children rest behind excludes ih => exact ⟨enclosed.1, ih enclosed.2⟩
  | case5 node rest single ahead => exact ⟨trivial, enclosed⟩
  | case6 node rest single behind ih => exact ⟨enclosed.1, ih enclosed.2⟩

theorem enclosed_insertAll {trace : List Traced} (enclosed : Enclosed trace) (rank : Nat)
    (comments : List Node) : Enclosed (insertAll trace rank comments) := by
  induction comments generalizing trace rank with
  | nil => exact enclosed
  | cons comment rest ih => exact ih (enclosed_insert rank comment enclosed) (rank + 1)

theorem At.cons {node : Traced} {rest trail level : List Traced} (stands : At node rest trail level)
    (first : Traced) : ∃ level, At node (first :: rest) trail level := by
  cases stands with
  | here _ member => exact ⟨_, .here _ (List.mem_cons_of_mem _ member)⟩
  | under head children _ trail level member inside =>
    exact ⟨level, .under head children _ trail level (List.mem_cons_of_mem _ member) inside⟩

theorem exists_at_iff (rank : Nat) (comment : Node) (trace : List Traced) :
    (comment, rank) ∈ additions trace ↔
      ∃ trail level, At (.added rank comment) trace trail level := by
  constructor
  · intro added
    induction trace using Trace.induct with
    | nil => simp [additions] at added
    | leaf head value rest ih =>
      obtain ⟨trail, level, stands⟩ := ih added
      exact ⟨trail, stands.cons _⟩
    | added other leaf rest ih =>
      rcases List.mem_cons.mp added with same | added
      · obtain ⟨rfl, rfl⟩ := Prod.mk.inj same
        exact ⟨[], _, .here _ List.mem_cons_self⟩
      · obtain ⟨trail, level, stands⟩ := ih added
        exact ⟨trail, stands.cons _⟩
    | parent head children rest below ih =>
      rcases List.mem_append.mp added with added | added
      · obtain ⟨trail, level, inside⟩ := below added
        exact ⟨_, level, .under head children _ trail level List.mem_cons_self inside⟩
      · obtain ⟨trail, level, stands⟩ := ih added
        exact ⟨trail, stands.cons _⟩
  · rintro ⟨trail, level, stands⟩
    induction stands with
    | here trace member => exact mem_additions member (by simp [Traced.additions])
    | under head children trace trail level member _ ih => exact mem_additions member ih

section

variable {node : Traced} {rank : Nat} {comment : Node} {trace trail level : List Traced}

theorem At.level_eq (stands : At node trace trail level) :
    level = (trail.getLast?.map Traced.children).getD trace := by
  induction stands with
  | here trace member => rfl
  | under head children trace trail level member inside ih =>
    rw [ih, List.getLast?_cons]
    cases trail.getLast? <;> rfl

theorem At.includes (stands : At (.added rank comment) trace trail level)
    (enclosed : Enclosed trace) : ∀ outer ∈ trail, outer.span.Includes comment.span := by
  induction stands with
  | here trace member => simp
  | under head children trace trail level member inside ih =>
    obtain ⟨around, below⟩ := enclosed.of_mem member
    rw [List.forall_mem_cons]
    exact ⟨around (comment, rank) ((exists_at_iff _ _ _).mpr ⟨trail, level, inside⟩), ih below⟩

theorem after_eq_map (trace : List Traced) : after trace = trace.map Traced.after := by
  induction trace with
  | nil => rfl
  | cons node rest ih => rw [after, ih, List.map_cons]

theorem before_append (front back : List Traced) :
    before (front ++ back) = before front ++ before back := by
  induction front with
  | nil => rfl
  | cons node rest ih => rw [List.cons_append, before, before, ih, List.append_assoc]

theorem apart_beside {front back : List Traced}
    (sound : Forest.Sound (after (front ++ node :: back))) :
    ∀ other ∈ front ++ back, other.span.Apart node.span := by
  have ordered := sound.ordered
  rw [Forest.Ordered, after_eq_map, List.pairwise_map] at ordered
  simp only [Traced.span_after] at ordered
  obtain ⟨_, later, earlier⟩ := List.pairwise_append.mp ordered
  rw [List.forall_mem_append]
  constructor
  · intro other member
    exact .inl (earlier other member node List.mem_cons_self)
  · intro other member
    exact .inr ((List.pairwise_cons.mp later).1 other member)

theorem upright_of_mem (sound : Forest.Sound (after trace)) (member : node ∈ trace) :
    node.after.Upright := by
  apply sound.upright
  apply Forest.mem_subtrees
  rw [after_eq_map]
  exact List.mem_map_of_mem member

theorem sound_below (sound : Forest.Sound (after trace)) {head : Head} {children : List Traced}
    (member : .parent head children ∈ trace) : Forest.Sound (after children) := by
  apply sound.below
  rw [after_eq_map]
  exact List.mem_map_of_mem member

theorem span_of_before {old : Node} (member : old ∈ before trace) :
    ∃ node ∈ trace, old.span = node.span := by
  induction trace with
  | nil => simp [before] at member
  | cons first rest ih =>
    rcases List.mem_append.mp member with member | member
    · refine ⟨first, List.mem_cons_self, ?_⟩
      cases first with
      | parent head children =>
        rw [List.mem_singleton.mp member]
        rfl
      | leaf head value =>
        rw [List.mem_singleton.mp member]
        rfl
      | added rank comment => simp [Traced.before] at member
    · obtain ⟨node, inside, same⟩ := ih member
      exact ⟨node, List.mem_cons_of_mem _ inside, same⟩

theorem At.upright (stands : At (.added rank comment) trace trail level)
    (sound : Forest.Sound (after trace)) : comment.Upright := by
  induction stands with
  | here trace member => exact upright_of_mem sound member
  | under head children trace trail level member _ ih => exact ih (sound_below sound member)

theorem At.siblings (stands : At (.added rank comment) trace trail level)
    (sound : Forest.Sound (after trace)) (leaf : comment.isParent = false) :
    ∀ sibling ∈ level, ¬ sibling.after.Admits comment.span := by
  have upright := stands.upright sound
  induction stands with
  | here trace member =>
    rintro sibling beside ⟨parent, includes⟩
    obtain ⟨front, back, rfl⟩ := List.append_of_mem member
    rw [Traced.span_after] at includes
    have apart := apart_beside sound
    rcases List.mem_append.mp beside with beside | beside
    · exact includes.not_apart upright.1 (apart sibling (List.mem_append_left _ beside))
    · rcases List.mem_cons.mp beside with rfl | beside
      · simp [Traced.after, leaf] at parent
      · exact includes.not_apart upright.1 (apart sibling (List.mem_append_right _ beside))
  | under head children trace trail level member inside ih => exact ih (sound_below sound member)

theorem admits_apart {outer span : Span} (nested : Forest.Nested (before trace))
    (apart : ∀ node ∈ trace, node.span.Apart outer) (within : span.Within outer)
    (upright : ¬ span.Inverted) :
    (Forest.subtrees (before trace)).filter (fun old => old.Admits span) = [] := by
  rw [List.filter_eq_nil_iff]
  intro old member
  rw [decide_eq_true_eq]
  refine nested.admits_none ?_ within upright old member
  intro sibling top
  obtain ⟨node, inside, same⟩ := span_of_before top
  rw [same]
  exact apart node inside

/-- Of the parents from before the run, those that include a comment stand at the one node of the
level that holds it. -/
theorem admits_beside {front back : List Traced} {span : Span}
    (sound : Forest.Sound (after (front ++ node :: back))) (within : span.Within node.span)
    (upright : ¬ span.Inverted) (nested : Forest.Nested (before (front ++ node :: back))) :
    (Forest.subtrees (before (front ++ node :: back))).filter (fun old => old.Admits span) =
      (Forest.subtrees node.before).filter fun old => old.Admits span := by
  obtain ⟨earlier, later⟩ := List.forall_mem_append.mp (apart_beside sound)
  rw [before_append, before] at nested ⊢
  obtain ⟨ahead, rest⟩ := (Forest.nested_append _ _).mp nested
  obtain ⟨_, behind⟩ := (Forest.nested_append _ _).mp rest
  rw [Forest.subtrees_append, Forest.subtrees_append, List.filter_append, List.filter_append,
    admits_apart ahead earlier within upright, admits_apart behind later within upright,
    List.nil_append, List.append_nil]

/-- The parents from before the run that include the comment, as a traversal meets them, are those
that it now stands under. -/
theorem At.trail_eq (stands : At (.added rank comment) trace trail level)
    (enclosed : Enclosed trace) (sound : Forest.Sound (after trace))
    (nested : Forest.Nested (before trace)) :
    trail.flatMap Traced.before =
      (Forest.subtrees (before trace)).filter fun old => old.Admits comment.span := by
  have upright := stands.upright sound
  induction stands with
  | here trace member =>
    obtain ⟨front, back, rfl⟩ := List.append_of_mem member
    have within : comment.span.Within (Traced.added rank comment).span := .refl _
    rw [admits_beside sound within upright.1 nested]
    rfl
  | under head children trace trail level member inside ih =>
    obtain ⟨around, below⟩ := enclosed.of_mem member
    have includes := around (comment, rank) ((exists_at_iff _ _ _).mpr ⟨trail, level, inside⟩)
    obtain ⟨front, back, rfl⟩ := List.append_of_mem member
    have deeper : Forest.Nested (before children) := by
      rw [before_append, before, Traced.before] at nested
      have first := ((Forest.nested_append _ _).mp ((Forest.nested_append _ _).mp nested).2).1
      exact ((Forest.nested_parent _ _).mp first).2
    have within : comment.span.Within (Traced.parent head children).span := includes.within
    have chain := ih below (sound_below sound member) deeper
    rw [admits_beside sound within upright.1 nested, List.flatMap_cons, chain]
    simp [Traced.before, includes]

end

end Trace

/-- Placement. Read a merged tree as a trace of its run, which shows the given tree before and the
merged one after, and in which each token has its own leaf. Then every ancestor below the root of an
inserted leaf includes it, and no parent among its siblings does. In a nested tree its ancestors are
all the parents that include it, outermost first: the last of them, or else the root, holds it. -/
theorem complete_places_innermost (request : Request) (merged : Node)
    (completed : request.complete = .ok merged) :
    ∃ head children leaves, request.root = .parent head children ∧
      commentLeaves request.source request.tokens = .ok leaves ∧
      Trace.before (Trace.run children leaves) = children ∧
      merged = .parent head (Trace.after (Trace.run children leaves)) ∧
      (Trace.additions (Trace.run children leaves)).Perm leaves.zipIdx ∧
      ∀ rank comment, (comment, rank) ∈ leaves.zipIdx →
        (∃ trail level, Trace.At (.added rank comment) (Trace.run children leaves) trail level) ∧
        ∀ trail level, Trace.At (.added rank comment) (Trace.run children leaves) trail level →
          (∀ outer ∈ trail, outer.after.span.Includes comment.span) ∧
          (∀ sibling ∈ level, ¬ sibling.after.Admits comment.span) ∧
          level = (trail.getLast?.map Traced.children).getD (Trace.run children leaves) ∧
          (Forest.Nested children → trail.flatMap Traced.before =
            (Forest.subtrees children).filter fun node => node.Admits comment.span) := by
  obtain ⟨head, children, leaves, shape, made, rfl, passed⟩ :=
    (request.complete_eq_ok merged).mp completed
  have plain : ∀ leaf ∈ leaves, leaf.isParent = false :=
    fun leaf member => (comments_of_tokens made leaf member).1
  have before := Trace.before_run children leaves
  have after := Trace.after_run children leaves plain
  have added := Trace.additions_run children leaves
  refine ⟨head, children, leaves, shape, (commentLeaves_eq_ok _ _ _).mpr made, before, ?_, added, ?_⟩
  · rw [after]
  · intro rank comment member
    have leaf := plain comment (List.fst_mem_of_mem_zipIdx member)
    have enclosed := Trace.enclosed_insertAll (Trace.enclosed_of children) 0 leaves
    have sound := ((Node.validate_parent _ _).mp passed).2
    rw [← after] at sound
    refine ⟨(Trace.exists_at_iff _ _ _).mp (added.mem_iff.mpr member), ?_⟩
    intro trail level stands
    refine ⟨?_, stands.siblings sound leaf, stands.level_eq, ?_⟩
    · intro outer above
      rw [Traced.span_after]
      exact stands.includes enclosed outer above
    · intro nested
      rw [stands.trail_eq enclosed sound (by rwa [before]), before]

theorem complete_places_specimen :
    (Specimen.request [Specimen.outerToken, Specimen.emptyToken, Specimen.innerToken]).complete =
        .ok (.parent Specimen.root (Specimen.children [Specimen.innerLeaf]
          [Specimen.emptyLeaf, Specimen.outerLeaf])) ∧
      ∃ trail level, Trace.At (.added 2 Specimen.innerLeaf)
        (Trace.run (Specimen.children [] [])
          [Specimen.outerLeaf, Specimen.emptyLeaf, Specimen.innerLeaf]) trail level ∧
        trail.flatMap Traced.before = [Specimen.paragraph [], Specimen.emphasis []] := by
  refine ⟨rfl, ?_⟩
  obtain ⟨_, _, leaves, shape, made, -, -, -, placed⟩ := complete_places_innermost
    (Specimen.request [Specimen.outerToken, Specimen.emptyToken, Specimen.innerToken]) _ rfl
  obtain ⟨rfl, rfl⟩ := Node.parent.inj shape
  obtain rfl : [Specimen.outerLeaf, Specimen.emptyLeaf, Specimen.innerLeaf] = leaves :=
    Except.ok.inj made
  obtain ⟨⟨trail, level, stands⟩, all⟩ := placed 2 Specimen.innerLeaf (by decide)
  exact ⟨trail, level, stands, (all trail level stands).2.2.2 (by decide)⟩

end LatexTree
