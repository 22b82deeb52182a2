import LatexTree.Proofs.Insertion

/-! Which leaves of a merged tree were inserted, and for which comment.

A leaf that a comment made may look like one that stood there before. A trace is a forest that tells
them apart: every inserted leaf carries the rank of its comment. Without the inserted leaves a trace
shows the forest before the run, and without the ranks the forest after it. -/
namespace LatexTree

inductive Traced where
  | parent (head : Head) (children : List Traced)
  | leaf (head : Head) (value : String)
  /-- A leaf that was inserted for the comment of this rank. -/
  | added (rank : Nat) (comment : Node)
deriving Repr, Inhabited

namespace Traced

def span : Traced → Span
  | .parent head _ => head.span
  | .leaf head _ => head.span
  | .added _ comment => comment.span

def children : Traced → List Traced
  | .parent _ children => children
  | _ => []

end Traced

mutual

private theorem Traced.extends {motive : List Traced → Prop} (nil : motive [])
    (leaf : ∀ head value rest, motive rest → motive (.leaf head value :: rest))
    (added : ∀ rank comment rest, motive rest → motive (.added rank comment :: rest))
    (parent : ∀ head children rest, motive children → motive rest →
      motive (.parent head children :: rest)) :
    ∀ node rest, motive rest → motive (node :: rest)
  | .leaf head value, rest, tail => leaf head value rest tail
  | .added rank comment, rest, tail => added rank comment rest tail
  | .parent head children, rest, tail =>
    parent head children rest (Trace.induct nil leaf added parent children) tail

@[elab_as_elim]
theorem Trace.induct {motive : List Traced → Prop} (nil : motive [])
    (leaf : ∀ head value rest, motive rest → motive (.leaf head value :: rest))
    (added : ∀ rank comment rest, motive rest → motive (.added rank comment :: rest))
    (parent : ∀ head children rest, motive children → motive rest →
      motive (.parent head children :: rest)) :
    ∀ trace, motive trace
  | [] => nil
  | node :: rest =>
    Traced.extends nil leaf added parent node rest (Trace.induct nil leaf added parent rest)

end

mutual

/-- The node as it stood before the run, if it did. -/
def Traced.before : Traced → List Node
  | .parent head children => [.parent head (Trace.before children)]
  | .leaf head value => [.leaf head value]
  | .added .. => []

def Trace.before : List Traced → List Node
  | [] => []
  | node :: rest => node.before ++ Trace.before rest

end

mutual

/-- The node as it stands after the run. -/
def Traced.after : Traced → Node
  | .parent head children => .parent head (Trace.after children)
  | .leaf head value => .leaf head value
  | .added _ comment => comment

def Trace.after : List Traced → List Node
  | [] => []
  | node :: rest => node.after :: Trace.after rest

end

mutual

/-- The inserted leaves with their ranks, in the order in which a traversal meets them. -/
def Traced.additions : Traced → List (Node × Nat)
  | .parent _ children => Trace.additions children
  | .leaf .. => []
  | .added rank comment => [(comment, rank)]

def Trace.additions : List Traced → List (Node × Nat)
  | [] => []
  | node :: rest => node.additions ++ Trace.additions rest

end

mutual

/-- The node with nothing inserted into it. -/
def Traced.of : Node → Traced
  | .parent head children => .parent head (Trace.of children)
  | .leaf head value => .leaf head value

def Trace.of : List Node → List Traced
  | [] => []
  | node :: rest => Traced.of node :: Trace.of rest

end

namespace Trace

/-- Insertion that leaves the comment's rank on the new leaf. -/
def insert (rank : Nat) (comment : Node) : List Traced → List Traced
  | [] => [.added rank comment]
  | .parent head children :: rest =>
    if comment.span.Before head.span then .added rank comment :: .parent head children :: rest
    else if head.span.Includes comment.span then
      .parent head (insert rank comment children) :: rest
    else .parent head children :: insert rank comment rest
  | node :: rest =>
    if comment.span.Before node.span then .added rank comment :: node :: rest
    else node :: insert rank comment rest

def insertAll (trace : List Traced) (rank : Nat) : List Node → List Traced
  | [] => trace
  | comment :: rest => insertAll (insert rank comment trace) (rank + 1) rest

def run (forest comments : List Node) : List Traced := insertAll (of forest) 0 comments

end Trace

@[simp] theorem Traced.span_after (node : Traced) : node.after.span = node.span := by
  cases node <;> rfl

namespace Trace

theorem before_of (forest : List Node) : before (of forest) = forest := by
  induction forest using Forest.induct with
  | nil => rfl
  | leaf head value rest ih => simp [of, Traced.of, before, Traced.before, ih]
  | parent head children rest below ih => simp [of, Traced.of, before, Traced.before, below, ih]

theorem after_of (forest : List Node) : after (of forest) = forest := by
  induction forest using Forest.induct with
  | nil => rfl
  | leaf head value rest ih => simp [of, Traced.of, after, Traced.after, ih]
  | parent head children rest below ih => simp [of, Traced.of, after, Traced.after, below, ih]

theorem additions_of (forest : List Node) : additions (of forest) = [] := by
  induction forest using Forest.induct with
  | nil => rfl
  | leaf head value rest ih => simp [of, Traced.of, additions, Traced.additions, ih]
  | parent head children rest below ih =>
    simp [of, Traced.of, additions, Traced.additions, below, ih]

theorem before_insert (rank : Nat) (comment : Node) (trace : List Traced) :
    before (insert rank comment trace) = before trace := by
  fun_induction insert rank comment trace with
  | case1 => rfl
  | case2 head children rest ahead => rfl
  | case3 head children rest behind includes ih => simp [before, Traced.before, ih]
  | case4 head children rest behind excludes ih => simp [before, ih]
  | case5 node rest single ahead => rfl
  | case6 node rest single behind ih => simp [before, ih]

/-- Tracing does not change what is inserted where. -/
theorem inserts_after (rank : Nat) (comment : Node) {trace : List Traced}
    (leaves : ∀ entry ∈ additions trace, entry.1.isParent = false) :
    Forest.Inserts comment (after trace) (after (insert rank comment trace)) := by
  fun_induction insert rank comment trace with
  | case1 => exact .last
  | case2 head children rest ahead => exact .before _ _ ahead
  | case3 head children rest behind includes ih =>
    exact .inside _ _ _ _ behind includes (ih (List.forall_mem_append.mp leaves).1)
  | case4 head children rest behind excludes ih =>
    refine .past _ _ _ behind ?_ (ih (List.forall_mem_append.mp leaves).2)
    simpa [Traced.after] using excludes
  | case5 node rest single ahead => exact .before _ _ (by simpa using ahead)
  | case6 node rest single behind ih =>
    obtain ⟨first, others⟩ := List.forall_mem_append.mp leaves
    refine .past _ _ _ (by simpa using behind) ?_ (ih others)
    rintro ⟨parent, _⟩
    -- Only a parent could admit the comment, and what was inserted is a leaf.
    cases node with
    | parent head children => exact single head children rfl
    | leaf head value => simp [Traced.after, Node.isParent] at parent
    | added rank comment => simp [Traced.after, first (comment, rank) List.mem_cons_self] at parent

theorem additions_insert (rank : Nat) (comment : Node) (trace : List Traced) :
    (additions (insert rank comment trace)).Perm ((comment, rank) :: additions trace) := by
  fun_induction insert rank comment trace with
  | case1 => exact .refl _
  | case2 head children rest ahead => exact .refl _
  | case3 head children rest behind includes ih => exact ih.append_right _
  | case4 head children rest behind excludes ih =>
    exact (ih.append_left _).trans List.perm_middle
  | case5 node rest single ahead => exact .refl _
  | case6 node rest single behind ih => exact (ih.append_left _).trans List.perm_middle

theorem before_insertAll (trace : List Traced) (rank : Nat) (comments : List Node) :
    before (insertAll trace rank comments) = before trace := by
  induction comments generalizing trace rank with
  | nil => rfl
  | cons comment rest ih => rw [insertAll, ih, before_insert]

theorem additions_insertAll (trace : List Traced) (rank : Nat) (comments : List Node) :
    (additions (insertAll trace rank comments)).Perm
      (comments.zipIdx rank ++ additions trace) := by
  induction comments generalizing trace rank with
  | nil => exact .refl _
  | cons comment rest ih =>
    calc
      List.Perm (additions (insertAll trace rank (comment :: rest)))
        (rest.zipIdx (rank + 1) ++ additions (insert rank comment trace)) := ih _ _
      List.Perm _ (rest.zipIdx (rank + 1) ++ (comment, rank) :: additions trace) :=
        (additions_insert rank comment trace).append_left _
      List.Perm _ ((comment, rank) :: (rest.zipIdx (rank + 1) ++ additions trace)) :=
        List.perm_middle

theorem after_insertAll {trace : List Traced} (rank : Nat) {comments : List Node}
    (present : ∀ entry ∈ additions trace, entry.1.isParent = false)
    (leaves : ∀ comment ∈ comments, comment.isParent = false) :
    after (insertAll trace rank comments) = Forest.insertAll (after trace) comments := by
  induction comments generalizing trace rank with
  | nil => rfl
  | cons comment rest ih =>
    obtain ⟨leaf, leaves⟩ := List.forall_mem_cons.mp leaves
    have step := (Forest.inserts_iff _ _ _).mp (inserts_after rank comment present)
    rw [insertAll, Forest.insertAll_cons, step]
    apply ih _ _ leaves
    intro entry member
    rcases List.mem_cons.mp ((additions_insert rank comment trace).mem_iff.mp member) with
      rfl | member
    · exact leaf
    · exact present entry member

variable (forest comments : List Node)

theorem before_run : before (run forest comments) = forest := by
  rw [run, before_insertAll, before_of]

theorem additions_run : (additions (run forest comments)).Perm comments.zipIdx := by
  simpa [run, additions_of] using additions_insertAll (of forest) 0 comments

theorem after_run (leaves : ∀ comment ∈ comments, comment.isParent = false) :
    after (run forest comments) = Forest.insertAll forest comments := by
  rw [run, after_insertAll 0 (by simp [additions_of]) leaves, after_of]

end Trace

end LatexTree
