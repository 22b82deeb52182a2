import LatexTree.Log
import LatexTree.Proofs.DocumentOrder
import Mathlib.Data.List.TakeWhile

/-! What the log of a merge tells of its insertions.

Depth and index are counted on the way down, beside the lists that they are about. They are shown to
lead to the leaf in the tree that its insertion leaves, first for one insertion and then for each
insertion of a run. -/
namespace LatexTree

/-- The placement tells where a leaf went, if the children of the root have the given depth: so many
levels further down, the children of a node have gained it at the index, as the last of them or not. -/
def Placement.Tells (placement : Placement) (depth : Nat) (leaf before after : Node) : Prop :=
  ∃ (address : List Nat) (holder : Node) (front back : List Node),
    placement.depth = depth + address.length ∧ before.at? address = some holder ∧
      holder.children? = some (front ++ back) ∧
      after.at? address = some (holder.withChildren (front ++ leaf :: back)) ∧
      placement.index = front.length ∧ (placement.last = true ↔ back = [])

theorem Placement.Tells.under {placement : Placement} {depth : Nat} {leaf before after : Node}
    (tells : placement.Tells (depth + 1) leaf before after) (head : Head) (front back : List Node) :
    placement.Tells depth leaf (.parent head (front ++ before :: back))
      (.parent head (front ++ after :: back)) := by
  obtain ⟨address, holder, ahead, behind, level, here, children, there, index, last⟩ := tells
  refine ⟨front.length :: address, holder, ahead, behind, ?_, ?_, children, ?_, index, last⟩
  · rw [level, List.length_cons]
    omega
  · rw [Node.at?_child, here]
  · rw [Node.at?_child, there]

namespace Forest

theorem settle_span (comment : Node) (depth index : Nat) (forest : List Node) :
    (settle comment depth index forest).placement.span = comment.span := by
  induction depth, index, forest using settle_induct comment with
  | last depth index => rw [settle_nil]
  | ahead depth index sibling rest before => rw [settle_ahead _ _ _ _ _ before]
  | inside depth index head children rest behind includes ih =>
    rw [settle_inside _ _ _ _ _ _ behind includes, ih]
  | past depth index sibling rest behind closed ih => rw [settle_past _ _ _ _ _ behind closed, ih]

/-- Siblings already passed stand in front. -/
theorem settle_tells (comment : Node) (depth index : Nat) (forest : List Node) (head : Head)
    (front : List Node) (passed : front.length = index) :
    (settle comment depth index forest).placement.Tells depth comment
      (.parent head (front ++ forest))
      (.parent head (front ++ (settle comment depth index forest).result)) := by
  induction depth, index, forest using settle_induct comment generalizing head front with
  | last depth index =>
    rw [settle_nil]
    exact ⟨[], _, front, [], rfl, rfl, rfl, rfl, passed.symm, by simp⟩
  | ahead depth index sibling rest before =>
    rw [settle_ahead _ _ _ _ _ before]
    exact ⟨[], _, front, sibling :: rest, rfl, rfl, rfl, rfl, passed.symm, by simp⟩
  | inside depth index own children rest behind includes ih =>
    rw [settle_inside _ _ _ _ _ _ behind includes]
    exact (ih own [] rfl).under head front rest
  | past depth index sibling rest behind closed ih =>
    have later := ih head (front ++ [sibling]) (by simp [passed])
    rw [settle_past _ _ _ _ _ behind closed]
    simpa using later

theorem length_placements (forest comments : List Node) :
    (placements forest comments).length = comments.length := by
  induction comments generalizing forest with
  | nil => rfl
  | cons comment rest ih => rw [placements, List.length_cons, ih, List.length_cons]

/-- Each placement of a run is about the forest that the insertions before it have left. -/
theorem placements_tell (head : Head) (forest comments : List Node) (rank : Nat) (comment : Node)
    (placement : Placement) (inserted : comments[rank]? = some comment)
    (logged : (placements forest comments)[rank]? = some placement) :
    placement.span = comment.span ∧ placement.Tells 0 comment
      (.parent head (insertAll forest (comments.take rank)))
      (.parent head (insertAll forest (comments.take (rank + 1)))) := by
  induction comments generalizing forest rank with
  | nil => simp at inserted
  | cons first rest ih =>
    cases rank with
    | zero =>
      obtain rfl := Option.some.inj inserted
      obtain rfl := Option.some.inj logged
      exact ⟨settle_span first 0 0 forest, settle_tells first 0 0 forest head [] rfl⟩
    | succ rank => exact ih (insert forest first) rank inserted logged

end Forest

/-- The warning that a merge ends with, if it ends with one. -/
def Request.warning (request : Request) : List LogEvent :=
  match request.complete with
  | .error refusal => [.refused refusal]
  | .ok _ => []

section

variable {request : Request} {head : Head} {children : List Node}

theorem Request.log_of_leaves (shape : request.root = .parent head children) {leaves : List Node}
    (made : List.Forall₂ (fun token leaf => token.toNode request.source = .ok leaf)
      request.tokens leaves) :
    request.log = request.tokens.map (fun token => .leafMade token.span token.loc) ++
      .started request.tokens.length ::
        ((Forest.placements children leaves).map .placed ++ request.warning) := by
  have normal := (commentLeaves_eq_ok _ _ _).mpr made
  have all : request.leafEvents =
      request.tokens.map fun token => .leafMade token.span token.loc := by
    have whole : ∀ token ∈ request.tokens, (token.toNode request.source).isOk = true := by
      intro token member
      obtain ⟨leaf, single⟩ := exists_leaves_iff.mp ⟨leaves, made⟩ token member
      rw [single]
      rfl
    rw [leafEvents, List.takeWhile_eq_self_iff.mpr whole]
  cases verdict : (request.assemble children leaves).validate with
  | ok valid =>
    have accepted : request.warning = [] := by
      simp [warning, complete, shape, normal, verdict, bind, Except.bind, pure, Except.pure]
    simp [log, shape, normal, all, verdict, accepted, made.length_eq]
  | error refusal =>
    have refused : request.warning = [.refused refusal] := by
      simp [warning, complete, shape, normal, verdict, bind, Except.bind]
    simp [log, shape, normal, all, verdict, refused, made.length_eq]

theorem Request.log_of_failure (shape : request.root = .parent head children)
    {refusal : Refusal} (failed : commentLeaves request.source request.tokens = .error refusal) :
    request.log = request.leafEvents := by
  unfold log
  simp only [shape, failed, List.append_nil]

end

theorem LogEvent.appending_iff (placement : Placement) :
    (LogEvent.placed placement).record.message = "appending comment after last sibling" ↔
      placement.last = true := by
  cases last : placement.last with
  | false => simp [record, last]
  | true => simp [record, last]

/-- A token that ends beyond the text. -/
def Specimen.longToken : CommentToken := ⟨.comment, "", ⟨⟨5, 2, 2⟩, ⟨9, 2, 6⟩⟩⟩

end LatexTree
