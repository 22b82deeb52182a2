import LatexTree.Node.Comments
import LatexTree.Proofs.Completion

/-! Insertion adds the comments and changes nothing else.

A traversal of the forest after an insertion is the traversal before it with one event more. Nothing
is assumed of the forest: its siblings may overlap or stand in any order, and comments may be in it
already. -/
namespace LatexTree

namespace Event

/-- The leaf that a traversal meets at the event, if it meets one there. -/
def leaf? : Event → Option Node
  | .leaf _ head value => some (.leaf head value)
  | _ => none

/-- One sequence of events is another with the added ones put in, wherever they stand. -/
structure Adds (added before after : List Event) : Prop where
  kept : before.Sublist after
  total : after.Perm (added ++ before)

theorem Adds.refl (events : List Event) : Adds [] events events := ⟨.refl _, .refl _⟩

theorem Adds.trans {first second before middle after : List Event}
    (one : Adds first before middle) (other : Adds second middle after) :
    Adds (first ++ second) before after := by
  refine ⟨one.kept.trans other.kept, ?_⟩
  calc
    List.Perm after (second ++ middle) := other.total
    List.Perm _ (second ++ (first ++ before)) := one.total.append_left second
    _ = second ++ first ++ before := (List.append_assoc ..).symm
    List.Perm _ (first ++ second ++ before) := List.perm_append_comm.append_right before

theorem Adds.single (front back : List Event) (event : Event) :
    Adds [event] (front ++ back) (front ++ event :: back) := by
  refine ⟨?_, List.perm_middle⟩
  exact List.Sublist.append_left (List.sublist_cons_self event back) front

theorem Adds.countP {added before after : List Event} (adds : Adds added before after)
    (test : Event → Bool) : after.countP test = before.countP test + added.countP test := by
  rw [adds.total.countP_eq, List.countP_append, Nat.add_comm]

end Event

namespace Forest

theorem events_cons (depth : Nat) (node : Node) (rest : List Node) :
    events depth (node :: rest) = node.events depth ++ events depth rest := rfl

theorem events_parent (depth : Nat) (head : Head) (children rest : List Node) :
    events depth (.parent head children :: rest) =
      .enter depth head ::
        (events (depth + 1) children ++ .leave depth head :: events depth rest) := by
  simp [events_cons, Node.events]

/-- The traversal is cut in two where the comment went, and its own events stand between. -/
theorem Inserts.events {comment : Node} {forest settled : List Node}
    (placed : Inserts comment forest settled) (depth : Nat) :
    ∃ level front back, Forest.events depth forest = front ++ back ∧
      Forest.events depth settled = front ++ (comment.events level ++ back) := by
  induction placed generalizing depth with
  | last => exact ⟨depth, [], [], rfl, rfl⟩
  | before sibling rest _ => exact ⟨depth, [], _, rfl, rfl⟩
  | inside head children settled rest _ _ _ ih =>
    obtain ⟨level, front, back, before, after⟩ := ih (depth + 1)
    refine ⟨level, .enter depth head :: front,
      back ++ .leave depth head :: Forest.events depth rest, ?_, ?_⟩
    · rw [events_parent, before]
      simp
    · rw [events_parent, after]
      simp
  | past sibling rest settled _ _ _ ih =>
    obtain ⟨level, front, back, before, after⟩ := ih depth
    refine ⟨level, sibling.events depth ++ front, back, ?_, ?_⟩
    · rw [events_cons, before, List.append_assoc]
    · rw [events_cons, after, List.append_assoc]

theorem insert_events (forest : List Node) (head : Head) (value : String) (depth : Nat) :
    ∃ level, Event.Adds [.leaf level head value] (events depth forest)
      (events depth (insert forest (.leaf head value))) := by
  obtain ⟨level, front, back, before, after⟩ :=
    (inserts_insert (.leaf head value) forest).events depth
  refine ⟨level, ?_⟩
  rw [before, after]
  exact .single front back _

theorem insertAll_events (forest comments : List Node)
    (leaves : ∀ comment ∈ comments, comment.isParent = false) (depth : Nat) :
    ∃ added, added.map Event.leaf? = comments.map some ∧
      Event.Adds added (events depth forest) (events depth (insertAll forest comments)) := by
  induction comments generalizing forest with
  | nil => exact ⟨[], rfl, .refl _⟩
  | cons comment rest ih =>
    rw [List.forall_mem_cons] at leaves
    cases comment with
    | parent head children => simp [Node.isParent] at leaves
    | leaf head value =>
      obtain ⟨level, one⟩ := insert_events forest head value depth
      obtain ⟨added, shown, others⟩ := ih (insert forest (.leaf head value)) leaves.2
      refine ⟨.leaf level head value :: added, ?_, one.trans others⟩
      rw [List.map_cons, List.map_cons, shown]
      rfl

theorem Inserts.strip {comment : Node} {forest settled : List Node}
    (placed : Inserts comment forest settled) (tagged : comment.isComment = true) :
    stripComments settled = stripComments forest := by
  induction placed with
  | last => simp [stripComments, tagged]
  | before sibling rest _ => rw [stripComments, if_pos tagged]
  | inside head children settled rest _ _ _ ih =>
    -- If the parent is itself tagged as a comment, the new one vanishes with it.
    have same : (Node.parent head settled).isComment = (Node.parent head children).isComment := rfl
    simp only [stripComments, Node.stripComments, same, ih]
  | past sibling rest settled _ _ _ ih => simp only [stripComments, ih]

theorem insertAll_strip (forest comments : List Node)
    (tagged : ∀ comment ∈ comments, comment.isComment = true) :
    stripComments (insertAll forest comments) = stripComments forest := by
  induction comments generalizing forest with
  | nil => rfl
  | cons comment rest ih =>
    rw [List.forall_mem_cons] at tagged
    rw [insertAll_cons, ih _ tagged.2, (inserts_insert comment forest).strip tagged.1]

end Forest

theorem countP_commentLeaf {added : List Event} {comments : List Node}
    (shown : added.map Event.leaf? = comments.map some)
    (tagged : ∀ comment ∈ comments, comment.isComment = true) :
    added.countP Event.isCommentLeaf = comments.length := by
  induction added generalizing comments with
  | nil =>
    cases comments with
    | nil => rfl
    | cons comment rest => simp at shown
  | cons event added ih =>
    cases comments with
    | nil => simp at shown
    | cons comment rest =>
      rw [List.map_cons, List.map_cons, List.cons.injEq] at shown
      rw [List.forall_mem_cons] at tagged
      have counted : event.isCommentLeaf = true := by
        cases event with
        | leaf level head value =>
          obtain rfl := Option.some.inj shown.1
          exact tagged.1
        | enter level head => simp [Event.leaf?] at shown
        | leave level head => simp [Event.leaf?] at shown
      rw [List.countP_cons_of_pos counted, ih shown.2 tagged.2, List.length_cons]

/-- Insertion loses, doubles and touches nothing: the traversal keeps its events and gains one leaf
event for each comment, and a merged tree is its root with as many comments more as there are
tokens. -/
theorem merge_only_adds_comments :
    (∀ (forest comments : List Node) (depth : Nat),
      (∀ comment ∈ comments, comment.isParent = false) →
        ∃ added, added.map Event.leaf? = comments.map some ∧
          Event.Adds added (Forest.events depth forest)
            (Forest.events depth (Forest.insertAll forest comments))) ∧
    ∀ (request : Request) (merged : Node), request.complete = .ok merged →
      merged.stripComments = request.root.stripComments ∧
      merged.commentCount = request.root.commentCount + request.tokens.length ∧
      merged.isParent = true ∧ merged.head = request.root.head := by
  refine ⟨fun forest comments depth leaves => Forest.insertAll_events forest comments leaves depth,
    ?_⟩
  intro request merged completed
  obtain ⟨head, children, leaves, shape, made, rfl, _⟩ :=
    (request.complete_eq_ok merged).mp completed
  have comments := comments_of_tokens made
  have tagged : ∀ leaf ∈ leaves, leaf.isComment = true := fun leaf member => (comments leaf member).2
  obtain ⟨added, shown, adds⟩ :=
    Forest.insertAll_events children leaves (fun leaf member => (comments leaf member).1) 1
  rw [shape]
  refine ⟨?_, ?_, rfl, rfl⟩
  · simp only [Node.stripComments, Forest.insertAll_strip children leaves tagged]
  · have count := adds.countP Event.isCommentLeaf
    rw [countP_commentLeaf shown tagged, ← made.length_eq] at count
    simp only [Node.commentCount, Node.events, List.countP_cons, List.countP_append, Nat.zero_add,
      count]
    omega

/-- Two copies of the specimen side by side overlap, and one of them holds a comment. -/
theorem merge_only_adds_specimen :
    (∃ added, added.map Event.leaf? = [Specimen.innerLeaf, Specimen.innerLeaf].map some ∧
      Event.Adds added
        (Forest.events 0 (Specimen.children [] [] ++ Specimen.children [Specimen.innerLeaf] []))
        (Forest.events 0 (Forest.insertAll
          (Specimen.children [] [] ++ Specimen.children [Specimen.innerLeaf] [])
          [Specimen.innerLeaf, Specimen.innerLeaf]))) ∧
    (Node.parent Specimen.root
      (Specimen.children [Specimen.innerLeaf] [Specimen.outerLeaf])).commentCount = 0 + 2 :=
  ⟨merge_only_adds_comments.1 _ _ 0 (by decide),
    (merge_only_adds_comments.2
      (Specimen.request [Specimen.innerToken, Specimen.outerToken]) _ rfl).2.1⟩

end LatexTree
