import LatexTree.Merge.Complete
import LatexTree.Proofs.Validity
import Mathlib.Data.List.Forall2

/-! When a merge succeeds, step by step: every token makes a leaf, the leaves are inserted into the
children of the root, and the result passes validation. -/
namespace LatexTree

theorem bind_eq_ok {ε α β : Type} (first : Except ε α) (next : α → Except ε β) (result : β) :
    (first >>= next) = .ok result ↔ ∃ value, first = .ok value ∧ next value = .ok result := by
  cases first with
  | error error => simp [bind, Except.bind]
  | ok value => simp [bind, Except.bind]

theorem CommentToken.toNode_eq_ok {source : Source} {token : CommentToken} {node : Node}
    (made : token.toNode source = .ok node) :
    ¬ token.span.Inverted ∧
      ∃ raw, node = .leaf ⟨Tag.comment, raw, token.span, token.loc⟩ token.content := by
  unfold CommentToken.toNode at made
  split at made
  · simp at made
  · next upright =>
    split at made
    · simp at made
    · next raw _ =>
      refine ⟨upright, raw, ?_⟩
      simpa using made.symm

theorem commentLeaves_eq_ok (source : Source) (tokens : List CommentToken) (leaves : List Node) :
    commentLeaves source tokens = .ok leaves ↔
      List.Forall₂ (fun token leaf => token.toNode source = .ok leaf) tokens leaves := by
  unfold commentLeaves
  induction tokens generalizing leaves with
  | nil =>
    rw [List.forall₂_nil_left_iff]
    simp only [List.mapM_nil, pure, Except.pure, Except.ok.injEq]
    exact eq_comm
  | cons token tokens ih =>
    rw [List.forall₂_cons_left_iff, List.mapM_cons]
    simp only [bind_eq_ok, ih, pure, Except.pure, Except.ok.injEq]
    constructor
    · rintro ⟨leaf, made, rest, others, rfl⟩
      exact ⟨leaf, rest, made, others, rfl⟩
    · rintro ⟨leaf, rest, made, others, rfl⟩
      exact ⟨leaf, made, rest, others, rfl⟩

section

variable {source : Source} {tokens : List CommentToken} {leaves : List Node}

theorem comments_of_tokens
    (made : List.Forall₂ (fun token leaf => token.toNode source = .ok leaf) tokens leaves) :
    ∀ leaf ∈ leaves, leaf.isParent = false ∧ leaf.isComment = true := by
  induction made with
  | nil => simp
  | cons first _ ih =>
    obtain ⟨_, raw, rfl⟩ := CommentToken.toNode_eq_ok first
    refine List.forall_mem_cons.mpr ⟨⟨rfl, ?_⟩, ih⟩
    simp [Node.isComment, Node.tag, Node.head]

theorem token_of_leaf
    (made : List.Forall₂ (fun token leaf => token.toNode source = .ok leaf) tokens leaves) {leaf : Node}
    (member : leaf ∈ leaves) : ∃ token ∈ tokens, token.toNode source = .ok leaf := by
  induction made with
  | nil => simp at member
  | cons first _ ih =>
    rcases List.mem_cons.mp member with rfl | member
    · exact ⟨_, List.mem_cons_self, first⟩
    · obtain ⟨token, inside, single⟩ := ih member
      exact ⟨token, List.mem_cons_of_mem _ inside, single⟩

theorem forall_places_iff
    (made : List.Forall₂ (fun token leaf => token.toNode source = .ok leaf) tokens leaves)
    (property : Span → Location → Prop) :
    (∀ leaf ∈ leaves, property leaf.span leaf.loc) ↔
      ∀ token ∈ tokens, property token.span token.loc := by
  induction made with
  | nil => simp
  | cons first _ ih =>
    obtain ⟨_, raw, rfl⟩ := CommentToken.toNode_eq_ok first
    rw [List.forall_mem_cons, List.forall_mem_cons, ih]
    rfl

theorem pairwise_spans_iff
    (made : List.Forall₂ (fun token leaf => token.toNode source = .ok leaf) tokens leaves)
    (relation : Span → Span → Prop) :
    leaves.Pairwise (fun first second => relation first.span second.span) ↔
      tokens.Pairwise fun first second => relation first.span second.span := by
  induction made with
  | nil => simp
  | cons first others ih =>
    obtain ⟨_, raw, rfl⟩ := CommentToken.toNode_eq_ok first
    rw [List.pairwise_cons, List.pairwise_cons, ih, Node.span_leaf,
      forall_places_iff others fun span _ => relation _ span]

theorem upright_of_tokens
    (made : List.Forall₂ (fun token leaf => token.toNode source = .ok leaf) tokens leaves) :
    ∀ leaf ∈ leaves, ¬ leaf.span.Inverted := by
  intro leaf member
  obtain ⟨token, _, single⟩ := token_of_leaf made member
  obtain ⟨upright, raw, rfl⟩ := CommentToken.toNode_eq_ok single
  exact upright

/-- Leaves of tokens that follow each other in the text do so too, any two of them. -/
theorem ordered_of_tokens
    (made : List.Forall₂ (fun token leaf => token.toNode source = .ok leaf) tokens leaves)
    (sorted : tokens.IsChain fun first second => first.span.Before second.span) :
    Forest.Ordered leaves := by
  have upright := (forall_places_iff made fun span _ => ¬ span.Inverted).mp (upright_of_tokens made)
  rw [Forest.Ordered, pairwise_spans_iff made Span.Before, ← List.pairwise_map,
    ← Span.isChain_before_iff (by simpa using upright), List.isChain_map]
  exact sorted

theorem exists_leaves_iff :
    (∃ leaves, List.Forall₂ (fun token leaf => token.toNode source = .ok leaf) tokens leaves) ↔
      ∀ token ∈ tokens, ∃ leaf, token.toNode source = .ok leaf := by
  constructor
  · rintro ⟨leaves, made⟩
    induction made with
    | nil => simp
    | cons first _ ih => exact List.forall_mem_cons.mpr ⟨⟨_, first⟩, ih⟩
  · intro normal
    induction tokens with
    | nil => exact ⟨[], .nil⟩
    | cons token tokens ih =>
      obtain ⟨⟨leaf, made⟩, normal⟩ := List.forall_mem_cons.mp normal
      obtain ⟨leaves, others⟩ := ih normal
      exact ⟨leaf :: leaves, .cons made others⟩

end

namespace Request

/-- The merge with its intermediate results: the leaves, and the tree that is validated. -/
theorem complete_eq_ok (request : Request) (merged : Node) :
    request.complete = .ok merged ↔
      ∃ head children leaves, request.root = .parent head children ∧
        List.Forall₂ (fun token leaf => token.toNode request.source = .ok leaf)
          request.tokens leaves ∧
        merged = .parent head (Forest.insertAll children leaves) ∧ merged.validate = .ok () := by
  unfold complete
  split
  · next head value shape => simp [shape]
  · next head children shape =>
    simp only [bind_eq_ok, commentLeaves_eq_ok, assemble, shape, Node.withChildren, Node.head,
      pure, Except.pure, Except.ok.injEq]
    constructor
    · rintro ⟨leaves, made, _, passed, rfl⟩
      exact ⟨head, children, leaves, rfl, made, rfl, passed⟩
    · rintro ⟨_, _, leaves, same, made, rfl, passed⟩
      obtain ⟨rfl, rfl⟩ := Node.parent.inj same
      exact ⟨leaves, made, (), passed, rfl⟩

end Request

/-! The text `A%B⏎C%D` with one comment inside two parents that span the same text and one after
them, before an empty leaf. -/
namespace Specimen

def source : Source := ⟨['A', '%', 'B', '\n', 'C', '%', 'D']⟩

def head (tag raw : String) (start stop : Nat) : Head :=
  ⟨tag, raw, ⟨start, stop⟩, source.location ⟨start, stop⟩⟩

def root : Head := head Tag.document "A%B\nC%D" 0 7

def emphasis (inner : List Node) : Node :=
  .parent (head "Emphasis" "A%B\nC" 0 5)
    (.leaf (head Tag.str "A" 0 1) "A" :: inner ++ [.leaf (head Tag.str "C" 4 5) "C"])

def paragraph (inner : List Node) : Node :=
  .parent (head "Paragraph" "A%B\nC" 0 5) [emphasis inner]

/-- The children of the root, with comments inside the two parents and after them. -/
def children (inner outer : List Node) : List Node :=
  paragraph inner :: outer ++ [.leaf (head Tag.str "" 7 7) ""]

def innerToken : CommentToken := ⟨.comment, "B", ⟨⟨1, 1, 2⟩, ⟨4, 2, 1⟩⟩⟩

def innerLeaf : Node := .leaf (head Tag.comment "%B\n" 1 4) "B"

def outerToken : CommentToken := ⟨.comment, "D", ⟨⟨5, 2, 2⟩, ⟨7, 2, 4⟩⟩⟩

def outerLeaf : Node := .leaf (head Tag.comment "%D" 5 7) "D"

/-- A token without text, where the two parents end. -/
def emptyToken : CommentToken := ⟨.comment, "", ⟨⟨5, 2, 2⟩, ⟨5, 2, 2⟩⟩⟩

def emptyLeaf : Node := .leaf (head Tag.comment "" 5 5) ""

def request (tokens : List CommentToken) : Request :=
  ⟨source, .parent root (children [] []), some tokens⟩

end Specimen

end LatexTree
