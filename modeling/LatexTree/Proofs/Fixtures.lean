import LatexTree.Fixture
import LatexTree.Merge.Leaf
import LatexTree.Proofs.Positions

/-! The comments of a fixture.

The leaf of a fixture takes its location from the text. Its token takes the location to the columns of
a scanner, which count from one, and a merge takes it back. Both ways lead to the same leaf. -/
namespace LatexTree

namespace Fixture

/-- The span is inverted, ends past the text or splits a surrogate pair. -/
def Misfits (fixture : Fixture) (span : Span) : Prop :=
  span.stop < span.start ∨ (utf16 fixture.text.toList).length < span.stop ∨
    SplitsPair (utf16 fixture.text.toList) span.start ∨
    SplitsPair (utf16 fixture.text.toList) span.stop

instance (fixture : Fixture) (span : Span) : Decidable (fixture.Misfits span) :=
  inferInstanceAs (Decidable (_ ∨ _))

theorem slice_isSome_iff (fixture : Fixture) (span : Span) :
    (fixture.source.slice span).isSome ↔ ¬ fixture.Misfits span := by
  rw [Source.slice_isSome_iff, Misfits, not_or, not_or, not_or, Nat.not_lt, Nat.not_lt]
  rfl

section

variable {fixture : Fixture} {span : Span} {raw : String}

def token (fixture : Fixture) (span : Span) (raw : String) : CommentToken :=
  ⟨.comment, String.ofList (content raw.toList),
    ⟨fixture.tokenPosition span.start, fixture.tokenPosition span.stop⟩⟩

def tokenLeaf (fixture : Fixture) (span : Span) (raw : String) : Node :=
  .leaf ⟨Tag.comment, raw, span, fixture.source.location span⟩ (fixture.token span raw).content

theorem slice_eq_ok (found : fixture.source.slice span = some raw) :
    fixture.slice span = .ok raw := by
  rw [slice, found]

theorem slice_eq_error (absent : fixture.source.slice span = none) :
    fixture.slice span = .error ⟨span, fixture.text⟩ := by
  rw [slice, absent]

theorem comment_of_slice (found : fixture.source.slice span = some raw) :
    fixture.comment span = .ok (fixture.token span raw) := by
  rw [comment, slice_eq_ok found]
  rfl

theorem commentLeaf_of_slice (found : fixture.source.slice span = some raw) :
    fixture.commentLeaf span = .ok (fixture.tokenLeaf span raw) := by
  rw [commentLeaf, comment_of_slice found, head, slice_eq_ok found]
  rfl

theorem comment_of_misfit (absent : fixture.source.slice span = none) :
    fixture.comment span = .error ⟨span, fixture.text⟩ := by
  rw [comment, slice_eq_error absent]
  rfl

theorem commentLeaf_of_misfit (absent : fixture.source.slice span = none) :
    fixture.commentLeaf span = .error ⟨span, fixture.text⟩ := by
  rw [commentLeaf, comment_of_misfit absent]
  rfl

theorem toNode_token (found : fixture.source.slice span = some raw) :
    (fixture.token span raw).toNode fixture.source = .ok (fixture.tokenLeaf span raw) := by
  have upright : ¬ (fixture.token span raw).span.Inverted :=
    Nat.not_lt.mpr (Source.inOrder_of_slice found)
  have same : (fixture.token span raw).span = span := rfl
  rw [CommentToken.toNode, if_neg upright, same, found]
  rfl

/-- What is made of a slice, and of nothing else, is refused exactly where there is no slice. -/
theorem error_iff {α : Type} {result : Except Misfit α}
    (made : ∀ raw, fixture.source.slice span = some raw → ∃ value, result = .ok value)
    (refused : fixture.source.slice span = none → result = .error ⟨span, fixture.text⟩)
    (misfit : Misfit) :
    result = .error misfit ↔ fixture.Misfits span ∧ misfit = ⟨span, fixture.text⟩ := by
  have fits := fixture.slice_isSome_iff span
  cases found : fixture.source.slice span with
  | none =>
    rw [found] at fits
    have misfits : fixture.Misfits span := Decidable.not_not.mp fun whole => nomatch fits.mpr whole
    rw [refused found, Except.error.injEq]
    exact ⟨fun same => ⟨misfits, same.symm⟩, fun both => both.2.symm⟩
  | some raw =>
    rw [found] at fits
    have whole : ¬ fixture.Misfits span := fits.mp rfl
    obtain ⟨value, done⟩ := made raw found
    rw [done]
    exact ⟨nofun, fun both => absurd both.1 whole⟩

end

/-- Fixture and merge agree on comments. A fixture refuses to make a comment, or the leaf of one, exactly
if the span is inverted, ends past the text or splits a surrogate pair. Otherwise the leaf that a merge
makes of the fixture's token is the fixture's leaf, and its location is that of the span in the text. -/
theorem comment_agrees (fixture : Fixture) (span : Span) :
    (∀ misfit, fixture.comment span = .error misfit ↔
      fixture.Misfits span ∧ misfit = ⟨span, fixture.text⟩) ∧
    (∀ misfit, fixture.commentLeaf span = .error misfit ↔
      fixture.Misfits span ∧ misfit = ⟨span, fixture.text⟩) ∧
    (¬ fixture.Misfits span →
      ∃ token leaf, fixture.comment span = .ok token ∧ fixture.commentLeaf span = .ok leaf ∧
        token.toNode fixture.source = .ok leaf ∧
        leaf.loc = fixture.source.location span ∧ ¬ leaf.loc.Inverted) := by
  refine ⟨?_, ?_, ?_⟩
  · exact error_iff (fun _ found => ⟨_, comment_of_slice found⟩) comment_of_misfit
  · exact error_iff (fun _ found => ⟨_, commentLeaf_of_slice found⟩) commentLeaf_of_misfit
  · intro whole
    obtain ⟨raw, found⟩ := Option.isSome_iff_exists.mp ((fixture.slice_isSome_iff span).mpr whole)
    have upright : ¬ span.Inverted := Nat.not_lt.mpr (Source.inOrder_of_slice found)
    exact ⟨_, _, comment_of_slice found, commentLeaf_of_slice found, toNode_token found, rfl,
      mt (fixture.source.location_inverted span).mp upright⟩

end Fixture

end LatexTree
