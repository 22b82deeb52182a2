/-! Half-open spans of text offsets, counted in UTF-16 code units. -/
namespace LatexTree

structure Span where
  start : Nat
  stop : Nat
deriving DecidableEq, Repr, Inhabited

namespace Span

def length (span : Span) : Nat := span.stop - span.start

/-- Nothing lies in the span; an inverted span is empty too. -/
def Empty (span : Span) : Prop := span.stop ≤ span.start

def Inverted (span : Span) : Prop := span.stop < span.start

def Before (first second : Span) : Prop := first.stop ≤ second.start

/-- A candidate with text in it may touch the ends of its container, an empty one stands strictly
inside. -/
def Includes (container candidate : Span) : Prop :=
  if candidate.stop ≤ candidate.start then
    container.start < candidate.start ∧ candidate.start < container.stop
  else container.start ≤ candidate.start ∧ candidate.stop ≤ container.stop

instance (span : Span) : Decidable span.Empty := inferInstanceAs (Decidable (_ ≤ _))

instance (span : Span) : Decidable span.Inverted := inferInstanceAs (Decidable (_ < _))

instance (first second : Span) : Decidable (first.Before second) :=
  inferInstanceAs (Decidable (_ ≤ _))

instance (container candidate : Span) : Decidable (container.Includes candidate) := by
  unfold Includes
  infer_instance

def text (span : Span) : String := s!"[{span.start}, {span.stop})"

end Span

end LatexTree
