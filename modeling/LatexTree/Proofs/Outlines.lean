import LatexTree.Node.Outline
import LatexTree.Proofs.Conservation
import LatexTree.Proofs.Quotation
import Mathlib.Algebra.Order.BigOperators.Group.List
import Mathlib.Algebra.Order.Ring.Nat

/-! What an outline tells of its tree.

An outline is the lines of its nodes, each with a depth, a label and, for a leaf, a value. A line end
stands in a line only if one stands in the tag. Without one the lines can be told apart; each of
them tells what it was made of, and the depths tell which node stands under which. -/
namespace LatexTree

structure OutlineLine where
  depth : Nat
  label : Label
  value : Option String
deriving DecidableEq, Repr

/-- The line that an event adds to the outline, if it adds one. -/
def Event.line? : Event → Option OutlineLine
  | .enter depth head => some ⟨depth, ⟨head.tag, head.span⟩, none⟩
  | .leave .. => none
  | .leaf depth head value => some ⟨depth, ⟨head.tag, head.span⟩, some value⟩

namespace OutlineLine

def content (line : OutlineLine) : List Char :=
  line.label.text.toList ++ line.value.elim [] fun value => ' ' :: (quoted value).toList

/-- The text of a line, without the line end. -/
def chars (line : OutlineLine) : List Char :=
  List.replicate (2 * line.depth) ' ' ++ line.content

end OutlineLine

namespace Forest

def lines (depth : Nat) (forest : List Node) : List OutlineLine :=
  (events depth forest).filterMap Event.line?

theorem lines_leaf (depth : Nat) (head : Head) (value : String) (rest : List Node) :
    lines depth (.leaf head value :: rest) =
      ⟨depth, ⟨head.tag, head.span⟩, some value⟩ :: lines depth rest := rfl

theorem lines_parent (depth : Nat) (head : Head) (children rest : List Node) :
    lines depth (.parent head children :: rest) =
      ⟨depth, ⟨head.tag, head.span⟩, none⟩ :: (lines (depth + 1) children ++ lines depth rest) := by
  simp [lines, events_parent, Event.line?, List.filterMap_cons]

/-- Every node has its line, in the order of a traversal. -/
theorem lines_label (depth : Nat) (forest : List Node) :
    (lines depth forest).map OutlineLine.label = (subtrees forest).map Node.label := by
  induction forest using Forest.induct generalizing depth with
  | nil => rfl
  | leaf head value rest ih =>
    rw [lines_leaf, List.map_cons, ih, subtrees_leaf, List.map_cons]
    rfl
  | parent head children rest below ih =>
    rw [lines_parent, List.map_cons, List.map_append, below, ih, subtrees_parent, List.map_cons,
      List.map_append]
    rfl

end Forest

theorem Label.toList_text (label : Label) :
    label.text.toList = label.tag.toList ++ ' ' :: label.span.text.toList := by
  simp [Label.text, toString]

theorem Span.toList_text (span : Span) : span.text.toList =
    '[' :: (Nat.toDigits 10 span.start ++ ',' :: ' ' :: (Nat.toDigits 10 span.stop ++ [')'])) := by
  simp [Span.text, toString, Nat.toList_repr]

theorem Event.toList_outline (event : Event) :
    event.outline.toList = event.line?.elim [] fun line => line.chars ++ ['\n'] := by
  cases event with
  | enter depth head =>
    simp [Event.outline, Event.line?, OutlineLine.chars, OutlineLine.content, Label.toList_text, indent]
  | leave depth head => rfl
  | leaf depth head value =>
    simp [Event.outline, Event.line?, OutlineLine.chars, OutlineLine.content, Label.toList_text, indent]

theorem Node.toList_outline (node : Node) :
    node.outline.toList = (Forest.lines 0 [node]).flatMap fun line => line.chars ++ ['\n'] := by
  have whole : Forest.events 0 [node] = node.events 0 := List.append_nil _
  rw [Node.outline, String.toList_join, Forest.lines, whole, List.flatMap_map]
  generalize node.events 0 = events
  induction events with
  | nil => rfl
  | cons event events ih =>
    rw [List.flatMap_cons, ih, Event.toList_outline]
    cases made : event.line? with
    | none => simp [made]
    | some line => simp [made]

/-! ### Line ends -/

theorem not_mem_toDigits {c : Char} (other : c.isDigit = false) (n : Nat) : c ∉ Nat.toDigits 10 n := by
  intro member
  have digit := Nat.isDigit_of_mem_toDigits (by decide) (by decide) member
  simp [digit] at other

theorem newline_not_mem_span (span : Span) : '\n' ∉ span.text.toList := by
  simp [Span.toList_text, not_mem_toDigits]

theorem OutlineLine.count_newline (line : OutlineLine) :
    line.chars.count '\n' = line.label.tag.toList.count '\n' := by
  have span := List.count_eq_zero.mpr (newline_not_mem_span line.label.span)
  have value : (line.value.elim [] fun value => ' ' :: (quoted value).toList).count '\n' = 0 := by
    cases line.value with
    | none => rfl
    | some value => simpa using List.count_eq_zero.mpr (newline_not_mem_quoted value)
  simp [chars, content, Label.toList_text, List.count_append, List.count_replicate, span, value]

theorem Node.count_newline (node : Node) :
    node.outline.toList.count '\n' =
      (node.subtrees.map fun inner => inner.tag.toList.count '\n' + 1).sum := by
  have whole : Forest.subtrees [node] = node.subtrees := List.append_nil _
  have tags : ∀ lines : List OutlineLine,
      (lines.map fun line => (line.chars ++ ['\n']).count '\n') =
        (lines.map OutlineLine.label).map fun label => label.tag.toList.count '\n' + 1 := by
    intro lines
    simp [OutlineLine.count_newline]
  rw [toList_outline, List.count_flatMap, Function.comp_def, tags, Forest.lines_label, whole,
    List.map_map]
  rfl

theorem Node.outline_getLast? (node : Node) : node.outline.toList.getLast? = some '\n' := by
  have nonempty : Forest.lines 0 [node] ≠ [] := by
    intro empty
    have labels := Forest.lines_label 0 [node]
    rw [empty] at labels
    cases node <;> simp at labels
  rw [toList_outline]
  rcases List.eq_nil_or_concat (Forest.lines 0 [node]) with empty | ⟨front, line, lines⟩
  · exact absurd empty nonempty
  · simp [lines]

/-- An outline ends with a line end and has one for each node, and besides those the ones in the tags:
it is one line per node just if no tag holds a line end. -/
theorem Node.outline_line_count (node : Node) :
    node.outline.toList.getLast? = some '\n' ∧
      node.outline.toList.count '\n' =
        node.subtrees.length + (node.subtrees.map fun inner => inner.tag.toList.count '\n').sum ∧
      (node.outline.toList.count '\n' = node.subtrees.length ↔
        ∀ inner ∈ node.subtrees, '\n' ∉ inner.tag.toList) := by
  have total : node.outline.toList.count '\n' =
      node.subtrees.length + (node.subtrees.map fun inner => inner.tag.toList.count '\n').sum := by
    rw [Node.count_newline, List.sum_map_add]
    simp [Nat.add_comm]
  refine ⟨node.outline_getLast?, total, ?_⟩
  rw [total, Nat.add_eq_left]
  simp [List.sum_eq_zero_iff, List.count_eq_zero]

def Specimen.brokenTag : Node := .leaf ⟨"A\nB", "", ⟨0, 1⟩, default⟩ "x\n"

/-- The line end in the value is escaped, the one in the tag is not. -/
theorem Node.outline_breaks_at_tag :
    Specimen.brokenTag.outline = "A\nB [0, 1) \"x\\n\"\n" ∧
      Specimen.brokenTag.outline.toList.count '\n' ≠ Specimen.brokenTag.subtrees.length := by
  decide

/-! ### Reading a line -/

section

variable {mark : Char} {front front' back back' : List Char}

theorem first_mark_inj (clean : mark ∉ front) (clean' : mark ∉ front')
    (same : front ++ mark :: back = front' ++ mark :: back') : front = front' ∧ back = back' := by
  rcases List.append_eq_append_iff.mp same with ⟨extra, rfl, rest⟩ | ⟨extra, rfl, rest⟩
  · cases extra with
    | nil => simpa using rest
    | cons c extra =>
      rw [List.cons_append, List.cons.injEq] at rest
      simp [← rest.1] at clean'
  · cases extra with
    | nil => simpa using rest.symm
    | cons c extra =>
      rw [List.cons_append, List.cons.injEq] at rest
      simp [← rest.1] at clean

theorem last_mark_inj (clean : mark ∉ back) (clean' : mark ∉ back')
    (same : front ++ mark :: back = front' ++ mark :: back') : front = front' ∧ back = back' := by
  have reversed := congrArg List.reverse same
  simp only [List.reverse_append, List.reverse_cons, List.append_assoc, List.cons_append,
    List.nil_append] at reversed
  have parts := first_mark_inj (by simpa using clean) (by simpa using clean') reversed
  rw [List.reverse_inj, List.reverse_inj] at parts
  exact parts.symm

end

theorem toDigits_inj {m n : Nat} (same : Nat.toDigits 10 m = Nat.toDigits 10 n) : m = n := by
  have values := congrArg (fun digits => Nat.ofDigitChars 10 digits 0) same
  simpa only [Nat.ofDigitChars_ten_toDigits] using values

/-- The last bracket of a label opens its span. -/
theorem Label.text_inj {first second : Label}
    (same : first.text.toList = second.text.toList) : first = second := by
  obtain ⟨tag, start, stop⟩ := first
  obtain ⟨tag', start', stop'⟩ := second
  have noBracket : ∀ a b : Nat,
      '[' ∉ Nat.toDigits 10 a ++ ',' :: ' ' :: (Nat.toDigits 10 b ++ [')']) := by
    intro a b
    simp [not_mem_toDigits]
  have bracket : (tag.toList ++ [' ']) ++ '[' ::
        (Nat.toDigits 10 start ++ ',' :: ' ' :: (Nat.toDigits 10 stop ++ [')'])) =
      (tag'.toList ++ [' ']) ++ '[' ::
        (Nat.toDigits 10 start' ++ ',' :: ' ' :: (Nat.toDigits 10 stop' ++ [')'])) := by
    simpa [Label.toList_text, Span.toList_text] using same
  obtain ⟨tags, ends⟩ := last_mark_inj (noBracket _ _) (noBracket _ _) bracket
  obtain ⟨starts, stops⟩ := first_mark_inj (not_mem_toDigits rfl _) (not_mem_toDigits rfl _) ends
  rw [List.append_cancel_right_eq, String.toList_inj] at tags
  rw [List.cons.injEq, List.append_cancel_right_eq] at stops
  rw [tags, toDigits_inj starts, toDigits_inj stops.2]

def blanksAhead (text : List Char) : Nat := (text.takeWhile (· = ' ')).length

theorem blanksAhead_replicate (n : Nat) (text : List Char) :
    blanksAhead (List.replicate n ' ' ++ text) = n + blanksAhead text := by
  have blank : ∀ c ∈ List.replicate n ' ', decide (c = ' ') = true := by
    intro c member
    simp [List.eq_of_mem_replicate member]
  rw [blanksAhead, List.takeWhile_append_of_pos blank, List.length_append, List.length_replicate]
  rfl

theorem blanksAhead_tag {tag : List Char} (plain : tag.head? ≠ some ' ') (rest : List Char) :
    blanksAhead (tag ++ ' ' :: '[' :: rest) ≤ 1 := by
  cases tag with
  | nil => simp [blanksAhead]
  | cons c tag =>
    have first : c ≠ ' ' := by simpa using plain
    simp [blanksAhead, first]

namespace OutlineLine

/-- The blanks in front of a line are two for each level, and one more if the tag is empty. -/
theorem depth_eq {first second : OutlineLine} (plain : first.label.tag.toList.head? ≠ some ' ')
    (plain' : second.label.tag.toList.head? ≠ some ' ') (same : first.chars = second.chars) :
    first.depth = second.depth := by
  have ahead : ∀ line : OutlineLine, line.label.tag.toList.head? ≠ some ' ' →
      2 * line.depth ≤ blanksAhead line.chars ∧ blanksAhead line.chars ≤ 2 * line.depth + 1 := by
    intro line plain
    have few : blanksAhead line.content ≤ 1 := by
      simp only [content, Label.toList_text, Span.toList_text, List.append_assoc, List.cons_append]
      exact blanksAhead_tag plain _
    rw [chars, blanksAhead_replicate]
    omega
  have one := ahead first plain
  have other := ahead second plain'
  rw [same] at one
  omega

theorem content_getLast? (line : OutlineLine) :
    line.content.getLast? = some (if line.value.isSome then '"' else ')') := by
  have closed : line.label.text.toList.getLast? = some ')' := by
    simp [Label.toList_text, Span.toList_text, List.getLast?_cons]
  rw [content]
  cases line.value with
  | none => simpa using closed
  | some value => simp [toList_quoted, List.getLast?_cons]

theorem content_inj {first second : OutlineLine} (same : first.content = second.content) :
    first.label = second.label ∧ first.value = second.value := by
  have lasts := congrArg List.getLast? same
  rw [content_getLast?, content_getLast?] at lasts
  unfold content at same
  cases one : first.value with
  | none =>
    cases other : second.value with
    | none => exact ⟨Label.text_inj (by simpa [one, other] using same), rfl⟩
    | some value => simp [one, other] at lasts
  | some value =>
    cases other : second.value with
    | none => simp [one, other] at lasts
    | some value' =>
      rw [one, other] at same
      obtain ⟨labels, values⟩ := append_quoted_inj.mp same
      exact ⟨Label.text_inj labels, congrArg some values⟩

theorem chars_inj {first second : OutlineLine} (plain : first.label.tag.toList.head? ≠ some ' ')
    (plain' : second.label.tag.toList.head? ≠ some ' ') (same : first.chars = second.chars) :
    first = second := by
  have depths := depth_eq plain plain' same
  rw [chars, chars, depths] at same
  obtain ⟨labels, values⟩ := content_inj (List.append_cancel_left same)
  obtain ⟨depth, label, value⟩ := first
  simp_all

end OutlineLine

/-- The tag holds no line end and does not begin with a blank. -/
def Tag.Plain (tag : String) : Prop := '\n' ∉ tag.toList ∧ tag.toList.head? ≠ some ' '

instance (tag : String) : Decidable (Tag.Plain tag) := inferInstanceAs (Decidable (_ ∧ _))

theorem lines_inj {first second : List OutlineLine}
    (plain : ∀ line ∈ first, Tag.Plain line.label.tag)
    (plain' : ∀ line ∈ second, Tag.Plain line.label.tag)
    (same : (first.flatMap fun line => line.chars ++ ['\n']) =
      second.flatMap fun line => line.chars ++ ['\n']) : first = second := by
  have clean : ∀ line : OutlineLine, Tag.Plain line.label.tag → '\n' ∉ line.chars := by
    intro line plain
    rw [← List.count_eq_zero, line.count_newline, List.count_eq_zero]
    exact plain.1
  induction first generalizing second with
  | nil =>
    cases second with
    | nil => rfl
    | cons line rest => simp at same
  | cons line rest ih =>
    cases second with
    | nil => simp at same
    | cons line' rest' =>
      obtain ⟨own, others⟩ := List.forall_mem_cons.mp plain
      obtain ⟨own', others'⟩ := List.forall_mem_cons.mp plain'
      simp only [List.flatMap_cons, List.append_assoc, List.singleton_append] at same
      obtain ⟨texts, later⟩ := first_mark_inj (clean line own) (clean line' own') same
      rw [OutlineLine.chars_inj own.2 own'.2 texts, ih others others' later]

/-! ### Recovering the tree -/

mutual

/-- The tree without raw text and locations. -/
def Node.sketch : Node → Node
  | .parent head children => .parent ⟨head.tag, "", head.span, default⟩ (Forest.sketch children)
  | .leaf head value => .leaf ⟨head.tag, "", head.span, default⟩ value

def Forest.sketch : List Node → List Node
  | [] => []
  | node :: rest => node.sketch :: Forest.sketch rest

end

namespace Forest

theorem lines_sketch (depth : Nat) (forest : List Node) :
    lines depth (sketch forest) = lines depth forest := by
  induction forest using Forest.induct generalizing depth with
  | nil => rfl
  | leaf head value rest ih => rw [sketch, Node.sketch, lines_leaf, lines_leaf, ih]
  | parent head children rest below ih =>
    rw [sketch, Node.sketch, lines_parent, lines_parent, below, ih]

/-- What may follow the lines of siblings: a line further up, or nothing. -/
def Returns (depth : Nat) (rest : List OutlineLine) : Prop := ∀ line ∈ rest.head?, line.depth < depth

theorem lines_depth (depth : Nat) (node : Node) (rest : List Node) :
    ∃ line lines', lines depth (node :: rest) = line :: lines' ∧ line.depth = depth := by
  cases node with
  | leaf head value => exact ⟨_, _, lines_leaf .., rfl⟩
  | parent head children => exact ⟨_, _, lines_parent .., rfl⟩

theorem Returns.after {depth : Nat} {rest : List OutlineLine} (returns : Returns depth rest)
    (forest : List Node) : Returns (depth + 1) (lines depth forest ++ rest) := by
  intro line first
  cases forest with
  | nil =>
    have above := returns line first
    omega
  | cons node others =>
    obtain ⟨own, _, shown, level⟩ := lines_depth depth node others
    rw [shown, List.cons_append, List.head?_cons, Option.mem_some_iff] at first
    rw [← first]
    omega

theorem Returns.ne {depth : Nat} {rest : List OutlineLine} (returns : Returns depth rest)
    (node : Node) (forest : List Node) (more : List OutlineLine) :
    rest ≠ lines depth (node :: forest) ++ more := by
  rintro rfl
  obtain ⟨line, _, shown, level⟩ := lines_depth depth node forest
  have above := returns line (by simp [shown])
  omega

/-- The siblings end where the depth falls below theirs. -/
theorem sketch_of_lines {depth : Nat} {first second : List Node} {rest rest' : List OutlineLine}
    (returns : Returns depth rest) (returns' : Returns depth rest')
    (same : lines depth first ++ rest = lines depth second ++ rest') :
    sketch first = sketch second ∧ rest = rest' := by
  induction first using Forest.induct generalizing depth second rest rest' with
  | nil =>
    cases second with
    | nil => exact ⟨rfl, same⟩
    | cons node others => exact absurd same (returns.ne node others rest')
  | leaf head value others ih =>
    cases second with
    | nil => exact absurd same.symm (returns'.ne _ others rest)
    | cons node others' =>
      cases node with
      | parent head' children' => simp [lines_leaf, lines_parent] at same
      | leaf head' value' =>
        simp only [lines_leaf, List.cons_append, List.cons.injEq, OutlineLine.mk.injEq,
          Label.mk.injEq, Option.some.injEq, true_and] at same
        obtain ⟨⟨⟨tags, spans⟩, values⟩, later⟩ := same
        obtain ⟨sketches, rests⟩ := ih returns returns' later
        exact ⟨by simp [sketch, Node.sketch, tags, spans, values, sketches], rests⟩
  | parent head children others below ih =>
    cases second with
    | nil => exact absurd same.symm (returns'.ne _ others rest)
    | cons node others' =>
      cases node with
      | leaf head' value' => simp [lines_leaf, lines_parent] at same
      | parent head' children' =>
        simp only [lines_parent, List.cons_append, List.append_assoc, List.cons.injEq,
          OutlineLine.mk.injEq, Label.mk.injEq, true_and, and_true] at same
        obtain ⟨⟨tags, spans⟩, later⟩ := same
        obtain ⟨inner, later⟩ := below (returns.after others) (returns'.after others') later
        obtain ⟨sketches, rests⟩ := ih returns returns' later
        exact ⟨by simp [sketch, Node.sketch, tags, spans, inner, sketches], rests⟩

end Forest

/-- The outline keeps all of a tree but raw texts and locations: shape, tags, spans and values. -/
theorem Node.outline_eq_iff (first second : Node)
    (plain : ∀ node ∈ first.subtrees, Tag.Plain node.tag)
    (plain' : ∀ node ∈ second.subtrees, Tag.Plain node.tag) :
    first.outline = second.outline ↔ first.sketch = second.sketch := by
  have tags : ∀ node : Node, (∀ inner ∈ node.subtrees, Tag.Plain inner.tag) →
      ∀ line ∈ Forest.lines 0 [node], Tag.Plain line.label.tag := by
    intro node plain line member
    have label : line.label ∈ (Forest.lines 0 [node]).map OutlineLine.label :=
      List.mem_map_of_mem member
    have whole : Forest.subtrees [node] = node.subtrees := List.append_nil _
    rw [Forest.lines_label, whole] at label
    obtain ⟨inner, inside, same⟩ := List.mem_map.mp label
    rw [← same]
    exact plain inner inside
  constructor
  · intro same
    have texts := congrArg String.toList same
    rw [toList_outline, toList_outline] at texts
    have lines := lines_inj (tags first plain) (tags second plain') texts
    have ended : Forest.Returns 0 [] := by simp [Forest.Returns]
    have sketches := (Forest.sketch_of_lines ended ended (by simpa using lines)).1
    simpa [Forest.sketch] using sketches
  · intro same
    have drawn : ∀ node : Node, Forest.lines 0 [node] = Forest.lines 0 [node.sketch] :=
      fun node => (Forest.lines_sketch 0 [node]).symm
    rw [← String.toList_inj, toList_outline, toList_outline, drawn first, drawn second, same]

namespace Specimen

/-- Its outline is `A [0, 4) "\" [0, 4) \""`. -/
def quotingValue : Node := .leaf (head "A" "A%B\n" 0 4) "\" [0, 4) \""

/-- Its outline is `A [0, 4) "\" [0, 4) ""`. -/
def quotingTag : Node := .leaf (head "A [0, 4) \"\\\"" "" 0 4) ""

def outlined : Node := .parent root (children [innerLeaf] [])

end Specimen

theorem Node.outline_eq_iff_lookalike :
    (∀ node ∈ Specimen.quotingValue.subtrees, Tag.Plain node.tag) ∧
      (∀ node ∈ Specimen.quotingTag.subtrees, Tag.Plain node.tag) ∧
      Specimen.quotingValue.outline ≠ Specimen.quotingTag.outline ∧
      Specimen.outlined ≠ Specimen.outlined.sketch ∧
      Specimen.outlined.outline = Specimen.outlined.sketch.outline := by
  have plain : ∀ node ∈ Specimen.quotingValue.subtrees, Tag.Plain node.tag := by decide
  have plain' : ∀ node ∈ Specimen.quotingTag.subtrees, Tag.Plain node.tag := by decide
  refine ⟨plain, plain', ?_, by decide, ?_⟩
  · intro same
    have sketches := (outline_eq_iff Specimen.quotingValue Specimen.quotingTag plain plain').mp same
    exact absurd sketches (by decide)
  · exact (outline_eq_iff Specimen.outlined Specimen.outlined.sketch (by decide) (by decide)).mpr rfl

end LatexTree
