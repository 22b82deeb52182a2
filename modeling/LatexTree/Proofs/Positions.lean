import LatexTree.Proofs.Slicing
import LatexTree.Text.Split

/-! Positions and offsets.

A text is a row of lines, all but the last of them ended by a newline. An offset stands in the first
line, or it stands in the text after that line, at an offset that is less by what has been passed.
Positions follow this rule, and each of their properties is proved by induction on it. -/
namespace LatexTree

theorem unitLength_newline (rest : List Char) : unitLength ('\n' :: rest) = 1 + unitLength rest := rfl

theorem lineStartsFrom_newline (base : Nat) (rest : List Char) :
    lineStartsFrom base ('\n' :: rest) = (base + 1) :: lineStartsFrom (base + 1) rest := rfl

theorem lineStartsFrom_clean (base : Nat) {line : List Char} (clean : '\n' ∉ line) (rest : List Char) :
    lineStartsFrom base (line ++ rest) = lineStartsFrom (base + unitLength line) rest := by
  induction line generalizing base with
  | nil => rfl
  | cons c line ih =>
    obtain ⟨other, clean⟩ := List.ne_and_not_mem_of_not_mem_cons clean
    rw [List.cons_append, lineStartsFrom, if_neg (Ne.symm other), ih _ clean, unitLength_cons,
      Nat.add_assoc]

theorem lineStartsFrom_shift (base shift : Nat) (chars : List Char) :
    lineStartsFrom (base + shift) chars = (lineStartsFrom base chars).map (· + shift) := by
  induction chars generalizing base with
  | nil => rfl
  | cons c rest ih =>
    have later := ih (base + unitWidth c)
    rw [Nat.add_right_comm] at later
    rw [lineStartsFrom, lineStartsFrom, later]
    split
    · rw [List.map_cons, Nat.add_right_comm]
    · rfl

theorem lt_of_mem_lineStartsFrom {base start : Nat} {chars : List Char}
    (member : start ∈ lineStartsFrom base chars) : base < start := by
  induction chars generalizing base with
  | nil => simp [lineStartsFrom] at member
  | cons c rest ih =>
    have positive := unitWidth_pos c
    have beyond (found : start ∈ lineStartsFrom (base + unitWidth c) rest) : base < start :=
      Nat.lt_of_le_of_lt (Nat.le_add_right ..) (ih found)
    rw [lineStartsFrom] at member
    split at member
    · rcases List.mem_cons.mp member with rfl | found
      · omega
      · exact beyond found
    · exact beyond member

/-- Where an offset stands in a text. -/
inductive Stands : List Char → Nat → Position → Prop
  | first (line rest : List Char) (offset : Nat) (clean : '\n' ∉ line)
      (reached : offset ≤ unitLength line ∨ rest = []) : Stands (line ++ rest) offset ⟨1, offset⟩
  | later (line rest : List Char) (offset : Nat) (position : Position) (clean : '\n' ∉ line)
      (stands : Stands rest offset position) :
      Stands (line ++ '\n' :: rest) (unitLength line + 1 + offset)
        ⟨position.line + 1, position.column⟩

/-! ### Searching the line starts -/

theorem lastReached_first {number first : Nat} {rest : List Nat} (reached : first ≤ number)
    (ahead : ∀ entry ∈ rest, number < entry) : lastReached number (first :: rest) = 0 := by
  have unmet : search number rest = .error 0 := by
    cases rest with
    | nil => rfl
    | cons next others =>
      have beyond := ahead next List.mem_cons_self
      rw [search, if_neg (Nat.lt_asymm beyond), if_neg (Nat.ne_of_gt beyond)]
  rcases Nat.lt_or_eq_of_le reached with passed | rfl
  · rw [lastReached, search, if_pos passed, unmet]
  · rw [lastReached, search, if_neg (Nat.lt_irrefl first), if_pos rfl]

theorem lastReached_later {number first second : Nat} (inOrder : first < second)
    (reached : second ≤ number) (rest : List Nat) :
    lastReached number (first :: second :: rest) = lastReached number (second :: rest) + 1 := by
  rw [lastReached, search, if_pos (Nat.lt_of_lt_of_le inOrder reached), lastReached, search]
  rcases Nat.lt_or_eq_of_le reached with passed | rfl
  · rw [if_pos passed]
    cases search number rest with
    | ok index => rfl
    | error place => rfl
  · rw [if_neg (Nat.lt_irrefl second), if_pos rfl]

theorem search_shift (number shift : Nat) (table : List Nat) :
    search (number + shift) (table.map (· + shift)) = search number table := by
  induction table with
  | nil => rfl
  | cons entry rest ih =>
    simp only [List.map_cons, search, ih, Nat.add_lt_add_iff_right, Nat.add_right_cancel_iff]

theorem lastReached_shift (number shift : Nat) (table : List Nat) :
    lastReached (number + shift) (table.map (· + shift)) = lastReached number table := by
  rw [lastReached, search_shift]
  rfl

theorem search_le (number : Nat) (table : List Nat) :
    match search number table with
    | .ok index => index < table.length
    | .error place => place ≤ table.length := by
  induction table with
  | nil => exact Nat.le_refl 0
  | cons entry rest ih =>
    rw [search]
    by_cases passed : entry < number
    · rw [if_pos passed]
      cases found : search number rest with
      | ok index | error place =>
        rw [found] at ih
        exact Nat.succ_le_succ ih
    · rw [if_neg passed]
      by_cases met : entry = number
      · rw [if_pos met]
        exact Nat.zero_lt_succ _
      · rw [if_neg met]
        exact Nat.zero_le _

theorem lastReached_lt (number first : Nat) (rest : List Nat) :
    lastReached number (first :: rest) < (first :: rest).length := by
  have bound := search_le number (first :: rest)
  rw [lastReached]
  cases found : search number (first :: rest) with
  | ok index =>
    rw [found] at bound
    exact bound
  | error place =>
    rw [found] at bound
    exact Nat.lt_of_le_of_lt (Nat.sub_le_sub_right bound 1) (Nat.lt_succ_self _)

theorem position_first {line rest : List Char} {offset : Nat} (clean : '\n' ∉ line)
    (reached : offset ≤ unitLength line ∨ rest = []) :
    Source.position ⟨line ++ rest⟩ offset = ⟨1, offset⟩ := by
  have ahead : ∀ start ∈ lineStartsFrom 0 (line ++ rest), offset < start := by
    rw [lineStartsFrom_clean 0 clean, Nat.zero_add]
    intro start member
    rcases reached with within | rfl
    · exact Nat.lt_of_le_of_lt within (lt_of_mem_lineStartsFrom member)
    · simp [lineStartsFrom] at member
  rw [Source.position, Source.lineStarts, lastReached_first (Nat.zero_le offset) ahead]
  rfl

theorem position_later {line : List Char} (clean : '\n' ∉ line) (rest : List Char) (offset : Nat) :
    Source.position ⟨line ++ '\n' :: rest⟩ (unitLength line + 1 + offset) =
      ⟨(Source.position ⟨rest⟩ offset).line + 1, (Source.position ⟨rest⟩ offset).column⟩ := by
  generalize size : unitLength line + 1 = shift
  -- The lines after the first start where those of the rest do, later by what has been passed.
  have starts : Source.lineStarts ⟨line ++ '\n' :: rest⟩ =
      0 :: (Source.lineStarts ⟨rest⟩).map (· + shift) := by
    rw [Source.lineStarts, Source.lineStarts, lineStartsFrom_clean 0 clean, lineStartsFrom_newline,
      Nat.zero_add, size, List.map_cons, ← lineStartsFrom_shift, Nat.zero_add]
  have reached : lastReached (offset + shift) (0 :: (Source.lineStarts ⟨rest⟩).map (· + shift)) =
      lastReached offset (Source.lineStarts ⟨rest⟩) + 1 := by
    have positive : 0 < 0 + shift := by omega
    rw [← lastReached_shift offset shift, Source.lineStarts, List.map_cons,
      lastReached_later positive (by omega)]
  have within : lastReached offset (Source.lineStarts ⟨rest⟩) < (Source.lineStarts ⟨rest⟩).length :=
    lastReached_lt offset 0 _
  have start : ((Source.lineStarts ⟨rest⟩).map (· + shift)).getD
      (lastReached offset (Source.lineStarts ⟨rest⟩)) 0 =
        (Source.lineStarts ⟨rest⟩).getD (lastReached offset (Source.lineStarts ⟨rest⟩)) 0 + shift := by
    rw [List.getD_eq_getElem?_getD, List.getElem?_map, List.getD_eq_getElem?_getD,
      List.getElem?_eq_getElem within]
    rfl
  rw [Source.position, starts, Nat.add_comm shift offset, reached, List.getD_cons_succ, start,
    Nat.add_sub_add_right]
  rfl

/-- Every text is a line without a newline, or a line and its newline before another text. -/
theorem lines_induct {motive : List Char → Prop} (last : ∀ line, '\n' ∉ line → motive line)
    (more : ∀ line rest, '\n' ∉ line → motive rest → motive (line ++ '\n' :: rest))
    (chars : List Char) : motive chars := by
  by_cases ended : '\n' ∈ chars
  · obtain ⟨line, rest, whole, clean⟩ := List.eq_append_cons_of_mem ended
    have shorter : rest.length < chars.length := by
      rw [whole, List.length_append, List.length_cons]
      omega
    rw [whole]
    exact more line rest clean (lines_induct last more rest)
  · exact last chars ended
termination_by chars.length

theorem stands_position (chars : List Char) (offset : Nat) :
    Stands chars offset (Source.position ⟨chars⟩ offset) := by
  induction chars using lines_induct generalizing offset with
  | last line clean =>
    have alone := Stands.first line [] offset clean (.inr rfl)
    rw [← position_first clean (.inr rfl), List.append_nil] at alone
    exact alone
  | more line rest clean ih =>
    rcases Nat.lt_or_ge (unitLength line) offset with beyond | within
    · obtain ⟨offset, rfl⟩ := Nat.exists_eq_add_of_le (Nat.succ_le_of_lt beyond)
      rw [position_later clean]
      exact .later line rest offset _ clean (ih offset)
    · rw [position_first clean (.inl within)]
      exact .first line _ offset clean (.inl within)

/-! ### Newlines passed -/

/-- How many newlines there are that end at or before the offset. -/
def newlinesBy (chars : List Char) (offset : Nat) : Nat :=
  (List.range chars.length).countP fun i =>
    chars[i]? = some '\n' ∧ (utf16 (chars.take (i + 1))).length ≤ offset

theorem newlinesBy_short {c : Char} {offset : Nat} (short : offset < unitWidth c)
    (rest : List Char) : newlinesBy (c :: rest) offset = 0 := by
  rw [newlinesBy, List.countP_eq_zero]
  intro i _ counted
  obtain ⟨-, ends⟩ := of_decide_eq_true counted
  rw [List.take_succ_cons, length_utf16, unitLength_cons] at ends
  omega

theorem newlinesBy_cons (c : Char) (rest : List Char) (offset : Nat) :
    newlinesBy (c :: rest) (unitWidth c + offset) =
      (if c = '\n' then 1 else 0) + newlinesBy rest offset := by
  have ends (i : Nat) : (utf16 (List.take (i + 1) (c :: rest))).length ≤ unitWidth c + offset ↔
      (utf16 (rest.take i)).length ≤ offset := by
    rw [List.take_succ_cons, length_utf16, length_utf16, unitLength_cons]
    omega
  have own : (utf16 (rest.take 0)).length ≤ offset := Nat.zero_le offset
  rw [newlinesBy, List.length_cons, List.range_succ_eq_map, List.countP_cons, List.countP_map]
  simp only [Function.comp_def, ends, own, Nat.succ_eq_add_one, List.getElem?_cons_zero,
    List.getElem?_cons_succ, Option.some.injEq, and_true, decide_eq_true_eq]
  exact Nat.add_comm ..

theorem newlinesBy_first {line rest : List Char} {offset : Nat} (clean : '\n' ∉ line)
    (reached : offset ≤ unitLength line ∨ rest = []) : newlinesBy (line ++ rest) offset = 0 := by
  induction line generalizing offset with
  | nil =>
    cases rest with
    | nil => rfl
    | cons c rest =>
      have start : offset ≤ 0 := by simpa using reached
      exact newlinesBy_short (Nat.lt_of_le_of_lt start (unitWidth_pos c)) rest
  | cons c line ih =>
    obtain ⟨other, clean⟩ := List.ne_and_not_mem_of_not_mem_cons clean
    rcases Nat.lt_or_ge offset (unitWidth c) with short | fits
    · exact newlinesBy_short short _
    · obtain ⟨offset, rfl⟩ := Nat.exists_eq_add_of_le fits
      rw [unitLength_cons, Nat.add_le_add_iff_left] at reached
      rw [List.cons_append, newlinesBy_cons, if_neg (Ne.symm other), ih clean reached]

theorem newlinesBy_later {line : List Char} (clean : '\n' ∉ line) (rest : List Char) (offset : Nat) :
    newlinesBy (line ++ '\n' :: rest) (unitLength line + 1 + offset) = 1 + newlinesBy rest offset := by
  induction line with
  | nil => exact newlinesBy_cons '\n' rest offset
  | cons c line ih =>
    obtain ⟨other, clean⟩ := List.ne_and_not_mem_of_not_mem_cons clean
    rw [List.cons_append, unitLength_cons, Nat.add_assoc, Nat.add_assoc, newlinesBy_cons,
      if_neg (Ne.symm other), ← Nat.add_assoc (unitLength line), ih clean, Nat.zero_add]

theorem newlinesBy_mono (chars : List Char) {earlier later : Nat} (inOrder : earlier ≤ later) :
    newlinesBy chars earlier ≤ newlinesBy chars later := by
  apply List.countP_mono_left
  intro i _ counted
  obtain ⟨newline, ends⟩ := of_decide_eq_true counted
  exact decide_eq_true ⟨newline, Nat.le_trans ends inOrder⟩

/-! ### Starts of lines -/

/-- Where a line starts: after all the lines before it and their newlines. -/
def lineStart (chars : List Char) (line : Nat) : Nat :=
  (utf16 (((splitAt '\n' chars).take (line - 1)).flatMap (· ++ ['\n']))).length

/-- What follows the last newline. -/
def lastLine (chars : List Char) : List Char := (splitAt '\n' chars).getLastD []

theorem lastLine_clean {line : List Char} (clean : '\n' ∉ line) : lastLine line = line := by
  rw [lastLine, splitAt_clean clean]
  rfl

theorem lastLine_newline {line : List Char} (clean : '\n' ∉ line) (rest : List Char) :
    lastLine (line ++ '\n' :: rest) = lastLine rest := by
  rw [lastLine, lastLine, splitAt_mark clean, List.getLastD_cons]
  cases parts : splitAt '\n' rest with
  | nil => exact absurd parts (splitAt_ne_nil '\n' rest)
  | cons part others => rfl

theorem lineStart_later {line : List Char} (clean : '\n' ∉ line) (rest : List Char) {number : Nat}
    (positive : 0 < number) :
    lineStart (line ++ '\n' :: rest) (number + 1) = unitLength line + 1 + lineStart rest number := by
  obtain ⟨number, rfl⟩ := Nat.exists_eq_succ_of_ne_zero (Nat.ne_of_gt positive)
  simp only [lineStart, splitAt_mark clean, length_utf16, Nat.succ_eq_add_one, Nat.add_sub_cancel,
    List.take_succ_cons, List.flatMap_cons, unitLength_append, unitLength_newline, unitLength_nil]

namespace Stands

variable {chars : List Char} {offset : Nat} {position : Position}

theorem line_eq (stands : Stands chars offset position) :
    position.line = 1 + newlinesBy chars offset := by
  induction stands with
  | first line rest offset clean reached => rw [newlinesBy_first clean reached]
  | later line rest offset position clean stands ih =>
    rw [newlinesBy_later clean, ← ih]
    exact Nat.add_comm ..

theorem start_add_column (stands : Stands chars offset position) :
    lineStart chars position.line + position.column = offset := by
  induction stands with
  | first line rest offset clean reached => exact Nat.zero_add offset
  | later line rest offset position clean stands ih =>
    have counted := stands.line_eq
    rw [lineStart_later clean rest (by omega), Nat.add_assoc, ih]

theorem of_cut (stands : Stands chars offset position) {front back : List Char}
    (cut : CutsAt chars offset front back) :
    position.line = front.count '\n' + 1 ∧
      position.column = unitLength (lastLine front) := by
  induction stands generalizing front with
  | first line rest offset clean reached =>
    have inside : ∃ others, line = front ++ others := by
      rcases reached with within | rfl
      · have ends : CutsAt (line ++ rest) (unitLength line) line rest := ⟨rfl, rfl⟩
        obtain ⟨middle, whole, -⟩ := cut.between ends within
        exact ⟨middle, whole⟩
      · exact ⟨back, by rw [← cut.whole, List.append_nil]⟩
    obtain ⟨others, rfl⟩ := inside
    have clean : '\n' ∉ front := fun member => clean (List.mem_append_left _ member)
    rw [lastLine_clean clean, List.count_eq_zero.mpr clean]
    exact ⟨rfl, cut.size.symm⟩
  | later line rest offset position clean stands ih =>
    have passed : CutsAt (line ++ '\n' :: rest) (unitLength line + 1) (line ++ ['\n']) rest :=
      ⟨by simp, unitLength_append line ['\n']⟩
    obtain ⟨middle, rfl, rfl⟩ := passed.between cut (Nat.le_add_right ..)
    have size := cut.size
    rw [unitLength_append, passed.size] at size
    obtain ⟨lines, column⟩ := ih ⟨rfl, Nat.add_left_cancel size⟩
    have count : (line ++ ['\n'] ++ middle).count '\n' = middle.count '\n' + 1 := by
      rw [List.count_append, List.count_append, List.count_eq_zero.mpr clean]
      exact Nat.add_comm ..
    rw [count, List.append_assoc, List.singleton_append, lastLine_newline clean]
    exact ⟨congrArg (· + 1) lines, column⟩

end Stands

theorem Position.lt_asymm {first second : Position} (ahead : first < second) : ¬ second < first := by
  intro behind
  rcases ahead with ahead | ⟨same, ahead⟩
  · rcases behind with behind | ⟨same, -⟩
    · omega
    · omega
  · rcases behind with behind | ⟨-, behind⟩
    · omega
    · omega

namespace Source

theorem stands (source : Source) (offset : Nat) :
    Stands source.chars offset (source.position offset) :=
  stands_position source.chars offset

theorem position_lt (source : Source) {earlier later : Nat} (inOrder : earlier < later) :
    source.position earlier < source.position later := by
  have early := source.stands earlier
  have late := source.stands later
  have lines : (source.position earlier).line ≤ (source.position later).line := by
    rw [early.line_eq, late.line_eq]
    exact Nat.add_le_add_left (newlinesBy_mono _ (Nat.le_of_lt inOrder)) 1
  rcases Nat.lt_or_eq_of_le lines with ahead | same
  · exact .inl ahead
  · -- On one line both columns count from the same start.
    have start := early.start_add_column
    have start' := late.start_add_column
    rw [same] at start
    exact .inr ⟨same, by omega⟩

theorem location_inverted (source : Source) (span : Span) :
    (source.location span).Inverted ↔ span.Inverted := by
  constructor
  · intro inverted
    rcases Nat.lt_trichotomy span.stop span.start with backward | same | forward
    · exact backward
    · have still : source.position span.stop < source.position span.start := inverted
      rw [same] at still
      exact absurd still (Position.lt_asymm still)
    · exact absurd inverted (Position.lt_asymm (source.position_lt forward))
  · exact source.position_lt

theorem position_boundary (source : Source) {offset : Nat}
    (within : offset ≤ (utf16 source.chars).length)
    (whole : ¬ SplitsPair (utf16 source.chars) offset) :
    ∃ slice, source.slice ⟨0, offset⟩ = some slice ∧
      (source.position offset).line = slice.toList.count '\n' + 1 ∧
      (source.position offset).column = (utf16 (lastLine slice.toList)).length := by
  obtain ⟨front, back, cut⟩ := (exists_cut_iff _ _).mpr ⟨within, whole⟩
  obtain ⟨line, column⟩ := (source.stands offset).of_cut cut
  refine ⟨String.ofList front, ?_, ?_⟩
  · rw [slice_eq_some, String.toList_ofList]
    exact ⟨[], back, CutsAt.zero_iff.mpr ⟨rfl, cut.whole.symm⟩, cut⟩
  · rw [String.toList_ofList, length_utf16]
    exact ⟨line, column⟩

/-- Positions and offsets are two views of one text. The line of an offset counts the newlines that end
at or before it, the column counts from the start of that line, and both together give the offset back,
also past the end. A later offset has a later position. Where the offset cuts the text, line and column
can be read off what lies before it. So a location is inverted exactly if the span is. -/
theorem position_exact (source : Source) :
    (∀ offset : Nat,
      (source.position offset).line = 1 + newlinesBy source.chars offset ∧
      lineStart source.chars (source.position offset).line ≤ offset ∧
      (source.position offset).column =
        offset - lineStart source.chars (source.position offset).line ∧
      lineStart source.chars (source.position offset).line + (source.position offset).column =
        offset) ∧
    (∀ earlier later : Nat, earlier < later →
      source.position earlier < source.position later) ∧
    (∀ offset : Nat, offset ≤ (utf16 source.chars).length →
      ¬ SplitsPair (utf16 source.chars) offset →
        ∃ slice, source.slice ⟨0, offset⟩ = some slice ∧
          (source.position offset).line = slice.toList.count '\n' + 1 ∧
          (source.position offset).column = (utf16 (lastLine slice.toList)).length) ∧
    ∀ span : Span, (source.location span).Inverted ↔ span.Inverted := by
  refine ⟨?_, fun _ _ => source.position_lt, fun _ => source.position_boundary,
    source.location_inverted⟩
  intro offset
  have counted := (source.stands offset).line_eq
  have start := (source.stands offset).start_add_column
  exact ⟨counted, by omega, by omega, start⟩

-- The newline itself stands on the line that it ends; past the end columns go on counting.
example : Source.position ⟨['😀', '\n', 'b']⟩ 2 = ⟨1, 2⟩ ∧ Source.position ⟨['😀', '\n', 'b']⟩ 3 = ⟨2, 0⟩ ∧
    Source.position ⟨['😀', '\n', 'b']⟩ 9 = ⟨2, 6⟩ := by decide

end Source

end LatexTree
