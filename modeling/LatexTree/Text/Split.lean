/-! Texts cut at every occurrence of a mark. -/
namespace LatexTree

/-- The parts between the marks, empty ones kept. -/
def splitAt (mark : Char) : List Char → List (List Char)
  | [] => [[]]
  | c :: rest =>
    if c = mark then [] :: splitAt mark rest
    else match splitAt mark rest with
      | part :: parts => (c :: part) :: parts
      | [] => [[c]]

theorem splitAt_clean {mark : Char} {part : List Char} (clean : mark ∉ part) :
    splitAt mark part = [part] := by
  induction part with
  | nil => rfl
  | cons c part ih =>
    obtain ⟨other, clean⟩ := List.ne_and_not_mem_of_not_mem_cons clean
    rw [splitAt, if_neg (Ne.symm other), ih clean]

theorem splitAt_mark {mark : Char} {part : List Char} (clean : mark ∉ part) (rest : List Char) :
    splitAt mark (part ++ mark :: rest) = part :: splitAt mark rest := by
  induction part with
  | nil => rw [List.nil_append, splitAt, if_pos rfl]
  | cons c part ih =>
    obtain ⟨other, clean⟩ := List.ne_and_not_mem_of_not_mem_cons clean
    rw [List.cons_append, splitAt, if_neg (Ne.symm other), ih clean]

theorem splitAt_ne_nil (mark : Char) (chars : List Char) : splitAt mark chars ≠ [] := by
  cases chars with
  | nil => exact nofun
  | cons c rest =>
    rw [splitAt]
    split
    · exact nofun
    · split
      · exact nofun
      · exact nofun

def parts (mark : Char) (text : String) : List String :=
  (splitAt mark text.toList).map String.ofList

end LatexTree
