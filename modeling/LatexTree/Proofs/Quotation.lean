import LatexTree.Text.Quoted
import Mathlib.Data.List.Chain

/-! Quoted text can be read back.

An escape ends where its first characters say, so that a row of escapes falls apart in one way only.
No escape holds a line end, and a quotation mark stands in an escape only behind a backslash, so that
a quotation is found from its end as well. -/
namespace LatexTree

/-! ### Hexadecimal digits -/

theorem exists_digitChar_of_mem {n : Nat} {c : Char} (member : c ∈ Nat.toDigits 16 n) :
    ∃ digit < 16, c = Nat.digitChar digit := by
  induction n using Nat.strongRecOn with
  | ind n ih =>
    by_cases small : n < 16
    · rw [Nat.toDigits_of_lt_base small, List.mem_singleton] at member
      exact ⟨n, small, member⟩
    · rw [Nat.toDigits_of_base_le (by decide) (by omega), List.mem_append] at member
      rcases member with member | member
      · exact ih (n / 16) (by omega) member
      · exact ⟨n % 16, by omega, List.mem_singleton.mp member⟩

def hexValue (c : Char) : Nat :=
  if c.isDigit then c.toNat - '0'.toNat else c.toNat - 'a'.toNat + 10

def hexNumber (digits : List Char) : Nat := digits.foldl (fun n c => 16 * n + hexValue c) 0

theorem hexValue_digitChar : ∀ digit < 16, hexValue (Nat.digitChar digit) = digit := by decide

theorem hexNumber_toDigits (n : Nat) : hexNumber (Nat.toDigits 16 n) = n := by
  induction n using Nat.strongRecOn with
  | ind n ih =>
    by_cases small : n < 16
    · rw [Nat.toDigits_of_lt_base small]
      simpa [hexNumber] using hexValue_digitChar n small
    · have earlier := ih (n / 16) (by omega)
      have last := hexValue_digitChar (n % 16) (by omega)
      unfold hexNumber at earlier ⊢
      rw [Nat.toDigits_of_base_le (by decide) (by omega), List.foldl_append, earlier, List.foldl_cons,
        List.foldl_nil, last]
      omega

theorem not_mem_codePoint {mark : Char}
    (foreign : mark ∉ ['\\', 'u', '\x7b', '\x7d'] ∧ ∀ digit < 16, mark ≠ Nat.digitChar digit)
    (c : Char) : mark ∉ codePoint c := by
  intro member
  simp only [List.mem_cons, List.not_mem_nil, or_false, not_or] at foreign
  simp only [codePoint, List.mem_append, List.mem_cons, List.not_mem_nil, or_false] at member
  rcases member with (opening | digit) | closing
  · exact absurd opening (by simp [foreign])
  · obtain ⟨digit, small, same⟩ := exists_digitChar_of_mem digit
    exact foreign.2 digit small same
  · exact foreign.1.2.2.2 closing

/-! ### Reading escapes -/

/-- The characters that are escaped by a mark of their own. -/
def escapeMarks : List (Char × Char) :=
  [('"', '"'), ('\\', '\\'), ('\x00', '0'), ('\t', 't'), ('\r', 'r'), ('\n', 'n')]

def unmarked (mark : Char) : Char :=
  ((escapeMarks.find? fun entry => entry.2 = mark).map Prod.fst).getD mark

theorem escapeMarks_sound :
    ∀ entry ∈ escapeMarks, unmarked entry.2 = entry.1 ∧ entry.2 ≠ 'u' ∧ entry.2 ≠ '\n' := by decide

theorem escaped_cases (c : Char) :
    (∃ mark, (c, mark) ∈ escapeMarks ∧ escaped c = ['\\', mark]) ∨ escaped c = codePoint c ∨
      (c ≠ '"' ∧ c ≠ '\\' ∧ c ≠ '\n') ∧ escaped c = [c] := by
  unfold escaped
  split_ifs <;> simp_all [escapeMarks]

/-- The character whose escape stands first, and what follows the escape. -/
def unescape : List Char → Option (Char × List Char)
  | '\\' :: 'u' :: '\x7b' :: rest =>
    some (Char.ofNat (hexNumber (rest.takeWhile (· ≠ '\x7d'))), (rest.dropWhile (· ≠ '\x7d')).tail)
  | '\\' :: mark :: rest => some (unmarked mark, rest)
  | c :: rest => some (c, rest)
  | [] => none

theorem unescape_codePoint (c : Char) (rest : List Char) :
    unescape (codePoint c ++ rest) = some (c, rest) := by
  have digits : ∀ d ∈ Nat.toDigits 16 c.toNat, decide (d ≠ '\x7d') = true := by
    intro d member
    obtain ⟨digit, small, rfl⟩ := exists_digitChar_of_mem member
    clear member
    revert digit
    decide
  simp only [codePoint, List.cons_append, List.nil_append, List.append_assoc, unescape]
  rw [List.takeWhile_append_of_pos digits, List.dropWhile_append_of_pos digits]
  simp [hexNumber_toDigits]

theorem unescape_escaped (c : Char) (rest : List Char) :
    unescape (escaped c ++ rest) = some (c, rest) := by
  rcases escaped_cases c with ⟨mark, entry, marked⟩ | coded | ⟨plain, same⟩
  · obtain ⟨read, other, _⟩ := escapeMarks_sound _ entry
    rw [marked]
    simpa [unescape, other] using read
  · rw [coded, unescape_codePoint]
  · rw [same]
    simp [unescape, plain]

theorem escapes_inj {first second : List Char} :
    first.flatMap escaped = second.flatMap escaped ↔ first = second := by
  refine ⟨?_, congrArg _⟩
  intro same
  induction first generalizing second with
  | nil =>
    cases second with
    | nil => rfl
    | cons c rest =>
      have read := unescape_escaped c (rest.flatMap escaped)
      rw [← List.flatMap_cons, ← same] at read
      cases read
  | cons c rest ih =>
    have read := unescape_escaped c (rest.flatMap escaped)
    rw [← List.flatMap_cons, same] at read
    cases second with
    | nil => cases read
    | cons c' rest' =>
      rw [List.flatMap_cons, unescape_escaped] at read
      obtain ⟨rfl, others⟩ := Prod.mk.inj (Option.some.inj read)
      rw [ih others.symm]

/-! ### Quotations -/

theorem toList_quoted (text : String) :
    (quoted text).toList = '"' :: (text.toList.flatMap escaped ++ ['"']) :=
  String.toList_ofList

theorem newline_not_mem_quoted (text : String) : '\n' ∉ (quoted text).toList := by
  have clean : ∀ c, '\n' ∉ escaped c := by
    intro c
    rcases escaped_cases c with ⟨mark, entry, marked⟩ | coded | ⟨plain, same⟩
    · rw [marked]
      simpa using (escapeMarks_sound _ entry).2.2.symm
    · rw [coded]
      exact not_mem_codePoint (by decide) c
    · rw [same, List.mem_singleton]
      exact plain.2.2.symm
  simp [toList_quoted, clean]

/-- A quotation mark stands behind a backslash. -/
def Guarded (before after : Char) : Prop := after = '"' → before = '\\'

theorem guarded_append {front rest : List Char} (clean : '"' ∉ front)
    (guarded : ∀ c, (c :: rest).IsChain Guarded) (before : Char) :
    (before :: (front ++ rest)).IsChain Guarded := by
  induction front generalizing before with
  | nil => exact guarded before
  | cons c front ih =>
    rw [List.mem_cons, not_or] at clean
    refine List.isChain_cons_cons.mpr ⟨?_, ih clean.2 c⟩
    intro quote
    exact absurd quote.symm clean.1

theorem guarded_escapes (text : List Char) (before : Char) :
    (before :: text.flatMap escaped).IsChain Guarded := by
  induction text generalizing before with
  | nil => exact .singleton before
  | cons c rest ih =>
    rw [List.flatMap_cons]
    rcases escaped_cases c with ⟨mark, _, marked⟩ | coded | ⟨plain, same⟩
    · rw [marked]
      refine List.isChain_cons_cons.mpr ⟨by simp [Guarded], ?_⟩
      exact List.isChain_cons_cons.mpr ⟨fun _ => rfl, ih mark⟩
    · rw [coded]
      exact guarded_append (not_mem_codePoint (by decide) c) ih before
    · rw [same]
      refine guarded_append ?_ ih before
      rw [List.mem_singleton]
      exact plain.1.symm

/-- The escapes of a text hold no beginning of a quotation. -/
theorem escapes_ne (text front back : List Char) :
    text.flatMap escaped ≠ front ++ ' ' :: '"' :: back := by
  intro same
  have guarded := guarded_escapes text '"'
  rw [same, ← List.cons_append, List.isChain_append, List.isChain_cons_cons] at guarded
  exact absurd (guarded.2.1.1 rfl) (by decide)

theorem opening_inj {extra : List Char} {first second : List Char}
    (same : ' ' :: '"' :: first.flatMap escaped = extra ++ ' ' :: '"' :: second.flatMap escaped) :
    extra = [] := by
  match extra with
  | [] => rfl
  | [c] => simp at same
  | c :: c' :: extra =>
    simp only [List.cons_append, List.cons.injEq] at same
    exact absurd same.2.2 (escapes_ne first extra _)

/-- A quotation at the end of a text begins in one place only. -/
theorem append_quoted_inj {front front' : List Char} {first second : String} :
    front ++ ' ' :: (quoted first).toList = front' ++ ' ' :: (quoted second).toList ↔
      front = front' ∧ first = second := by
  constructor
  · intro same
    have cut : front ++ ' ' :: '"' :: first.toList.flatMap escaped =
        front' ++ ' ' :: '"' :: second.toList.flatMap escaped := by
      refine List.append_cancel_right (?_ : _ ++ ['"'] = _ ++ ['"'])
      simpa [toList_quoted] using same
    have fronts : front = front' := by
      rcases List.append_eq_append_iff.mp cut with ⟨extra, rfl, rest⟩ | ⟨extra, rfl, rest⟩ <;>
        simp [opening_inj rest]
    subst fronts
    simp only [List.append_cancel_left_eq, List.cons.injEq, true_and, escapes_inj] at cut
    exact ⟨rfl, String.toList_inj.mp cut⟩
  · rintro ⟨rfl, rfl⟩
    rfl

end LatexTree
