import LatexTree.Json.Record
import LatexTree.Proofs.Spelling
import Mathlib.Data.List.Forall2

/-! Readers on the spellings of values.

A reader recognizes a relation between values and results if, on any spelling of a value, it succeeds
exactly with the results related to the value. Readers of lists and of values that may be null
recognize what the reader inside them does, and a value that is passed over may be any value. -/
namespace LatexTree.Json

section

variable {α β : Type}

theorem run_bind_eq_ok (reader : Reader α) (next : α → Reader β) (text : List Char)
    (result : β × List Char) :
    (reader >>= next).run text = .ok result ↔
      ∃ value rest, reader.run text = .ok (value, rest) ∧ (next value).run rest = .ok result := by
  rw [StateT.run_bind]
  cases reader.run text with
  | error fault => simp [bind, Except.bind]
  | ok step =>
    obtain ⟨value, rest⟩ := step
    simp only [bind, Except.bind, Except.ok.injEq, Prod.mk.injEq]
    constructor
    · intro after
      exact ⟨value, rest, ⟨rfl, rfl⟩, after⟩
    · intro found
      obtain ⟨_, _, ⟨rfl, rfl⟩, after⟩ := found
      exact after

theorem run_bind_of {reader : Reader α} {text rest : List Char} {value : α}
    (read : reader.run text = .ok (value, rest)) (next : α → Reader β) :
    (reader >>= next).run text = (next value).run rest := by
  rw [StateT.run_bind, read]
  rfl

theorem run_pure_eq_ok (value result : α) (text rest : List Char) :
    (pure value : Reader α).run text = .ok (result, rest) ↔ result = value ∧ rest = text := by
  change Except.ok (value, text) = Except.ok (result, rest) ↔ _
  rw [Except.ok.injEq, Prod.mk.injEq, eq_comm, eq_comm (a := text)]

theorem run_throw (fault : Fault) (text : List Char) :
    (throw fault : Reader α).run text = .error fault := rfl

theorem run_peek {blanks : List Char} (blank : Blank blanks) {c : Char} (sharp : isBlank c = false)
    (more : List Char) : peek.run (blanks ++ c :: more) = .ok (some c, c :: more) := by
  have dropped : (blanks ++ c :: more).dropWhile isBlank = c :: more := by
    rw [List.dropWhile_append_of_pos blank, List.dropWhile_cons_of_neg (by simp [sharp])]
  change Except.ok (((blanks ++ c :: more).dropWhile isBlank).head?, _) = _
  rw [dropped]
  rfl

theorem run_advance (c : Char) (more : List Char) : advance.run (c :: more) = .ok ((), more) := rfl

theorem wordRest_of (letters rest : List Char) :
    wordRest letters (letters ++ rest) = .ok ((), rest) := by
  induction letters with
  | nil => rfl
  | cons letter letters ih => rw [List.cons_append, wordRest, if_pos rfl, ih]

theorem run_readText (text : String) (rest : List Char) :
    readText.run (text.toList.flatMap escapedChar ++ '"' :: rest) = .ok (text, rest) := by
  have read : (scan textRest).run (text.toList.flatMap escapedChar ++ '"' :: rest) =
      .ok (text.toList, rest) := textRest_textChars text.toList rest
  rw [readText, run_bind_of read, String.ofList_toList]
  rfl

/-- The reader accepts no text. -/
def Fails (reader : Reader α) : Prop := ∀ text result, reader.run text ≠ .ok result

theorem fails_throw (fault : Fault) : Fails (throw fault : Reader α) := by
  intro text result read
  rw [run_throw] at read
  contradiction

theorem fails_bind (reader : Reader α) {next : α → Reader β} (fails : ∀ value, Fails (next value)) :
    Fails (reader >>= next) := by
  intro text result read
  obtain ⟨value, rest, -, read⟩ := (run_bind_eq_ok _ _ _ _).mp read
  exact fails value rest result read

/-- A value of the wrong kind is refused, however it goes on. -/
theorem fails_throw_bind (fault : Fault) (next : β → Reader α) :
    Fails (throw fault >>= next : Reader α) := by
  intro text result read
  obtain ⟨value, rest, thrown, -⟩ := (run_bind_eq_ok _ _ _ _).mp read
  exact fails_throw fault text _ thrown

theorem fails_mismatch (expected : Expected) : Fails (mismatch expected : Reader α) := by
  apply fails_bind
  intro found
  have refused (found : Found) : Fails (throw (.wrongType found expected) : Reader α) :=
    fails_throw _
  split
  · exact fails_throw _
  · exact fails_bind _ fun _ => fails_bind _ fun _ => refused _
  · exact fails_bind _ fun _ => fails_bind _ fun _ => refused _
  · exact fails_bind _ fun _ => fails_bind _ fun _ => refused _
  · exact fails_bind _ fun _ => fails_bind _ fun _ => refused _
  · exact fails_bind _ fun _ => fails_bind _ fun _ => refused _
  · exact refused _
  · exact refused _
  · split
    · exact fails_bind _ fun _ => refused _
    · exact fails_throw _

end

/-- On the spelling of a proper value, whatever blanks stand before it and whatever may follow it, the
reader succeeds exactly with what the value stands for, and takes nothing but the spelling. -/
def Recognizes {α : Type} (reader : Reader α) (stands : Value → α → Prop) : Prop :=
  ∀ (value : Value) (blanks text rest : List Char), value.Proper → Spelling value text →
    Blank blanks → Ends rest → ∀ (result : α) (left : List Char),
      reader.run (blanks ++ (text ++ rest)) = .ok (result, left) ↔ stands value result ∧ left = rest

theorem Fails.recognizes {α : Type} {reader : Reader α} (fails : Fails reader) :
    Recognizes reader fun _ _ => False := by
  intro value blanks text rest _ _ _ _ result left
  simp [fails _ _]

theorem Recognizes.congr {α : Type} {reader : Reader α} {stands stands' : Value → α → Prop}
    (recognizes : Recognizes reader stands)
    (same : ∀ value result, stands value result ↔ stands' value result) :
    Recognizes reader stands' := by
  intro value blanks text rest proper spelled blank ends result left
  rw [recognizes value blanks text rest proper spelled blank ends, same]

theorem decode_recognized {α : Type} {reader : Reader α} {stands : Value → α → Prop}
    (recognizes : Recognizes reader stands) {value : Value} (proper : value.Proper) {text : String}
    (spelled : Spelling value text.toList) (result : α) :
    decode reader text = .ok result ↔ stands value result := by
  have read := recognizes value [] text.toList [] proper spelled blank_nil (by simp [Ends])
  rw [List.nil_append, List.append_nil] at read
  unfold decode
  cases run : reader.run text.toList with
  | error fault =>
    simp only [run, reduceCtorEq, false_iff, not_and] at read
    simp only [bind, Except.bind, reduceCtorEq, false_iff]
    intro stood
    exact read result [] stood rfl
  | ok step =>
    obtain ⟨value', rest⟩ := step
    simp only [run, Except.ok.injEq, Prod.mk.injEq] at read
    obtain ⟨stood, rfl⟩ := (read value' rest).mp ⟨rfl, rfl⟩
    simp only [bind, Except.bind, List.dropWhile_nil, List.isEmpty_nil, if_true, pure, Except.pure,
      Except.ok.injEq]
    constructor
    · intro same
      exact same ▸ stood
    · intro other
      exact ((read result []).mpr ⟨other, rfl⟩).1

section

variable {α : Type} {blanks : List Char} {value : Value} {text rest : List Char}

theorem run_peek_mark (blank : Blank blanks) (c : Char) (more : List Char)
    (next : Option Char → Reader α) (sharp : isBlank c = false) :
    (peek >>= next).run (blanks ++ c :: more) = (next (some c)).run (c :: more) :=
  run_bind_of (run_peek blank sharp more) next

/-- A reader that refuses whatever a value may begin with refuses its spellings. -/
theorem refuses (spelled : Spelling value text) (blank : Blank blanks) {next : Option Char → Reader α}
    (fails : ∀ c, Leads value c → Fails (next (some c))) (result : α × List Char) :
    (peek >>= next).run (blanks ++ (text ++ rest)) ≠ .ok result := by
  obtain ⟨c, more, rfl, leads⟩ := spelled.first
  rw [List.cons_append, run_peek_mark blank _ _ _ leads.not_blank]
  exact fails c leads _ _

end

theorem Leads.quote {value : Value} (leads : Leads value '"') : ∃ text, value = .text text := by
  cases leads with
  | number value c sign => simp at sign
  | text text => exact ⟨text, rfl⟩

theorem Leads.square {value : Value} (leads : Leads value '[') : ∃ items, value = .list items := by
  cases leads with
  | number value c sign => simp at sign
  | list items => exact ⟨items, rfl⟩

theorem Leads.letter {value : Value} (leads : Leads value 'n') : value = .null := by
  cases leads with
  | number value c sign => simp at sign
  | null => rfl

def TextForm (value : Value) (text : String) : Prop := value = .text text

theorem readString_recognizes : Recognizes readString TextForm := by
  intro value blanks text rest proper spelled blank ends result left
  unfold readString TextForm
  by_cases kind : ∃ string, value = .text string
  · obtain ⟨string, rfl⟩ := kind
    cases spelled
    simp only [textChars, List.cons_append, List.append_assoc, List.nil_append]
    rw [run_peek_mark blank '"' _ _ rfl]
    split
    · rw [run_bind_of (run_advance _ _), run_readText]
      simp [eq_comm]
    · contradiction
  · apply iff_of_false
    · refine refuses spelled blank ?_ _
      intro c leads
      split
      · next same =>
        obtain rfl := Option.some.inj same
        exact absurd leads.quote kind
      · exact fails_mismatch _
    · rintro ⟨rfl, -⟩
      exact kind ⟨result, rfl⟩

/-! ### Lists -/

theorem run_nextItem {first : Bool} {gap text : List Char} {value : Value}
    (parted : Separator first gap) (spelled : Spelling value text) (rest : List Char) :
    (nextItem first).run (gap ++ (text ++ rest)) = .ok (true, text ++ rest) := by
  obtain ⟨c, more, rfl, leads⟩ := spelled.first
  have unclosed := leads.not_close
  cases parted with
  | first blanks blank =>
    rw [nextItem, List.cons_append, run_peek_mark blank _ _ _ leads.not_blank]
    split
    · contradiction
    · next same => exact absurd (Option.some.inj same) unclosed
    · rfl
  | next front back before after =>
    rw [nextItem, List.append_assoc, List.cons_append, run_peek_mark before ',' _ _ rfl]
    change (advance >>= fun _ => peek >>= _).run _ = _
    rw [run_bind_of (run_advance _ _), List.cons_append, run_peek_mark after _ _ _ leads.not_blank]
    split
    · contradiction
    · next same => exact absurd (Option.some.inj same) unclosed
    · rfl

theorem run_nextItem_end (first : Bool) {blanks : List Char} (blank : Blank blanks)
    (rest : List Char) : (nextItem first).run (blanks ++ ']' :: rest) = .ok (false, ']' :: rest) := by
  rw [nextItem, run_peek_mark blank ']' _ _ rfl]
  rfl

theorem run_closeList {blanks : List Char} (blank : Blank blanks) (rest : List Char) :
    closeList.run (blanks ++ ']' :: rest) = .ok ((), rest) := by
  rw [closeList, run_peek_mark blank ']' _ _ rfl]
  rfl

section

variable {α : Type} {item : Reader α} {stands : Value → α → Prop}

theorem run_itemsFrom (recognizes : Recognizes item stands) {items : List Value} {first : Bool}
    {text blanks : List Char} (inside : ItemsSpelling first items text)
    (proper : ∀ value ∈ items, value.Proper) (blank : Blank blanks) (rest : List Char) {fuel : Nat}
    (enough : items.length < fuel) (results : List α) (left : List Char) :
    (itemsFrom item fuel first).run (text ++ (blanks ++ ']' :: rest)) = .ok (results, left) ↔
      List.Forall₂ stands items results ∧ left = ']' :: rest := by
  induction items generalizing first text fuel results with
  | nil =>
    obtain ⟨fuel, rfl⟩ : ∃ more, fuel = more + 1 := ⟨fuel - 1, by simp at enough; omega⟩
    cases inside
    rw [itemsFrom, List.nil_append, run_bind_of (run_nextItem_end first blank rest)]
    rw [if_neg (by decide), run_pure_eq_ok, List.forall₂_nil_left_iff]
  | cons value items ih =>
    obtain ⟨fuel, rfl⟩ : ∃ more, fuel = more + 1 := ⟨fuel - 1, by simp at enough; omega⟩
    cases inside with
    | cons _ _ _ gap text tail parted spelled others =>
      rw [List.forall_mem_cons] at proper
      have ends := others.ends blank rest
      rw [itemsFrom, List.append_assoc, List.append_assoc, run_bind_of (run_nextItem parted spelled _)]
      simp only [if_true, run_bind_eq_ok, run_pure_eq_ok, List.forall₂_cons_left_iff]
      have one := recognizes value [] text _ proper.1 spelled blank_nil ends
      simp only [List.nil_append] at one
      have more := ih others proper.2 (by simpa using enough)
      constructor
      · rintro ⟨result, _, read, others, _, reads, rfl, rfl⟩
        obtain ⟨stood, rfl⟩ := (one _ _).mp read
        obtain ⟨all, rfl⟩ := (more _).mp reads
        exact ⟨⟨result, others, stood, all, rfl⟩, rfl⟩
      · rintro ⟨⟨result, others, stood, all, rfl⟩, rfl⟩
        exact ⟨result, _, (one _ _).mpr ⟨stood, rfl⟩, others, _, (more _).mpr ⟨all, rfl⟩, rfl, rfl⟩

theorem run_get {β : Type} (next : List Char → Reader β) (text : List Char) :
    (get >>= next : Reader β).run text = (next text).run text := rfl

theorem run_openBracket {β : Type} (budget : Nat) (c : Char) (more : List Char)
    (next : Unit → Reader β) (result : β × List Char) :
    (openBracket budget >>= next).run (c :: more) = .ok result ↔
      0 < budget ∧ (next ()).run more = .ok result := by
  unfold openBracket
  split
  · next spent =>
    apply iff_of_false
    · exact fails_throw_bind _ _ _ _
    · omega
  · next unspent =>
    rw [run_bind_of (run_advance c more)]
    simp [Nat.pos_of_ne_zero unspent]

def ListForm {α : Type} (stands : Value → α → Prop) (value : Value) (results : List α) : Prop :=
  ∃ items, value = .list items ∧ List.Forall₂ stands items results

theorem readList_recognizes {budget : Nat} {item : Nat → Reader α}
    (recognizes : Recognizes (item (budget - 1)) stands) :
    Recognizes (readList budget item) fun value results =>
      0 < budget ∧ ListForm stands value results := by
  intro value blanks text rest proper spelled blank ends results left
  unfold readList ListForm
  by_cases kind : ∃ items, value = .list items
  · obtain ⟨items, rfl⟩ := kind
    cases spelled with
    | list _ text inner inside blank' =>
      cases proper with
      | list _ below =>
        have enough : items.length < (text ++ (inner ++ ']' :: rest)).length + 1 := by
          have := inside.length_le
          simp only [List.length_append]
          omega
        have reads := run_itemsFrom recognizes inside below blank' rest enough
        simp only [List.cons_append, List.append_assoc, List.nil_append]
        rw [run_peek_mark blank '[' _ _ rfl]
        split
        · have closed := run_closeList blank_nil rest
          rw [run_openBracket]
          simp only [run_bind_eq_ok, readItems, run_get, run_pure_eq_ok]
          constructor
          · rintro ⟨allowed, results', _, read, _, _, last, rfl, rfl⟩
            obtain ⟨all, rfl⟩ := (reads _ _).mp read
            obtain ⟨-, rfl⟩ := Prod.mk.inj (Except.ok.inj (closed.symm.trans last))
            exact ⟨⟨allowed, items, rfl, all⟩, rfl⟩
          · rintro ⟨⟨allowed, _, same, all⟩, rfl⟩
            obtain rfl := Value.list.inj same
            exact ⟨allowed, results, _, (reads _ _).mpr ⟨all, rfl⟩, (), _, closed, rfl, rfl⟩
        · contradiction
  · apply iff_of_false
    · refine refuses spelled blank ?_ _
      intro c leads
      split
      · next same =>
        obtain rfl := Option.some.inj same
        exact absurd leads.square kind
      · exact fails_mismatch _
    · rintro ⟨⟨-, items, shape, -⟩, -⟩
      exact kind ⟨items, shape⟩

end

/-! ### Numbers -/

/-- A number that has been read where a natural one is due is natural, or it is refused. -/
theorem run_natural (negative : Bool) (text left : List Char) (n : Nat) :
    (scan (number negative) >>= fun found => match found with
      | .natural value => pure value
      | .negative value => throw (.wrongValue (.number (.negative value)) .natural)
      | .real value => throw (.wrongType (.number (.real value)) .natural) : Reader Nat).run text =
        .ok (n, left) ↔ number negative text = .ok (.natural n, left) := by
  rw [run_bind_eq_ok]
  constructor
  · rintro ⟨found, rest, read, after⟩
    cases found with
    | natural value =>
      obtain ⟨rfl, rfl⟩ := (run_pure_eq_ok _ _ _ _).mp after
      exact read
    | negative value => exact absurd after (fails_throw _ _ _)
    | real value => exact absurd after (fails_throw _ _ _)
  · intro read
    exact ⟨.natural n, left, read, rfl⟩

theorem run_readNat {blanks : List Char} (blank : Blank blanks) {c : Char}
    (digit : c.isDigit = true) (more left : List Char) (n : Nat) :
    readNat.run (blanks ++ c :: more) = .ok (n, left) ↔
      number false (c :: more) = .ok (.natural n, left) := by
  have other : c ≠ '-' := by
    rintro rfl
    simp at digit
  rw [readNat, run_peek_mark blank c _ _ (not_blank_of_digit digit)]
  dsimp only
  rw [if_pos (.inr digit), if_neg other, decide_eq_false other]
  exact run_natural false (c :: more) left n

theorem run_readNat_minus {blanks : List Char} (blank : Blank blanks) (more : List Char)
    (result : Nat × List Char) : readNat.run (blanks ++ '-' :: more) ≠ .ok result := by
  intro read
  rw [readNat, run_peek_mark blank '-' _ _ rfl] at read
  have negative := (run_natural true more result.2 result.1).mp read
  obtain ⟨start, middle, final, first, second, one, two, three, four⟩ := number_eq_ok negative
  exact absurd (toNumber_natural four).1 (by decide)

theorem Leads.digit {value : Value} {c : Char} (leads : Leads value c)
    (sign : c = '-' ∨ c.isDigit = true) : ∃ number, value = .number number := by
  cases leads with
  | number value c sign => exact ⟨value, rfl⟩
  | _ => simp at sign

theorem readNat_digits {blanks rest left : List Char} (blank : Blank blanks) (ends : Ends rest)
    (k n : Nat) : readNat.run (blanks ++ (Nat.toDigits 10 k ++ rest)) = .ok (n, left) ↔
      (k = n ∧ n ≤ wordLimit) ∧ left = rest := by
  obtain ⟨c, more, shape⟩ := List.exists_cons_of_ne_nil (digits_toDigits k).1
  have digit : c.isDigit = true := (digits_toDigits k).2 c (by rw [shape]; exact List.mem_cons_self)
  have read := run_readNat blank digit (more ++ rest) left n
  rw [← List.cons_append, ← shape] at read
  rw [read]
  by_cases fits : k ≤ wordLimit
  · rw [number_toDigits fits ends]
    simp only [Except.ok.injEq, Prod.mk.injEq, Number.natural.injEq]
    constructor
    · rintro ⟨rfl, rfl⟩
      exact ⟨⟨rfl, fits⟩, rfl⟩
    · rintro ⟨⟨rfl, -⟩, rfl⟩
      exact ⟨rfl, rfl⟩
  · apply iff_of_false
    · exact toDigits_not_natural (by omega) ends.noDigit
    · rintro ⟨⟨rfl, within⟩, -⟩
      exact fits within

theorem readNat_real {blanks rest : List Char} (blank : Blank blanks) (ends : Ends rest)
    {value : Number} (range : value.InRange) (other : ∀ n, value ≠ .natural n)
    (result : Nat × List Char) : readNat.run (blanks ++ (value.chars ++ rest)) ≠ .ok result := by
  intro read
  obtain ⟨sign, whole, fraction, exponent, shape, signed, numeral, natural⟩ := Number.numeral range
  have marked : sign = ['-'] ∨ fraction ++ exponent ≠ [] := by
    rcases natural with ⟨n, same⟩ | marked
    · exact absurd same (other n)
    · exact marked
  rw [shape] at read
  rcases signed with rfl | rfl
  · obtain ⟨c, more, rfl⟩ := List.exists_cons_of_ne_nil numeral.whole.1.1
    have digit : c.isDigit = true := numeral.whole.1.2 c List.mem_cons_self
    have real : fraction ++ exponent ≠ [] := by simpa using marked
    simp only [List.nil_append, List.cons_append, List.append_assoc] at read
    exact real_not_natural numeral real ends ((run_readNat blank digit _ _ _).mp read)
  · exact run_readNat_minus blank _ _ read

def NatForm (value : Value) (n : Nat) : Prop := value = .nat n ∧ n ≤ wordLimit

theorem readNat_recognizes : Recognizes readNat NatForm := by
  intro value blanks text rest proper spelled blank ends n left
  unfold NatForm
  by_cases kind : ∃ number, value = .number number
  · obtain ⟨number, rfl⟩ := kind
    cases spelled with
    | number _ range =>
      cases number with
      | natural k =>
        rw [show (Number.natural k).chars = Nat.toDigits 10 k from rfl, readNat_digits blank ends]
        simp [Value.nat]
      | _ =>
        apply iff_of_false
        · exact readNat_real blank ends range (by simp) _
        · simp [Value.nat]
  · apply iff_of_false
    · refine refuses spelled blank ?_ _
      intro c leads
      dsimp only
      split
      · next sign => exact absurd (leads.digit sign) kind
      · exact fails_mismatch _
    · rintro ⟨⟨rfl, -⟩, -⟩
      exact kind ⟨.natural n, rfl⟩

/-! ### Values that may be null -/

/-- A value of the kind, or null for none. -/
def OptionalForm {α : Type} (stands : Value → α → Prop) (value : Value) (result : Option α) : Prop :=
  value = .null ∧ result = none ∨ value ≠ .null ∧ ∃ inner, result = some inner ∧ stands value inner

theorem readOptional_recognizes {α : Type} {reader : Reader α} {stands : Value → α → Prop}
    (recognizes : Recognizes reader stands) :
    Recognizes (readOptional reader) (OptionalForm stands) := by
  intro value blanks text rest proper spelled blank ends result left
  unfold readOptional OptionalForm
  by_cases kind : value = .null
  · subst kind
    cases spelled
    simp only [List.cons_append, List.nil_append]
    rw [run_peek_mark blank 'n' _ _ rfl]
    split
    · have word : (scan (wordRest ['u', 'l', 'l'])).run ('u' :: 'l' :: 'l' :: rest) = .ok ((), rest) :=
        wordRest_of ['u', 'l', 'l'] rest
      rw [run_bind_of (run_advance _ _), run_bind_of word, run_pure_eq_ok]
      simp
    · contradiction
  · obtain ⟨c, more, rfl, leads⟩ := spelled.first
    have other : c ≠ 'n' := by
      rintro rfl
      exact kind leads.letter
    have inner := recognizes value [] (c :: more) rest proper spelled blank_nil ends
    rw [List.cons_append] at inner ⊢
    rw [run_peek_mark blank _ _ _ leads.not_blank]
    split
    · next same => exact absurd (Option.some.inj same) other
    · simp only [run_bind_eq_ok, run_pure_eq_ok]
      constructor
      · rintro ⟨found, _, read, rfl, rfl⟩
        obtain ⟨stood, rfl⟩ := (inner _ _).mp read
        exact ⟨.inr ⟨kind, found, rfl, stood⟩, rfl⟩
      · rintro ⟨⟨null, -⟩ | ⟨-, found, rfl, stood⟩, rfl⟩
        · exact absurd null kind
        · exact ⟨found, _, (inner _ _).mpr ⟨stood, rfl⟩, rfl, rfl⟩

theorem readNull_recognizes : Recognizes readNull fun value _ => value = .null := by
  intro value blanks text rest proper spelled blank ends result left
  unfold readNull
  by_cases kind : value = .null
  · subst kind
    cases spelled
    simp only [List.cons_append, List.nil_append]
    rw [run_peek_mark blank 'n' _ _ rfl]
    split
    · have word : (scan (wordRest ['u', 'l', 'l'])).run ('u' :: 'l' :: 'l' :: rest) = .ok ((), rest) :=
        wordRest_of ['u', 'l', 'l'] rest
      rw [run_bind_of (run_advance _ _), word]
      simp [eq_comm]
    · contradiction
  · apply iff_of_false
    · refine refuses spelled blank ?_ _
      intro c leads
      split
      · next same =>
        obtain rfl := Option.some.inj same
        exact absurd leads.letter kind
      · exact fails_mismatch _
    · rintro ⟨rfl, -⟩
      exact kind rfl

/-! ### Values that are passed over -/

theorem run_readColon {blanks : List Char} (blank : Blank blanks) (rest : List Char) :
    readColon.run (blanks ++ ':' :: rest) = .ok ((), rest) := by
  rw [readColon, run_peek_mark blank ':' _ _ rfl]
  rfl

theorem run_skipKey {blanks front : List Char} (blank : Blank blanks) (before : Blank front)
    (name : String) (rest : List Char) :
    skipKey.run (blanks ++ (textChars name ++ (front ++ ':' :: rest))) = .ok ((), rest) := by
  have passed : (scan skipTextRest).run
      (name.toList.flatMap escapedChar ++ '"' :: (front ++ ':' :: rest)) =
        .ok ((), front ++ ':' :: rest) := skipTextRest_textChars name.toList _
  simp only [textChars, List.cons_append, List.append_assoc, List.nil_append]
  rw [skipKey, run_peek_mark blank '"' _ _ rfl]
  change (advance >>= fun _ => scan skipTextRest >>= fun _ => readColon).run _ = _
  rw [run_bind_of (run_advance _ _), run_bind_of passed, run_readColon before]

theorem run_skip_number {blanks rest : List Char} (blank : Blank blanks) (ends : Ends rest)
    {value : Number} (range : value.InRange) (fuel : Nat) :
    (skipFrom (fuel + 1)).run (blanks ++ (value.chars ++ rest)) = .ok ((), rest) := by
  obtain ⟨sign, whole, fraction, exponent, shape, signed, numeral, -⟩ := Number.numeral range
  have passed := skipNumber_numeral numeral ends
  rw [shape, skipFrom]
  simp only [List.append_assoc]
  rcases signed with rfl | rfl
  · obtain ⟨c, more, rfl⟩ := List.exists_cons_of_ne_nil numeral.whole.1.1
    have digit : c.isDigit = true := numeral.whole.1.2 c List.mem_cons_self
    rw [List.nil_append, List.cons_append, run_peek_mark blank c _ _ (not_blank_of_digit digit)]
    rw [List.cons_append] at passed
    split
    case h_9 found =>
      obtain rfl := Option.some.inj found
      rw [if_pos digit]
      exact passed
    all_goals simp_all
  · rw [List.singleton_append, run_peek_mark blank '-' _ _ rfl]
    exact (run_bind_of (run_advance _ _) _).trans passed

mutual

theorem run_skipFrom : ∀ (fuel : Nat) {value : Value} {blanks text rest : List Char},
    Spelling value text → Blank blanks → Ends rest → 2 * text.length ≤ fuel →
      (skipFrom fuel).run (blanks ++ (text ++ rest)) = .ok ((), rest)
  | 0, value, blanks, text, rest, spelled, _, _, enough => by
    obtain ⟨c, more, rfl, -⟩ := spelled.first
    simp at enough
  | fuel + 1, value, blanks, text, rest, spelled, blank, ends, enough => by
    cases spelled with
    | null =>
      rw [skipFrom, List.cons_append, run_peek_mark blank 'n' _ _ rfl]
      exact (run_bind_of (run_advance _ _) _).trans (wordRest_of _ rest)
    | yes =>
      rw [skipFrom, List.cons_append, run_peek_mark blank 't' _ _ rfl]
      exact (run_bind_of (run_advance _ _) _).trans (wordRest_of _ rest)
    | no =>
      rw [skipFrom, List.cons_append, run_peek_mark blank 'f' _ _ rfl]
      exact (run_bind_of (run_advance _ _) _).trans (wordRest_of _ rest)
    | number value range => exact run_skip_number blank ends range fuel
    | text value =>
      simp only [textChars, List.cons_append, List.append_assoc, List.nil_append]
      rw [skipFrom, run_peek_mark blank '"' _ _ rfl]
      exact (run_bind_of (run_advance _ _) _).trans (skipTextRest_textChars value.toList rest)
    | list items text inner inside blank' =>
      simp only [List.cons_append, List.append_assoc, List.nil_append]
      rw [skipFrom, run_peek_mark blank '[' _ _ rfl]
      refine (run_bind_of (run_advance _ _) _).trans ?_
      cases inside with
      | nil =>
        rw [List.nil_append, run_peek_mark blank' ']' _ _ rfl]
        rfl
      | cons _ item items gap text tail parted spelled others =>
        cases parted with
        | first gap empty =>
          have after := run_skipItems fuel spelled others blank_nil blank' rest
            (by simp at enough; omega)
          obtain ⟨c, more, rfl, leads⟩ := spelled.first
          simp only [List.cons_append, List.append_assoc, List.nil_append] at after ⊢
          rw [run_peek_mark empty _ _ _ leads.not_blank]
          split
          · contradiction
          · next same => exact absurd (Option.some.inj same) leads.not_close
          · exact after
    | object members text inner inside blank' =>
      simp only [List.cons_append, List.append_assoc, List.nil_append]
      rw [skipFrom, run_peek_mark blank '\x7b' _ _ rfl]
      refine (run_bind_of (run_advance _ _) _).trans ?_
      cases inside with
      | nil =>
        rw [List.nil_append, run_peek_mark blank' '\x7d' _ _ rfl]
        rfl
      | cons _ name value members gap front back text tail parted before after spelled others =>
        cases parted with
        | first gap empty =>
          have passed := run_skipMembers fuel name before after spelled others blank_nil blank' rest
            (by simp at enough; omega)
          simp only [textChars, List.cons_append, List.append_assoc, List.nil_append] at passed ⊢
          rw [run_peek_mark empty '"' _ _ rfl]
          exact passed

theorem run_skipItems : ∀ (fuel : Nat) {item : Value} {items : List Value}
    {gap text tail blanks : List Char}, Spelling item text → ItemsSpelling false items tail →
      Blank gap → Blank blanks → ∀ rest, 2 * (text.length + tail.length) < fuel →
        (skipItems fuel).run (gap ++ (text ++ (tail ++ (blanks ++ ']' :: rest)))) = .ok ((), rest)
  | 0, _, _, _, _, _, _, _, _, _, _, _, enough => by omega
  | fuel + 1, item, items, gap, text, tail, blanks, spelled, others, empty, blank, rest, enough => by
    have first := run_skipFrom fuel spelled empty (others.ends blank rest) (by omega)
    rw [skipItems, run_bind_of first]
    cases others with
    | nil =>
      rw [List.nil_append, run_peek_mark blank ']' _ _ rfl]
      rfl
    | cons _ next items gap' text' tail parted spelled' others =>
      cases parted with
      | next front back before after =>
        have later := run_skipItems fuel spelled' others after blank rest
          (by simp at enough; omega)
        simp only [List.cons_append, List.append_assoc]
        rw [run_peek_mark before ',' _ _ rfl]
        exact (run_bind_of (run_advance _ _) _).trans later

theorem run_skipMembers : ∀ (fuel : Nat) (name : String) {value : Value}
    {members : List (String × Value)} {gap front back text tail blanks : List Char},
    Blank front → Blank back → Spelling value text → MembersSpelling false members tail →
      Blank gap → Blank blanks → ∀ rest,
        2 * (text.length + tail.length) < fuel →
          (skipMembers fuel).run (gap ++ (textChars name ++ (front ++ ':' :: (back ++ (text ++ (tail ++
            (blanks ++ '\x7d' :: rest))))))) = .ok ((), rest)
  | 0, _, _, _, _, _, _, _, _, _, _, _, _, _, _, _, _, enough => by omega
  | fuel + 1, name, value, members, gap, front, back, text, tail, blanks, before, after, spelled, others,
      empty, blank, rest, enough => by
    have first := run_skipFrom fuel spelled after (others.ends blank rest) (by omega)
    rw [skipMembers, run_bind_of (run_skipKey empty before name _), run_bind_of first]
    cases others with
    | nil =>
      rw [List.nil_append, run_peek_mark blank '\x7d' _ _ rfl]
      rfl
    | cons _ name' value' members gap' front' back' text' tail parted before' after' spelled' others =>
      cases parted with
      | next front'' back'' before'' after'' =>
        have later := run_skipMembers fuel name' before' after' spelled' others after'' blank rest
          (by simp at enough; omega)
        simp only [List.cons_append, List.append_assoc]
        rw [run_peek_mark before'' ',' _ _ rfl]
        exact (run_bind_of (run_advance _ _) _).trans later

end

theorem skipValue_recognizes : Recognizes skipValue fun _ _ => True := by
  intro value blanks text rest _ spelled blank ends result left
  have passed := run_skipFrom (2 * (blanks ++ (text ++ rest)).length + 2) spelled blank ends
    (by simp only [List.length_append]; omega)
  rw [skipValue, run_get, passed]
  simp [eq_comm]

end LatexTree.Json
