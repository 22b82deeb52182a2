import LatexTree.Json.Skip
import Mathlib.Algebra.Ring.Nat

/-! Numbers in JSON text.

A number is written as a numeral: digits, then perhaps a fraction and an exponent. Reading a numeral
gives a natural number exactly if it is whole, has no sign and fits in a word; passing over a value
passes over any numeral. That a real number is written as a numeral rests on its shortest digits: some
grid among those that are tried is finer than half a binary place, so the digits found are not zero. -/
namespace LatexTree

namespace Magnitude

/-- The magnitudes that 64 bits can hold. -/
def InRange (value : Magnitude) : Prop :=
  value.significand < 2 ^ 53 ∧ leastExponent ≤ value.exponent ∧ value.exponent ≤ mostExponent

theorem onGrid_pos {value : Magnitude} {power : Int} {digits : Nat}
    (nonzero : 0 < value.significand) (found : value.onGrid power = some digits) : 0 < digits := by
  unfold onGrid at found
  extract_lets place cell quarter exact low high inside below above preferBelow at found
  have quarterPos : 0 < quarter :=
    Nat.mul_pos (Nat.pow_pos (by decide)) (Nat.pow_pos (by decide))
  have lowPos : 0 < low := by
    apply Nat.mul_pos _ quarterPos
    split <;> omega
  split at found
  · next chosen =>
    -- Zero lies below the interval, so it is not what was found there.
    have reached : inside below = true := by simp_all
    rw [Nat.pos_iff_ne_zero, ← Option.some.inj found]
    intro zero
    simp only [inside, zero, Nat.zero_mul] at reached
    split at reached
    · simp at reached
      omega
    · simp at reached
  · split at found
    · rw [← Option.some.inj found]
      exact Nat.succ_pos below
    · contradiction

/-- A grid finer than half a binary place has a point right above the value. -/
theorem onGrid_isSome {value : Magnitude} {power : Int}
    (fine : Nat.pow 10 power.toNat * Nat.pow 2 (-(value.exponent - 2)).toNat <
      2 * (Nat.pow 2 (value.exponent - 2).toNat * Nat.pow 10 (-power).toNat)) :
    (value.onGrid power).isSome = true := by
  unfold onGrid
  extract_lets place cell quarter exact low high inside below above preferBelow
  change cell < 2 * quarter at fine
  have cellPos : 0 < cell := Nat.mul_pos (Nat.pow_pos (by decide)) (Nat.pow_pos (by decide))
  have lowExact : low ≤ exact := Nat.mul_le_mul_right quarter (by omega)
  have highExact : high = exact + 2 * quarter := Nat.add_mul ..
  have beyond : exact < above * cell := by
    have under := Nat.lt_div_mul_add (a := exact) cellPos
    rw [Nat.succ_mul]
    exact under
  have close : above * cell ≤ exact + cell := by
    rw [Nat.succ_mul]
    exact Nat.add_le_add_right (Nat.div_mul_le_self exact cell) cell
  have reached : inside above = true := by
    simp only [inside]
    split <;> simp <;> omega
  split
  · rfl
  · rfl

theorem shortestFrom_pos {value : Magnitude} (nonzero : 0 < value.significand) {power : Int} :
    ∀ {steps : Nat}, (value.onGrid (power - steps)).isSome = true →
      0 < (value.shortestFrom (steps + 1) power).digits := by
  intro steps found
  induction steps generalizing power with
  | zero =>
    obtain ⟨digits, hit⟩ := Option.isSome_iff_exists.mp found
    have hit : value.onGrid power = some digits := by simpa using hit
    simp only [shortestFrom, hit]
    exact onGrid_pos nonzero hit
  | succ steps ih =>
    rw [shortestFrom]
    split
    · next digits hit => exact onGrid_pos nonzero hit
    · apply ih
      rwa [Int.sub_sub, Int.add_comm 1, ← Int.natCast_add_one]

theorem ten_le_two (k : Nat) : 10 ^ (3 * k) ≤ 2 ^ (10 * k) := by
  rw [Nat.pow_mul, Nat.pow_mul]
  exact Nat.pow_le_pow_left (by decide) k

theorem two_le_ten (k r : Nat) : 2 ^ (93 * k + 3 * r) ≤ 10 ^ (28 * k + r) := by
  rw [Nat.pow_add, Nat.pow_add, Nat.pow_mul, Nat.pow_mul, Nat.pow_mul]
  exact Nat.mul_le_mul (Nat.pow_le_pow_left (by decide) k) (Nat.pow_le_pow_left (by decide) r)

theorem fine_of_bits {exponent power bits : Int} (least : leastExponent ≤ exponent)
    (most : exponent ≤ mostExponent) (short : bits ≤ exponent + 53)
    (start : power = bits * 30103 / 100000 + 2 - 23) :
    Nat.pow 10 power.toNat * Nat.pow 2 (-(exponent - 2)).toNat <
      2 * (Nat.pow 2 (exponent - 2).toNat * Nat.pow 10 (-power).toNat) := by
  simp only [leastExponent, mostExponent] at least most
  simp only [Nat.pow_eq]
  by_cases whole : 0 ≤ power
  · have exponents : 10 * (power.toNat / 3 + 1) < (exponent - 2).toNat + 1 := by omega
    have below : (-(exponent - 2)).toNat = 0 := by omega
    have flat : (-power).toNat = 0 := by omega
    rw [below, flat, Nat.pow_zero, Nat.mul_one, Nat.mul_one, ← Nat.pow_succ']
    calc
      10 ^ power.toNat ≤ 10 ^ (3 * (power.toNat / 3 + 1)) :=
        Nat.pow_le_pow_right (by decide) (by omega)
      _ ≤ 2 ^ (10 * (power.toNat / 3 + 1)) := ten_le_two _
      _ < 2 ^ ((exponent - 2).toNat + 1) := Nat.pow_lt_pow_right (by decide) exponents
  · have flat : power.toNat = 0 := by omega
    have exponents : (-(exponent - 2)).toNat <
        93 * ((-power).toNat / 28) + 3 * ((-power).toNat % 28) + 1 := by omega
    rw [flat, Nat.pow_zero, Nat.one_mul]
    calc
      2 ^ (-(exponent - 2)).toNat
          < 2 ^ (93 * ((-power).toNat / 28) + 3 * ((-power).toNat % 28) + 1) :=
        Nat.pow_lt_pow_right (by decide) exponents
      _ ≤ 2 * 10 ^ (28 * ((-power).toNat / 28) + (-power).toNat % 28) := by
        rw [Nat.pow_succ']
        exact Nat.mul_le_mul_left 2 (two_le_ten _ _)
      _ ≤ 2 * (2 ^ (exponent - 2).toNat * 10 ^ (-power).toNat) := by
        rw [Nat.div_add_mod]
        exact Nat.mul_le_mul_left 2 (Nat.le_mul_of_pos_left _ (Nat.pow_pos (by decide)))

theorem shortest_pos {value : Magnitude} (range : value.InRange)
    (nonzero : value.significand ≠ 0) : 0 < value.shortest.digits := by
  obtain ⟨small, least, most⟩ := range
  have bits : value.significand.log2 < 53 := (Nat.log2_lt nonzero).mpr small
  rw [shortest, if_neg nonzero]
  apply shortestFrom_pos (Nat.pos_of_ne_zero nonzero)
  apply onGrid_isSome
  exact fine_of_bits least most (by omega) rfl

end Magnitude

namespace Json

def NoDigit (rest : List Char) : Prop := ∀ c, rest.head? = some c → c.isDigit = false

def Digits (text : List Char) : Prop := text ≠ [] ∧ ∀ c ∈ text, c.isDigit = true

theorem Digits.takeWhile {text rest : List Char} (digits : Digits text) (ends : NoDigit rest) :
    (text ++ rest).takeWhile Char.isDigit = text := by
  rw [List.takeWhile_append_of_pos digits.2]
  cases rest with
  | nil => simp
  | cons c rest => simp [ends c rfl]

theorem Digits.dropWhile {text rest : List Char} (digits : Digits text) (ends : NoDigit rest) :
    (text ++ rest).dropWhile Char.isDigit = rest := by
  rw [List.dropWhile_append_of_pos digits.2]
  cases rest with
  | nil => rfl
  | cons c rest => simp [ends c rfl]

theorem digits_toDigits (n : Nat) : Digits (Nat.toDigits 10 n) :=
  ⟨Nat.toDigits_ne_nil, fun _ member => Nat.isDigit_of_mem_toDigits (by decide) (by decide) member⟩

/-- The digits before a point: zero stands alone. -/
def WholePart (text : List Char) : Prop :=
  Digits text ∧ (text.head? = some '0' → text = ['0'])

def FractionPart (text : List Char) : Prop :=
  text = [] ∨ ∃ digits, Digits digits ∧ text = '.' :: digits

def ExponentPart (text : List Char) : Prop :=
  text = [] ∨ ∃ sign digits, (sign = '+' ∨ sign = '-') ∧ Digits digits ∧ text = 'e' :: sign :: digits

structure Numeral (whole fraction exponent : List Char) : Prop where
  whole : WholePart whole
  fraction : FractionPart fraction
  exponent : ExponentPart exponent

/-- What may follow a value. -/
def Ends (rest : List Char) : Prop :=
  ∀ c, rest.head? = some c → isBlank c = true ∨ c = ',' ∨ c = ']' ∨ c = '\x7d'

theorem Ends.noDigit {rest : List Char} (ends : Ends rest) : NoDigit rest := by
  intro c first
  rcases ends c first with blank | rfl | rfl | rfl
  · simp only [isBlank, Bool.or_eq_true, beq_iff_eq] at blank
    rcases blank with ((rfl | rfl) | rfl) | rfl <;> rfl
  · rfl
  · rfl
  · rfl

theorem Ends.noMark {rest : List Char} (ends : Ends rest) {c : Char} (first : rest.head? = some c) :
    c ≠ '.' ∧ c ≠ 'e' ∧ c ≠ 'E' := by
  rcases ends c first with blank | rfl | rfl | rfl
  · simp only [isBlank, Bool.or_eq_true, beq_iff_eq] at blank
    rcases blank with ((rfl | rfl) | rfl) | rfl <;> decide
  · decide
  · decide
  · decide

theorem toDigits_head (n : Nat) (zero : (Nat.toDigits 10 n).head? = some '0') : n = 0 := by
  induction n using Nat.strongRecOn with
  | ind n ih =>
    by_cases small : n < 10
    · rw [Nat.toDigits_of_lt_base small] at zero
      simpa using zero
    · have long : 10 ≤ n := by omega
      obtain ⟨c, more, shape⟩ :=
        List.exists_cons_of_ne_nil (Nat.toDigits_ne_nil (n := n / 10) (b := 10))
      rw [Nat.toDigits_of_base_le (by decide) long, shape, List.cons_append, List.head?_cons] at zero
      have quotient := ih (n / 10) (by omega) (by rw [shape, List.head?_cons, zero])
      omega

theorem wholePart_toDigits (n : Nat) : WholePart (Nat.toDigits 10 n) := by
  refine ⟨digits_toDigits n, ?_⟩
  intro zero
  rw [toDigits_head n zero]
  rfl

section

variable {whole fraction exponent rest : List Char}

theorem ExponentPart.noDigit (part : ExponentPart exponent) (ends : Ends rest) :
    NoDigit (exponent ++ rest) := by
  rcases part with rfl | ⟨sign, digits, _, _, rfl⟩
  · exact ends.noDigit
  · intro c first
    obtain rfl : 'e' = c := by simpa using first
    rfl

theorem FractionPart.noDigit (part : FractionPart fraction) (ends : NoDigit rest) :
    NoDigit (fraction ++ rest) := by
  rcases part with rfl | ⟨digits, _, rfl⟩
  · exact ends
  · intro c first
    obtain rfl : '.' = c := by simpa using first
    rfl

theorem skipFraction_of (part : FractionPart fraction) (ends : NoDigit rest)
    (noPoint : rest.head? ≠ some '.') : skipFraction (fraction ++ rest) = .ok ((), rest) := by
  rcases part with rfl | ⟨digits, run, rfl⟩
  · cases rest with
    | nil => rfl
    | cons c rest =>
      have other : c ≠ '.' := by simpa using noPoint
      simp [skipFraction, other]
  · simp [skipFraction, run.takeWhile ends, run.dropWhile ends, run.1]

theorem skipExponent_of (part : ExponentPart exponent) (ends : Ends rest) :
    skipExponent (exponent ++ rest) = .ok ((), rest) := by
  rcases part with rfl | ⟨sign, digits, mark, run, rfl⟩
  · cases rest with
    | nil => rfl
    | cons c rest =>
      have other := ends.noMark (c := c) rfl
      simp [skipExponent, other]
  · have signed : skipSign (sign :: (digits ++ rest)) = digits ++ rest := by
      rcases mark with rfl | rfl <;> rfl
    simp [skipExponent, signed, run.takeWhile ends.noDigit, run.dropWhile ends.noDigit, run.1]

theorem Numeral.noPoint (part : ExponentPart exponent) (ends : Ends rest) :
    (exponent ++ rest).head? ≠ some '.' := by
  rcases part with rfl | ⟨sign, digits, _, _, rfl⟩
  · intro first
    exact (ends.noMark first).1 rfl
  · simp

theorem NoDigit.head (ends : NoDigit rest) : (rest.head?.map Char.isDigit).getD false = false := by
  cases first : rest.head? with
  | none => rfl
  | some c => exact ends c first

theorem skipNumber_whole (part : WholePart whole) (ends : NoDigit rest) :
    skipNumber (whole ++ rest) = (skipFraction rest >>= fun step => skipExponent step.2) := by
  obtain ⟨run, alone⟩ := part
  by_cases zero : whole.head? = some '0'
  · rw [alone zero]
    simp [skipNumber, ends.head, pure, Except.pure, bind, Except.bind]
  · obtain ⟨c, more, rfl⟩ := List.exists_cons_of_ne_nil run.1
    have other : c ≠ '0' := by simpa using zero
    have taken := run.takeWhile ends
    have dropped := run.dropWhile ends
    rw [List.cons_append] at taken dropped ⊢
    simp [skipNumber, other, taken, dropped, pure, Except.pure, bind, Except.bind]

theorem skipNumber_numeral (numeral : Numeral whole fraction exponent) (ends : Ends rest) :
    skipNumber (whole ++ (fraction ++ (exponent ++ rest))) = .ok ((), rest) := by
  have after := numeral.exponent.noDigit ends
  rw [skipNumber_whole numeral.whole (numeral.fraction.noDigit after),
    skipFraction_of numeral.fraction after (Numeral.noPoint numeral.exponent ends)]
  exact skipExponent_of numeral.exponent ends

end

theorem le_ofDigitChars (digits : List Char) (number : Nat) :
    number ≤ Nat.ofDigitChars 10 digits number := by
  rw [Nat.ofDigitChars_eq_ofDigitChars_zero]
  have scaled : number ≤ 10 ^ digits.length * number :=
    Nat.le_mul_of_pos_left number (Nat.pow_pos (by decide))
  omega

theorem absorb_cons (number : Nat) (c : Char) (rest : List Char) :
    absorb number (c :: rest) =
      if 10 * number + digitValue c ≤ wordLimit then absorb (10 * number + digitValue c) rest
      else (number, c :: rest) := by
  rw [Nat.mul_comm 10 number]
  rfl

theorem absorb_within {digits : List Char} {number : Nat}
    (fits : Nat.ofDigitChars 10 digits number ≤ wordLimit) :
    absorb number digits = (Nat.ofDigitChars 10 digits number, []) := by
  induction digits generalizing number with
  | nil => rfl
  | cons c rest ih =>
    rw [Nat.ofDigitChars_cons] at fits ⊢
    have next := le_ofDigitChars rest (10 * number + digitValue c)
    rw [absorb_cons, if_pos (Nat.le_trans next fits)]
    exact ih fits

theorem absorb_beyond {digits : List Char} {number : Nat} (small : number ≤ wordLimit)
    (large : wordLimit < Nat.ofDigitChars 10 digits number) : (absorb number digits).2 ≠ [] := by
  induction digits generalizing number with
  | nil =>
    rw [Nat.ofDigitChars_nil] at large
    omega
  | cons c rest ih =>
    rw [Nat.ofDigitChars_cons] at large
    rw [absorb_cons]
    split
    · next fits => exact ih fits large
    · simp

theorem absorb_le (number : Nat) (digits : List Char) (small : number ≤ wordLimit) :
    (absorb number digits).1 ≤ wordLimit := by
  induction digits generalizing number with
  | nil => exact small
  | cons c rest ih =>
    rw [absorb_cons]
    split
    · next fits => exact ih _ fits
    · exact small

theorem number_eq_ok {negative : Bool} {text left : List Char} {value : Number}
    (read : number negative text = .ok (value, left)) :
    ∃ start middle final : Mantissa, ∃ first second : List Char,
      integerPart text = .ok (start, first) ∧ fraction start first = .ok (middle, second) ∧
      exponent middle second = .ok (final, left) ∧ final.toNumber negative = .ok value := by
  unfold number at read
  cases one : integerPart text with
  | error fault => simp [one, bind, Except.bind] at read
  | ok step =>
    obtain ⟨start, first⟩ := step
    cases two : fraction start first with
    | error fault => simp [one, two, bind, Except.bind] at read
    | ok step =>
      obtain ⟨middle, second⟩ := step
      cases three : exponent middle second with
      | error fault => simp [one, two, three, bind, Except.bind] at read
      | ok step =>
        obtain ⟨final, third⟩ := step
        cases four : final.toNumber negative with
        | error fault => simp [one, two, three, four, bind, Except.bind] at read
        | ok number =>
          simp only [one, two, three, four, bind, Except.bind, pure, Except.pure, Except.ok.injEq,
            Prod.mk.injEq] at read
          obtain ⟨rfl, rfl⟩ := read
          exact ⟨start, middle, final, first, second, rfl, two, three, four⟩

/-- Only a whole number without a sign is natural. -/
theorem toNumber_natural {negative : Bool} {mantissa : Mantissa} {n : Nat}
    (read : mantissa.toNumber negative = .ok (.natural n)) :
    negative = false ∧ mantissa.whole = true ∧ mantissa.digits = n := by
  unfold Mantissa.toNumber at read
  split at read
  · next plain =>
    simp only [Except.ok.injEq, Number.natural.injEq] at read
    exact ⟨by simpa using plain.2, plain.1, read⟩
  · split at read
    · simp at read
    · split at read <;> simp at read

theorem fraction_whole {start final : Mantissa} {text left : List Char}
    (read : fraction start text = .ok (final, left)) (whole : final.whole = true) :
    final = start ∧ left = text ∧ text.head? ≠ some '.' := by
  unfold fraction at read
  split at read
  · dsimp only at read
    split at read
    · simp at read
    · simp only [Except.ok.injEq, Prod.mk.injEq] at read
      obtain ⟨rfl, -⟩ := read
      simp at whole
  · next other =>
    simp only [Except.ok.injEq, Prod.mk.injEq] at read
    obtain ⟨rfl, rfl⟩ := read
    refine ⟨rfl, rfl, ?_⟩
    intro first
    cases text with
    | nil => simp at first
    | cons c rest =>
      obtain rfl : c = '.' := by simpa using first
      exact other rest rfl

theorem exponentDigits_whole {start final : Mantissa} {negative : Bool} {text left : List Char}
    (read : exponentDigits start negative text = .ok (final, left)) : final.whole = false := by
  unfold exponentDigits at read
  dsimp only at read
  split at read
  · simp at read
  · simp only [Except.ok.injEq, Prod.mk.injEq] at read
    obtain ⟨rfl, -⟩ := read
    rfl

theorem exponent_whole {start final : Mantissa} {text left : List Char}
    (read : exponent start text = .ok (final, left)) (whole : final.whole = true) :
    final = start ∧ left = text ∧ text.head? ≠ some 'e' := by
  unfold exponent at read
  split at read
  · simp only [Except.ok.injEq, Prod.mk.injEq] at read
    obtain ⟨rfl, rfl⟩ := read
    simp
  · split at read
    · split at read <;> simp [exponentDigits_whole read] at whole
    · next unmarked =>
      simp only [Except.ok.injEq, Prod.mk.injEq] at read
      obtain ⟨rfl, rfl⟩ := read
      refine ⟨rfl, rfl, ?_⟩
      intro first
      exact unmarked (.inl (by simpa using first))

theorem integerPart_toDigits (n : Nat) {rest : List Char} (ends : NoDigit rest) :
    integerPart (Nat.toDigits 10 n ++ rest) =
      .ok (⟨(absorb 0 (Nat.toDigits 10 n)).1, (absorb 0 (Nat.toDigits 10 n)).2.length,
        (absorb 0 (Nat.toDigits 10 n)).2.isEmpty⟩, rest) := by
  obtain ⟨run, alone⟩ := wholePart_toDigits n
  by_cases zero : (Nat.toDigits 10 n).head? = some '0'
  · rw [alone zero]
    simp [integerPart, ends.head]
    decide
  · obtain ⟨c, more, shape⟩ := List.exists_cons_of_ne_nil run.1
    have taken := run.takeWhile ends
    have dropped := run.dropWhile ends
    rw [shape] at zero run
    rw [shape, List.cons_append] at taken dropped ⊢
    have other : c ≠ '0' := by simpa using zero
    have digit : c.isDigit = true := run.2 c List.mem_cons_self
    simp [integerPart, digit, taken, dropped]

theorem number_toDigits {n : Nat} (fits : n ≤ wordLimit) {rest : List Char} (ends : Ends rest) :
    number false (Nat.toDigits 10 n ++ rest) = .ok (.natural n, rest) := by
  have value : Nat.ofDigitChars 10 (Nat.toDigits 10 n) 0 = n := Nat.ofDigitChars_ten_toDigits
  have absorbed : absorb 0 (Nat.toDigits 10 n) = (n, []) := by
    rw [absorb_within (by rwa [value]), value]
  have noFraction : fraction ⟨n, 0, true⟩ rest = .ok (⟨n, 0, true⟩, rest) := by
    cases rest with
    | nil => rfl
    | cons c rest =>
      have other := (ends.noMark (c := c) rfl).1
      simp [fraction, other]
  have noExponent : exponent ⟨n, 0, true⟩ rest = .ok (⟨n, 0, true⟩, rest) := by
    cases rest with
    | nil => rfl
    | cons c rest =>
      have other := (ends.noMark (c := c) rfl).2
      simp [exponent, other]
  simp [number, integerPart_toDigits n ends.noDigit, absorbed, noFraction, noExponent,
    Mantissa.toNumber, bind, Except.bind, pure, Except.pure]

theorem toDigits_not_natural {n : Nat} (large : wordLimit < n) {rest left : List Char} {k : Nat}
    (ends : NoDigit rest) : number false (Nat.toDigits 10 n ++ rest) ≠ .ok (.natural k, left) := by
  intro read
  obtain ⟨start, middle, final, first, second, one, two, three, four⟩ := number_eq_ok read
  obtain ⟨-, whole, -⟩ := toNumber_natural four
  obtain ⟨rfl, -, -⟩ := exponent_whole three whole
  obtain ⟨rfl, -, -⟩ := fraction_whole two whole
  rw [integerPart_toDigits n ends] at one
  simp only [Except.ok.injEq, Prod.mk.injEq] at one
  obtain ⟨rfl, -⟩ := one
  have beyond : wordLimit < Nat.ofDigitChars 10 (Nat.toDigits 10 n) 0 := by
    rwa [Nat.ofDigitChars_ten_toDigits]
  exact absorb_beyond (Nat.zero_le _) beyond (by simpa using whole)

theorem integerPart_rest {whole rest left : List Char} {start : Mantissa} (part : WholePart whole)
    (ends : NoDigit rest) (read : integerPart (whole ++ rest) = .ok (start, left)) :
    left = rest := by
  obtain ⟨run, alone⟩ := part
  by_cases zero : whole.head? = some '0'
  · rw [alone zero] at read
    simp [integerPart, ends.head] at read
    exact read.2.symm
  · obtain ⟨c, more, rfl⟩ := List.exists_cons_of_ne_nil run.1
    have other : c ≠ '0' := by simpa using zero
    have digit : c.isDigit = true := run.2 c List.mem_cons_self
    have dropped := run.dropWhile ends
    rw [List.cons_append] at dropped read
    simp [integerPart, digit, dropped] at read
    exact read.2.symm

theorem real_not_natural {whole fraction exponent rest left : List Char} {k : Nat}
    (numeral : Numeral whole fraction exponent) (real : fraction ++ exponent ≠ []) (ends : Ends rest) :
    number false (whole ++ (fraction ++ (exponent ++ rest))) ≠ .ok (.natural k, left) := by
  intro read
  obtain ⟨start, middle, final, first, second, one, two, three, four⟩ := number_eq_ok read
  obtain ⟨-, whole, -⟩ := toNumber_natural four
  obtain ⟨rfl, rfl, noMark⟩ := exponent_whole three whole
  obtain ⟨rfl, rfl, noPoint⟩ := fraction_whole two whole
  have tail := integerPart_rest numeral.whole
    (numeral.fraction.noDigit (numeral.exponent.noDigit ends)) one
  subst tail
  rcases numeral.fraction with rfl | ⟨digits, _, rfl⟩
  · rcases numeral.exponent with rfl | ⟨sign, digits, _, _, rfl⟩
    · exact real rfl
    · simp at noMark
  · simp at noPoint

theorem number_natural_le {negative : Bool} {text left : List Char} {n : Nat}
    (read : number negative text = .ok (.natural n, left)) : n ≤ wordLimit := by
  obtain ⟨start, middle, final, first, second, one, two, three, four⟩ := number_eq_ok read
  obtain ⟨-, whole, rfl⟩ := toNumber_natural four
  obtain ⟨rfl, -, -⟩ := exponent_whole three whole
  obtain ⟨rfl, -, -⟩ := fraction_whole two whole
  unfold integerPart at one
  split at one
  · simp at one
  · split at one
    · simp at one
    · simp only [Except.ok.injEq, Prod.mk.injEq] at one
      rw [← one.1]
      exact Nat.zero_le _
  · split at one
    · simp only [Except.ok.injEq, Prod.mk.injEq] at one
      rw [← one.1]
      exact absorb_le 0 _ (Nat.zero_le _)
    · simp at one

/-! ### Real numbers as they are written -/

theorem digits_append {front back : List Char} (one : Digits front)
    (other : ∀ c ∈ back, c.isDigit = true) : Digits (front ++ back) := by
  refine ⟨by simp [one.1], ?_⟩
  intro c member
  rcases List.mem_append.mp member with inFront | inBack
  · exact one.2 c inFront
  · exact other c inBack

theorem isDigit_of_zeros {count : Nat} {c : Char} (member : c ∈ NumberLayout.zeros count) :
    c.isDigit = true := by
  rw [List.eq_of_mem_replicate member]
  rfl

/-- A part of digits that do not start with zero, from the first of them on. -/
theorem wholePart_of_head {digits whole : List Char} (run : Digits whole)
    (same : whole.head? = digits.head?) (nonzero : digits.head? ≠ some '0') : WholePart whole := by
  refine ⟨run, ?_⟩
  intro zero
  rw [same] at zero
  exact absurd zero nonzero

theorem positional_numeral {digits : List Char} (run : Digits digits)
    (nonzero : digits.head? ≠ some '0') (point : Int) :
    ∃ whole fraction, numberLayout.positional digits point = whole ++ ('.' :: fraction) ∧
      WholePart whole ∧ Digits fraction := by
  obtain ⟨c, more, rfl⟩ := List.exists_cons_of_ne_nil run.1
  unfold NumberLayout.positional
  split
  · refine ⟨['0'], NumberLayout.zeros (-point).toNat ++ (c :: more), by simp, ?_, by simp, ?_⟩
    · exact ⟨⟨by simp, by simp⟩, fun _ => rfl⟩
    · intro x member
      rcases List.mem_append.mp member with zero | inDigits
      · exact isDigit_of_zeros zero
      · exact run.2 x inDigits
  · split
    · refine ⟨c :: more ++ NumberLayout.zeros (point.toNat - (c :: more).length), ['0'], ?_, ?_, ?_⟩
      · simp [numberLayout]
      · exact wholePart_of_head (digits_append run fun x member => isDigit_of_zeros member) rfl nonzero
      · exact ⟨by simp, by simp⟩
    · next positive inside =>
      obtain ⟨count, exact⟩ : ∃ count, point.toNat = count + 1 := ⟨point.toNat - 1, by omega⟩
      rw [exact] at inside ⊢
      refine ⟨(c :: more).take (count + 1), (c :: more).drop (count + 1), by simp, ?_, ?_, ?_⟩
      · refine wholePart_of_head ⟨by simp, ?_⟩ rfl nonzero
        intro x member
        exact run.2 x (List.mem_of_mem_take member)
      · intro empty
        rw [List.drop_eq_nil_iff] at empty
        omega
      · intro x member
        exact run.2 x (List.mem_of_mem_drop member)

theorem scientific_numeral {digits : List Char} (run : Digits digits)
    (nonzero : digits.head? ≠ some '0') (power : Int) :
    ∃ whole fraction exponent, NumberLayout.scientific digits power =
      whole ++ (fraction ++ exponent) ∧ Numeral whole fraction exponent ∧ exponent ≠ [] := by
  obtain ⟨c, more, rfl⟩ := List.exists_cons_of_ne_nil run.1
  have digit : c.isDigit = true := run.2 c List.mem_cons_self
  refine ⟨[c], if more.isEmpty then [] else '.' :: more,
    'e' :: (if power < 0 then '-' else '+') :: Nat.toDigits 10 power.natAbs, ?_, ⟨?_, ?_, ?_⟩, by simp⟩
  · simp [NumberLayout.scientific]
  · exact wholePart_of_head ⟨by simp, by simpa using digit⟩ rfl nonzero
  · cases more with
    | nil => exact .inl rfl
    | cons d more =>
      refine .inr ⟨d :: more, ⟨by simp, ?_⟩, rfl⟩
      intro x member
      exact run.2 x (List.mem_cons_of_mem c member)
  · refine .inr ⟨_, _, ?_, digits_toDigits _, rfl⟩
    split
    · exact .inr rfl
    · exact .inl rfl

theorem magnitude_numeral {value : Magnitude} (range : value.InRange) :
    ∃ whole fraction exponent, numberLayout.magnitude value = whole ++ (fraction ++ exponent) ∧
      Numeral whole fraction exponent ∧ fraction ++ exponent ≠ [] := by
  unfold NumberLayout.magnitude
  split
  · refine ⟨['0'], ['.', '0'], [], rfl, ⟨⟨⟨by simp, by simp⟩, fun _ => rfl⟩, ?_, .inl rfl⟩, by simp⟩
    exact .inr ⟨['0'], ⟨by simp, by simp⟩, rfl⟩
  · next nonzero =>
    have positive := Magnitude.shortest_pos range nonzero
    have run := digits_toDigits value.shortest.digits
    have leading : (Nat.toDigits 10 value.shortest.digits).head? ≠ some '0' := by
      intro zero
      have := toDigits_head _ zero
      omega
    dsimp only
    split
    · obtain ⟨whole, fraction, shape, first, second⟩ := positional_numeral run leading
        (value.shortest.exponent + (Nat.toDigits 10 value.shortest.digits).length)
      refine ⟨whole, '.' :: fraction, [], by simp [shape], ⟨first, ?_, .inl rfl⟩, by simp⟩
      exact .inr ⟨fraction, second, rfl⟩
    · obtain ⟨whole, fraction, exponent, shape, numeral, marked⟩ := scientific_numeral run leading
        (value.shortest.exponent + (Nat.toDigits 10 value.shortest.digits).length - 1)
      exact ⟨whole, fraction, exponent, shape, numeral, by simp [marked]⟩

def Number.InRange : Number → Prop
  | .natural _ => True
  | .negative _ => True
  | .real value => value.magnitude.InRange

theorem Number.numeral {value : Number} (range : value.InRange) :
    ∃ sign whole fraction exponent, value.chars = sign ++ (whole ++ (fraction ++ exponent)) ∧
      (sign = [] ∨ sign = ['-']) ∧ Numeral whole fraction exponent ∧
      ((∃ n, value = .natural n) ∨ sign = ['-'] ∨ fraction ++ exponent ≠ []) := by
  cases value with
  | natural n =>
    exact ⟨[], Nat.toDigits 10 n, [], [], by simp [Number.chars], .inl rfl,
      ⟨wholePart_toDigits n, .inl rfl, .inl rfl⟩, .inl ⟨n, rfl⟩⟩
  | negative n =>
    exact ⟨['-'], Nat.toDigits 10 n, [], [], by simp [Number.chars], .inr rfl,
      ⟨wholePart_toDigits n, .inl rfl, .inl rfl⟩, .inr (.inl rfl)⟩
  | real value =>
    obtain ⟨whole, fraction, exponent, shape, numeral, marked⟩ := magnitude_numeral range
    refine ⟨if value.negative then ['-'] else [], whole, fraction, exponent, ?_, ?_, numeral,
      .inr (.inr marked)⟩
    · rw [← shape]
      rfl
    · split
      · exact .inr rfl
      · exact .inl rfl

end Json

end LatexTree
