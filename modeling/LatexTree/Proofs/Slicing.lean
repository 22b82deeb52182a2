import LatexTree.Source
import Mathlib.Data.String.Basic

/-! Slices by code units.

A text is the run of its characters, the run of their 16-bit code units and the run of their bytes.
An offset in code units cuts the text in two wherever it does not stand between the halves of a
surrogate pair; a slice lies between two such cuts, and cutting the bytes instead gives the same. -/
namespace LatexTree

/-- A character of the basic plane is its own code unit, any other makes a surrogate pair. -/
def codeUnits (c : Char) : List UInt16 :=
  if c.toNat < 0x10000 then [.ofNat c.toNat]
  else
    let beyond := c.toNat - 0x10000
    [.ofNat (0xD800 + beyond / 0x400), .ofNat (0xDC00 + beyond % 0x400)]

def utf16 (chars : List Char) : List UInt16 := chars.flatMap codeUnits

def HighSurrogate (unit : UInt16) : Prop := 0xD800 ≤ unit ∧ unit < 0xDC00

def LowSurrogate (unit : UInt16) : Prop := 0xDC00 ≤ unit ∧ unit < 0xE000

/-- The offset falls inside a surrogate pair. -/
def SplitsPair (units : List UInt16) (offset : Nat) : Prop :=
  0 < offset ∧ (∃ unit ∈ units[offset - 1]?, HighSurrogate unit) ∧
    ∃ unit ∈ units[offset]?, LowSurrogate unit

instance (unit : UInt16) : Decidable (HighSurrogate unit) := inferInstanceAs (Decidable (_ ∧ _))

instance (unit : UInt16) : Decidable (LowSurrogate unit) := inferInstanceAs (Decidable (_ ∧ _))

instance (units : List UInt16) (offset : Nat) : Decidable (SplitsPair units offset) :=
  inferInstanceAs (Decidable (_ ∧ _))

theorem ofNat_between {n : Nat} (small : n < 0x10000) (low high : UInt16) :
    low ≤ .ofNat n ∧ .ofNat n < high ↔ low.toNat ≤ n ∧ n < high.toNat := by
  rw [UInt16.le_iff_toNat_le, UInt16.lt_iff_toNat_lt, UInt16.toNat_ofNat_of_lt' small]

theorem highSurrogate_ofNat {n : Nat} (small : n < 0x10000) :
    HighSurrogate (.ofNat n) ↔ 0xD800 ≤ n ∧ n < 0xDC00 := ofNat_between small 0xD800 0xDC00

theorem lowSurrogate_ofNat {n : Nat} (small : n < 0x10000) :
    LowSurrogate (.ofNat n) ↔ 0xDC00 ≤ n ∧ n < 0xE000 := ofNat_between small 0xDC00 0xE000

/-- One unit that is no high surrogate, or a high and a low one. -/
theorem codeUnits_cases (c : Char) :
    (∃ unit, codeUnits c = [unit] ∧ unitWidth c = 1 ∧ ¬ HighSurrogate unit) ∨
      ∃ high low, codeUnits c = [high, low] ∧ unitWidth c = 2 ∧ HighSurrogate high ∧
        LowSurrogate low ∧ ¬ HighSurrogate low := by
  have valid : c.toNat < 0xD800 ∨ 0xDFFF < c.toNat ∧ c.toNat < 0x110000 := c.valid
  by_cases basic : c.toNat < 0x10000
  · left
    refine ⟨_, if_pos basic, if_pos basic, ?_⟩
    rw [highSurrogate_ofNat basic]
    omega
  · right
    refine ⟨_, _, if_neg basic, if_neg basic, ?_⟩
    rw [highSurrogate_ofNat (by omega), lowSurrogate_ofNat (by omega), highSurrogate_ofNat (by omega)]
    omega

theorem unitWidth_pos (c : Char) : 0 < unitWidth c := by
  unfold unitWidth
  split
  · exact Nat.one_pos
  · exact Nat.two_pos

@[simp] theorem unitLength_nil : unitLength [] = 0 := rfl

@[simp] theorem unitLength_cons (c : Char) (rest : List Char) :
    unitLength (c :: rest) = unitWidth c + unitLength rest := rfl

theorem unitLength_append (front back : List Char) :
    unitLength (front ++ back) = unitLength front + unitLength back := by
  induction front with
  | nil => simp
  | cons c rest ih => simp [ih, Nat.add_assoc]

theorem unitLength_eq_zero {chars : List Char} (empty : unitLength chars = 0) : chars = [] := by
  cases chars with
  | nil => rfl
  | cons c rest =>
    have positive := unitWidth_pos c
    rw [unitLength_cons] at empty
    omega

theorem utf16_cons (c : Char) (rest : List Char) : utf16 (c :: rest) = codeUnits c ++ utf16 rest :=
  List.flatMap_cons

theorem utf16_append (front back : List Char) : utf16 (front ++ back) = utf16 front ++ utf16 back :=
  List.flatMap_append

theorem length_utf16 (chars : List Char) : (utf16 chars).length = unitLength chars := by
  induction chars with
  | nil => rfl
  | cons c rest ih =>
    rw [utf16_cons, List.length_append, ih, unitLength_cons]
    rcases codeUnits_cases c with ⟨unit, single, width, -⟩ | ⟨high, low, pair, width, -⟩
    · rw [single, width]
      rfl
    · rw [pair, width]
      rfl

theorem splitsPair_later (unit : UInt16) (units : List UInt16) (offset : Nat) :
    SplitsPair (unit :: units) (offset + 2) ↔ SplitsPair units (offset + 1) := by
  simp [SplitsPair]

theorem splitsPair_cons {unit : UInt16} (single : ¬ HighSurrogate unit) (units : List UInt16)
    (offset : Nat) : SplitsPair (unit :: units) (offset + 1) ↔ SplitsPair units offset := by
  cases offset with
  | zero => simp [SplitsPair, single]
  | succ offset => exact splitsPair_later unit units offset

/-! ### Cuts -/

/-- The text falls into two parts at the offset. -/
structure CutsAt (chars : List Char) (offset : Nat) (front back : List Char) : Prop where
  whole : chars = front ++ back
  size : unitLength front = offset

namespace CutsAt

variable {chars front back front' back' : List Char} {offset offset' : Nat}

theorem zero_iff : CutsAt chars 0 front back ↔ front = [] ∧ back = chars := by
  constructor
  · rintro ⟨rfl, empty⟩
    obtain rfl := unitLength_eq_zero empty
    exact ⟨rfl, rfl⟩
  · rintro ⟨rfl, rfl⟩
    exact ⟨rfl, rfl⟩

theorem nil_iff : CutsAt [] offset front back ↔ offset = 0 ∧ front = [] ∧ back = [] := by
  constructor
  · rintro ⟨whole, rfl⟩
    obtain ⟨rfl, rfl⟩ := List.append_eq_nil_iff.mp whole.symm
    exact ⟨rfl, rfl, rfl⟩
  · rintro ⟨rfl, rfl, rfl⟩
    exact ⟨rfl, rfl⟩

theorem cons_iff {c : Char} {rest : List Char} (inside : offset ≠ 0) :
    CutsAt (c :: rest) offset front back ↔
      ∃ front', front = c :: front' ∧ unitWidth c ≤ offset ∧
        CutsAt rest (offset - unitWidth c) front' back := by
  constructor
  · rintro ⟨whole, rfl⟩
    cases front with
    | nil => exact absurd rfl inside
    | cons first front' =>
      obtain ⟨rfl, rfl⟩ := List.cons.inj whole
      rw [unitLength_cons]
      exact ⟨front', rfl, Nat.le_add_right .., rfl, (Nat.add_sub_cancel_left ..).symm⟩
  · rintro ⟨front', rfl, fits, rfl, size⟩
    refine ⟨rfl, ?_⟩
    rw [unitLength_cons, size]
    exact Nat.add_sub_of_le fits

/-- Of two cuts the later one leaves more in front. -/
theorem between (cut : CutsAt chars offset front back) (cut' : CutsAt chars offset' front' back')
    (inOrder : offset ≤ offset') : ∃ middle, front' = front ++ middle ∧ back = middle ++ back' := by
  obtain ⟨rfl, rfl⟩ := cut
  obtain ⟨same, rfl⟩ := cut'
  rcases List.append_eq_append_iff.mp same with ⟨middle, longer, rest⟩ | ⟨middle, longer, rest⟩
  · exact ⟨middle, longer, rest⟩
  · rw [longer, unitLength_append] at inOrder
    have empty : unitLength middle = 0 := by omega
    obtain rfl := unitLength_eq_zero empty
    exact ⟨[], by simp [longer], by simp [rest]⟩

theorem unique (cut : CutsAt chars offset front back) (cut' : CutsAt chars offset front' back') :
    front = front' ∧ back = back' := by
  obtain ⟨middle, rfl, rfl⟩ := cut.between cut' (Nat.le_refl _)
  have same := cut.size.trans cut'.size.symm
  rw [unitLength_append] at same
  have empty : unitLength middle = 0 := by omega
  obtain rfl := unitLength_eq_zero empty
  exact ⟨(List.append_nil front).symm, rfl⟩

end CutsAt

/-- An offset within the text cuts it, unless it falls inside a surrogate pair. -/
theorem exists_cut_iff (chars : List Char) (offset : Nat) :
    (∃ front back, CutsAt chars offset front back) ↔
      offset ≤ (utf16 chars).length ∧ ¬ SplitsPair (utf16 chars) offset := by
  induction chars generalizing offset with
  | nil => simp [CutsAt.nil_iff, utf16, SplitsPair]
  | cons c rest ih =>
    by_cases start : offset = 0
    · simp [start, CutsAt.zero_iff, SplitsPair]
    · have step : (∃ front back, CutsAt (c :: rest) offset front back) ↔
          unitWidth c ≤ offset ∧ ∃ front back, CutsAt rest (offset - unitWidth c) front back := by
        simp only [CutsAt.cons_iff start]
        constructor
        · rintro ⟨_, back, front, rfl, fits, cut⟩
          exact ⟨fits, front, back, cut⟩
        · rintro ⟨fits, front, back, cut⟩
          exact ⟨_, back, front, rfl, fits, cut⟩
      rw [step, ih, utf16_cons]
      rcases codeUnits_cases c with
        ⟨unit, single, width, plain⟩ | ⟨high, low, pair, width, upper, lower, plain⟩
      · obtain ⟨offset, rfl⟩ := Nat.exists_eq_succ_of_ne_zero start
        rw [single, width]
        simp [splitsPair_cons plain]
      · rw [pair, width]
        match offset, start with
        | 1, _ =>
          have halved : SplitsPair (high :: low :: utf16 rest) 1 :=
            ⟨Nat.one_pos, ⟨high, rfl, upper⟩, low, rfl, lower⟩
          simp [halved]
        | offset + 2, _ => simp [splitsPair_later, splitsPair_cons plain]

/-! ### Boundaries -/

theorem mem_boundariesFrom (unit byte offset place : Nat) (chars : List Char) :
    (offset, place) ∈ boundariesFrom unit byte chars ↔
      ∃ front back, chars = front ++ back ∧ offset = unit + unitLength front ∧
        place = byte + (String.ofList front).utf8ByteSize := by
  induction chars generalizing unit byte with
  | nil =>
    rw [boundariesFrom, List.mem_singleton, Prod.mk.injEq]
    constructor
    · rintro ⟨rfl, rfl⟩
      exact ⟨[], [], rfl, rfl, rfl⟩
    · rintro ⟨front, back, whole, rfl, rfl⟩
      obtain ⟨rfl, rfl⟩ := List.append_eq_nil_iff.mp whole.symm
      exact ⟨rfl, rfl⟩
  | cons c rest ih =>
    have size (front : List Char) : (String.ofList (c :: front)).utf8ByteSize =
        c.utf8Size + (String.ofList front).utf8ByteSize := by
      rw [String.ofList_cons, String.utf8ByteSize_append, String.utf8ByteSize_singleton]
    rw [boundariesFrom, List.mem_cons, ih, Prod.mk.injEq]
    constructor
    · rintro (⟨rfl, rfl⟩ | ⟨front, back, rfl, rfl, rfl⟩)
      · exact ⟨[], c :: rest, rfl, rfl, rfl⟩
      · refine ⟨c :: front, back, rfl, ?_, ?_⟩
        · rw [unitLength_cons, Nat.add_assoc]
        · rw [size, Nat.add_assoc]
    · rintro ⟨front, back, whole, rfl, rfl⟩
      cases front with
      | nil => exact .inl ⟨rfl, rfl⟩
      | cons first front =>
        obtain ⟨rfl, rfl⟩ := List.cons.inj whole
        refine .inr ⟨front, back, rfl, ?_, ?_⟩
        · rw [unitLength_cons, Nat.add_assoc]
        · rw [size, Nat.add_assoc]

namespace Source

theorem mem_boundaries (source : Source) (offset place : Nat) :
    (offset, place) ∈ source.boundaries ↔
      ∃ front back, CutsAt source.chars offset front back ∧
        place = (String.ofList front).utf8ByteSize := by
  rw [boundaries, mem_boundariesFrom]
  constructor
  · rintro ⟨front, back, whole, rfl, rfl⟩
    exact ⟨front, back, ⟨whole, (Nat.zero_add _).symm⟩, Nat.zero_add _⟩
  · rintro ⟨front, back, ⟨whole, rfl⟩, rfl⟩
    exact ⟨front, back, whole, (Nat.zero_add _).symm, (Nat.zero_add _).symm⟩

end Source

theorem boundariesFrom_ascending (unit byte : Nat) (chars : List Char) :
    (boundariesFrom unit byte chars).Pairwise (·.1 < ·.1) := by
  induction chars generalizing unit byte with
  | nil => exact List.pairwise_singleton ..
  | cons c rest ih =>
    refine List.pairwise_cons.mpr ⟨?_, ih _ _⟩
    intro boundary later
    obtain ⟨front, back, -, place, -⟩ := (mem_boundariesFrom _ _ _ _ _).mp later
    have positive := unitWidth_pos c
    omega

/-- The search meets every entry of an ascending table. -/
theorem search_entry_iff {table : List (Nat × Nat)} (ascending : table.Pairwise (·.1 < ·.1))
    (number value : Nat) :
    (match search number (table.map Prod.fst) with
      | .ok index => (table[index]?).map Prod.snd
      | .error _ => none) = some value ↔ (number, value) ∈ table := by
  induction table with
  | nil => simp [search]
  | cons entry rest ih =>
    obtain ⟨own, others⟩ := List.pairwise_cons.mp ascending
    obtain ⟨key, item⟩ := entry
    rw [List.map_cons, search, List.mem_cons, Prod.mk.injEq]
    rcases Nat.lt_trichotomy key number with passed | rfl | beyond
    · rw [if_pos passed, ← ih others]
      have other : ¬ (number = key ∧ value = item) := by omega
      cases search number (rest.map Prod.fst) with
      | ok index => simp [other]
      | error place => simp [other]
    · have unmet : (key, value) ∉ rest := fun later => Nat.lt_irrefl key (own (key, value) later)
      simp [unmet, eq_comm]
    · have unmet : (number, value) ∉ rest := fun later => Nat.lt_asymm beyond (own _ later)
      have other : ¬ (number = key ∧ value = item) := by omega
      rw [if_neg (Nat.lt_asymm beyond), if_neg (Nat.ne_of_gt beyond)]
      simp [unmet, other]

theorem Source.byteOffset?_eq_some (source : Source) (offset place : Nat) :
    source.byteOffset? offset = some place ↔
      ∃ front back, CutsAt source.chars offset front back ∧
        place = (String.ofList front).utf8ByteSize := by
  rw [← mem_boundaries]
  exact search_entry_iff (boundariesFrom_ascending 0 0 source.chars) offset place

/-! ### Slices -/

/-- A slice is what lies between two cuts. -/
theorem Source.slice_eq_some (source : Source) (span : Span) (slice : String) :
    source.slice span = some slice ↔
      ∃ front back, CutsAt source.chars span.start front (slice.toList ++ back) ∧
        CutsAt source.chars span.stop (front ++ slice.toList) back := by
  have extract (front middle back : List Char) :
      String.Pos.Raw.extract (String.ofList (front ++ middle ++ back))
        ⟨(String.ofList front).utf8ByteSize⟩ ⟨(String.ofList (front ++ middle)).utf8ByteSize⟩ =
          String.ofList middle := by
    rw [String.utf8ByteSize_ofList, String.utf8ByteSize_ofList, String.utf8Len_append]
    exact String.extract_of_valid front middle back
  unfold Source.slice
  constructor
  · intro found
    obtain ⟨inOrder, found⟩ := Option.ite_none_left_eq_some.mp found
    obtain ⟨_, starts, found⟩ := Option.bind_eq_some_iff.mp found
    obtain ⟨_, stops, found⟩ := Option.bind_eq_some_iff.mp found
    obtain ⟨front, rest, first, rfl⟩ := (source.byteOffset?_eq_some _ _).mp starts
    obtain ⟨front', back, last, rfl⟩ := (source.byteOffset?_eq_some _ _).mp stops
    obtain ⟨middle, rfl, rfl⟩ := first.between last (Nat.le_of_not_lt inOrder)
    have cut := extract front middle back
    rw [← last.whole] at cut
    rw [← Option.some.inj found, text, cut, String.toList_ofList]
    exact ⟨front, back, first, last⟩
  · rintro ⟨front, back, first, last⟩
    have inOrder : ¬ span.Inverted := by
      rw [Span.Inverted, ← first.size, ← last.size, unitLength_append]
      omega
    have starts := (source.byteOffset?_eq_some _ _).mpr ⟨_, _, first, rfl⟩
    have stops := (source.byteOffset?_eq_some _ _).mpr ⟨_, _, last, rfl⟩
    rw [if_neg inOrder, starts, stops, text, last.whole]
    refine congrArg some ?_
    rw [extract, String.ofList_toList]

theorem Source.inOrder_of_slice {source : Source} {span : Span} {slice : String}
    (found : source.slice span = some slice) : span.start ≤ span.stop := by
  obtain ⟨front, back, first, last⟩ := (source.slice_eq_some span slice).mp found
  rw [← first.size, ← last.size, unitLength_append]
  exact Nat.le_add_right ..

theorem Source.slice_isSome_iff (source : Source) (span : Span) :
    (source.slice span).isSome ↔
      span.start ≤ span.stop ∧ span.stop ≤ (utf16 source.chars).length ∧
        ¬ SplitsPair (utf16 source.chars) span.start ∧
        ¬ SplitsPair (utf16 source.chars) span.stop := by
  rw [Option.isSome_iff_exists]
  constructor
  · rintro ⟨slice, found⟩
    obtain ⟨front, back, first, last⟩ := (source.slice_eq_some span slice).mp found
    obtain ⟨-, whole⟩ := (exists_cut_iff _ _).mp ⟨_, _, first⟩
    obtain ⟨within, whole'⟩ := (exists_cut_iff _ _).mp ⟨_, _, last⟩
    exact ⟨inOrder_of_slice found, within, whole, whole'⟩
  · rintro ⟨inOrder, within, whole, whole'⟩
    obtain ⟨front, rest, first⟩ := (exists_cut_iff _ _).mpr ⟨Nat.le_trans inOrder within, whole⟩
    obtain ⟨front', back, last⟩ := (exists_cut_iff _ _).mpr ⟨within, whole'⟩
    obtain ⟨middle, rfl, rfl⟩ := first.between last inOrder
    refine ⟨String.ofList middle, (source.slice_eq_some _ _).mpr ⟨front, back, ?_⟩⟩
    rw [String.toList_ofList]
    exact ⟨first, last⟩

/-! ### Bytes -/

/-- The bytes between the two offsets can be cut out of the text: neither offset stands inside a
character, and they are in order. -/
def Sliceable (text : String) (first last : Nat) : Prop :=
  first ≤ last ∧ String.Pos.Raw.IsValid text ⟨first⟩ ∧ String.Pos.Raw.IsValid text ⟨last⟩

namespace Source

theorem sliceable_of_mem (source : Source) {span : Span} {first last : Nat}
    (inOrder : span.start ≤ span.stop) (starts : (span.start, first) ∈ source.boundaries)
    (stops : (span.stop, last) ∈ source.boundaries) : Sliceable source.text first last := by
  obtain ⟨front, rest, cut, rfl⟩ := (source.mem_boundaries _ _).mp starts
  obtain ⟨front', back, cut', rfl⟩ := (source.mem_boundaries _ _).mp stops
  have valid {offset : Nat} {front back : List Char} (cut : CutsAt source.chars offset front back) :
      String.Pos.Raw.IsValid source.text ⟨(String.ofList front).utf8ByteSize⟩ := by
    apply String.Pos.Raw.isValid_iff_exists_append.mpr
    refine ⟨String.ofList front, String.ofList back, ?_, rfl⟩
    rw [text, cut.whole, String.ofList_append]
  refine ⟨?_, valid cut, valid cut'⟩
  obtain ⟨middle, rfl, rfl⟩ := cut.between cut' inOrder
  rw [String.ofList_append, String.utf8ByteSize_append]
  exact Nat.le_add_right ..

theorem slice_iff_bytes (source : Source) (span : Span) (slice : String) :
    source.slice span = some slice ↔
      span.start ≤ span.stop ∧ ∃ first last, (span.start, first) ∈ source.boundaries ∧
        (span.stop, last) ∈ source.boundaries ∧
        source.text.toByteArray.extract first last = slice.toByteArray := by
  have bytes {front middle back : List Char} (whole : source.chars = front ++ (middle ++ back)) :
      source.text.toByteArray.extract (String.ofList front).utf8ByteSize
        (String.ofList (front ++ middle)).utf8ByteSize = (String.ofList middle).toByteArray := by
    rw [text, whole, String.ofList_append, String.ofList_append, String.ofList_append,
      String.utf8ByteSize_append, String.toByteArray_append, String.toByteArray_append]
    exact (ByteArray.extract_append_size_add (i := 0)).trans (ByteArray.extract_append_eq_left rfl)
  constructor
  · intro found
    obtain ⟨front, back, first, last⟩ := (source.slice_eq_some span slice).mp found
    have starts := (source.mem_boundaries _ _).mpr ⟨_, _, first, rfl⟩
    have stops := (source.mem_boundaries _ _).mpr ⟨_, _, last, rfl⟩
    have taken := bytes first.whole
    rw [String.ofList_toList] at taken
    exact ⟨inOrder_of_slice found, _, _, starts, stops, taken⟩
  · rintro ⟨inOrder, _, _, starts, stops, taken⟩
    obtain ⟨front, rest, first, rfl⟩ := (source.mem_boundaries _ _).mp starts
    obtain ⟨front', back, last, rfl⟩ := (source.mem_boundaries _ _).mp stops
    obtain ⟨middle, rfl, rfl⟩ := first.between last inOrder
    obtain rfl : String.ofList middle = slice :=
      String.toByteArray_inj.mp ((bytes first.whole).symm.trans taken)
    rw [slice_eq_some, String.toList_ofList]
    exact ⟨front, back, first, last⟩

theorem slice_append (source : Source) {start middle stop : Nat} {first second : String}
    (left : source.slice ⟨start, middle⟩ = some first)
    (right : source.slice ⟨middle, stop⟩ = some second) :
    source.slice ⟨start, stop⟩ = some (first ++ second) := by
  obtain ⟨front, rest, starts, meets⟩ := (source.slice_eq_some _ _).mp left
  obtain ⟨front', back, meets', stops⟩ := (source.slice_eq_some _ _).mp right
  obtain ⟨rfl, rfl⟩ := meets.unique meets'
  rw [slice_eq_some, String.toList_append]
  rw [List.append_assoc] at stops
  refine ⟨front, back, ?_, stops⟩
  rwa [List.append_assoc]

theorem slice_whole (source : Source) : source.slice ⟨0, source.length⟩ = some source.text := by
  rw [slice_eq_some, text, String.toList_ofList]
  refine ⟨[], [], ⟨?_, rfl⟩, ?_, rfl⟩
  · simp
  · simp

theorem slice_units (source : Source) {span : Span} {slice : String}
    (found : source.slice span = some slice) :
    ∃ front back, source.text = front ++ slice ++ back ∧
      utf16 front.toList = (utf16 source.chars).take span.start ∧
      utf16 slice.toList = ((utf16 source.chars).take span.stop).drop span.start := by
  obtain ⟨front, back, first, last⟩ := (source.slice_eq_some span slice).mp found
  refine ⟨String.ofList front, String.ofList back, ?_, ?_, ?_⟩
  · rw [text, last.whole, String.ofList_append, String.ofList_append, String.ofList_toList]
  · rw [String.toList_ofList, first.whole, utf16_append, ← first.size, ← length_utf16,
      List.take_left]
  · rw [last.whole, utf16_append, ← last.size, ← length_utf16, List.take_left, utf16_append,
      ← first.size, ← length_utf16, List.drop_left]

/-- Slicing by code units is exact. There is a slice exactly if the span is not inverted, does not pass
the end of the text and splits no surrogate pair at either end. The slice is then the run of characters
whose code units are those of the span. Cutting out the bytes between the boundaries of the span never
fails and gives the slice. Slices that meet make up the slice of both, and the slice of the whole length
is the text. -/
theorem slice_exact (source : Source) :
    (∀ span : Span, (source.slice span).isSome ↔
      span.start ≤ span.stop ∧ span.stop ≤ (utf16 source.chars).length ∧
        ¬ SplitsPair (utf16 source.chars) span.start ∧
        ¬ SplitsPair (utf16 source.chars) span.stop) ∧
    (∀ (span : Span) (slice : String), source.slice span = some slice →
      ∃ front back, source.text = front ++ slice ++ back ∧
        utf16 front.toList = (utf16 source.chars).take span.start ∧
        utf16 slice.toList = ((utf16 source.chars).take span.stop).drop span.start) ∧
    (∀ (span : Span) (first last : Nat), span.start ≤ span.stop →
      (span.start, first) ∈ source.boundaries → (span.stop, last) ∈ source.boundaries →
        Sliceable source.text first last) ∧
    (∀ (span : Span) (slice : String), source.slice span = some slice ↔
      span.start ≤ span.stop ∧ ∃ first last, (span.start, first) ∈ source.boundaries ∧
        (span.stop, last) ∈ source.boundaries ∧
        source.text.toByteArray.extract first last = slice.toByteArray) ∧
    (∀ (a b c : Nat) (first second : String), source.slice ⟨a, b⟩ = some first →
      source.slice ⟨b, c⟩ = some second → source.slice ⟨a, c⟩ = some (first ++ second)) ∧
    source.slice ⟨0, source.length⟩ = some source.text := by
  exact ⟨source.slice_isSome_iff, fun _ _ => source.slice_units,
    fun _ _ _ => source.sliceable_of_mem, source.slice_iff_bytes,
    fun _ _ _ _ _ => source.slice_append, source.slice_whole⟩

-- The second unit of the first character is no place to cut.
example : SplitsPair (utf16 ['😀', '%', 'a']) 1 ∧ Source.slice ⟨['😀', '%', 'a']⟩ ⟨1, 3⟩ = none ∧
    Source.slice ⟨['😀', '%', 'a']⟩ ⟨2, 3⟩ = some "%" := by decide

end Source

end LatexTree
