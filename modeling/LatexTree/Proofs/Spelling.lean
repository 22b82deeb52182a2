import LatexTree.Json.Writer
import LatexTree.Proofs.Numerals

/-! JSON texts of a value, whatever blanks stand in them.

A spelling is the value's text with any blanks between its parts. The writer's text is a spelling in
either layout, so that what is proved of readers for spellings holds for both. Texts are read back
character by character as they were escaped. -/
namespace LatexTree.Json

/-- The values that stand for JSON texts: no name occurs twice in an object, and real numbers are
numbers of 64 bits. -/
inductive Value.Proper : Value → Prop
  | null : Proper .null
  | bool (value : Bool) : Proper (.bool value)
  | number (value : Number) (range : value.InRange) : Proper (.number value)
  | text (value : String) : Proper (.text value)
  | list (items : List Value) (below : ∀ item ∈ items, Proper item) : Proper (.list items)
  | object (members : List (String × Value)) (distinct : (members.map Prod.fst).Nodup)
      (below : ∀ member ∈ members, Proper member.2) : Proper (.object members)

namespace Value

@[simp] theorem proper_null : Value.null.Proper := .null

@[simp] theorem proper_text (value : String) : (Value.text value).Proper := .text value

@[simp] theorem proper_nat (n : Nat) : (Value.nat n).Proper := .number _ trivial

@[simp] theorem proper_list (items : List Value) :
    (Value.list items).Proper ↔ ∀ item ∈ items, item.Proper := by
  constructor
  · rintro ⟨⟩
    assumption
  · exact .list items

@[simp] theorem proper_object (members : List (String × Value)) :
    (Value.object members).Proper ↔
      (members.map Prod.fst).Nodup ∧ ∀ member ∈ members, member.2.Proper := by
  constructor
  · rintro ⟨⟩
    exact ⟨‹_›, ‹_›⟩
  · rintro ⟨distinct, below⟩
    exact .object members distinct below

end Value

def Blank (text : List Char) : Prop := ∀ c ∈ text, isBlank c = true

/-- What stands before an item: blanks, with a comma among them unless the item is the first. -/
inductive Separator : Bool → List Char → Prop
  | first (blanks : List Char) (blank : Blank blanks) : Separator true blanks
  | next (front back : List Char) (before : Blank front) (after : Blank back) :
      Separator false (front ++ ',' :: back)

mutual

inductive Spelling : Value → List Char → Prop
  | null : Spelling .null ['n', 'u', 'l', 'l']
  | yes : Spelling (.bool true) ['t', 'r', 'u', 'e']
  | no : Spelling (.bool false) ['f', 'a', 'l', 's', 'e']
  | number (value : Number) (range : value.InRange) : Spelling (.number value) value.chars
  | text (value : String) : Spelling (.text value) (textChars value)
  | list (items : List Value) (text blanks : List Char) (inside : ItemsSpelling true items text)
      (blank : Blank blanks) : Spelling (.list items) ('[' :: (text ++ (blanks ++ [']'])))
  | object (members : List (String × Value)) (text blanks : List Char)
      (inside : MembersSpelling true members text) (blank : Blank blanks) :
      Spelling (.object members) ('\x7b' :: (text ++ (blanks ++ ['\x7d'])))

inductive ItemsSpelling : Bool → List Value → List Char → Prop
  | nil (first : Bool) : ItemsSpelling first [] []
  | cons (first : Bool) (item : Value) (items : List Value) (gap text tail : List Char)
      (parted : Separator first gap) (spelled : Spelling item text)
      (rest : ItemsSpelling false items tail) :
      ItemsSpelling first (item :: items) (gap ++ (text ++ tail))

inductive MembersSpelling : Bool → List (String × Value) → List Char → Prop
  | nil (first : Bool) : MembersSpelling first [] []
  | cons (first : Bool) (name : String) (value : Value) (members : List (String × Value))
      (gap front back text tail : List Char) (parted : Separator first gap) (before : Blank front)
      (after : Blank back) (spelled : Spelling value text)
      (rest : MembersSpelling false members tail) :
      MembersSpelling first ((name, value) :: members)
        (gap ++ (textChars name ++ (front ++ ':' :: (back ++ (text ++ tail)))))

end

/-! ### The writer -/

theorem blank_nil : Blank [] := by simp [Blank]

theorem blank_gap (layout : Layout) (depth : Nat) : Blank (layout.gap depth) := by
  cases layout with
  | compact => exact blank_nil
  | pretty =>
    intro c member
    rcases List.mem_cons.mp member with rfl | inside
    · rfl
    · rw [List.eq_of_mem_replicate inside]
      rfl

theorem colon_eq (layout : Layout) : ∃ back, Blank back ∧ layout.colon = ':' :: back := by
  cases layout with
  | compact => exact ⟨[], blank_nil, rfl⟩
  | pretty => exact ⟨[' '], by simp [Blank, isBlank], rfl⟩

mutual

theorem Value.spelling_chars (layout : Layout) : ∀ (value : Value) (depth : Nat), value.Proper →
    Spelling value (value.chars layout depth)
  | .null, _, _ => .null
  | .bool true, _, _ => .yes
  | .bool false, _, _ => .no
  | .number value, _, .number _ range => .number value range
  | .text value, _, _ => .text value
  | .list [], _, _ => .list [] [] [] (.nil true) blank_nil
  | .list (item :: rest), depth, .list _ below => by
    have first := Value.spelling_chars layout item (depth + 1) (below item List.mem_cons_self)
    have others := items_spelling layout rest (depth + 1)
      fun other member => below other (List.mem_cons_of_mem item member)
    have spelled := Spelling.list (item :: rest) _ _
      (.cons true item rest _ _ _ (.first _ (blank_gap layout (depth + 1))) first others)
      (blank_gap layout depth)
    simpa [Value.chars] using spelled
  | .object [], _, _ => .object [] [] [] (.nil true) blank_nil
  | .object ((name, value) :: rest), depth, .object _ _ below => by
    have first := Value.spelling_chars layout value (depth + 1) (below (name, value) List.mem_cons_self)
    have others := members_spelling layout rest (depth + 1)
      fun other member => below other (List.mem_cons_of_mem (name, value) member)
    obtain ⟨back, after, colon⟩ := colon_eq layout
    have spelled := Spelling.object ((name, value) :: rest) _ _
      (.cons true name value rest _ [] back _ _ (.first _ (blank_gap layout (depth + 1))) blank_nil
        after first others)
      (blank_gap layout depth)
    simpa [Value.chars, colon] using spelled

theorem items_spelling (layout : Layout) : ∀ (items : List Value) (depth : Nat),
    (∀ item ∈ items, item.Proper) → ItemsSpelling false items (itemsChars layout depth items)
  | [], _, _ => .nil false
  | item :: rest, depth, below => by
    have first := Value.spelling_chars layout item depth (below item List.mem_cons_self)
    have others := items_spelling layout rest depth
      fun other member => below other (List.mem_cons_of_mem item member)
    have spelled := ItemsSpelling.cons false item rest _ _ _
      (.next [] _ blank_nil (blank_gap layout depth)) first others
    simpa [itemsChars] using spelled

theorem members_spelling (layout : Layout) : ∀ (members : List (String × Value)) (depth : Nat),
    (∀ member ∈ members, member.2.Proper) →
      MembersSpelling false members (membersChars layout depth members)
  | [], _, _ => .nil false
  | (name, value) :: rest, depth, below => by
    have first := Value.spelling_chars layout value depth (below (name, value) List.mem_cons_self)
    have others := members_spelling layout rest depth
      fun other member => below other (List.mem_cons_of_mem (name, value) member)
    obtain ⟨back, after, colon⟩ := colon_eq layout
    have spelled := MembersSpelling.cons false name value rest _ [] back _ _
      (.next [] _ blank_nil (blank_gap layout depth)) blank_nil after first others
    simpa [membersChars, colon] using spelled

end

theorem Value.spelling_render (layout : Layout) {value : Value} (proper : value.Proper) :
    Spelling value (value.render layout).toList := by
  rw [Value.render, String.toList_ofList]
  exact Value.spelling_chars layout value 0 proper

/-! ### Where the parts of a spelling begin -/

theorem Number.first {value : Number} (range : value.InRange) :
    ∃ c more, value.chars = c :: more ∧ (c = '-' ∨ c.isDigit = true) := by
  obtain ⟨sign, whole, fraction, exponent, shape, signed, numeral, -⟩ := Number.numeral range
  obtain ⟨c, more, rfl⟩ := List.exists_cons_of_ne_nil numeral.whole.1.1
  rcases signed with rfl | rfl
  · exact ⟨c, _, shape, .inr (numeral.whole.1.2 c List.mem_cons_self)⟩
  · exact ⟨'-', _, shape, .inl rfl⟩

theorem not_blank_of_digit {c : Char} (digit : c.isDigit = true) : isBlank c = false := by
  simp only [isBlank, Bool.or_eq_false_iff, beq_eq_false_iff_ne]
  refine ⟨⟨⟨?_, ?_⟩, ?_⟩, ?_⟩ <;> (rintro rfl; simp at digit)

/-- The characters that a value of each kind may begin with. -/
inductive Leads : Value → Char → Prop
  | null : Leads .null 'n'
  | yes : Leads (.bool true) 't'
  | no : Leads (.bool false) 'f'
  | number (value : Number) (c : Char) (sign : c = '-' ∨ c.isDigit = true) : Leads (.number value) c
  | text (value : String) : Leads (.text value) '"'
  | list (items : List Value) : Leads (.list items) '['
  | object (members : List (String × Value)) : Leads (.object members) '\x7b'

theorem Spelling.first {value : Value} {text : List Char} (spelled : Spelling value text) :
    ∃ c more, text = c :: more ∧ Leads value c := by
  cases spelled with
  | null => exact ⟨_, _, rfl, .null⟩
  | yes => exact ⟨_, _, rfl, .yes⟩
  | no => exact ⟨_, _, rfl, .no⟩
  | number value range =>
    obtain ⟨c, more, shape, sign⟩ := Number.first range
    exact ⟨c, more, shape, .number value c sign⟩
  | text value => exact ⟨_, _, rfl, .text value⟩
  | list items => exact ⟨_, _, rfl, .list items⟩
  | object members => exact ⟨_, _, rfl, .object members⟩

theorem Leads.not_blank {value : Value} {c : Char} (leads : Leads value c) : isBlank c = false := by
  cases leads with
  | number value c sign =>
    rcases sign with rfl | digit
    · rfl
    · exact not_blank_of_digit digit
  | _ => rfl

theorem Leads.not_close {value : Value} {c : Char} (leads : Leads value c) : c ≠ ']' := by
  rintro rfl
  cases leads with
  | number value c sign => simp at sign

theorem ends_blanks {blanks : List Char} (blank : Blank blanks) {c : Char}
    (mark : c = ',' ∨ c = ']' ∨ c = '\x7d') (more : List Char) : Ends (blanks ++ c :: more) := by
  intro first shown
  cases blanks with
  | nil =>
    obtain rfl : c = first := by simpa using shown
    exact .inr mark
  | cons b blanks =>
    obtain rfl : b = first := by simpa using shown
    exact .inl (blank b List.mem_cons_self)

theorem ItemsSpelling.ends {items : List Value} {text blanks : List Char}
    (inside : ItemsSpelling false items text) (blank : Blank blanks) (rest : List Char) :
    Ends (text ++ (blanks ++ ']' :: rest)) := by
  cases inside with
  | nil => exact ends_blanks blank (.inr (.inl rfl)) rest
  | cons _ item items gap text tail parted spelled others =>
    cases parted with
    | next front back before after =>
      simp only [List.append_assoc, List.cons_append]
      exact ends_blanks before (.inl rfl) _

theorem MembersSpelling.ends {members : List (String × Value)} {text blanks : List Char}
    (inside : MembersSpelling false members text) (blank : Blank blanks) (rest : List Char) :
    Ends (text ++ (blanks ++ '\x7d' :: rest)) := by
  cases inside with
  | nil => exact ends_blanks blank (.inr (.inr rfl)) rest
  | cons _ name value members gap front back text tail parted =>
    cases parted with
    | next front back before after =>
      simp only [List.append_assoc, List.cons_append]
      exact ends_blanks before (.inl rfl) _

theorem ItemsSpelling.length_le {first : Bool} {items : List Value} {text : List Char}
    (inside : ItemsSpelling first items text) : items.length ≤ text.length := by
  induction items generalizing first text with
  | nil => exact Nat.zero_le _
  | cons item items ih =>
    cases inside with
    | cons _ _ _ gap text tail _ spelled others =>
      obtain ⟨c, more, rfl, -⟩ := spelled.first
      have shorter := ih others
      simp only [List.length_append, List.length_cons]
      omega

theorem MembersSpelling.length_le {first : Bool} {members : List (String × Value)}
    {text : List Char} (inside : MembersSpelling first members text) :
    members.length ≤ text.length := by
  induction members generalizing first text with
  | nil => exact Nat.zero_le _
  | cons member members ih =>
    cases inside with
    | cons _ name value _ gap front back text tail _ _ _ spelled others =>
      have shorter := ih others
      simp only [List.length_append, List.length_cons]
      omega

/-! ### Texts -/

theorem hexValue_hexDigit {n : Nat} (small : n < 16) : hexValue? (hexDigit n) = some n := by
  revert n
  decide

theorem hexUnit_control {n : Nat} (small : n < 0x20) (rest : List Char) :
    hexUnit ('0' :: '0' :: hexDigit (n / 16) :: hexDigit (n % 16) :: rest) = .ok (n, rest) := by
  have zero : hexValue? '0' = some 0 := rfl
  have high := hexValue_hexDigit (n := n / 16) (by omega)
  have low := hexValue_hexDigit (n := n % 16) (by omega)
  simp only [hexUnit, zero, high, low]
  congr 2
  omega

theorem escape_control {c : Char} (control : c.toNat < 0x20) (rest : List Char) :
    escape ('u' :: '0' :: '0' :: hexDigit (c.toNat / 16) :: hexDigit (c.toNat % 16) :: rest) =
      .ok (c, rest) := by
  have notLow : isLowSurrogate c.toNat = false := by simp [isLowSurrogate]; omega
  have notHigh : isHighSurrogate c.toNat = false := by simp [isHighSurrogate]; omega
  have plain : simpleEscape? 'u' = none := rfl
  simp [escape, plain, unicodeEscape, hexUnit_control control, notLow, notHigh, bind, Except.bind,
    pure, Except.pure, Char.ofNat_toNat]

theorem textRest_escape {c : Char} {text after : List Char} (read : escape text = .ok (c, after)) :
    textRest ('\\' :: text) = (textRest after).map fun (chars, left) => (c :: chars, left) := by
  rw [textRest, if_neg (by decide), if_pos rfl]
  split
  · next fault failed => simp [read] at failed
  · next c' after' again =>
    rw [read] at again
    obtain ⟨rfl, rfl⟩ := Prod.mk.inj (Except.ok.inj again)
    rfl

/-- The three ways to write a character: by a letter, by its number, or as itself. -/
theorem escapedChar_cases (c : Char) :
    (∃ letter, escapedChar c = ['\\', letter] ∧ simpleEscape? letter = some c) ∨
    (c.toNat < 0x20 ∧ escapedChar c =
      ['\\', 'u', '0', '0', hexDigit (c.toNat / 16), hexDigit (c.toNat % 16)]) ∨
    (c ≠ '"' ∧ c ≠ '\\' ∧ ¬ c.toNat < 0x20 ∧ escapedChar c = [c]) := by
  unfold escapedChar
  split
  · next same => exact .inl ⟨_, rfl, by rw [same]; rfl⟩
  split
  · next same => exact .inl ⟨_, rfl, by rw [same]; rfl⟩
  split
  · next same => exact .inl ⟨_, rfl, by rw [same]; rfl⟩
  split
  · next same => exact .inl ⟨_, rfl, by rw [same]; rfl⟩
  split
  · next same => exact .inl ⟨_, rfl, by rw [same]; rfl⟩
  split
  · next same => exact .inl ⟨_, rfl, by rw [same]; rfl⟩
  split
  · next same => exact .inl ⟨_, rfl, by rw [same]; rfl⟩
  split
  · next control => exact .inr (.inl ⟨control, rfl⟩)
  · next notQuote notBackslash _ _ _ _ _ plain =>
    exact .inr (.inr ⟨notQuote, notBackslash, plain, rfl⟩)

theorem textRest_escapedChar (c : Char) (rest : List Char) :
    textRest (escapedChar c ++ rest) =
      (textRest rest).map fun (chars, left) => (c :: chars, left) := by
  rcases escapedChar_cases c with ⟨letter, shape, simple⟩ | ⟨control, shape⟩ |
    ⟨notQuote, notBackslash, plain, shape⟩
  · rw [shape]
    exact textRest_escape (by simp [escape, simple])
  · rw [shape]
    exact textRest_escape (escape_control control rest)
  · rw [shape, List.singleton_append, textRest, if_neg notQuote, if_neg notBackslash, if_neg plain]

theorem textRest_textChars (text rest : List Char) :
    textRest (text.flatMap escapedChar ++ '"' :: rest) = .ok (text, rest) := by
  induction text with
  | nil =>
    rw [List.flatMap_nil, List.nil_append, textRest]
    rfl
  | cons c text ih =>
    rw [List.flatMap_cons, List.append_assoc, textRest_escapedChar, ih]
    rfl

theorem skipTextRest_escapedChar (c : Char) (rest : List Char) :
    skipTextRest (escapedChar c ++ rest) = skipTextRest rest := by
  rcases escapedChar_cases c with ⟨letter, shape, simple⟩ | ⟨control, shape⟩ |
    ⟨notQuote, notBackslash, plain, shape⟩
  · have other : letter ≠ 'u' := by
      intro same
      simp [same, simpleEscape?] at simple
    rw [shape, List.cons_append, List.cons_append, List.nil_append, skipTextRest, simple]
    · rfl
    · exact other
  · rw [shape]
    simp only [List.cons_append, List.nil_append]
    rw [skipTextRest]
    split
    · next fault failed => simp [hexUnit_control control] at failed
    · next unit after again =>
      rw [hexUnit_control control] at again
      obtain ⟨rfl, rfl⟩ := Prod.mk.inj (Except.ok.inj again)
      rfl
  · rw [shape, List.singleton_append, skipTextRest, if_neg plain]
    · exact notQuote
    all_goals simp [notBackslash]

theorem skipTextRest_textChars (text rest : List Char) :
    skipTextRest (text.flatMap escapedChar ++ '"' :: rest) = .ok ((), rest) := by
  induction text with
  | nil => rw [List.flatMap_nil, List.nil_append, skipTextRest]
  | cons c text ih => rw [List.flatMap_cons, List.append_assoc, skipTextRest_escapedChar, ih]

end LatexTree.Json
