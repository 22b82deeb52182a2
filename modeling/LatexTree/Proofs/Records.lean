import LatexTree.Proofs.Completion
import LatexTree.Proofs.Recognition
import Mathlib.Data.List.Nodup

/-! Records on the spellings of values.

A slot is a field together with the place in the draft where it keeps what it has read. If the slots of
a shape do not disturb one another, the order in which members are read does not matter: a record is
read from an object or from a list exactly if every slot takes what is given under its name. -/
namespace LatexTree.Json

/-- The named values of a record: the members of an object, or the items of a list, which stand for the
fields in their order. -/
def Value.entries (names : List String) : Value → Option (List (String × Value))
  | .object members => some members
  | .list items => if items.length ≤ names.length then some (names.zip items) else none
  | _ => none

/-- What is kept for a field: the content of the value given for it, or what was kept before. -/
def Taken {α : Type} (stands : Value → α → Prop) (given : Option Value) (before after : Option α) :
    Prop :=
  match given with
  | none => after = before
  | some value => ∃ content, stands value content ∧ after = some content

/-- A field that must be there, and its content. -/
def Given {α : Type} (stands : Value → α → Prop) (given : Option Value) (content : α) : Prop :=
  ∃ value, given = some value ∧ stands value content

/-- A field that may be left out or null, and its content. -/
def Maybe {α : Type} (stands : Value → α → Prop) (given : Option Value) : Option α → Prop
  | none => given = none ∨ given = some .null
  | some content => Given stands given content

theorem taken_some {α : Type} (stands : Value → α → Prop) (given : Option Value) (content : α) :
    Taken stands given none (some content) ↔ Given stands given content := by
  cases given with
  | none => simp [Taken, Given]
  | some value => simp [Taken, Given]

theorem given_and {α : Type} (allowed : Prop) (stands : Value → α → Prop) (given : Option Value)
    (content : α) :
    Given (fun value content => allowed ∧ stands value content) given content ↔
      allowed ∧ Given stands given content := by
  constructor
  · rintro ⟨value, same, permit, stood⟩
    exact ⟨permit, value, same, stood⟩
  · rintro ⟨permit, value, same, stood⟩
    exact ⟨value, same, permit, stood⟩

theorem taken_optional {α : Type} {stands : Value → α → Prop}
    (solid : ∀ content, ¬ stands .null content) (given : Option Value) (content : Option α) :
    (∃ kept, Taken (OptionalForm stands) given none kept ∧ kept.join = content) ↔
      Maybe stands given content := by
  cases given with
  | none =>
    cases content with
    | none => simp [Taken, Maybe]
    | some content => simp [Taken, Maybe, Given]
  | some value =>
    by_cases kind : value = .null
    · subst kind
      cases content with
      | none => simp [Taken, OptionalForm, Maybe]
      | some content => simp [Taken, OptionalForm, Maybe, Given, solid]
    · cases content with
      | none => simp [Taken, OptionalForm, Maybe, kind]
      | some content => simp [Taken, OptionalForm, Maybe, Given, kind]

theorem need_eq_ok {β : Type} (name : String) (value : Option β) (result : β) :
    need name value = .ok result ↔ value = some result := by
  cases value with
  | none => simp [need]
  | some value => simp [need]

structure Slot (δ : Type) where
  content : Type
  name : String
  required : Bool
  get : δ → Option content
  set : δ → content → δ
  reader : Reader content
  stands : Value → content → Prop

namespace Slot

variable {δ : Type}

def field (slot : Slot δ) : Field δ where
  name := slot.name
  required := slot.required
  present draft := (slot.get draft).isSome
  read draft := return slot.set draft (← slot.reader)

def Takes (slot : Slot δ) (given : Option Value) (before after : δ) : Prop :=
  Taken slot.stands given (slot.get before) (slot.get after)

theorem takes_congr {slot : Slot δ} {before before' : δ} (same : slot.get before = slot.get before')
    (given : Option Value) (after : δ) :
    slot.Takes given before after ↔ slot.Takes given before' after := by
  rw [Takes, Takes, same]

end Slot

structure Lawful {δ α : Type} (slots : List (Slot δ)) (draft : δ) (finish : δ → Except Fault α) :
    Prop where
  distinct : (slots.map Slot.name).Nodup
  empty : ∀ slot ∈ slots, slot.get draft = none
  same : ∀ slot ∈ slots, ∀ draft content, slot.get (slot.set draft content) = some content
  other : ∀ slot ∈ slots, ∀ slot' ∈ slots, slot.name ≠ slot'.name → ∀ draft content,
    slot'.get (slot.set draft content) = slot'.get draft
  ext : ∀ first second : δ, (∀ slot ∈ slots, slot.get first = slot.get second) → first = second
  complete : ∀ draft result, finish draft = .ok result → ∀ slot ∈ slots, slot.required = true →
    slot.get draft ≠ none

def Updates {δ : Type} (slots : List (Slot δ)) (members : List (String × Value)) (before after : δ) :
    Prop :=
  ∀ slot ∈ slots, slot.Takes (members.lookup slot.name) before after

theorem lookup_eq_none_of {name : String} {members : List (String × Value)}
    (absent : name ∉ members.map Prod.fst) : members.lookup name = none := by
  rw [List.lookup_eq_none_iff]
  intro member inside
  simp only [bne_iff_ne, ne_eq]
  rintro rfl
  exact absent (List.mem_map_of_mem inside)

section

variable {δ α : Type} {slots : List (Slot δ)} {draft : δ} {finish : δ → Except Fault α}

theorem updates_nil (lawful : Lawful slots draft finish) (before after : δ) :
    Updates slots [] before after ↔ after = before := by
  constructor
  · intro updates
    exact lawful.ext after before updates
  · rintro rfl slot _
    rfl

theorem updates_unknown {name : String} (unknown : ∀ slot ∈ slots, slot.name ≠ name) (value : Value)
    (members : List (String × Value)) (before after : δ) :
    Updates slots ((name, value) :: members) before after ↔ Updates slots members before after := by
  apply forall₂_congr
  intro slot member
  rw [List.lookup_cons, beq_eq_false_iff_ne.mpr (unknown slot member)]

theorem updates_known (lawful : Lawful slots draft finish) {slot : Slot δ} (inside : slot ∈ slots)
    (value : Value) {members : List (String × Value)} (absent : slot.name ∉ members.map Prod.fst)
    (before after : δ) :
    Updates slots ((slot.name, value) :: members) before after ↔
      ∃ content, slot.stands value content ∧
        Updates slots members (slot.set before content) after := by
  have later := lookup_eq_none_of absent
  -- A slot other than the one at hand does not notice that this one is set.
  have others (content : slot.content) (slot' : Slot δ) (member : slot' ∈ slots)
      (differ : slot.name ≠ slot'.name) :
      slot'.Takes (((slot.name, value) :: members).lookup slot'.name) before after ↔
        slot'.Takes (members.lookup slot'.name) (slot.set before content) after := by
    rw [List.lookup_cons, beq_eq_false_iff_ne.mpr (Ne.symm differ)]
    exact Slot.takes_congr (lawful.other slot inside slot' member differ before content).symm _ _
  constructor
  · intro updates
    have own := updates slot inside
    rw [List.lookup_cons, beq_self_eq_true] at own
    obtain ⟨content, stood, kept⟩ := own
    refine ⟨content, stood, ?_⟩
    intro slot' member
    by_cases same : slot.name = slot'.name
    · obtain rfl := List.inj_on_of_nodup_map lawful.distinct inside member same
      rw [later]
      exact kept.trans (lawful.same slot inside before content).symm
    · exact (others content slot' member same).mp (updates slot' member)
  · rintro ⟨content, stood, updates⟩ slot' member
    by_cases same : slot.name = slot'.name
    · obtain rfl := List.inj_on_of_nodup_map lawful.distinct inside member same
      have own := updates slot inside
      rw [later] at own
      rw [List.lookup_cons, beq_self_eq_true]
      exact ⟨content, stood, own.trans (lawful.same slot inside before content)⟩
    · exact (others content slot' member same).mpr (updates slot' member)

theorem updates_single (lawful : Lawful slots draft finish) {slot : Slot δ} (inside : slot ∈ slots)
    (value : Value) (before after : δ) :
    Updates slots [(slot.name, value)] before after ↔
      ∃ content, slot.stands value content ∧ after = slot.set before content := by
  rw [updates_known lawful inside value (by simp)]
  simp only [updates_nil lawful]

theorem updates_cons (lawful : Lawful slots draft finish) {name : String} (value : Value)
    {members : List (String × Value)} (absent : name ∉ members.map Prod.fst) (before after : δ) :
    Updates slots ((name, value) :: members) before after ↔
      ∃ middle, Updates slots [(name, value)] before middle ∧ Updates slots members middle after := by
  by_cases known : ∃ slot ∈ slots, slot.name = name
  · obtain ⟨slot, inside, rfl⟩ := known
    rw [updates_known lawful inside value absent]
    constructor
    · rintro ⟨content, stood, updates⟩
      exact ⟨_, (updates_single lawful inside value _ _).mpr ⟨content, stood, rfl⟩, updates⟩
    · rintro ⟨middle, one, updates⟩
      obtain ⟨content, stood, rfl⟩ := (updates_single lawful inside value _ _).mp one
      exact ⟨content, stood, updates⟩
  · have unknown : ∀ slot ∈ slots, slot.name ≠ name := by simpa using known
    simp [updates_unknown unknown, updates_nil lawful]

theorem Updates.untouched {name : String} {value : Value} {before after : δ}
    (updates : Updates slots [(name, value)] before after) {slot : Slot δ} (inside : slot ∈ slots)
    (differ : slot.name ≠ name) : slot.get after = slot.get before := by
  have own := updates slot inside
  rwa [List.lookup_cons, beq_eq_false_iff_ne.mpr differ] at own

/-! ### Objects -/

theorem run_nextKey {first : Bool} {gap : List Char} (parted : Separator first gap) (name : String)
    (rest : List Char) :
    (nextKey first).run (gap ++ (textChars name ++ rest)) = .ok (true, textChars name ++ rest) := by
  simp only [textChars, List.cons_append]
  cases parted with
  | first blanks blank =>
    rw [nextKey, run_peek_mark blank '"' _ _ rfl]
    rfl
  | next front back before after =>
    rw [nextKey, List.append_assoc, List.cons_append, run_peek_mark before ',' _ _ rfl]
    change (advance >>= fun _ => peek >>= _).run _ = _
    rw [run_bind_of (run_advance _ _), run_peek_mark after '"' _ _ rfl]
    rfl

theorem run_nextKey_end (first : Bool) {blanks : List Char} (blank : Blank blanks)
    (rest : List Char) :
    (nextKey first).run (blanks ++ '\x7d' :: rest) = .ok (false, '\x7d' :: rest) := by
  rw [nextKey, run_peek_mark blank '\x7d' _ _ rfl]
  rfl

theorem find_field (slots : List (Slot δ)) (name : String) :
    (∀ slot ∈ slots, slot.name ≠ name) ∧ (slots.map Slot.field).find? (·.name = name) = none ∨
      ∃ slot ∈ slots, slot.name = name ∧
        (slots.map Slot.field).find? (·.name = name) = some slot.field := by
  rw [List.find?_map]
  cases found : slots.find? ((fun field : Field δ => decide (field.name = name)) ∘ Slot.field) with
  | none =>
    refine .inl ⟨?_, rfl⟩
    intro slot member same
    have := List.find?_eq_none.mp found slot member
    simp [Slot.field, same] at this
  | some slot =>
    refine .inr ⟨slot, List.mem_of_find?_eq_some found, ?_, rfl⟩
    simpa [Slot.field] using List.find?_some found

theorem run_addMember (lawful : Lawful slots draft finish)
    (recognizes : ∀ slot ∈ slots, Recognizes slot.reader slot.stands) (name : String) {value : Value}
    {front back text rest : List Char} (proper : value.Proper) (spelled : Spelling value text)
    (colon : Blank front) (blank : Blank back) (ends : Ends rest) (before after : δ) (left : List Char)
    (fresh : ∀ slot ∈ slots, slot.name = name → slot.get before = none) :
    (addMember (slots.map Slot.field) name before).run (front ++ ':' :: (back ++ (text ++ rest))) =
        .ok (after, left) ↔ Updates slots [(name, value)] before after ∧ left = rest := by
  have marked := run_readColon colon (back ++ (text ++ rest))
  unfold addMember
  rcases find_field slots name with ⟨unknown, found⟩ | ⟨slot, inside, rfl, found⟩
  · have passed := skipValue_recognizes value back text rest proper spelled blank ends
    rw [found, updates_unknown unknown, updates_nil lawful]
    dsimp only
    rw [run_bind_of marked]
    simp only [run_bind_eq_ok, run_pure_eq_ok]
    constructor
    · rintro ⟨_, _, skipped, rfl, rfl⟩
      exact ⟨rfl, ((passed _ _).mp skipped).2⟩
    · rintro ⟨rfl, rfl⟩
      exact ⟨(), _, (passed _ _).mpr ⟨trivial, rfl⟩, rfl, rfl⟩
  · have read := recognizes slot inside value back text rest proper spelled blank ends
    rw [found, updates_single lawful inside]
    have absent : ¬ slot.field.present before = true := by simp [Slot.field, fresh slot inside rfl]
    dsimp only
    rw [if_neg absent]
    simp only [Slot.field]
    rw [run_bind_of marked]
    simp only [run_bind_eq_ok, run_pure_eq_ok]
    constructor
    · rintro ⟨content, _, taken, rfl, rfl⟩
      obtain ⟨stood, rfl⟩ := (read _ _).mp taken
      exact ⟨⟨content, stood, rfl⟩, rfl⟩
    · rintro ⟨⟨content, stood, rfl⟩, rfl⟩
      exact ⟨content, _, (read _ _).mpr ⟨stood, rfl⟩, rfl, rfl⟩

theorem run_membersFrom (lawful : Lawful slots draft finish)
    (recognizes : ∀ slot ∈ slots, Recognizes slot.reader slot.stands)
    {members : List (String × Value)} {first : Bool} {text blanks : List Char}
    (inside : MembersSpelling first members text) (proper : ∀ member ∈ members, member.2.Proper)
    (distinct : (members.map Prod.fst).Nodup) (blank : Blank blanks) (rest : List Char) {fuel : Nat}
    (enough : members.length < fuel) (before after : δ) (left : List Char)
    (fresh : ∀ slot ∈ slots, slot.name ∈ members.map Prod.fst → slot.get before = none) :
    (membersFrom (addMember (slots.map Slot.field)) fuel first before).run
        (text ++ (blanks ++ '\x7d' :: rest)) = .ok (after, left) ↔
      Updates slots members before after ∧ left = '\x7d' :: rest := by
  induction members generalizing first text fuel before with
  | nil =>
    obtain ⟨fuel, rfl⟩ : ∃ more, fuel = more + 1 := ⟨fuel - 1, by simp at enough; omega⟩
    cases inside
    rw [membersFrom, List.nil_append, run_bind_of (run_nextKey_end first blank rest),
      if_neg (by decide), run_pure_eq_ok, updates_nil lawful]
  | cons member members ih =>
    obtain ⟨fuel, rfl⟩ : ∃ more, fuel = more + 1 := ⟨fuel - 1, by simp at enough; omega⟩
    cases inside with
    | cons _ name value _ gap front back text tail parted colon after' spelled others =>
      rw [List.forall_mem_cons] at proper
      rw [List.map_cons, List.nodup_cons] at distinct
      have ends := others.ends blank rest
      have key : readText.run (name.toList.flatMap escapedChar ++ '"' ::
          (front ++ ':' :: (back ++ (text ++ (tail ++ (blanks ++ '\x7d' :: rest)))))) =
            .ok (name, _) := run_readText name _
      have add (middle : δ) (left : List Char) := run_addMember lawful recognizes name proper.1
        spelled colon after' ends before middle left
        fun slot member same => fresh slot member (by simp [same])
      simp only [List.append_assoc, List.cons_append]
      rw [membersFrom, run_bind_of (run_nextKey parted name _), if_pos rfl]
      simp only [textChars, List.cons_append, List.append_assoc, List.nil_append]
      rw [run_bind_of (run_advance _ _), run_bind_of key, run_bind_eq_ok,
        updates_cons lawful value distinct.1]
      have next (middle : δ) (one : Updates slots [(name, value)] before middle) :=
        ih others proper.2 distinct.2 (by simpa using enough) middle fun slot member listed => by
          rw [one.untouched member (fun same => distinct.1 (same ▸ listed))]
          exact fresh slot member (List.mem_cons_of_mem _ listed)
      constructor
      · rintro ⟨middle, _, read, later⟩
        obtain ⟨one, rfl⟩ := (add _ _).mp read
        obtain ⟨updates, rfl⟩ := (next middle one).mp later
        exact ⟨⟨middle, one, updates⟩, rfl⟩
      · rintro ⟨⟨middle, one, updates⟩, rfl⟩
        exact ⟨middle, _, (add _ _).mpr ⟨one, rfl⟩, (next middle one).mpr ⟨updates, rfl⟩⟩

/-! ### Lists -/

theorem closeList_fails {first : Bool} {item : Value} {items : List Value} {text : List Char}
    (inside : ItemsSpelling first (item :: items) text) (rest : List Char)
    (result : Unit × List Char) : closeList.run (text ++ rest) ≠ .ok result := by
  cases inside with
  | cons _ _ _ gap text tail parted spelled others =>
    simp only [List.append_assoc]
    cases parted with
    | first _ blank =>
      refine refuses spelled blank ?_ result
      intro c leads
      split
      · contradiction
      · next same => exact absurd (Option.some.inj same) leads.not_close
      · apply fails_bind
        intro _
        apply fails_bind
        intro found
        split
        · exact fails_throw _
        · exact fails_throw _
      · exact fails_throw _
    | next front back before after =>
      simp only [List.append_assoc, List.cons_append]
      rw [closeList, run_peek_mark before ',' _ _ rfl]
      refine fails_bind advance (fun _ => fails_bind peek fun found => ?_) _ result
      split
      · exact fails_throw _
      · exact fails_throw _

theorem run_lift (step : Except Fault α) (text : List Char) (result : α) (left : List Char) :
    (liftM step : Reader α).run text = .ok (result, left) ↔ step = .ok result ∧ left = text := by
  cases step with
  | error fault =>
    change Except.error fault = _ ↔ _
    simp
  | ok value =>
    change Except.ok (value, text) = _ ↔ _
    rw [Except.ok.injEq, Prod.mk.injEq, Except.ok.injEq, eq_comm (b := left)]

theorem zip_lookup_drop {names : List String} (distinct : names.Nodup) (items : List Value)
    {name : String} (later : name ∈ names.drop items.length) :
    (names.zip items).lookup name = none := by
  induction names generalizing items with
  | nil => simp
  | cons head names ih =>
    cases items with
    | nil => simp
    | cons item items =>
      rw [List.nodup_cons] at distinct
      rw [List.length_cons, List.drop_succ_cons] at later
      have differ : name ≠ head := by
        rintro rfl
        exact distinct.1 (List.mem_of_mem_drop later)
      rw [List.zip_cons_cons, List.lookup_cons, beq_eq_false_iff_ne.mpr differ]
      exact ih distinct.2 items later

/-- Once every field is read, the list has to end. -/
theorem run_finish {items : List Value} {first : Bool} {text blanks : List Char}
    (spelled : ItemsSpelling first items text) (blank : Blank blanks) (rest : List Char) (after : δ)
    (result : α) (left : List Char) :
    (do
        let value ← finish after
        closeList
        return value : Reader α).run (text ++ (blanks ++ ']' :: rest)) = .ok (result, left) ↔
      (items = [] ∧ finish after = .ok result) ∧ left = rest := by
  simp only [run_bind_eq_ok, run_lift, run_pure_eq_ok]
  cases items with
  | nil =>
    cases spelled
    have closed := run_closeList blank rest
    rw [List.nil_append]
    constructor
    · rintro ⟨_, _, ⟨finished, rfl⟩, _, _, ended, rfl, rfl⟩
      obtain ⟨-, rfl⟩ := Prod.mk.inj (Except.ok.inj (closed.symm.trans ended))
      exact ⟨⟨rfl, finished⟩, rfl⟩
    · rintro ⟨⟨-, finished⟩, rfl⟩
      exact ⟨result, _, ⟨finished, rfl⟩, (), _, closed, rfl, rfl⟩
  | cons item items =>
    apply iff_of_false
    · rintro ⟨_, _, ⟨_, rfl⟩, _, _, closed, -⟩
      exact closeList_fails spelled _ _ closed
    · rintro ⟨⟨empty, -⟩, -⟩
      contradiction

/-- Where the list ends before a field, the field is passed over just if it is optional. -/
theorem run_fieldsFrom_end (expected : Expected) (slot : Slot δ) (fields : List (Field δ))
    (index : Nat) (first : Bool) (before : δ) {blanks : List Char} (blank : Blank blanks)
    (rest : List Char) (next : δ → Reader α) (result : α × List Char) :
    (fieldsFrom expected (slot.field :: fields) index first before >>= next).run
        (blanks ++ ']' :: rest) = .ok result ↔
      slot.required = false ∧
        (fieldsFrom expected fields (index + 1) first before >>= next).run (']' :: rest) =
          .ok result := by
  rw [fieldsFrom, bind_assoc, run_bind_of (run_nextItem_end first blank rest), if_neg (by decide)]
  cases required : slot.required with
  | true =>
    rw [if_pos (show slot.field.required = true from required)]
    apply iff_of_false
    · exact fails_throw_bind _ _ _ _
    · simp
  | false =>
    rw [if_neg (show ¬ slot.field.required = true by simp [Slot.field, required])]
    simp

/-- Where the list has an item for a field, the item is read into the field. -/
theorem run_fieldsFrom_item (expected : Expected) {slot : Slot δ}
    (recognizes : Recognizes slot.reader slot.stands) (fields : List (Field δ)) (index : Nat)
    {first : Bool} (before : δ) {gap text : List Char} {item : Value} (proper : item.Proper)
    (parted : Separator first gap) (spelled : Spelling item text) {more : List Char}
    (ends : Ends more) (next : δ → Reader α) (result : α × List Char) :
    (fieldsFrom expected (slot.field :: fields) index first before >>= next).run
        (gap ++ (text ++ more)) = .ok result ↔
      ∃ content, slot.stands item content ∧
        (fieldsFrom expected fields (index + 1) false (slot.set before content) >>= next).run more =
          .ok result := by
  have read := recognizes item [] text more proper spelled blank_nil ends
  rw [List.nil_append] at read
  rw [fieldsFrom, bind_assoc, run_bind_of (run_nextItem parted spelled _), if_pos rfl, bind_assoc,
    run_bind_eq_ok]
  constructor
  · rintro ⟨after, _, taken, reads⟩
    obtain ⟨content, _, inner, set⟩ := (run_bind_eq_ok _ _ _ _).mp taken
    obtain ⟨rfl, rfl⟩ := (run_pure_eq_ok _ _ _ _).mp set
    obtain ⟨stood, rfl⟩ := (read _ _).mp inner
    exact ⟨content, stood, reads⟩
  · rintro ⟨content, stood, reads⟩
    have taken := (read content more).mpr ⟨stood, rfl⟩
    exact ⟨_, _, (run_bind_eq_ok _ _ _ _).mpr ⟨content, _, taken, rfl⟩, reads⟩

theorem run_fieldsFrom (lawful : Lawful slots draft finish)
    (recognizes : ∀ slot ∈ slots, Recognizes slot.reader slot.stands) {part : List (Slot δ)}
    (inside : ∀ slot ∈ part, slot ∈ slots) (distinct : (part.map Slot.name).Nodup) {items : List Value}
    {first : Bool} {text blanks : List Char} (spelled : ItemsSpelling first items text)
    (proper : ∀ item ∈ items, item.Proper) (blank : Blank blanks) (rest : List Char)
    (expected : Expected) (index : Nat) (before : δ) (result : α) (left : List Char) :
    (fieldsFrom expected (part.map Slot.field) index first before >>= fun draft => do
        let value ← finish draft
        closeList
        return value).run (text ++ (blanks ++ ']' :: rest)) = .ok (result, left) ↔
      ((items.length ≤ part.length ∧ ∀ slot ∈ part.drop items.length, slot.required = false) ∧
        ∃ after, Updates slots ((part.map Slot.name).zip items) before after ∧
          finish after = .ok result) ∧ left = rest := by
  -- On the fields that are left: each takes an item, or the list has ended and it must be optional.
  induction part generalizing items first text blanks index before with
  | nil =>
    rw [List.map_nil, fieldsFrom, pure_bind, run_finish spelled blank]
    simp [updates_nil lawful]
  | cons slot part ih =>
    rw [List.forall_mem_cons] at inside
    rw [List.map_cons, List.nodup_cons] at distinct
    rw [List.map_cons]
    cases items with
    | nil =>
      cases spelled
      have later := ih inside.2 distinct.2 (.nil first) (by simp) blank_nil (index + 1) before
      rw [List.nil_append, run_fieldsFrom_end expected slot _ index first before blank]
      refine (and_congr_right' later).trans ?_
      simp [and_assoc]
    | cons item items =>
      cases spelled with
      | cons _ _ _ gap text tail parted spelled others =>
        rw [List.forall_mem_cons] at proper
        have absent : slot.name ∉ ((part.map Slot.name).zip items).map Prod.fst := by
          intro listed
          obtain ⟨entry, among, same⟩ := List.mem_map.mp listed
          exact distinct.1 (same ▸ (List.of_mem_zip among).1)
        have later (content : slot.content) :=
          ih inside.2 distinct.2 others proper.2 blank (index + 1) (slot.set before content)
        rw [List.append_assoc, List.append_assoc, run_fieldsFrom_item expected
          (recognizes slot inside.1) _ index before proper.1 parted spelled (others.ends blank rest)]
        simp only [List.map_cons, List.zip_cons_cons, updates_known lawful inside.1 item absent, later,
          List.length_cons, List.drop_succ_cons, Nat.succ_le_succ_iff]
        constructor
        · rintro ⟨content, stood, ⟨fits, after, updates, finished⟩, rfl⟩
          exact ⟨⟨fits, after, ⟨content, stood, updates⟩, finished⟩, rfl⟩
        · rintro ⟨⟨fits, after, ⟨content, stood, updates⟩, finished⟩, rfl⟩
          exact ⟨content, stood, ⟨fits, after, updates, finished⟩, rfl⟩

/-! ### Records -/

theorem Leads.curly {value : Value} (leads : Leads value '\x7b') :
    ∃ members, value = .object members := by
  cases leads with
  | number value c sign => simp at sign
  | object members => exact ⟨members, rfl⟩

theorem Lawful.given_required (lawful : Lawful slots draft finish) {items : List Value} {after : δ}
    {result : α} (updates : Updates slots ((slots.map Slot.name).zip items) draft after)
    (finished : finish after = .ok result) :
    ∀ slot ∈ slots.drop items.length, slot.required = false := by
  intro slot later
  have inside := List.mem_of_mem_drop later
  have absent := zip_lookup_drop lawful.distinct items
    (by rw [← List.map_drop]; exact List.mem_map_of_mem later)
  have kept := updates slot inside
  rw [absent] at kept
  rw [Bool.eq_false_iff]
  intro required
  have empty := kept.trans (lawful.empty slot inside)
  exact lawful.complete after result finished slot inside required empty

/-- A record is what its slots take from the entries of the value. -/
def RecordStands (slots : List (Slot δ)) (draft : δ) (finish : δ → Except Fault α) (value : Value)
    (result : α) : Prop :=
  ∃ members, value.entries (slots.map Slot.name) = some members ∧
    ∃ after, Updates slots members draft after ∧ finish after = .ok result

theorem recordStands_iff {make : α → δ}
    (made : ∀ draft result, finish draft = .ok result ↔ draft = make result) (value : Value)
    (result : α) :
    RecordStands slots draft finish value result ↔
      ∃ members, value.entries (slots.map Slot.name) = some members ∧
        Updates slots members draft (make result) := by
  simp [RecordStands, made]

theorem run_recordItems (lawful : Lawful slots draft finish)
    (recognizes : ∀ slot ∈ slots, Recognizes slot.reader slot.stands) (budget : Nat)
    {items : List Value} {text blanks : List Char} (inside : ItemsSpelling true items text)
    (below : ∀ item ∈ items, item.Proper) (blank : Blank blanks) (rest : List Char)
    (expected : Expected) (result : α) (left : List Char) :
    (do
      openBracket budget
      let draft ← fieldsFrom expected (slots.map Slot.field) 0 true draft
      let value ← finish draft
      closeList
      return value).run ('[' :: (text ++ (blanks ++ ']' :: rest))) = .ok (result, left) ↔
      (0 < budget ∧ RecordStands slots draft finish (.list items) result) ∧ left = rest := by
  have reads := run_fieldsFrom lawful recognizes (fun slot member => member) lawful.distinct inside
    below blank rest expected 0 draft
  rw [run_openBracket, reads]
  constructor
  · rintro ⟨allowed, ⟨⟨short, -⟩, after, updates, finished⟩, rfl⟩
    refine ⟨⟨allowed, (slots.map Slot.name).zip items, ?_, after, updates, finished⟩, rfl⟩
    rw [Value.entries, if_pos (by simpa using short)]
  · rintro ⟨⟨allowed, _, entries, after, updates, finished⟩, rfl⟩
    rw [Value.entries, Option.ite_none_right_eq_some] at entries
    obtain ⟨short, same⟩ := entries
    obtain rfl := Option.some.inj same
    refine ⟨allowed, ⟨⟨?_, ?_⟩, after, updates, finished⟩, rfl⟩
    · simpa using short
    · exact lawful.given_required updates finished

theorem run_recordMembers (lawful : Lawful slots draft finish)
    (recognizes : ∀ slot ∈ slots, Recognizes slot.reader slot.stands) (budget : Nat)
    {members : List (String × Value)} {text blanks : List Char}
    (inside : MembersSpelling true members text) (below : ∀ member ∈ members, member.2.Proper)
    (distinct : (members.map Prod.fst).Nodup) (blank : Blank blanks) (rest : List Char) (result : α)
    (left : List Char) :
    (do
      openBracket budget
      let draft ← readMembers (addMember (slots.map Slot.field)) draft
      let value ← finish draft
      advance
      return value).run ('\x7b' :: (text ++ (blanks ++ '\x7d' :: rest))) = .ok (result, left) ↔
      (0 < budget ∧ RecordStands slots draft finish (.object members) result) ∧ left = rest := by
  have enough : members.length < (text ++ (blanks ++ '\x7d' :: rest)).length + 1 := by
    have := inside.length_le
    simp only [List.length_append]
    omega
  have reads (after : δ) (left : List Char) := run_membersFrom lawful recognizes inside below distinct
    blank rest enough draft after left fun slot member _ => lawful.empty slot member
  rw [run_openBracket]
  simp only [run_bind_eq_ok, readMembers, run_get, run_lift, run_pure_eq_ok]
  constructor
  · rintro ⟨allowed, after, _, read, _, _, ⟨finished, rfl⟩, _, _, ended, rfl, rfl⟩
    obtain ⟨updates, rfl⟩ := (reads _ _).mp read
    obtain ⟨-, rfl⟩ := Prod.mk.inj (Except.ok.inj ((run_advance _ _).symm.trans ended))
    exact ⟨⟨allowed, members, rfl, after, updates, finished⟩, rfl⟩
  · rintro ⟨⟨allowed, _, entries, after, updates, finished⟩, rfl⟩
    obtain rfl := Option.some.inj entries
    exact ⟨allowed, after, _, (reads _ _).mpr ⟨updates, rfl⟩, result, _, ⟨finished, rfl⟩, (), _,
      run_advance _ _, rfl, rfl⟩

theorem readRecord_recognizes {budget : Nat} {shape : Nat → Shape δ α}
    (fields : (shape (budget - 1)).fields = slots.map Slot.field)
    (lawful : Lawful slots (shape (budget - 1)).draft (shape (budget - 1)).finish)
    (recognizes : ∀ slot ∈ slots, Recognizes slot.reader slot.stands) :
    Recognizes (readRecord budget shape) fun value result =>
      0 < budget ∧ RecordStands slots (shape (budget - 1)).draft (shape (budget - 1)).finish value
        result := by
  intro value blanks text rest proper spelled blank ends result left
  unfold readRecord
  dsimp only
  by_cases kind : (∃ items, value = .list items) ∨ ∃ members, value = .object members
  · rcases kind with ⟨items, rfl⟩ | ⟨members, rfl⟩
    · cases spelled with
      | list _ text inner inside blank' =>
      cases proper with
      | list _ below =>
      simp only [List.cons_append, List.append_assoc, List.nil_append]
      rw [run_peek_mark blank '[' _ _ rfl, fields]
      split
      · contradiction
      · exact run_recordItems lawful recognizes budget inside below blank' rest _ result left
      · next same => simp at same
      · next other _ same => exact absurd (Option.some.inj same).symm other
    · cases spelled with
      | object _ text inner inside blank' =>
      cases proper with
      | object _ distinct below =>
      simp only [List.cons_append, List.append_assoc, List.nil_append]
      rw [run_peek_mark blank '\x7b' _ _ rfl, fields]
      split
      · contradiction
      · next same => simp at same
      · exact run_recordMembers lawful recognizes budget inside below distinct blank' rest result left
      · next other same => exact absurd (Option.some.inj same).symm other
  · rw [not_or] at kind
    apply iff_of_false
    · refine refuses spelled blank ?_ _
      intro c leads
      split
      · contradiction
      · next same =>
        obtain rfl := Option.some.inj same
        exact absurd leads.square kind.1
      · next same =>
        obtain rfl := Option.some.inj same
        exact absurd leads.curly kind.2
      · exact fails_mismatch _
    · rintro ⟨⟨-, members, entries, -⟩, -⟩
      cases value with
      | list items => exact kind.1 ⟨items, rfl⟩
      | object members => exact kind.2 ⟨members, rfl⟩
      | _ => simp [Value.entries] at entries

end

end LatexTree.Json
