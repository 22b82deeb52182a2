import LatexTree.Json.Record
import LatexTree.Proofs.Recognition
import LatexTree.Wire.Parsed
import Mathlib.Data.List.Forall2

/-! Readers under a smaller budget of brackets.

A smaller budget is felt in one way only: where a bracket too many is opened, the text is refused as
too deep. A reader that gets by with its budget reads the same under any larger one. -/
namespace LatexTree.Json

variable {α β δ : Type}

def Capped (low high : Reader α) : Prop :=
  ∀ text, low.run text = high.run text ∨ low.run text = .error .tooDeep

theorem Capped.refl (reader : Reader α) : Capped reader reader := fun _ => .inl rfl

theorem capped_tooDeep (high : Reader α) : Capped (throw .tooDeep) high := fun _ => .inr rfl

theorem Capped.bind {low high : Reader α} {next next' : α → Reader β} (first : Capped low high)
    (later : ∀ value, Capped (next value) (next' value)) : Capped (low >>= next) (high >>= next') := by
  intro text
  rw [StateT.run_bind, StateT.run_bind]
  rcases first text with same | deep
  · rw [same]
    cases high.run text with
    | error fault => exact .inl rfl
    | ok step => exact later step.1 step.2
  · rw [deep]
    exact .inr rfl

/-- The next step may be another under each budget; what comes before it is the same. -/
theorem Capped.after (reader : Reader α) {next next' : α → Reader β}
    (later : ∀ value, Capped (next value) (next' value)) :
    Capped (reader >>= next) (reader >>= next') :=
  (Capped.refl reader).bind later

theorem openBracket_capped {low high : Nat} (le : low ≤ high) :
    Capped (openBracket low) (openBracket high) := by
  unfold openBracket
  by_cases spent : low = 0
  · rw [if_pos spent]
    exact capped_tooDeep _
  · rw [if_neg spent, if_neg (by omega)]
    exact .refl _

theorem itemsFrom_capped {low high : Reader α} (items : Capped low high) (fuel : Nat) (first : Bool) :
    Capped (itemsFrom low fuel first) (itemsFrom high fuel first) := by
  induction fuel generalizing first with
  | zero => exact .refl _
  | succ fuel ih =>
    apply Capped.after
    intro more
    cases more with
    | false => exact .refl _
    | true => exact items.bind fun value => (ih false).bind fun rest => .refl _

theorem readList_capped {low high : Nat} {item : Nat → Reader α} {item' : Nat → Reader α}
    (le : low ≤ high) (items : Capped (item (low - 1)) (item' (high - 1))) :
    Capped (readList low item) (readList high item') := by
  apply Capped.after
  intro found
  split
  · apply (openBracket_capped le).bind
    intro _
    apply Capped.bind
    · exact Capped.after _ fun text => itemsFrom_capped items _ true
    · exact fun _ => .refl _
  · exact .refl _

theorem readOptional_capped {low high : Reader α} (inner : Capped low high) :
    Capped (readOptional low) (readOptional high) := by
  apply Capped.after
  intro found
  split
  · exact .refl _
  · exact inner.bind fun _ => .refl _

theorem membersFrom_capped {low high : String → δ → Reader δ}
    (add : ∀ key draft, Capped (low key draft) (high key draft)) (fuel : Nat) (first : Bool)
    (draft : δ) : Capped (membersFrom low fuel first draft) (membersFrom high fuel first draft) := by
  induction fuel generalizing first draft with
  | zero => exact .refl _
  | succ fuel ih =>
    apply Capped.after
    intro more
    cases more with
    | false => exact .refl _
    | true =>
      apply Capped.after
      intro _
      apply Capped.after
      intro key
      exact (add key draft).bind fun next => ih false next

structure Field.Capped (low high : Field δ) : Prop where
  name : low.name = high.name
  required : low.required = high.required
  present : low.present = high.present
  read : ∀ draft, Json.Capped (low.read draft) (high.read draft)

theorem Field.Capped.put {low high : Reader β} (capped : Json.Capped low high) (name : String)
    (required : Bool) (present : δ → Bool) (put : δ → β → δ) :
    Field.Capped ⟨name, required, present, fun draft => return put draft (← low)⟩
      ⟨name, required, present, fun draft => return put draft (← high)⟩ :=
  ⟨rfl, rfl, rfl, fun _ => capped.bind fun _ => .refl _⟩

/-- The same record with its fields under a smaller budget. -/
structure Shape.Capped (low high : Shape δ α) : Prop where
  name : low.name = high.name
  draft : low.draft = high.draft
  fields : List.Forall₂ Field.Capped low.fields high.fields
  finish : low.finish = high.finish

theorem fieldsFrom_capped {low high : List (Field δ)} (fields : List.Forall₂ Field.Capped low high)
    (expected : Expected) (index : Nat) (first : Bool) (draft : δ) :
    Capped (fieldsFrom expected low index first draft)
      (fieldsFrom expected high index first draft) := by
  induction fields generalizing index first draft with
  | nil => exact .refl _
  | @cons field field' rest rest' capped _ ih =>
    apply Capped.after
    intro more
    cases more with
    | true => exact (capped.read draft).bind fun next => ih (index + 1) false next
    | false =>
      simp only [Bool.false_eq_true, if_false, capped.required]
      split
      · exact .refl _
      · exact ih (index + 1) first draft

theorem addMember_capped {low high : List (Field δ)} (fields : List.Forall₂ Field.Capped low high)
    (key : String) (draft : δ) : Capped (addMember low key draft) (addMember high key draft) := by
  induction fields with
  | nil => exact .refl _
  | @cons field field' rest rest' capped _ ih =>
    unfold addMember at ih ⊢
    by_cases named : field'.name = key
    · simp only [List.find?_cons, capped.name, named, decide_true, capped.present]
      split
      · exact .refl _
      · exact .after _ fun _ => capped.read draft
    · simpa only [List.find?_cons, capped.name, named, decide_false] using ih

theorem readRecord_capped {low high : Nat} {shape shape' : Nat → Shape δ α} (le : low ≤ high)
    (capped : (shape (low - 1)).Capped (shape' (high - 1))) :
    Capped (readRecord low shape) (readRecord high shape') := by
  unfold readRecord
  apply Capped.after
  intro found
  have bracket := openBracket_capped le
  dsimp only
  rw [capped.name, capped.draft, capped.finish, capped.fields.length_eq]
  split
  · exact .refl _
  · apply bracket.bind
    intro _
    apply (fieldsFrom_capped capped.fields _ _ _ _).bind
    exact fun _ => .refl _
  · apply bracket.bind
    intro _
    apply Capped.bind
    · apply Capped.after
      intro text
      exact membersFrom_capped (addMember_capped capped.fields) _ _ _
    · exact fun _ => .refl _
  · exact .refl _

theorem decode_capped {low high : Reader α} (capped : Capped low high) (text : String) :
    decode low text = decode high text ∨ decode low text = .error .tooDeep := by
  unfold decode
  rcases capped text.toList with same | deep
  · rw [same]
    exact .inl rfl
  · rw [deep]
    exact .inr rfl

theorem decode_of_capped {low high : Reader α} (capped : Capped low high) {text : String} {value : α}
    (read : decode low text = .ok value) : decode high text = .ok value := by
  rcases decode_capped capped text with same | deep
  · rw [← same, read]
  · simp [read] at deep

end LatexTree.Json

namespace LatexTree.Wire
open Json

variable {low high : Nat}

theorem readSpan_capped (le : low ≤ high) : Capped (readSpan low) (readSpan high) := by
  apply Capped.after
  intro found
  split
  · exact (openBracket_capped le).bind fun _ => .refl _
  · exact .refl _

theorem readPosition_capped (le : low ≤ high) : Capped (readPosition low) (readPosition high) := by
  apply readRecord_capped le
  exact ⟨rfl, rfl, List.forall₂_same.mpr fun field _ => ⟨rfl, rfl, rfl, fun _ => .refl _⟩, rfl⟩

theorem readLocation_capped (le : low ≤ high) : Capped (readLocation low) (readLocation high) := by
  have positions := readPosition_capped (Nat.sub_le_sub_right le 1)
  apply readRecord_capped le
  exact ⟨rfl, rfl, .cons (.put positions ..) (.cons (.put positions ..) .nil), rfl⟩

theorem nodeRecord_capped (le : low ≤ high) {child child' : Reader Node} (below : Capped child child') :
    Capped (readRecord low (nodeShape child)) (readRecord high (nodeShape child')) := by
  have inner := Nat.sub_le_sub_right le 1
  have texts := Capped.refl readString
  have lists : Capped (readList (low - 1) fun _ => child) (readList (high - 1) fun _ => child') :=
    readList_capped inner below
  apply readRecord_capped le
  exact ⟨rfl, rfl, .cons (.put texts ..) (.cons (.put texts ..)
    (.cons (.put (readSpan_capped inner) ..) (.cons (.put (readLocation_capped inner) ..)
    (.cons (.put (readOptional_capped lists) ..)
    (.cons (.put (readOptional_capped texts) ..) .nil))))), rfl⟩

theorem readNode_eq (budget : Nat) :
    ∃ child, readNode budget = readRecord budget (nodeShape child) := by
  match budget with
  | 0 => exact ⟨_, rfl⟩
  | 1 => exact ⟨_, rfl⟩
  | budget + 2 => exact ⟨_, rfl⟩

theorem readNode_capped : ∀ {low high : Nat}, low ≤ high → Capped (readNode low) (readNode high)
  -- With no bracket left for a child the smaller budget refuses it, whatever the larger one does.
  | 0, high, le => by
    obtain ⟨child, same⟩ := readNode_eq high
    rw [same]
    exact nodeRecord_capped le (capped_tooDeep child)
  | 1, high, le => by
    obtain ⟨child, same⟩ := readNode_eq high
    rw [same]
    exact nodeRecord_capped le (capped_tooDeep child)
  | low + 2, 0, le => by omega
  | low + 2, 1, le => by omega
  | low + 2, high + 2, le => nodeRecord_capped le (readNode_capped (by omega))

theorem readKind_capped (le : low ≤ high) : Capped (readKind low) (readKind high) := by
  apply Capped.after
  intro found
  split
  · exact .refl _
  · exact .refl _
  · exact (openBracket_capped le).bind fun _ => .refl _
  · exact .refl _

theorem readTokenPosition_capped (le : low ≤ high) :
    Capped (readTokenPosition low) (readTokenPosition high) := by
  apply readRecord_capped le
  exact ⟨rfl, rfl, List.forall₂_same.mpr fun field _ => ⟨rfl, rfl, rfl, fun _ => .refl _⟩, rfl⟩

theorem readTokenLocation_capped (le : low ≤ high) :
    Capped (readTokenLocation low) (readTokenLocation high) := by
  have positions := readTokenPosition_capped (Nat.sub_le_sub_right le 1)
  apply readRecord_capped le
  exact ⟨rfl, rfl, .cons (.put positions ..) (.cons (.put positions ..) .nil), rfl⟩

theorem readToken_capped (le : low ≤ high) : Capped (readToken low) (readToken high) := by
  have inner := Nat.sub_le_sub_right le 1
  apply readRecord_capped le
  exact ⟨rfl, rfl, .cons (.put (readKind_capped inner) ..) (.cons (.put (.refl readString) ..)
    (.cons (.put (readTokenLocation_capped inner) ..) .nil)), rfl⟩

theorem readParsed_capped (le : low ≤ high) : Capped (readParsed low) (readParsed high) := by
  have inner := Nat.sub_le_sub_right le 1
  have tokens := readList_capped inner (readToken_capped (Nat.sub_le_sub_right inner 1))
  apply readRecord_capped le
  exact ⟨rfl, rfl, .cons (.put (readNode_capped inner) ..)
    (.cons (.put (readOptional_capped tokens) ..) .nil), rfl⟩

end LatexTree.Wire
