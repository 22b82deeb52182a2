import LatexTree.Proofs.Records

/-! What readers give, from whatever text. -/
namespace LatexTree.Json

variable {α β δ : Type}

/-- Every value that the reader gives has the property. -/
def Yields (reader : Reader α) (holds : α → Prop) : Prop :=
  ∀ text value rest, reader.run text = .ok (value, rest) → holds value

theorem Fails.yields {reader : Reader α} (fails : Fails reader) (holds : α → Prop) :
    Yields reader holds :=
  fun text _ _ read => absurd read (fails text _)

theorem yields_true (reader : Reader α) : Yields reader fun _ => True := fun _ _ _ _ => trivial

theorem yields_pure {value : α} {holds : α → Prop} (own : holds value) :
    Yields (pure value : Reader α) holds := by
  intro text result rest read
  obtain ⟨rfl, -⟩ := (run_pure_eq_ok _ _ _ _).mp read
  exact own

theorem Yields.bind {reader : Reader α} {holds : α → Prop} {next : α → Reader β} {holds' : β → Prop}
    (first : Yields reader holds) (later : ∀ value, holds value → Yields (next value) holds') :
    Yields (reader >>= next) holds' := by
  intro text result rest read
  obtain ⟨value, middle, read, read'⟩ := (run_bind_eq_ok _ _ _ _).mp read
  exact later value (first _ _ _ read) _ _ _ read'

theorem Yields.after (reader : Reader α) {next : α → Reader β} {holds : β → Prop}
    (later : ∀ value, Yields (next value) holds) : Yields (reader >>= next) holds :=
  (yields_true reader).bind fun value _ => later value

theorem yields_lift {step : Except Fault α} {holds : α → Prop}
    (given : ∀ value, step = .ok value → holds value) : Yields (liftM step : Reader α) holds := by
  intro text value rest read
  exact given value ((run_lift _ _ _ _).mp read).1

theorem Yields.imp {reader : Reader α} {holds holds' : α → Prop} (first : Yields reader holds)
    (weaker : ∀ value, holds value → holds' value) : Yields reader holds' :=
  fun text value rest read => weaker value (first text value rest read)

theorem openBracket_yields (budget : Nat) : Yields (openBracket budget) fun _ => 0 < budget := by
  unfold openBracket
  by_cases spent : budget = 0
  · rw [if_pos spent]
    exact (fails_throw _).yields _
  · rw [if_neg spent]
    exact (yields_true advance).imp fun _ _ => Nat.pos_of_ne_zero spent

theorem readNat_yields : Yields readNat (· ≤ wordLimit) := by
  have natural (negative : Bool) (text left : List Char) (n : Nat) (read : _) :=
    number_natural_le ((run_natural negative text left n).mp read)
  refine .after _ fun found => ?_
  split
  · exact (fails_throw _).yields _
  · split
    · split
      · refine .after _ fun _ => ?_
        exact fun text n left read => natural _ text left n read
      · exact fun text n left read => natural _ text left n read
    · exact (fails_mismatch _).yields _

theorem itemsFrom_yields {item : Reader α} {holds : α → Prop} (each : Yields item holds) (fuel : Nat)
    (first : Bool) : Yields (itemsFrom item fuel first) fun items => ∀ value ∈ items, holds value := by
  induction fuel generalizing first with
  | zero => exact (fails_throw _).yields _
  | succ fuel ih =>
    apply Yields.after
    intro more
    cases more with
    | false => exact yields_pure (by simp)
    | true =>
      refine each.bind fun value own => ?_
      refine (ih false).bind fun rest others => ?_
      exact yields_pure (List.forall_mem_cons.mpr ⟨own, others⟩)

theorem readList_yields {budget : Nat} {item : Nat → Reader α} {holds : α → Prop}
    (each : Yields (item (budget - 1)) holds) :
    Yields (readList budget item) fun items => 0 < budget ∧ ∀ value ∈ items, holds value := by
  apply Yields.after
  intro found
  split
  · refine (openBracket_yields budget).bind fun _ allowed => ?_
    refine Yields.bind (.after _ fun text => itemsFrom_yields each _ true) fun items all => ?_
    exact .after _ fun _ => yields_pure ⟨allowed, all⟩
  · exact (fails_mismatch _).yields _

theorem readOptional_yields {reader : Reader α} {holds : α → Prop} (inner : Yields reader holds) :
    Yields (readOptional reader) fun found => ∀ value ∈ found, holds value := by
  apply Yields.after
  intro found
  split
  · exact .after _ fun _ => .after _ fun _ => yields_pure (by simp)
  · refine inner.bind fun value own => ?_
    exact yields_pure (by simpa using own)

/-! ### Records -/

/-- A field that puts what it reads into the draft keeps what the draft had. -/
theorem Yields.put {reader : Reader β} {holds : β → Prop} {p : δ → Prop} {next : δ → β → δ}
    (first : Yields reader holds)
    (keeps : ∀ draft value, p draft → holds value → p (next draft value)) (draft : δ)
    (start : p draft) : Yields (do return next draft (← reader) : Reader δ) p :=
  first.bind fun value own => yields_pure (keeps draft value start own)

theorem membersFrom_yields {add : String → δ → Reader δ} {holds : δ → Prop}
    (step : ∀ key draft, holds draft → Yields (add key draft) holds) (fuel : Nat) (first : Bool)
    {draft : δ} (start : holds draft) : Yields (membersFrom add fuel first draft) holds := by
  induction fuel generalizing first draft with
  | zero => exact (fails_throw _).yields _
  | succ fuel ih =>
    apply Yields.after
    intro more
    cases more with
    | false => exact yields_pure start
    | true =>
      apply Yields.after
      intro _
      apply Yields.after
      intro key
      exact (step key draft start).bind fun next kept => ih false kept

section

variable {fields : List (Field δ)} {holds : δ → Prop}
  (keeps : ∀ field ∈ fields, ∀ draft, holds draft → Yields (field.read draft) holds)
include keeps

theorem addMember_yields (key : String) {draft : δ} (start : holds draft) :
    Yields (addMember fields key draft) holds := by
  unfold addMember
  split
  · exact .after _ fun _ => .after _ fun _ => yields_pure start
  · next field found =>
    have member := List.mem_of_find?_eq_some found
    split
    · exact (fails_throw_bind _ _).yields _
    · exact .after _ fun _ => keeps field member draft start

theorem fieldsFrom_yields (expected : Expected) (index : Nat) (first : Bool) {draft : δ}
    (start : holds draft) : Yields (fieldsFrom expected fields index first draft) holds := by
  induction fields generalizing index first draft with
  | nil => exact yields_pure start
  | cons field rest ih =>
    rw [List.forall_mem_cons] at keeps
    apply Yields.after
    intro more
    split
    · exact (keeps.1 draft start).bind fun next kept => ih keeps.2 (index + 1) false kept
    · split
      · exact (fails_throw _).yields _
      · exact ih keeps.2 (index + 1) first start

end

theorem readRecord_yields {budget : Nat} {shape : Nat → Shape δ α} {p : δ → Prop}
    {holds : α → Prop} (start : p (shape (budget - 1)).draft)
    (keeps : ∀ field ∈ (shape (budget - 1)).fields, ∀ draft, p draft → Yields (field.read draft) p)
    (ends : ∀ draft result, p draft → (shape (budget - 1)).finish draft = .ok result → holds result) :
    Yields (readRecord budget shape) fun result => 0 < budget ∧ holds result := by
  unfold readRecord
  apply Yields.after
  intro found
  dsimp only
  split
  · exact (fails_throw _).yields _
  · refine (openBracket_yields budget).bind fun _ allowed => ?_
    refine (fieldsFrom_yields keeps _ _ _ start).bind fun draft kept => ?_
    refine Yields.bind (yields_lift fun result => ends draft result kept) fun result own => ?_
    exact .after _ fun _ => yields_pure ⟨allowed, own⟩
  · refine (openBracket_yields budget).bind fun _ allowed => ?_
    have members (text : List Char) :=
      membersFrom_yields (fun key draft => addMember_yields keeps key) (text.length + 1) true start
    refine Yields.bind (.after _ members) fun draft kept => ?_
    refine Yields.bind (yields_lift fun result => ends draft result kept) fun result own => ?_
    exact .after _ fun _ => yields_pure ⟨allowed, own⟩
  · exact (fails_mismatch _).yields _

theorem decode_yields {reader : Reader α} {holds : α → Prop} (yields : Yields reader holds)
    {text : String} {value : α} (read : decode reader text = .ok value) : holds value := by
  unfold decode at read
  obtain ⟨⟨found, rest⟩, run, read⟩ := (bind_eq_ok _ _ _).mp read
  dsimp only at read
  split at read
  · obtain rfl := Except.ok.inj read
    exact yields _ _ _ run
  · contradiction

end LatexTree.Json
