import LatexTree.Proofs.WireGrammar
import LatexTree.Wire.Parsed

/-! The wire grammar of tokens, and of a tree with the tokens that belong to it. -/
namespace LatexTree

/-- The written form has no more brackets open at once. -/
def Parsed.Within (budget : Nat) (parsed : Parsed) : Prop :=
  2 * parsed.root.height + 4 ≤ budget ∧ ∀ tokens ∈ parsed.comments, ∀ token ∈ tokens, 5 ≤ budget

namespace Wire
open Json

/-! ### Tokens -/

theorem kindNamed_eq_ok (name : String) (kind : CommentKind) :
    kindNamed name = .ok kind ↔ name = "comment" := by
  unfold kindNamed
  split
  · next same => simp [same]
  · next differ => simp [differ]

theorem run_kindEnd {members : List (String × Value)} {text blanks : List Char}
    (inside : MembersSpelling false members text) (blank : Blank blanks) (rest : List Char)
    (kind result : CommentKind) (left : List Char) :
    (do
      match ← peek with
      | none => throw (.ended .object)
      | some '\x7d' => advance; return kind
      | some _ => throw .expectedValue : Reader CommentKind).run
        (text ++ (blanks ++ '\x7d' :: rest)) = .ok (result, left) ↔
      members = [] ∧ result = kind ∧ left = rest := by
  cases inside with
  | nil =>
    rw [List.nil_append, run_peek_mark blank '\x7d' _ _ rfl]
    split
    · contradiction
    · rw [run_bind_of (run_advance _ _), run_pure_eq_ok]
      simp
    · next other same => exact absurd (Option.some.inj same).symm other
  | cons _ name value members gap front back text tail parted colon after spelled others =>
    cases parted with
    | next before behind blank' _ =>
    apply iff_of_false
    · simp only [List.append_assoc, List.cons_append]
      rw [run_peek_mark blank' ',' _ _ rfl]
      split
      · contradiction
      · next same => simp at same
      · exact fails_throw _ _ _
    · simp

/-- A kind in an object, after its bracket. -/
theorem run_kindMember {members : List (String × Value)} {text blanks : List Char}
    (inside : MembersSpelling true members text) (below : ∀ member ∈ members, member.2.Proper)
    (blank : Blank blanks) (rest : List Char) (kind : CommentKind) (left : List Char) :
    (do
      let name ← match ← peek with
        | some '"' => advance; readText
        | some '\x7d' => throw .expectedValue
        | some _ => throw .keyNotText
        | none => throw (.ended .object)
      let kind ← kindNamed name
      readColon
      readNull
      match ← peek with
      | none => throw (.ended .object)
      | some '\x7d' => advance; return kind
      | some _ => throw .expectedValue : Reader CommentKind).run
        (text ++ (blanks ++ '\x7d' :: rest)) = .ok (kind, left) ↔
      members = [("comment", .null)] ∧ left = rest := by
  cases inside with
  | nil =>
    apply iff_of_false
    · rw [List.nil_append, run_peek_mark blank '\x7d' _ _ rfl]
      exact fails_throw_bind _ _ _ _
    · simp
  | cons _ name value members gap front back text tail parted colon after spelled others =>
    cases parted with
    | first _ before =>
    rw [List.forall_mem_cons] at below
    have ends := others.ends blank rest
    have nulls := readNull_recognizes value back text _ below.1 spelled after ends
    simp only [textChars, List.append_assoc, List.cons_append, List.nil_append]
    rw [run_peek_mark before '"' _ _ rfl]
    split
    · have key : readText.run (name.toList.flatMap escapedChar ++ '"' ::
          (front ++ ':' :: (back ++ (text ++ (tail ++ (blanks ++ '\x7d' :: rest)))))) =
            .ok (name, _) := run_readText name _
      have marked := run_readColon colon (back ++ (text ++ (tail ++ (blanks ++ '\x7d' :: rest))))
      rw [run_bind_of (run_advance _ _), run_bind_of key]
      simp only [run_bind_eq_ok, run_lift, kindNamed_eq_ok]
      constructor
      · rintro ⟨kind', _, ⟨rfl, rfl⟩, _, _, coloned, _, _, null, closed⟩
        obtain ⟨-, rfl⟩ := Prod.mk.inj (Except.ok.inj (marked.symm.trans coloned))
        obtain ⟨rfl, rfl⟩ := (nulls _ _).mp null
        obtain ⟨rfl, -, rfl⟩ := (run_kindEnd others blank rest kind' kind left).mp
          ((run_bind_eq_ok _ _ _ _).mpr closed)
        exact ⟨rfl, rfl⟩
      · rintro ⟨same, rfl⟩
        obtain ⟨⟨rfl, rfl⟩, rfl⟩ : (name = "comment" ∧ value = .null) ∧ members = [] := by
          simpa using same
        exact ⟨kind, _, ⟨rfl, rfl⟩, (), _, marked, (), _, (nulls _ _).mpr ⟨rfl, rfl⟩,
          (run_bind_eq_ok _ _ _ _).mp ((run_kindEnd others blank _ kind kind _).mpr ⟨rfl, rfl, rfl⟩)⟩
    · next same => simp at same
    · next other _ same => exact absurd (Option.some.inj same).symm other
    · contradiction

theorem readKind_recognizes (budget : Nat) :
    Recognizes (readKind budget) fun value _ =>
      value = .text "comment" ∨ 0 < budget ∧ value = .object [("comment", .null)] := by
  intro value blanks text rest proper spelled blank ends kind left
  unfold readKind
  by_cases shape : (∃ string, value = .text string) ∨ ∃ members, value = .object members
  · rcases shape with ⟨string, rfl⟩ | ⟨members, rfl⟩
    · cases spelled
      simp only [textChars, List.cons_append, List.append_assoc, List.nil_append]
      rw [run_peek_mark blank '"' _ _ rfl]
      split
      · contradiction
      · rw [run_bind_of (run_advance _ _), run_bind_of (run_readText _ _), run_lift, kindNamed_eq_ok]
        simp
      · next same => simp at same
      · next other _ same => exact absurd (Option.some.inj same).symm other
    · cases spelled with
      | object _ text inner inside blank' =>
      cases proper with
      | object _ distinct below =>
      have reads := run_kindMember inside below blank' rest kind left
      simp only [List.cons_append, List.append_assoc, List.nil_append]
      rw [run_peek_mark blank '\x7b' _ _ rfl]
      split
      · contradiction
      · next same => simp at same
      · rw [run_openBracket]
        constructor
        · rintro ⟨allowed, read⟩
          obtain ⟨rfl, rfl⟩ := reads.mp read
          exact ⟨.inr ⟨allowed, rfl⟩, rfl⟩
        · rintro ⟨same | ⟨allowed, same⟩, rfl⟩
          · simp at same
          · exact ⟨allowed, reads.mpr ⟨Value.object.inj same, rfl⟩⟩
      · next other same => exact absurd (Option.some.inj same).symm other
  · rw [not_or] at shape
    apply iff_of_false
    · refine refuses spelled blank ?_ _
      intro c leads
      split
      · contradiction
      · next same =>
        obtain rfl := Option.some.inj same
        exact absurd leads.quote shape.1
      · next same =>
        obtain rfl := Option.some.inj same
        exact absurd leads.curly shape.2
      · exact fails_throw _
    · rintro ⟨same | ⟨-, same⟩, -⟩
      · exact shape.1 ⟨_, same⟩
      · exact shape.2 ⟨_, same⟩

def tokenPositionSlots : List (Slot TokenPositionDraft) := [
  ⟨Nat, "offset", true, (·.offset), fun draft offset => { draft with offset := some offset }, readNat,
    NatForm⟩,
  ⟨Nat, "line", true, (·.line), fun draft line => { draft with line := some line }, readNat, NatForm⟩,
  ⟨Nat, "column", true, (·.column), fun draft column => { draft with column := some column }, readNat,
    NatForm⟩]

theorem tokenPositionShape_finish (budget : Nat) (draft : TokenPositionDraft)
    (position : TokenPosition) :
    (tokenPositionShape budget).finish draft = .ok position ↔
      draft = ⟨some position.offset, some position.line, some position.column⟩ := by
  obtain ⟨offset, line, column⟩ := draft
  obtain ⟨offset', line', column'⟩ := position
  simp [tokenPositionShape, bind_eq_ok, need_eq_ok, pure, Except.pure]

theorem tokenPositionSlots_lawful (budget : Nat) :
    Lawful tokenPositionSlots (tokenPositionShape budget).draft (tokenPositionShape budget).finish where
  distinct := by decide
  empty := by simp [tokenPositionSlots, tokenPositionShape]
  same := by simp [tokenPositionSlots]
  other := by simp [tokenPositionSlots]
  ext := by
    rintro ⟨offset, line, column⟩ ⟨offset', line', column'⟩ same
    simpa [tokenPositionSlots] using same
  complete := by
    intro draft position finished
    rw [(tokenPositionShape_finish _ _ _).mp finished]
    simp [tokenPositionSlots]

def TokenPositionForm (value : Value) (position : TokenPosition) : Prop :=
  ∃ members, value.entries ["offset", "line", "column"] = some members ∧
    Given NatForm (members.lookup "offset") position.offset ∧
    Given NatForm (members.lookup "line") position.line ∧
    Given NatForm (members.lookup "column") position.column

theorem readTokenPosition_recognizes (budget : Nat) :
    Recognizes (readTokenPosition budget) fun value position =>
      0 < budget ∧ TokenPositionForm value position := by
  have slots : ∀ slot ∈ tokenPositionSlots, Recognizes slot.reader slot.stands := by
    simp [tokenPositionSlots, readNat_recognizes]
  refine (readRecord_recognizes rfl (tokenPositionSlots_lawful _) slots).congr ?_
  intro value position
  rw [recordStands_iff (tokenPositionShape_finish _)]
  simp [Updates, tokenPositionSlots, tokenPositionShape, Slot.Takes, taken_some, TokenPositionForm]

def tokenLocationSlots (budget : Nat) : List (Slot TokenLocationDraft) := [
  ⟨TokenPosition, "start", true, (·.start), fun draft start => { draft with start := some start },
    readTokenPosition budget, fun value position => 0 < budget ∧ TokenPositionForm value position⟩,
  ⟨TokenPosition, "end", true, (·.stop), fun draft stop => { draft with stop := some stop },
    readTokenPosition budget, fun value position => 0 < budget ∧ TokenPositionForm value position⟩]

theorem tokenLocationShape_finish (budget : Nat) (draft : TokenLocationDraft)
    (location : TokenLocation) :
    (tokenLocationShape budget).finish draft = .ok location ↔
      draft = ⟨some location.start, some location.stop⟩ := by
  obtain ⟨start, stop⟩ := draft
  obtain ⟨start', stop'⟩ := location
  simp [tokenLocationShape, bind_eq_ok, need_eq_ok, pure, Except.pure]

theorem tokenLocationSlots_lawful (budget : Nat) :
    Lawful (tokenLocationSlots budget) (tokenLocationShape budget).draft
      (tokenLocationShape budget).finish where
  distinct := by simp [tokenLocationSlots]
  empty := by simp [tokenLocationSlots, tokenLocationShape]
  same := by simp [tokenLocationSlots]
  other := by simp [tokenLocationSlots]
  ext := by
    rintro ⟨start, stop⟩ ⟨start', stop'⟩ same
    simpa [tokenLocationSlots] using same
  complete := by
    intro draft location finished
    rw [(tokenLocationShape_finish _ _ _).mp finished]
    simp [tokenLocationSlots]

def TokenLocationForm (value : Value) (location : TokenLocation) : Prop :=
  ∃ members, value.entries ["start", "end"] = some members ∧
    Given TokenPositionForm (members.lookup "start") location.start ∧
    Given TokenPositionForm (members.lookup "end") location.stop

theorem readTokenLocation_recognizes (budget : Nat) :
    Recognizes (readTokenLocation budget) fun value location =>
      1 < budget ∧ TokenLocationForm value location := by
  have positions := readTokenPosition_recognizes (budget - 1)
  have slots : ∀ slot ∈ tokenLocationSlots (budget - 1), Recognizes slot.reader slot.stands := by
    simp only [tokenLocationSlots, List.forall_mem_cons]
    exact ⟨positions, positions, by simp⟩
  refine (readRecord_recognizes rfl (tokenLocationSlots_lawful _) slots).congr ?_
  intro value location
  rw [recordStands_iff (tokenLocationShape_finish _)]
  simp only [Updates, tokenLocationSlots, tokenLocationShape, Slot.Takes, List.forall_mem_cons,
    taken_some, given_and]
  constructor
  · rintro ⟨_, members, entries, ⟨allowed, start⟩, ⟨_, stop⟩, -⟩
    exact ⟨by omega, members, entries, start, stop⟩
  · rintro ⟨allowed, members, entries, start, stop⟩
    have inner : 0 < budget - 1 := by omega
    exact ⟨by omega, members, entries, ⟨inner, start⟩, ⟨inner, stop⟩, by simp⟩

theorem taken_default {α : Type} (stands : Value → α → Prop) (given : Option Value)
    (content default : α) :
    (∃ kept, Taken stands given none kept ∧ content = kept.getD default) ↔
      given = none ∧ content = default ∨ Given stands given content := by
  cases given with
  | none => simp [Taken, Given]
  | some value =>
    constructor
    · rintro ⟨_, ⟨found, stood, rfl⟩, rfl⟩
      exact .inr ⟨value, rfl, stood⟩
    · rintro (⟨absent, -⟩ | ⟨_, same, stood⟩)
      · contradiction
      · obtain rfl := Option.some.inj same
        exact ⟨some content, ⟨content, stood, rfl⟩, rfl⟩

def KindForm (value : Value) (_ : CommentKind) : Prop :=
  value = .text "comment" ∨ value = .object [("comment", .null)]

def tokenSlots (budget : Nat) : List (Slot TokenDraft) := [
  ⟨CommentKind, "kind", false, (·.kind), fun draft kind => { draft with kind := some kind },
    readKind budget,
    fun value _ => value = .text "comment" ∨ 0 < budget ∧ value = .object [("comment", .null)]⟩,
  ⟨String, "content", true, (·.content), fun draft content => { draft with content := some content },
    readString, TextForm⟩,
  ⟨TokenLocation, "location", true, (·.location),
    fun draft location => { draft with location := some location }, readTokenLocation budget,
    fun value location => 1 < budget ∧ TokenLocationForm value location⟩]

theorem tokenShape_finish (budget : Nat) (draft : TokenDraft) (token : CommentToken) :
    (tokenShape budget).finish draft = .ok token ↔
      ∃ kind, draft = ⟨kind, some token.content, some token.location⟩ ∧
        token.kind = kind.getD .comment := by
  obtain ⟨kind, content, location⟩ := draft
  obtain ⟨kind', content', location'⟩ := token
  simp [tokenShape, bind_eq_ok, need_eq_ok, pure, Except.pure]

theorem tokenSlots_lawful (budget : Nat) :
    Lawful (tokenSlots budget) (tokenShape budget).draft (tokenShape budget).finish where
  distinct := by simp [tokenSlots]
  empty := by simp [tokenSlots, tokenShape]
  same := by simp [tokenSlots]
  other := by simp [tokenSlots]
  ext := by
    rintro ⟨kind, content, location⟩ ⟨kind', content', location'⟩ same
    simpa [tokenSlots] using same
  complete := by
    intro draft token finished
    obtain ⟨kind, rfl, -⟩ := (tokenShape_finish _ _ _).mp finished
    simp [tokenSlots]

/-- A record of a token; its kind may be left out, and is then the one that there is. -/
def TokenForm (value : Value) (token : CommentToken) : Prop :=
  ∃ members, value.entries ["kind", "content", "location"] = some members ∧
    (members.lookup "kind" = none ∧ token.kind = .comment ∨
      Given KindForm (members.lookup "kind") token.kind) ∧
    Given TextForm (members.lookup "content") token.content ∧
    Given TokenLocationForm (members.lookup "location") token.location

theorem readToken_recognizes (budget : Nat) :
    Recognizes (readToken budget) fun value token => 2 < budget ∧ TokenForm value token := by
  have slots : ∀ slot ∈ tokenSlots (budget - 1), Recognizes slot.reader slot.stands := by
    simp only [tokenSlots, List.forall_mem_cons]
    exact ⟨readKind_recognizes _, readString_recognizes, readTokenLocation_recognizes _, by simp⟩
  refine (readRecord_recognizes rfl (tokenSlots_lawful _) slots).congr ?_
  intro value token
  constructor
  · rintro ⟨_, members, entries, after, updates, finished⟩
    obtain ⟨kind, rfl, named⟩ := (tokenShape_finish _ _ _).mp finished
    simp only [Updates, tokenSlots, Slot.Takes, List.forall_mem_cons, tokenShape, taken_some, given_and]
      at updates
    obtain ⟨kept, content, ⟨allowed, location⟩, -⟩ := updates
    have kinds := (taken_default _ _ _ _).mp ⟨kind, kept, named⟩
    refine ⟨by omega, members, entries, kinds.imp id ?_, content, location⟩
    rintro ⟨given, found, form⟩
    exact ⟨given, found, form.imp id And.right⟩
  · rintro ⟨allowed, members, entries, kinds, content, location⟩
    have inner : 0 < budget - 1 := by omega
    have kinds' : members.lookup "kind" = none ∧ token.kind = .comment ∨
        Given (fun value _ => value = .text "comment" ∨
          0 < budget - 1 ∧ value = .object [("comment", .null)]) (members.lookup "kind")
          token.kind := by
      refine kinds.imp id ?_
      rintro ⟨given, found, form⟩
      exact ⟨given, found, form.imp id (And.intro inner)⟩
    obtain ⟨kind, kept, named⟩ := (taken_default _ _ _ _).mpr kinds'
    refine ⟨by omega, members, entries, _, ?_, (tokenShape_finish _ _ _).mpr ⟨kind, rfl, named⟩⟩
    simp only [Updates, tokenSlots, Slot.Takes, List.forall_mem_cons, tokenShape, taken_some, given_and]
    exact ⟨kept, content, ⟨by omega, location⟩, by simp⟩

def parsedSlots (budget : Nat) : List (Slot ParsedDraft) := [
  ⟨Node, "ast", true, (·.root), fun draft root => { draft with root := some root }, readNode budget,
    fun value root => Mirrors value root ∧ 2 * root.height + 3 ≤ budget⟩,
  ⟨Option (List CommentToken), "comments", false, (·.comments),
    fun draft comments => { draft with comments := some comments },
    readOptional (readList budget readToken),
    OptionalForm fun value tokens =>
      0 < budget ∧ ListForm (fun value token => 2 < budget - 1 ∧ TokenForm value token) value tokens⟩]

theorem parsedShape_finish (budget : Nat) (draft : ParsedDraft) (parsed : Parsed) :
    (parsedShape budget).finish draft = .ok parsed ↔
      ∃ comments, draft = ⟨some parsed.root, comments⟩ ∧ comments.join = parsed.comments := by
  obtain ⟨root, comments⟩ := draft
  obtain ⟨root', comments'⟩ := parsed
  simp [parsedShape, bind_eq_ok, need_eq_ok, pure, Except.pure]

theorem parsedSlots_lawful (budget : Nat) :
    Lawful (parsedSlots budget) (parsedShape budget).draft (parsedShape budget).finish where
  distinct := by simp [parsedSlots]
  empty := by simp [parsedSlots, parsedShape]
  same := by simp [parsedSlots]
  other := by simp [parsedSlots]
  ext := by
    rintro ⟨root, comments⟩ ⟨root', comments'⟩ same
    simpa [parsedSlots] using same
  complete := by
    intro draft parsed finished
    obtain ⟨comments, rfl, -⟩ := (parsedShape_finish _ _ _).mp finished
    simp [parsedSlots]

/-- A record of a tree and its comments; the comments may be left out or null. -/
def ParsedForm (value : Value) (parsed : Parsed) : Prop :=
  ∃ members, value.entries ["ast", "comments"] = some members ∧
    Given Mirrors (members.lookup "ast") parsed.root ∧
    Maybe (ListForm TokenForm) (members.lookup "comments") parsed.comments

/-- A list of tokens needs brackets of its own only if there are tokens in it. -/
theorem listed_within {budget : Nat} (allowed : 3 < budget) (given : Option Value)
    (comments : Option (List CommentToken)) :
    Maybe (fun value tokens => 0 < budget - 1 ∧
        ListForm (fun value token => 2 < budget - 1 - 1 ∧ TokenForm value token) value tokens)
        given comments ↔
      Maybe (ListForm TokenForm) given comments ∧
        ∀ tokens ∈ comments, ∀ token ∈ tokens, 5 ≤ budget := by
  cases comments with
  | none => simp [Maybe]
  | some tokens =>
    simp only [Maybe, Option.mem_some_iff, forall_eq']
    constructor
    · rintro ⟨value, same, -, items, rfl, all⟩
      obtain ⟨forms, enough⟩ := forall₂_and_right.mp (all.imp fun _ _ both => And.symm both)
      refine ⟨⟨_, same, items, rfl, forms⟩, ?_⟩
      intro token member
      have := enough token member
      omega
    · rintro ⟨⟨value, same, items, rfl, forms⟩, enough⟩
      refine ⟨_, same, by omega, items, rfl, ?_⟩
      refine (forall₂_and_right.mpr ⟨forms, ?_⟩).imp fun _ _ both => And.symm both
      intro token member
      have := enough token member
      omega

theorem readParsed_recognizes (budget : Nat) :
    Recognizes (readParsed budget) fun value parsed =>
      ParsedForm value parsed ∧ parsed.Within budget := by
  have lists : Recognizes (readList (budget - 1) readToken) _ :=
    readList_recognizes (readToken_recognizes (budget - 1 - 1))
  have slots : ∀ slot ∈ parsedSlots (budget - 1), Recognizes slot.reader slot.stands := by
    simp only [parsedSlots, List.forall_mem_cons]
    exact ⟨readNode_recognizes _, readOptional_recognizes lists, by simp⟩
  refine (readRecord_recognizes rfl (parsedSlots_lawful _) slots).congr ?_
  intro value parsed
  constructor
  · rintro ⟨_, members, entries, after, updates, finished⟩
    obtain ⟨comments, rfl, named⟩ := (parsedShape_finish _ _ _).mp finished
    simp only [Updates, parsedSlots, Slot.Takes, List.forall_mem_cons, parsedShape, taken_some]
      at updates
    obtain ⟨⟨ast, found, mirrors, bound⟩, kept, -⟩ := updates
    have tokens := (taken_optional (by simp [ListForm]) _ _).mp ⟨comments, kept, named⟩
    rw [listed_within (by omega)] at tokens
    exact ⟨⟨members, entries, ⟨ast, found, mirrors⟩, tokens.1⟩, by omega, tokens.2⟩
  · rintro ⟨⟨members, entries, ⟨ast, found, mirrors⟩, tokens⟩, bound, few⟩
    obtain ⟨comments, kept, named⟩ := (taken_optional (by simp [ListForm]) _ _).mpr
      ((listed_within (by omega) _ _).mpr ⟨tokens, few⟩)
    refine ⟨by omega, members, entries, _, ?_, (parsedShape_finish _ _ _).mpr ⟨comments, rfl, named⟩⟩
    simp only [Updates, parsedSlots, Slot.Takes, List.forall_mem_cons, parsedShape, taken_some]
    exact ⟨⟨ast, found, mirrors, by omega⟩, kept, by simp⟩

end Wire

end LatexTree
