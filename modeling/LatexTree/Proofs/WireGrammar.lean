import LatexTree.Proofs.Records
import LatexTree.Wire.Node
import Mathlib.Logic.Relation

/-! The wire grammar of nodes.

`Mirrors` says which value stands for which node, without reading anything. The reader takes exactly
the values that mirror a node which the budget of brackets allows. -/
namespace LatexTree

def Span.Fits (span : Span) : Prop := span.start ≤ Json.wordLimit ∧ span.stop ≤ Json.wordLimit

instance (span : Span) : Decidable span.Fits := inferInstanceAs (Decidable (_ ∧ _))

def Position.Fits (position : Position) : Prop :=
  position.line ≤ Json.wordLimit ∧ position.column ≤ Json.wordLimit

instance (position : Position) : Decidable position.Fits := inferInstanceAs (Decidable (_ ∧ _))

mutual

/-- How far the deepest node stands below this one. -/
def Node.height : Node → Nat
  | .parent _ children => Forest.height children
  | .leaf .. => 0

def Forest.height : List Node → Nat
  | [] => 0
  | node :: rest => max (node.height + 1) (Forest.height rest)

end

theorem Forest.height_le (forest : List Node) (bound : Nat) :
    Forest.height forest ≤ bound ↔ ∀ node ∈ forest, node.height + 1 ≤ bound := by
  induction forest with
  | nil => simp [Forest.height]
  | cons node rest ih => rw [Forest.height, Nat.max_le, ih, List.forall_mem_cons]

namespace Json

mutual

/-- How many brackets are open at once in the value's text. -/
def Value.nesting : Value → Nat
  | .list items => itemsNesting items + 1
  | .object members => membersNesting members + 1
  | _ => 0

def itemsNesting : List Value → Nat
  | [] => 0
  | item :: rest => max item.nesting (itemsNesting rest)

def membersNesting : List (String × Value) → Nat
  | [] => 0
  | (_, value) :: rest => max value.nesting (membersNesting rest)

end

theorem nesting_le_items {item : Value} {items : List Value} (member : item ∈ items) :
    item.nesting ≤ itemsNesting items := by
  induction items with
  | nil => simp at member
  | cons head rest ih =>
    rw [itemsNesting]
    rcases List.mem_cons.mp member with rfl | later
    · exact le_max_left _ _
    · exact (ih later).trans (le_max_right _ _)

theorem nesting_le_members {name : String} {value : Value} {members : List (String × Value)}
    (member : (name, value) ∈ members) : value.nesting ≤ membersNesting members := by
  induction members with
  | nil => simp at member
  | cons head rest ih =>
    rw [membersNesting]
    rcases List.mem_cons.mp member with rfl | later
    · exact le_max_left _ _
    · exact (ih later).trans (le_max_right _ _)

theorem mem_of_lookup {name : String} {value : Value} {members : List (String × Value)}
    (found : members.lookup name = some value) : (name, value) ∈ members := by
  obtain ⟨front, back, rfl, -⟩ := List.lookup_eq_some_iff.mp found
  simp

theorem Value.nesting_entry {value item : Value} {names : List String} {name : String}
    {members : List (String × Value)} (entries : value.entries names = some members)
    (found : members.lookup name = some item) : item.nesting < value.nesting := by
  have member := mem_of_lookup found
  cases value with
  | object own =>
    obtain rfl := Option.some.inj entries
    exact Nat.lt_succ_of_le (nesting_le_members member)
  | list items =>
    rw [Value.entries, Option.ite_none_right_eq_some] at entries
    obtain rfl := Option.some.inj entries.2
    exact Nat.lt_succ_of_le (nesting_le_items (List.of_mem_zip member).2)
  | _ => simp [Value.entries] at entries

end Json

namespace Wire
open Json

/-! ### Places -/

theorem run_readEnd {i : Nat} {gap text rest : List Char} {item : Value}
    (parted : Separator (i = 0) gap) (proper : item.Proper) (spelled : Spelling item text)
    (ends : Ends rest) (n : Nat) (left : List Char) :
    (readEnd i).run (gap ++ (text ++ rest)) = .ok (n, left) ↔
      (item = .nat n ∧ n ≤ wordLimit) ∧ left = rest := by
  rw [readEnd, run_bind_of (run_nextItem parted spelled rest), if_pos rfl]
  exact readNat_recognizes item [] text rest proper spelled blank_nil ends n left

theorem readEnd_missing (index : Nat) {blanks : List Char} (blank : Blank blanks) (rest : List Char)
    (result : Nat × List Char) : (readEnd index).run (blanks ++ ']' :: rest) ≠ .ok result := by
  rw [readEnd, run_bind_of (run_nextItem_end _ blank rest), if_neg (by decide)]
  exact fails_throw _ _ _

/-- The two ends of a span and the bracket after them. -/
theorem run_spanEnds {items : List Value} {text blanks : List Char}
    (inside : ItemsSpelling true items text) (below : ∀ item ∈ items, item.Proper)
    (blank : Blank blanks) (rest : List Char) (span : Span) (left : List Char) :
    (do
      let start ← readEnd 0
      let stop ← readEnd 1
      closeList
      return (⟨start, stop⟩ : Span)).run (text ++ (blanks ++ ']' :: rest)) = .ok (span, left) ↔
      (items = [.nat span.start, .nat span.stop] ∧ span.Fits) ∧ left = rest := by
  rw [run_bind_eq_ok]
  cases inside with
  | nil =>
    apply iff_of_false
    · rintro ⟨start, _, missing, -⟩
      exact readEnd_missing 0 blank rest _ missing
    · simp
  | cons _ first items gap text tail parted spelled others =>
    rw [List.forall_mem_cons] at below
    have one := run_readEnd (i := 0) parted below.1 spelled (others.ends blank rest)
    simp only [List.append_assoc]
    simp only [run_bind_eq_ok]
    cases others with
    | nil =>
      apply iff_of_false
      · rintro ⟨start, _, read, stop, _, missing, -⟩
        obtain ⟨-, rfl⟩ := (one _ _).mp read
        exact readEnd_missing 1 blank rest _ missing
      · simp
    | cons _ second items gap' text' tail parted' spelled' others =>
      rw [List.forall_mem_cons] at below
      have two := run_readEnd (i := 1) parted' below.2.1 spelled' (others.ends blank rest)
      simp only [List.append_assoc] at one ⊢
      constructor
      · rintro ⟨start, _, read, stop, _, read', _, _, closed, made⟩
        obtain ⟨⟨rfl, fits⟩, rfl⟩ := (one _ _).mp read
        obtain ⟨⟨rfl, fits'⟩, rfl⟩ := (two _ _).mp read'
        obtain ⟨rfl, rfl⟩ := (run_pure_eq_ok _ _ _ _).mp made
        cases items with
        | nil =>
          cases others
          obtain ⟨-, rfl⟩ := Prod.mk.inj (Except.ok.inj ((run_closeList blank rest).symm.trans closed))
          exact ⟨⟨rfl, fits, fits'⟩, rfl⟩
        | cons item items => exact absurd closed (closeList_fails others _ _)
      · rintro ⟨⟨same, fits⟩, rfl⟩
        obtain ⟨rfl, rfl, rfl⟩ : first = .nat span.start ∧ second = .nat span.stop ∧ items = [] := by
          simpa using same
        cases others
        exact ⟨_, _, (one _ _).mpr ⟨⟨rfl, fits.1⟩, rfl⟩, _, _, (two _ _).mpr ⟨⟨rfl, fits.2⟩, rfl⟩,
          (), _, run_closeList blank _, rfl⟩

/-- A list of two numbers of 64 bits. -/
def SpanForm (value : Value) (span : Span) : Prop := value = spanValue span ∧ span.Fits

theorem readSpan_recognizes (budget : Nat) :
    Recognizes (readSpan budget) fun value span => 0 < budget ∧ SpanForm value span := by
  intro value blanks text rest proper spelled blank ends span left
  unfold readSpan SpanForm
  by_cases kind : ∃ items, value = .list items
  · obtain ⟨items, rfl⟩ := kind
    cases spelled with
    | list _ text inner inside blank' =>
    cases proper with
    | list _ below =>
    have reads := run_spanEnds inside below blank' rest span left
    simp only [List.cons_append, List.append_assoc, List.nil_append]
    rw [run_peek_mark blank '[' _ _ rfl]
    split
    · rw [run_openBracket, reads]
      constructor
      · rintro ⟨allowed, ⟨rfl, fits⟩, rfl⟩
        exact ⟨⟨allowed, rfl, fits⟩, rfl⟩
      · rintro ⟨⟨allowed, same, fits⟩, rfl⟩
        exact ⟨allowed, ⟨Value.list.inj same, fits⟩, rfl⟩
    · contradiction
  · apply iff_of_false
    · refine refuses spelled blank ?_ _
      intro c leads
      split
      · next same =>
        obtain rfl := Option.some.inj same
        exact absurd leads.square kind
      · exact fails_mismatch _
    · rintro ⟨⟨-, shape, -⟩, -⟩
      exact kind ⟨_, shape⟩

def positionSlots : List (Slot PositionDraft) := [
  ⟨Nat, "line", true, (·.line), fun draft line => { draft with line := some line }, readNat, NatForm⟩,
  ⟨Nat, "column", true, (·.column), fun draft column => { draft with column := some column }, readNat,
    NatForm⟩]

theorem positionShape_finish (budget : Nat) (draft : PositionDraft) (position : Position) :
    (positionShape budget).finish draft = .ok position ↔
      draft = ⟨some position.line, some position.column⟩ := by
  obtain ⟨line, column⟩ := draft
  obtain ⟨line', column'⟩ := position
  simp [positionShape, bind_eq_ok, need_eq_ok, pure, Except.pure]

theorem positionSlots_lawful (budget : Nat) :
    Lawful positionSlots (positionShape budget).draft (positionShape budget).finish where
  distinct := by decide
  empty := by simp [positionSlots, positionShape]
  same := by simp [positionSlots]
  other := by simp [positionSlots]
  ext := by
    rintro ⟨line, column⟩ ⟨line', column'⟩ same
    simpa [positionSlots] using same
  complete := by
    intro draft position finished
    rw [(positionShape_finish _ _ _).mp finished]
    simp [positionSlots]

/-- A record of a line and a column. -/
def PositionForm (value : Value) (position : Position) : Prop :=
  ∃ members, value.entries ["line", "column"] = some members ∧
    Given NatForm (members.lookup "line") position.line ∧
    Given NatForm (members.lookup "column") position.column

theorem readPosition_recognizes (budget : Nat) :
    Recognizes (readPosition budget) fun value position =>
      0 < budget ∧ PositionForm value position := by
  have slots : ∀ slot ∈ positionSlots, Recognizes slot.reader slot.stands := by
    simp [positionSlots, readNat_recognizes]
  refine (readRecord_recognizes rfl (positionSlots_lawful _) slots).congr ?_
  intro value position
  rw [recordStands_iff (positionShape_finish _)]
  simp [Updates, positionSlots, positionShape, Slot.Takes, taken_some, PositionForm]

def locationSlots (budget : Nat) : List (Slot LocationDraft) := [
  ⟨Position, "start", true, (·.start), fun draft start => { draft with start := some start },
    readPosition budget, fun value position => 0 < budget ∧ PositionForm value position⟩,
  ⟨Position, "end", true, (·.stop), fun draft stop => { draft with stop := some stop },
    readPosition budget, fun value position => 0 < budget ∧ PositionForm value position⟩]

theorem locationShape_finish (budget : Nat) (draft : LocationDraft) (location : Location) :
    (locationShape budget).finish draft = .ok location ↔
      draft = ⟨some location.start, some location.stop⟩ := by
  obtain ⟨start, stop⟩ := draft
  obtain ⟨start', stop'⟩ := location
  simp [locationShape, bind_eq_ok, need_eq_ok, pure, Except.pure]

theorem locationSlots_lawful (budget : Nat) :
    Lawful (locationSlots budget) (locationShape budget).draft (locationShape budget).finish where
  distinct := by simp [locationSlots]
  empty := by simp [locationSlots, locationShape]
  same := by simp [locationSlots]
  other := by simp [locationSlots]
  ext := by
    rintro ⟨start, stop⟩ ⟨start', stop'⟩ same
    simpa [locationSlots] using same
  complete := by
    intro draft location finished
    rw [(locationShape_finish _ _ _).mp finished]
    simp [locationSlots]

/-- A record of the two positions of a location. -/
def LocationForm (value : Value) (location : Location) : Prop :=
  ∃ members, value.entries ["start", "end"] = some members ∧
    Given PositionForm (members.lookup "start") location.start ∧
    Given PositionForm (members.lookup "end") location.stop

theorem readLocation_recognizes (budget : Nat) :
    Recognizes (readLocation budget) fun value location =>
      1 < budget ∧ LocationForm value location := by
  have positions := readPosition_recognizes (budget - 1)
  have slots : ∀ slot ∈ locationSlots (budget - 1), Recognizes slot.reader slot.stands := by
    simp only [locationSlots, List.forall_mem_cons]
    exact ⟨positions, positions, by simp⟩
  refine (readRecord_recognizes rfl (locationSlots_lawful _) slots).congr ?_
  intro value location
  rw [recordStands_iff (locationShape_finish _)]
  simp only [Updates, locationSlots, locationShape, Slot.Takes, List.forall_mem_cons, taken_some,
    given_and]
  constructor
  · rintro ⟨_, members, entries, ⟨allowed, start⟩, ⟨_, stop⟩, -⟩
    exact ⟨by omega, members, entries, start, stop⟩
  · rintro ⟨allowed, members, entries, start, stop⟩
    have inner : 0 < budget - 1 := by omega
    exact ⟨by omega, members, entries, ⟨inner, start⟩, ⟨inner, stop⟩, by simp⟩

/-! ### Nodes -/

def nodeNames : List String := ["type", "raw", "range", "loc", "children", "value"]

def HeadForm (members : List (String × Value)) (head : Head) : Prop :=
  Given TextForm (members.lookup "type") head.tag ∧ Given TextForm (members.lookup "raw") head.raw ∧
    Given SpanForm (members.lookup "range") head.span ∧
    Given LocationForm (members.lookup "loc") head.loc

def assemble (head : Head) (children : Option (List Node)) (text : Option String) : Node :=
  match children with
  | some children => .parent head children
  | none => .leaf head (text.getD "")

/-- One layer of a node, over what stands for a child. -/
def NodeForm (stands : Value → Node → Prop) (value : Value) (node : Node) : Prop :=
  ∃ members head children text, value.entries nodeNames = some members ∧ HeadForm members head ∧
    Maybe (ListForm stands) (members.lookup "children") children ∧
    Maybe TextForm (members.lookup "value") text ∧ node = assemble head children text

def nodeSlots (child : Reader Node) (stands : Value → Node → Prop) (budget : Nat) :
    List (Slot NodeDraft) := [
  ⟨String, "type", true, (·.tag), fun draft tag => { draft with tag := some tag }, readString,
    TextForm⟩,
  ⟨String, "raw", true, (·.raw), fun draft raw => { draft with raw := some raw }, readString,
    TextForm⟩,
  ⟨Span, "range", true, (·.span), fun draft span => { draft with span := some span }, readSpan budget,
    fun value span => 0 < budget ∧ SpanForm value span⟩,
  ⟨Location, "loc", true, (·.loc), fun draft loc => { draft with loc := some loc },
    readLocation budget, fun value loc => 1 < budget ∧ LocationForm value loc⟩,
  ⟨Option (List Node), "children", false, (·.children),
    fun draft children => { draft with children := some children },
    readOptional (readList budget fun _ => child),
    OptionalForm fun value children => 0 < budget ∧ ListForm stands value children⟩,
  ⟨Option String, "value", false, (·.value), fun draft value => { draft with value := some value },
    readOptional readString, OptionalForm TextForm⟩]

theorem nodeDraft_finish (draft : NodeDraft) (node : Node) :
    draft.finish = .ok node ↔ ∃ (head : Head) (children : Option (Option (List Node)))
      (text : Option (Option String)),
      draft = ⟨some head.tag, some head.raw, some head.span, some head.loc, children, text⟩ ∧
        node = assemble head children.join text.join := by
  obtain ⟨tag, raw, span, loc, children, text⟩ := draft
  simp only [NodeDraft.finish, bind_eq_ok, need_eq_ok, pure, Except.pure, Except.ok.injEq,
    NodeDraft.mk.injEq]
  constructor
  · rintro ⟨tag, rfl, raw, rfl, span, rfl, loc, rfl, rfl⟩
    exact ⟨⟨tag, raw, span, loc⟩, children, text, by simp, rfl⟩
  · rintro ⟨head, _, _, ⟨rfl, rfl, rfl, rfl, rfl, rfl⟩, rfl⟩
    exact ⟨_, rfl, _, rfl, _, rfl, _, rfl, rfl⟩

theorem nodeSlots_lawful (child : Reader Node) (stands : Value → Node → Prop) (budget : Nat) :
    Lawful (nodeSlots child stands budget) (nodeShape child budget).draft
      (nodeShape child budget).finish where
  distinct := by simp [nodeSlots]
  empty := by simp [nodeSlots, nodeShape]
  same := by simp [nodeSlots]
  other := by simp [nodeSlots]
  ext := by
    rintro ⟨⟩ ⟨⟩ same
    simpa [nodeSlots] using same
  complete := by
    intro draft node finished
    obtain ⟨head, children, text, rfl, -⟩ := (nodeDraft_finish _ _).mp finished
    simp [nodeSlots]

theorem nodeRecord_recognizes {child : Reader Node} {stands : Value → Node → Prop}
    (recognizes : Recognizes child stands) (budget : Nat) :
    Recognizes (readRecord budget (nodeShape child)) fun value node =>
      2 < budget ∧ NodeForm stands value node := by
  have lists : Recognizes (readList (budget - 1) fun _ => child) _ := readList_recognizes recognizes
  have slots : ∀ slot ∈ nodeSlots child stands (budget - 1), Recognizes slot.reader slot.stands := by
    simp only [nodeSlots, List.forall_mem_cons]
    exact ⟨readString_recognizes, readString_recognizes, readSpan_recognizes _,
      readLocation_recognizes _, readOptional_recognizes lists,
      readOptional_recognizes readString_recognizes, by simp⟩
  refine (readRecord_recognizes rfl (nodeSlots_lawful _ _ _) slots).congr ?_
  intro value node
  constructor
  · rintro ⟨_, members, entries, after, updates, finished⟩
    obtain ⟨head, children, text, rfl, rfl⟩ := (nodeDraft_finish _ _).mp finished
    simp only [Updates, nodeSlots, Slot.Takes, List.forall_mem_cons, nodeShape, taken_some, given_and]
      at updates
    -- Of all fields the location opens most brackets, two of them; so it settles the budget for all.
    obtain ⟨tag, raw, ⟨_, span⟩, ⟨allowed, loc⟩, kept, kept', -⟩ := updates
    have below := (taken_optional (by simp [ListForm]) _ _).mp ⟨children, kept, rfl⟩
    have texts := (taken_optional (by simp [TextForm]) _ _).mp ⟨text, kept', rfl⟩
    simp only [show 0 < budget - 1 by omega, true_and] at below
    exact ⟨by omega, members, head, children.join, text.join, entries, ⟨tag, raw, span, loc⟩, below,
      texts, rfl⟩
  · rintro ⟨allowed, members, head, children, text, entries, ⟨tag, raw, span, loc⟩, below, texts, rfl⟩
    obtain ⟨children, kept, rfl⟩ := (taken_optional (by simp [ListForm]) _ _).mpr below
    obtain ⟨text, kept', rfl⟩ := (taken_optional (by simp [TextForm]) _ _).mpr texts
    refine ⟨by omega, members, entries, _, ?_,
      (nodeDraft_finish _ _).mpr ⟨head, children, text, rfl, rfl⟩⟩
    simp only [Updates, nodeSlots, Slot.Takes, List.forall_mem_cons, nodeShape, taken_some,
      show 0 < budget - 1 by omega, show 1 < budget - 1 by omega, true_and]
    exact ⟨tag, raw, span, loc, kept, kept', by simp⟩

/-- The value stands for the node, at every depth: a node without children, or with null for them, is
a leaf, and any other is a parent with one child for each item. -/
inductive Mirrors : Value → Node → Prop
  | leaf {value : Value} {members : List (String × Value)} {head : Head} {text : Option String}
      (entries : value.entries nodeNames = some members) (headed : HeadForm members head)
      (childless : members.lookup "children" = none ∨ members.lookup "children" = some .null)
      (texts : Maybe TextForm (members.lookup "value") text) :
      Mirrors value (.leaf head (text.getD ""))
  | parent {value : Value} {members : List (String × Value)} {head : Head} {items : List Value}
      {children : List Node} {text : Option String}
      (entries : value.entries nodeNames = some members) (headed : HeadForm members head)
      (listed : members.lookup "children" = some (.list items))
      (below : List.Forall₂ Mirrors items children)
      (texts : Maybe TextForm (members.lookup "value") text) : Mirrors value (.parent head children)

theorem forall₂_and_right {α β : Type} {stands : α → β → Prop} {holds : β → Prop} {items : List α}
    {results : List β} :
    List.Forall₂ (fun item result => stands item result ∧ holds result) items results ↔
      List.Forall₂ stands items results ∧ ∀ result ∈ results, holds result := by
  induction items generalizing results with
  | nil =>
    cases results with
    | nil => simp
    | cons result results => simp
  | cons item items ih =>
    cases results with
    | nil => simp
    | cons result results =>
      simp only [List.forall₂_cons, ih, List.forall_mem_cons]
      tauto

theorem mirrors_iff (value : Value) (node : Node) (budget : Nat) :
    2 < budget ∧ NodeForm (fun value node => Mirrors value node ∧ 2 * node.height + 3 ≤ budget - 2)
        value node ↔
      Mirrors value node ∧ 2 * node.height + 3 ≤ budget := by
  constructor
  · rintro ⟨allowed, members, head, children, text, entries, headed, below, texts, rfl⟩
    cases children with
    | none => exact ⟨.leaf entries headed below texts, by simp only [assemble, Node.height]; omega⟩
    | some children =>
      obtain ⟨_, listed, items, rfl, all⟩ := below
      obtain ⟨all, bounds⟩ := forall₂_and_right.mp all
      refine ⟨.parent entries headed listed all texts, ?_⟩
      -- Each level takes two brackets: that of the list of children and that of the child.
      have short : Forest.height children ≤ (budget - 3) / 2 := by
        rw [Forest.height_le]
        intro node member
        have := bounds node member
        omega
      simp only [assemble, Node.height]
      omega
  · rintro ⟨mirrors, bound⟩
    refine ⟨by omega, ?_⟩
    cases mirrors with
    | leaf entries headed childless texts =>
      exact ⟨_, _, none, _, entries, headed, childless, texts, rfl⟩
    | @parent _ _ _ items children _ entries headed listed below texts =>
      refine ⟨_, _, some children, _, entries, headed, ⟨_, listed, items, rfl, ?_⟩, texts, rfl⟩
      have short := (Forest.height_le children _).mp (le_refl _)
      refine forall₂_and_right.mpr ⟨below, ?_⟩
      intro node member
      have := short node member
      simp only [Node.height] at bound
      omega

theorem mirrors_few {value : Value} {node : Node} {budget : Nat} (few : budget < 2) :
    2 < budget ∧ NodeForm (fun _ _ => False) value node ↔
      Mirrors value node ∧ 2 * node.height + 3 ≤ budget := by
  apply iff_of_false
  · rintro ⟨allowed, -⟩
    omega
  · rintro ⟨-, bound⟩
    omega

theorem readNode_recognizes : ∀ budget : Nat,
    Recognizes (readNode budget) fun value node => Mirrors value node ∧ 2 * node.height + 3 ≤ budget
  | 0 => (nodeRecord_recognizes (fails_throw _).recognizes 0).congr
    fun _ _ => mirrors_few (by decide)
  | 1 => (nodeRecord_recognizes (fails_throw _).recognizes 1).congr
    fun _ _ => mirrors_few (by decide)
  | budget + 2 => (nodeRecord_recognizes (readNode_recognizes budget) (budget + 2)).congr
    fun value node => mirrors_iff value node (budget + 2)

/-! ### Acceptance -/

/-- The values that are nodes on the wire, whatever node they stand for. -/
inductive WellFormed : Value → Prop
  | leaf {value : Value} {members : List (String × Value)}
      (entries : value.entries nodeNames = some members) (headed : ∃ head, HeadForm members head)
      (childless : members.lookup "children" = none ∨ members.lookup "children" = some .null)
      (texts : ∃ text, Maybe TextForm (members.lookup "value") text) : WellFormed value
  | parent {value : Value} {members : List (String × Value)} {items : List Value}
      (entries : value.entries nodeNames = some members) (headed : ∃ head, HeadForm members head)
      (listed : members.lookup "children" = some (.list items))
      (below : ∀ item ∈ items, WellFormed item)
      (texts : ∃ text, Maybe TextForm (members.lookup "value") text) : WellFormed value

mutual

theorem Mirrors.wellFormed {value : Value} : ∀ {node : Node}, Mirrors value node → WellFormed value
  | .leaf .., .leaf entries headed childless texts => .leaf entries ⟨_, headed⟩ childless ⟨_, texts⟩
  | .parent _ children, .parent entries headed listed below texts =>
    .parent entries ⟨_, headed⟩ listed (wellFormed_items children below) ⟨_, texts⟩

theorem wellFormed_items {items : List Value} : ∀ children : List Node,
    List.Forall₂ Mirrors items children → ∀ item ∈ items, WellFormed item
  | [], .nil => by simp
  | node :: rest, .cons mirrors others => by
    rw [List.forall_mem_cons]
    exact ⟨mirrors.wellFormed, wellFormed_items rest others⟩

end

theorem WellFormed.mirrored {value : Value} (formed : WellFormed value) :
    ∃ node, Mirrors value node := by
  induction formed with
  | leaf entries headed childless texts =>
    obtain ⟨head, headed⟩ := headed
    obtain ⟨text, texts⟩ := texts
    exact ⟨_, .leaf entries headed childless texts⟩
  | @parent value members items entries headed listed below texts ih =>
    obtain ⟨head, headed⟩ := headed
    obtain ⟨text, texts⟩ := texts
    have nodes : ∃ children, List.Forall₂ Mirrors items children := by
      clear listed below
      induction items with
      | nil => exact ⟨[], .nil⟩
      | cons item items more =>
        rw [List.forall_mem_cons] at ih
        obtain ⟨node, first⟩ := ih.1
        obtain ⟨rest, others⟩ := more ih.2
        exact ⟨node :: rest, .cons first others⟩
    obtain ⟨children, all⟩ := nodes
    exact ⟨_, .parent entries headed listed all texts⟩

/-- The item is listed among the children of the value. -/
def ChildOf (value item : Value) : Prop :=
  ∃ members items, value.entries nodeNames = some members ∧
    members.lookup "children" = some (.list items) ∧ item ∈ items

theorem WellFormed.child {value item : Value} (formed : WellFormed value)
    (child : ChildOf value item) : WellFormed item := by
  obtain ⟨members, items, entries, listed, member⟩ := child
  cases formed with
  | leaf entries' _ childless _ =>
    obtain rfl := Option.some.inj (entries.symm.trans entries')
    simp [listed] at childless
  | parent entries' _ listed' below _ =>
    obtain rfl := Option.some.inj (entries.symm.trans entries')
    obtain rfl := Value.list.inj (Option.some.inj (listed.symm.trans listed'))
    exact below item member

theorem WellFormed.descendant {value below : Value} (formed : WellFormed value)
    (under : Relation.ReflTransGen ChildOf value below) : WellFormed below := by
  induction under with
  | refl => exact formed
  | tail _ child ih => exact ih.child child

theorem PositionForm.nesting {value : Value} {position : Position}
    (form : PositionForm value position) : 1 ≤ value.nesting := by
  obtain ⟨members, entries, ⟨line, found, -⟩, -⟩ := form
  have := Value.nesting_entry entries found
  omega

theorem LocationForm.nesting {value : Value} {location : Location}
    (form : LocationForm value location) : 2 ≤ value.nesting := by
  obtain ⟨members, entries, ⟨start, found, position⟩, -⟩ := form
  have := Value.nesting_entry entries found
  have := position.nesting
  omega

theorem HeadForm.nesting {value : Value} {members : List (String × Value)} {head : Head}
    (entries : value.entries nodeNames = some members) (headed : HeadForm members head) :
    3 ≤ value.nesting := by
  obtain ⟨-, -, -, loc, found, location⟩ := headed
  have := Value.nesting_entry entries found
  have := location.nesting
  omega

mutual

theorem Mirrors.nesting {value : Value} :
    ∀ {node : Node}, Mirrors value node → 2 * node.height + 3 ≤ value.nesting
  | .leaf .., .leaf entries headed _ _ => headed.nesting entries
  | .parent _ children, .parent entries headed listed below _ => by
    have := headed.nesting entries
    have := Value.nesting_entry entries listed
    have := nesting_items children below
    simp only [Value.nesting, Node.height] at *
    omega

theorem nesting_items {items : List Value} : ∀ children : List Node,
    List.Forall₂ Mirrors items children →
      2 * Forest.height children + 1 ≤ max 1 (itemsNesting items)
  | [], .nil => by simp [Forest.height, itemsNesting]
  | node :: rest, .cons mirrors others => by
    have := mirrors.nesting
    have := nesting_items rest others
    simp only [Forest.height, itemsNesting]
    omega

end

/-- The reader takes the values that are nodes on the wire and no others, and gives the node that the
value mirrors. A value listed at any depth that is no node makes it refuse the whole. -/
theorem readNode_accepts_exactly (value : Value) (proper : value.Proper)
    (shallow : value.nesting ≤ depthLimit) (layout : Layout) :
    ((∃ node, decode (readNode depthLimit) (value.render layout) = .ok node) ↔ WellFormed value) ∧
      (∀ node, decode (readNode depthLimit) (value.render layout) = .ok node ↔ Mirrors value node) ∧
      ∀ below, Relation.ReflTransGen ChildOf value below → ¬ WellFormed below →
        ∃ fault, decode (readNode depthLimit) (value.render layout) = .error fault := by
  have exactly (node : Node) :
      decode (readNode depthLimit) (value.render layout) = .ok node ↔ Mirrors value node := by
    rw [decode_recognized (readNode_recognizes depthLimit) proper (value.spelling_render layout proper)]
    constructor
    · exact fun both => both.1
    · intro mirrors
      exact ⟨mirrors, mirrors.nesting.trans shallow⟩
  have accepts : (∃ node, decode (readNode depthLimit) (value.render layout) = .ok node) ↔
      WellFormed value := by
    constructor
    · rintro ⟨node, read⟩
      exact ((exactly node).mp read).wellFormed
    · intro formed
      obtain ⟨node, mirrors⟩ := formed.mirrored
      exact ⟨node, (exactly node).mpr mirrors⟩
  refine ⟨accepts, exactly, ?_⟩
  intro below under malformed
  cases read : decode (readNode depthLimit) (value.render layout) with
  | error fault => exact ⟨fault, rfl⟩
  | ok node => exact absurd ((accepts.mp ⟨node, read⟩).descendant under) malformed

/-- A parent as a list without its last field, and a leaf with its members in another order, one of
them unknown. -/
def looseValue : Value := .list [
  .text "Document", .text "ab", .list [.nat 0, .nat 2],
  .list [.list [.nat 1, .nat 0], .object [("column", .nat 2), ("line", .nat 1)]],
  .list [.object [
    ("children", .null), ("note", .object [("type", .list [])]), ("raw", .text "a"),
    ("loc", .object [
      ("end", .list [.nat 1, .nat 1]), ("start", .object [("line", .nat 1), ("column", .nat 0)])]),
    ("type", .text "Str"), ("range", .list [.nat 0, .nat 1])]]]

def looseNode : Node := .parent ⟨"Document", "ab", ⟨0, 2⟩, ⟨⟨1, 0⟩, ⟨1, 2⟩⟩⟩
  [.leaf ⟨"Str", "a", ⟨0, 1⟩, ⟨⟨1, 0⟩, ⟨1, 1⟩⟩⟩ ""]

theorem looseValue_mirrors : Mirrors looseValue looseNode := by
  have number (n : Nat) (small : n ≤ 2) : NatForm (.nat n) n := ⟨rfl, small.trans (by decide)⟩
  have whole : LocationForm (.list [.list [.nat 1, .nat 0],
      .object [("column", .nat 2), ("line", .nat 1)]]) ⟨⟨1, 0⟩, ⟨1, 2⟩⟩ := by
    simp [LocationForm, PositionForm, Value.entries, Given, List.lookup_cons, number]
  have part : LocationForm (.object [("end", .list [.nat 1, .nat 1]),
      ("start", .object [("line", .nat 1), ("column", .nat 0)])]) ⟨⟨1, 0⟩, ⟨1, 1⟩⟩ := by
    simp [LocationForm, PositionForm, Value.entries, Given, List.lookup_cons, number]
  have span (start stop : Nat) (small : start ≤ 2 ∧ stop ≤ 2) :
      SpanForm (.list [.nat start, .nat stop]) ⟨start, stop⟩ :=
    ⟨rfl, small.1.trans (by decide), small.2.trans (by decide)⟩
  have silent {given : Option Value} (absent : given = none) : Maybe TextForm given none := .inl absent
  refine .parent rfl ⟨⟨_, rfl, rfl⟩, ⟨_, rfl, rfl⟩, ⟨_, rfl, span 0 2 (by decide)⟩, ⟨_, rfl, whole⟩⟩ rfl
    (.cons ?_ .nil) (silent rfl)
  exact .leaf rfl ⟨⟨_, rfl, rfl⟩, ⟨_, rfl, rfl⟩, ⟨_, rfl, span 0 1 (by decide)⟩, ⟨_, rfl, part⟩⟩
    (.inr rfl) (silent rfl)

theorem readNode_accepts_loose : looseValue.Proper ∧ looseValue.nesting ≤ depthLimit ∧
    decode (readNode depthLimit) (looseValue.render .pretty) = .ok looseNode := by
  have proper : looseValue.Proper := by simp [looseValue]
  exact ⟨proper, by decide,
    ((readNode_accepts_exactly looseValue proper (by decide) .pretty).2.1 _).mpr looseValue_mirrors⟩

end Wire

end LatexTree
