import LatexTree.Proofs.Postconditions
import LatexTree.Proofs.RoundTrip
import LatexTree.Proofs.TokenGrammar

/-! The normal form of what a grammar gives.

Whatever text it is read from, its numbers are numbers of 64 bits and its written form opens no more
brackets at once than the text did. So the written form is read back under the same budget. -/
namespace LatexTree

def TokenPosition.Fits (position : TokenPosition) : Prop :=
  position.offset ≤ Json.wordLimit ∧ position.line ≤ Json.wordLimit ∧ position.column ≤ Json.wordLimit

instance (position : TokenPosition) : Decidable position.Fits := inferInstanceAs (Decidable (_ ∧ _))

def TokenLocation.Fits (location : TokenLocation) : Prop := location.start.Fits ∧ location.stop.Fits

instance (location : TokenLocation) : Decidable location.Fits := inferInstanceAs (Decidable (_ ∧ _))

def Parsed.Fits (parsed : Parsed) : Prop :=
  parsed.root.Fits ∧ ∀ tokens ∈ parsed.comments, ∀ token ∈ tokens, token.location.Fits

theorem Forest.fits_of {forest : List Node} (each : ∀ node ∈ forest, node.Fits) :
    Forest.Fits forest := by
  induction forest with
  | nil => simp [Forest.Fits, Forest.subtrees]
  | cons node rest ih =>
    rw [List.forall_mem_cons] at each
    exact (Forest.fits_cons node rest).mpr ⟨each.1, ih each.2⟩

namespace Wire
open Json

/-! ### What is read -/

theorem readEnd_yields (index : Nat) : Yields (readEnd index) (· ≤ wordLimit) := by
  refine .after _ fun more => ?_
  split
  · exact readNat_yields
  · exact (fails_throw _).yields _

theorem readSpan_yields (budget : Nat) :
    Yields (readSpan budget) fun span => 0 < budget ∧ span.Fits := by
  refine .after _ fun found => ?_
  split
  · refine (openBracket_yields budget).bind fun _ allowed => ?_
    refine (readEnd_yields 0).bind fun start small => ?_
    refine (readEnd_yields 1).bind fun stop small' => ?_
    exact .after _ fun _ => yields_pure ⟨allowed, small, small'⟩
  · exact (fails_mismatch _).yields _

theorem readPosition_yields (budget : Nat) :
    Yields (readPosition budget) fun position => 0 < budget ∧ position.Fits := by
  refine readRecord_yields (p := fun draft =>
    (∀ line ∈ draft.line, line ≤ wordLimit) ∧ ∀ column ∈ draft.column, column ≤ wordLimit) ?_ ?_ ?_
  · simp [positionShape]
  · simp only [positionShape, List.forall_mem_cons]
    exact ⟨readNat_yields.put fun draft n kept small => ⟨by simpa using small, kept.2⟩,
      readNat_yields.put fun draft n kept small => ⟨kept.1, by simpa using small⟩, by simp⟩
  · intro draft position kept finished
    obtain rfl := (positionShape_finish _ _ _).mp finished
    exact ⟨kept.1 _ rfl, kept.2 _ rfl⟩

theorem readLocation_yields (budget : Nat) :
    Yields (readLocation budget) fun location => 1 < budget ∧ location.Fits := by
  have positions := readPosition_yields (budget - 1)
  refine Yields.imp (readRecord_yields (p := fun draft =>
    (∀ start ∈ draft.start, 0 < budget - 1 ∧ start.Fits) ∧
      ∀ stop ∈ draft.stop, 0 < budget - 1 ∧ stop.Fits) ?_ ?_ ?_) fun location both => both.2
  · simp [locationShape]
  · simp only [locationShape, List.forall_mem_cons]
    exact ⟨positions.put fun draft start kept own => ⟨by simpa using own, kept.2⟩,
      positions.put fun draft stop kept own => ⟨kept.1, by simpa using own⟩, by simp⟩
  · intro draft location kept finished
    obtain rfl := (locationShape_finish _ _ _).mp finished
    have start := kept.1 _ rfl
    exact ⟨by omega, start.2, (kept.2 _ rfl).2⟩

theorem nodeRecord_yields {child : Reader Node} {holds : Node → Prop} (each : Yields child holds)
    (budget : Nat) :
    Yields (readRecord budget (nodeShape child)) fun node =>
      2 < budget ∧ node.head.Fits ∧ ∀ children, node.children? = some children →
        ∀ child ∈ children, holds child := by
  have texts := yields_true readString
  have lists : Yields (readList (budget - 1) fun _ => child) _ := readList_yields each
  refine Yields.imp (readRecord_yields (p := fun draft =>
    (∀ span ∈ draft.span, span.Fits) ∧ (∀ loc ∈ draft.loc, 1 < budget - 1 ∧ loc.Fits) ∧
      ∀ children ∈ draft.children.join, ∀ child ∈ children, holds child) ?_ ?_ ?_)
    fun node both => both.2
  · simp [nodeShape]
  · simp only [nodeShape, List.forall_mem_cons]
    exact ⟨texts.put fun draft tag kept _ => kept, texts.put fun draft raw kept _ => kept,
      (readSpan_yields _).put fun draft span kept own => ⟨by simpa using own.2, kept.2⟩,
      (readLocation_yields _).put fun draft loc kept own => ⟨kept.1, by simpa using own, kept.2.2⟩,
      (readOptional_yields lists).put fun draft children kept own =>
        ⟨kept.1, kept.2.1, fun children listed => (own children (by simpa using listed)).2⟩,
      (yields_true _).put fun draft value kept _ => kept, by simp⟩
  · intro draft node kept finished
    obtain ⟨head, children, text, rfl, rfl⟩ := (nodeDraft_finish _ _).mp finished
    have loc := kept.2.1 _ rfl
    refine ⟨by omega, ?_⟩
    cases listed : children.join with
    | none => exact ⟨⟨kept.1 _ rfl, loc.2⟩, by simp [assemble, Node.children?]⟩
    | some nodes =>
      have below := kept.2.2 nodes listed
      exact ⟨⟨kept.1 _ rfl, loc.2⟩, by simpa [assemble, Node.children?] using below⟩

theorem readNode_yields : ∀ budget : Nat,
    Yields (readNode budget) fun node => node.Fits ∧ 2 * node.height + 3 ≤ budget
  | 0 => (nodeRecord_yields (yields_true _) 0).imp fun _ own => absurd own.1 (by decide)
  | 1 => (nodeRecord_yields (yields_true _) 1).imp fun _ own => absurd own.1 (by decide)
  | budget + 2 => (nodeRecord_yields (readNode_yields budget) (budget + 2)).imp fun node own => by
    obtain ⟨allowed, fits, below⟩ := own
    cases node with
    | leaf head value => exact ⟨(Node.fits_leaf head value).mpr fits, by simp only [Node.height]; omega⟩
    | parent head children =>
      have each := below children rfl
      have short : Forest.height children ≤ (budget - 1) / 2 := by
        rw [Forest.height_le]
        intro node member
        have := (each node member).2
        omega
      refine ⟨(Node.fits_parent head children).mpr ⟨fits, ?_⟩, by simp only [Node.height]; omega⟩
      exact Forest.fits_of fun node member => (each node member).1

theorem readTokenPosition_yields (budget : Nat) :
    Yields (readTokenPosition budget) fun position => 0 < budget ∧ position.Fits := by
  refine readRecord_yields (p := fun draft =>
    (∀ offset ∈ draft.offset, offset ≤ wordLimit) ∧ (∀ line ∈ draft.line, line ≤ wordLimit) ∧
      ∀ column ∈ draft.column, column ≤ wordLimit) ?_ ?_ ?_
  · simp [tokenPositionShape]
  · simp only [tokenPositionShape, List.forall_mem_cons]
    exact ⟨readNat_yields.put fun draft n kept small => ⟨by simpa using small, kept.2⟩,
      readNat_yields.put fun draft n kept small => ⟨kept.1, by simpa using small, kept.2.2⟩,
      readNat_yields.put fun draft n kept small => ⟨kept.1, kept.2.1, by simpa using small⟩, by simp⟩
  · intro draft position kept finished
    obtain rfl := (tokenPositionShape_finish _ _ _).mp finished
    exact ⟨kept.1 _ rfl, kept.2.1 _ rfl, kept.2.2 _ rfl⟩

theorem readTokenLocation_yields (budget : Nat) :
    Yields (readTokenLocation budget) fun location => 1 < budget ∧ location.Fits := by
  have positions := readTokenPosition_yields (budget - 1)
  refine Yields.imp (readRecord_yields (p := fun draft =>
    (∀ start ∈ draft.start, 0 < budget - 1 ∧ start.Fits) ∧
      ∀ stop ∈ draft.stop, 0 < budget - 1 ∧ stop.Fits) ?_ ?_ ?_) fun location both => both.2
  · simp [tokenLocationShape]
  · simp only [tokenLocationShape, List.forall_mem_cons]
    exact ⟨positions.put fun draft start kept own => ⟨by simpa using own, kept.2⟩,
      positions.put fun draft stop kept own => ⟨kept.1, by simpa using own⟩, by simp⟩
  · intro draft location kept finished
    obtain rfl := (tokenLocationShape_finish _ _ _).mp finished
    have start := kept.1 _ rfl
    exact ⟨by omega, start.2, (kept.2 _ rfl).2⟩

theorem readToken_yields (budget : Nat) :
    Yields (readToken budget) fun token => 2 < budget ∧ token.location.Fits := by
  refine Yields.imp (readRecord_yields (p := fun draft =>
    ∀ location ∈ draft.location, 1 < budget - 1 ∧ location.Fits) ?_ ?_ ?_) fun token both => both.2
  · simp [tokenShape]
  · simp only [tokenShape, List.forall_mem_cons]
    exact ⟨(yields_true _).put fun draft kind kept _ => kept,
      (yields_true _).put fun draft content kept _ => kept,
      (readTokenLocation_yields _).put fun draft location kept own => by simpa using own, by simp⟩
  · intro draft token kept finished
    obtain ⟨kind, rfl, -⟩ := (tokenShape_finish _ _ _).mp finished
    have location := kept _ rfl
    exact ⟨by omega, location.2⟩

theorem readParsed_yields (budget : Nat) :
    Yields (readParsed budget) fun parsed => parsed.Fits ∧ parsed.Within budget := by
  have lists : Yields (readList (budget - 1) readToken) _ :=
    readList_yields (readToken_yields (budget - 1 - 1))
  refine Yields.imp (readRecord_yields (p := fun draft =>
    (∀ root ∈ draft.root, root.Fits ∧ 2 * root.height + 3 ≤ budget - 1) ∧
      ∀ tokens ∈ draft.comments.join, ∀ token ∈ tokens,
        2 < budget - 1 - 1 ∧ token.location.Fits) ?_ ?_ ?_) fun parsed both => both.2
  · simp [parsedShape]
  · simp only [parsedShape, List.forall_mem_cons]
    exact ⟨(readNode_yields _).put fun draft root kept own => ⟨by simpa using own, kept.2⟩,
      (readOptional_yields lists).put fun draft comments kept own =>
        ⟨kept.1, fun tokens listed => (own tokens (by simpa using listed)).2⟩, by simp⟩
  · intro draft parsed kept finished
    obtain ⟨comments, rfl, named⟩ := (parsedShape_finish _ _ _).mp finished
    obtain ⟨fits, short⟩ := kept.1 _ rfl
    rw [named] at kept
    have each := kept.2
    refine ⟨⟨fits, fun tokens listed token member => (each tokens listed token member).2⟩, by omega, ?_⟩
    intro tokens listed token member
    have := (each tokens listed token member).1
    omega

/-! ### What is written -/

theorem tokenPositionValue_form {position : TokenPosition} (fits : position.Fits) :
    TokenPositionForm (tokenPositionValue position) position :=
  ⟨_, rfl, ⟨_, rfl, rfl, fits.1⟩, ⟨_, rfl, rfl, fits.2.1⟩, ⟨_, rfl, rfl, fits.2.2⟩⟩

theorem tokenValue_form {token : CommentToken} (fits : token.location.Fits) :
    TokenForm (tokenValue token) token := by
  have start := tokenPositionValue_form fits.1
  have stop := tokenPositionValue_form fits.2
  have location : TokenLocationForm (tokenLocationValue token.location) token.location :=
    ⟨_, rfl, ⟨_, rfl, start⟩, ⟨_, rfl, stop⟩⟩
  exact ⟨_, rfl, .inr ⟨_, rfl, .inl rfl⟩, ⟨_, rfl, rfl⟩, _, rfl, location⟩

theorem parsedValue_form {parsed : Parsed} (fits : parsed.Fits) :
    ParsedForm (parsedValue parsed) parsed := by
  obtain ⟨root, comments⟩ := parsed
  refine ⟨_, rfl, ⟨_, rfl, nodeValue_mirrors fits.1⟩, ?_⟩
  cases comments with
  | none => exact .inr rfl
  | some tokens =>
    refine ⟨_, rfl, _, rfl, ?_⟩
    rw [List.forall₂_map_left_iff, List.forall₂_same]
    exact fun token member => tokenValue_form (fits.2 tokens rfl token member)

theorem parsedValue_proper (parsed : Parsed) : (parsedValue parsed).Proper := by
  obtain ⟨root, comments⟩ := parsed
  cases comments with
  | none => simp [parsedValue, nodeValue_proper]
  | some tokens =>
    simp [parsedValue, nodeValue_proper, tokenValue, kindValue, tokenLocationValue, tokenPositionValue]

theorem readParsed_written {parsed : Parsed} (fits : parsed.Fits) {budget : Nat}
    (within : parsed.Within budget) (layout : Layout) :
    decode (readParsed budget) ((parsedValue parsed).render layout) = .ok parsed := by
  have proper := parsedValue_proper parsed
  rw [decode_recognized (readParsed_recognizes budget) proper (Value.spelling_render layout proper)]
  exact ⟨parsedValue_form fits, within⟩

/-- What is read from any text is read again from its written form, under every budget under which the
text was read, and is written as before. -/
theorem parsed_normal_form (text : String) (parsed : Parsed) (read : Parsed.ofJson text = .ok parsed)
    (layout : Layout) :
    Parsed.ofJson ((parsedValue parsed).render layout) = .ok parsed ∧
      (Parsed.ofJson ((parsedValue parsed).render layout)).map
          (fun again => (parsedValue again).render layout) =
        .ok ((parsedValue parsed).render layout) ∧
      ∀ budget, (∃ found, decode (readParsed budget) text = .ok found) →
        decode (readParsed budget) ((parsedValue parsed).render layout) = .ok parsed := by
  have again (budget : Nat) (read : decode (readParsed budget) text = .ok parsed) :
      decode (readParsed budget) ((parsedValue parsed).render layout) = .ok parsed := by
    obtain ⟨fits, within⟩ := decode_yields (readParsed_yields budget) read
    exact readParsed_written fits within layout
  have normal : Parsed.ofJson ((parsedValue parsed).render layout) = .ok parsed := again depthLimit read
  refine ⟨normal, by rw [normal]; rfl, ?_⟩
  rintro budget ⟨found, read'⟩
  -- Two budgets under which the text is read give the same result, as one of them is the smaller.
  have same : found = parsed := by
    rcases Nat.le_total budget depthLimit with less | more
    · exact Except.ok.inj ((decode_of_capped (readParsed_capped less) read').symm.trans read)
    · exact Except.ok.inj (read'.symm.trans (decode_of_capped (readParsed_capped more) read))
  exact again budget (same ▸ read')

/-- The loose value as a tree, after a token as a list, its kind in an object. -/
def looseParsed : Value := .object [
  ("comments", .list [.list [.object [("comment", .null)], .text "%",
    .object [("end", .list [.nat 1, .nat 1, .nat 2]), ("start", .list [.nat 0, .nat 1, .nat 1])]]]),
  ("version", .nat 3), ("ast", looseValue)]

def looseComments : List CommentToken := [⟨.comment, "%", ⟨⟨0, 1, 1⟩, ⟨1, 1, 2⟩⟩⟩]

theorem looseParsed_form : ParsedForm looseParsed ⟨looseNode, some looseComments⟩ := by
  have number (n : Nat) (small : n ≤ 2) : NatForm (.nat n) n := ⟨rfl, small.trans (by decide)⟩
  have location : TokenLocationForm (.object [("end", .list [.nat 1, .nat 1, .nat 2]),
      ("start", .list [.nat 0, .nat 1, .nat 1])]) ⟨⟨0, 1, 1⟩, ⟨1, 1, 2⟩⟩ := by
    simp [TokenLocationForm, TokenPositionForm, Value.entries, Given, List.lookup_cons, number]
  refine ⟨_, rfl, ⟨_, rfl, looseValue_mirrors⟩, _, rfl, _, rfl, .cons ?_ .nil⟩
  exact ⟨_, rfl, .inr ⟨_, rfl, .inr rfl⟩, ⟨_, rfl, rfl⟩, _, rfl, location⟩

theorem parsed_normal_form_loose :
    Parsed.ofJson (looseParsed.render .pretty) = .ok ⟨looseNode, some looseComments⟩ ∧
      Parsed.ofJson ((parsedValue ⟨looseNode, some looseComments⟩).render .compact) =
        .ok ⟨looseNode, some looseComments⟩ := by
  have proper : looseParsed.Proper := by simp [looseParsed, looseValue]
  have read := (decode_recognized (readParsed_recognizes depthLimit) proper
    (Value.spelling_render .pretty proper) _).mpr ⟨looseParsed_form, by decide, by decide⟩
  exact ⟨read, (parsed_normal_form _ _ read .compact).1⟩

end Wire

end LatexTree
