import LatexTree.Node.Comments
import LatexTree.Proofs.Batches
import LatexTree.Proofs.DocumentOrder
import Mathlib.Data.List.Infix

/-! The path to a comment.

The search goes down into each child before it tries the next, and puts the tags together on its way
back. It is compared with the traversal: the first visit of a comment that starts at the offset, and the
nodes above its address. An insertion puts a leaf in below a chain of parents. A search for another
offset does not notice, and one for the leaf's own offset, where there was nothing to find before, ends
with the tags of the chain. -/
namespace LatexTree

namespace Node

/-- Below the root, a comment that starts at the offset stands at the address. -/
def CommentAt (root : Node) (start : Nat) (address : List Nat) : Prop :=
  address ≠ [] ∧
    ∃ node, root.at? address = some node ∧ node.isComment = true ∧ node.span.start = start

/-- Of the comments below the root that start at the offset, a traversal meets this one first. -/
structure FirstCommentAt (root : Node) (start : Nat) (address : List Nat) : Prop where
  stands : root.CommentAt start address
  first : ∀ other, root.CommentAt start other → other ≠ address → root.MeetsFirst address other

/-- The nodes above the one at the address, from the root down. -/
def above (root : Node) (address : List Nat) : List Node :=
  address.inits.dropLast.filterMap root.at?

theorem above_child (head : Head) (front back : List Node) (child : Node) (address : List Nat) :
    (Node.parent head (front ++ child :: back)).above (front.length :: address) =
      .parent head (front ++ child :: back) :: child.above address := by
  have nonempty : address.inits.map (fun rest => front.length :: rest) ≠ [] := by
    cases address <;> simp
  have deeper : (Node.parent head (front ++ child :: back)).at? ∘ (fun rest => front.length :: rest) =
      child.at? := by
    funext rest
    exact at?_child head front back child rest
  rw [above, List.inits_cons, List.dropLast_cons_of_ne_nil nonempty, ← List.map_dropLast,
    List.filterMap_cons, List.filterMap_map, deeper]
  rfl

end Node

namespace Visit

/-- The visit is one of a comment that starts at the offset. -/
def Shows (start : Nat) (visit : Visit) : Prop :=
  visit.event.head.tag = Tag.comment ∧ visit.event.head.span.start = start

instance (start : Nat) (visit : Visit) : Decidable (visit.Shows start) :=
  inferInstanceAs (Decidable (_ ∧ _))

theorem shows_iff {start : Nat} {visit : Visit} (node : Node)
    (same : node.head = visit.event.head) :
    visit.Shows start ↔ node.isComment = true ∧ node.span.start = start := by
  simp [Shows, Node.isComment, Node.tag, Node.span, same]

@[simp] theorem under_shows (start index : Nat) (visit : Visit) :
    (visit.under index).Shows start ↔ visit.Shows start := Iff.rfl

end Visit

namespace Node

/-- The tags above the first visit that shows a comment at the offset, the node itself included. -/
def shownPath (depth start : Nat) (node : Node) : Option (List String) :=
  ((node.visits depth).find? fun visit => visit.Shows start).map fun visit =>
    (node.above visit.address).map tag

end Node

namespace Forest

/-- The same for the last children of a parent, those in front being passed already. -/
def shownPath (depth start : Nat) (head : Head) (front forest : List Node) : Option (List String) :=
  ((visits depth front.length forest).find? fun visit => visit.Shows start).map fun visit =>
    ((Node.parent head (front ++ forest)).above visit.address).map Node.tag

theorem shownPath_cons (depth start : Nat) (head : Head) (front : List Node) (node : Node)
    (rest : List Node) :
    shownPath depth start head front (node :: rest) =
      ((node.shownPath depth start).map (head.tag :: ·)).or
        (shownPath depth start head (front ++ [node]) rest) := by
  rw [shownPath, visits, List.find?_append, List.find?_map, Option.map_or]
  congr 1
  · simp only [Node.shownPath, Option.map_map, Function.comp_def, Visit.under_shows,
      Visit.under_address, Node.above_child, List.map_cons]
    rfl
  · simp [shownPath]

end Forest

namespace Node

theorem shownPath_leaf (depth start : Nat) (head : Head) (value : String) :
    (Node.leaf head value).shownPath depth start =
      if (Node.leaf head value).isComment ∧ (Node.leaf head value).span.start = start then some []
      else (Node.leaf head value).commentPath start := by
  have shows : (⟨[], .leaf depth head value⟩ : Visit).Shows start ↔ _ :=
    Visit.shows_iff (.leaf head value) rfl
  rw [shownPath, visits, List.find?_singleton]
  simp only [decide_eq_true_eq, shows]
  split <;> rfl

theorem shownPath_parent (depth start : Nat) (head : Head) (children : List Node) :
    (Node.parent head children).shownPath depth start =
      if (Node.parent head children).isComment ∧ (Node.parent head children).span.start = start then
        some []
      else Forest.shownPath (depth + 1) start head [] children := by
  have enters : (⟨[], .enter depth head⟩ : Visit).Shows start ↔ _ :=
    Visit.shows_iff (.parent head children) rfl
  have leaves : (⟨[], .leave depth head⟩ : Visit).Shows start ↔ _ :=
    Visit.shows_iff (.parent head children) rfl
  rw [shownPath, visits]
  split
  · next tagged =>
    rw [List.find?_cons_of_pos (by simpa [enters] using tagged)]
    rfl
  · next plain =>
    rw [List.find?_cons_of_neg (by simpa [enters] using plain), List.find?_append,
      List.find?_cons_of_neg (by simpa [leaves] using plain), List.find?_nil, Option.or_none]
    rfl

end Node

namespace Forest

/-- The search finds what the traversal shows first. -/
theorem commentPath_shown (depth start : Nat) (head : Head) (front forest : List Node) :
    (commentPath start forest).map (head.tag :: ·) = shownPath depth start head front forest := by
  induction forest using Forest.induct generalizing depth head front with
  | nil => rfl
  | leaf own value rest ih =>
    rw [shownPath_cons, ← ih depth head (front ++ [Node.leaf own value]), commentPath,
      Node.shownPath_leaf]
    split
    · rfl
    · rw [Option.map_or]
  | parent own children rest below ih =>
    rw [shownPath_cons, ← ih depth head (front ++ [Node.parent own children]), commentPath,
      Node.shownPath_parent, ← below (depth + 1) own []]
    split
    · rfl
    · rw [Option.map_or]
      rfl

end Forest

namespace Node

theorem shows_iff_of_at? {root node : Node} {depth start : Nat} {visit : Visit}
    (member : visit ∈ root.visits depth) (stands : root.at? visit.address = some node) :
    visit.Shows start ↔ node.isComment = true ∧ node.span.start = start := by
  obtain ⟨found, stands', same⟩ := at?_of_visit member
  obtain rfl := Option.some.inj (stands.symm.trans stands')
  exact Visit.shows_iff _ same

theorem commentAt_parent_iff (head : Head) (children : List Node) (start : Nat) (address : List Nat) :
    (Node.parent head children).CommentAt start address ↔
      ∃ visit ∈ Forest.visits 1 0 children, visit.address = address ∧ visit.Shows start := by
  have whole (visit : Visit) (inside : visit ∈ Forest.visits 1 0 children) :
      visit ∈ (Node.parent head children).visits 0 :=
    List.mem_cons_of_mem _ (List.mem_append_left _ inside)
  constructor
  · rintro ⟨nonempty, node, stands, tagged⟩
    obtain ⟨visit, member, rfl⟩ := visit_of_at? stands 0
    refine ⟨visit, ?_, rfl, (shows_iff_of_at? member stands).mpr tagged⟩
    rw [visits, List.mem_cons, List.mem_append, List.mem_singleton] at member
    rcases member with rfl | inside | rfl
    · exact absurd rfl nonempty
    · exact inside
    · exact absurd rfl nonempty
  · rintro ⟨visit, inside, rfl, shows⟩
    obtain ⟨node, stands, same⟩ := at?_of_visit (whole visit inside)
    refine ⟨?_, node, stands, (Visit.shows_iff _ same).mp shows⟩
    obtain ⟨place, child, inner, _, _, rfl⟩ := (Forest.mem_visits _ _ _ _).mp inside
    simp

theorem not_commentAt_leaf (head : Head) (value : String) (start : Nat) (address : List Nat) :
    ¬ (Node.leaf head value).CommentAt start address := by
  rintro ⟨nonempty, node, stands, _⟩
  cases address with
  | nil => exact nonempty rfl
  | cons index address => simp [at?, children?] at stands

private theorem idxOf_lt_of_notMem {front back : List (List Nat)} {address other : List Nat}
    (absent : other ∉ front) (different : other ≠ address) :
    (front ++ address :: back).idxOf address < (front ++ address :: back).idxOf other := by
  rw [List.idxOf_append_of_notMem absent, List.idxOf_cons_ne _ (Ne.symm different), List.idxOf_append]
  split
  · next member =>
    have bound := List.idxOf_lt_length_of_mem member
    omega
  · rw [List.idxOf_cons_self]
    omega

/-- A visit behind others that show nothing is met before any other comment at the offset. -/
theorem firstCommentAt_of_visits {head : Head} {children : List Node} {start : Nat}
    {early late : List Visit} {visit : Visit}
    (cut : Forest.visits 1 0 children = early ++ visit :: late) (shows : visit.Shows start)
    (unseen : ∀ other ∈ early, ¬ other.Shows start) :
    (Node.parent head children).FirstCommentAt start visit.address := by
  refine ⟨(commentAt_parent_iff _ _ _ _).mpr ⟨visit, by simp [cut], rfl, shows⟩, ?_⟩
  intro other stands different
  have addresses : ((Node.parent head children).visits 0).map Visit.address =
      ([] :: early.map Visit.address) ++ visit.address :: (late.map Visit.address ++ [[]]) := by
    simp [visits, cut]
  -- The root is no comment below itself, and an early visit of the other comment would show it.
  have unmet : other ∉ [] :: early.map Visit.address := by
    intro member
    rcases List.mem_cons.mp member with rfl | member
    · exact stands.1 rfl
    · obtain ⟨earlier, inside, rfl⟩ := List.mem_map.mp member
      have whole : earlier ∈ (Node.parent head children).visits 0 := by simp [visits, cut, inside]
      obtain ⟨_, node, here, tagged⟩ := stands
      exact unseen earlier inside ((shows_iff_of_at? whole here).mpr tagged)
  rw [MeetsFirst, addresses]
  exact idxOf_lt_of_notMem unmet different

theorem FirstCommentAt.unique {root : Node} {start : Nat} {one other : List Nat}
    (first : root.FirstCommentAt start one) (second : root.FirstCommentAt start other) :
    one = other := by
  by_contra different
  have met := first.first other second.stands (Ne.symm different)
  have met' := second.first one first.stands different
  exact Nat.lt_asymm met met'

theorem commentPath_first {root : Node} {start : Nat} {path : List String}
    (found : root.commentPath start = some path) :
    ∃ address, root.FirstCommentAt start address ∧ path = (root.above address).map tag := by
  cases root with
  | leaf head value => simp [commentPath] at found
  | parent head children =>
    rw [commentPath, Forest.commentPath_shown 1 start head [], Forest.shownPath,
      Option.map_eq_some_iff] at found
    obtain ⟨visit, met, rfl⟩ := found
    obtain ⟨shows, early, late, cut, unseen⟩ := List.find?_eq_some_iff_append.mp met
    refine ⟨visit.address, firstCommentAt_of_visits cut (by simpa using shows) ?_, rfl⟩
    intro other member
    simpa using unseen other member

theorem commentPath_of_commentAt {root : Node} {start : Nat} {address : List Nat}
    (stands : root.CommentAt start address) : ∃ path, root.commentPath start = some path := by
  cases root with
  | leaf head value => exact absurd stands (not_commentAt_leaf head value start address)
  | parent head children =>
    obtain ⟨visit, member, _, shows⟩ := (commentAt_parent_iff _ _ _ _).mp stands
    rw [commentPath, Forest.commentPath_shown 1 start head [], Forest.shownPath]
    apply Option.isSome_iff_exists.mp
    rw [Option.isSome_map, List.find?_isSome]
    exact ⟨visit, member, by simpa using shows⟩

theorem exists_commentPath_iff {root : Node} {start : Nat} :
    (∃ path, root.commentPath start = some path) ↔ ∃ address, root.CommentAt start address := by
  constructor
  · rintro ⟨path, found⟩
    obtain ⟨address, first, _⟩ := commentPath_first found
    exact ⟨address, first.stands⟩
  · rintro ⟨address, stands⟩
    exact commentPath_of_commentAt stands

theorem commentPath_eq_some_iff {root : Node} {start : Nat} {path : List String} :
    root.commentPath start = some path ↔
      ∃ address, root.FirstCommentAt start address ∧ path = (root.above address).map tag := by
  constructor
  · exact commentPath_first
  · rintro ⟨address, first, rfl⟩
    obtain ⟨path, found⟩ := commentPath_of_commentAt first.stands
    obtain ⟨address', first', rfl⟩ := commentPath_first found
    rw [found, first.unique first']

end Node

namespace Forest

/-- The leaf was put in below the chain of parents, each of which includes it. -/
inductive Lands (leaf : Node) : (chain : List Head) → (before after : List Node) → Prop
  | here (front back : List Node) : Lands leaf [] (front ++ back) (front ++ leaf :: back)
  | under (head : Head) (chain : List Head) (children grown front back : List Node)
      (includes : head.span.Includes leaf.span) (inside : Lands leaf chain children grown) :
      Lands leaf (head :: chain) (front ++ .parent head children :: back)
        (front ++ .parent head grown :: back)

theorem Lands.includes {leaf : Node} {chain : List Head} {before after : List Node}
    (lands : Lands leaf chain before after) : ∀ outer ∈ chain, outer.span.Includes leaf.span := by
  induction lands with
  | here front back => simp
  | under head chain children grown front back includes _ ih =>
    exact List.forall_mem_cons.mpr ⟨includes, ih⟩

theorem Lands.cons {leaf : Node} {chain : List Head} {before after : List Node}
    (lands : Lands leaf chain before after) (first : Node) :
    Lands leaf chain (first :: before) (first :: after) := by
  cases lands with
  | here front back => exact .here (first :: front) back
  | under head chain children grown front back includes inside =>
    exact .under head chain children grown (first :: front) back includes inside

theorem Inserts.lands {comment : Node} {forest settled : List Node}
    (placed : Inserts comment forest settled) : ∃ chain, Lands comment chain forest settled := by
  induction placed with
  | last => exact ⟨[], .here [] []⟩
  | before sibling rest _ => exact ⟨[], .here [] (sibling :: rest)⟩
  | inside head children settled rest _ includes _ ih =>
    obtain ⟨chain, inside⟩ := ih
    exact ⟨head :: chain, .under head chain children settled [] rest includes inside⟩
  | past sibling rest settled _ _ _ ih =>
    obtain ⟨chain, lands⟩ := ih
    exact ⟨chain, lands.cons sibling⟩

theorem commentPath_append (start : Nat) (front back : List Node) :
    commentPath start (front ++ back) = (commentPath start front).or (commentPath start back) := by
  induction front with
  | nil => simp [commentPath]
  | cons node rest ih =>
    rw [List.cons_append, commentPath, commentPath, ih]
    split
    · rfl
    · rw [Option.or_assoc]

theorem commentPath_leaf (start : Nat) {leaf : Node} (single : leaf.isParent = false)
    (rest : List Node) :
    commentPath start (leaf :: rest) =
      if leaf.isComment ∧ leaf.span.start = start then some [] else commentPath start rest := by
  cases leaf with
  | parent head children => simp [Node.isParent] at single
  | leaf head value => simp [commentPath, Node.commentPath]

theorem commentPath_parent (start : Nat) (head : Head) (children rest : List Node) :
    commentPath start (.parent head children :: rest) =
      if (Node.parent head children).isComment ∧ head.span.start = start then some []
      else ((commentPath start children).map (head.tag :: ·)).or (commentPath start rest) := rfl

theorem Lands.commentPath_other {leaf : Node} {chain : List Head} {before after : List Node}
    (lands : Lands leaf chain before after) (single : leaf.isParent = false) {start : Nat}
    (elsewhere : leaf.span.start ≠ start) : commentPath start after = commentPath start before := by
  induction lands with
  | here front back =>
    rw [commentPath_append, commentPath_append, commentPath_leaf start single,
      if_neg fun shown => elsewhere shown.2]
  | under head chain children grown front back _ _ ih =>
    have same : (Node.parent head grown).isComment = (Node.parent head children).isComment := rfl
    rw [commentPath_append, commentPath_append, commentPath_parent, commentPath_parent, ih, same]

theorem Lands.commentPath_own {leaf : Node} {chain : List Head} {before after : List Node}
    (lands : Lands leaf chain before after) (single : leaf.isParent = false)
    (tagged : leaf.isComment = true) (absent : commentPath leaf.span.start before = none) :
    commentPath leaf.span.start after = some (chain.map Head.tag) := by
  induction lands with
  | here front back =>
    rw [commentPath_append, Option.or_eq_none_iff] at absent
    rw [commentPath_append, absent.1, commentPath_leaf _ single, if_pos ⟨tagged, rfl⟩]
    rfl
  | under head chain children grown front back _ _ ih =>
    rw [commentPath_append, Option.or_eq_none_iff, commentPath_parent] at absent
    obtain ⟨ahead, absent⟩ := absent
    split at absent
    · simp at absent
    · next plain =>
      -- Neither the siblings in front nor the parent itself stop the search before it goes down.
      obtain ⟨below, _⟩ := Option.or_eq_none_iff.mp absent
      have own := ih (Option.map_eq_none_iff.mp below)
      have same : (Node.parent head grown).isComment = (Node.parent head children).isComment := rfl
      rw [commentPath_append, ahead, commentPath_parent, same, if_neg plain, own]
      rfl

theorem insertAll_commentPath {start : Nat} {comments : List Node}
    (leaves : ∀ comment ∈ comments, comment.isParent = false)
    (elsewhere : ∀ comment ∈ comments, comment.span.start ≠ start) (forest : List Node) :
    commentPath start (insertAll forest comments) = commentPath start forest := by
  induction comments generalizing forest with
  | nil => rfl
  | cons comment rest ih =>
    obtain ⟨single, leaves⟩ := List.forall_mem_cons.mp leaves
    obtain ⟨other, elsewhere⟩ := List.forall_mem_cons.mp elsewhere
    obtain ⟨chain, lands⟩ := (inserts_insert comment forest).lands
    rw [insertAll_cons, ih leaves elsewhere, lands.commentPath_other single other]

theorem commentPath_plain (start : Nat) {forest : List Node}
    (plain : ∀ node ∈ subtrees forest, node.isComment = false) : commentPath start forest = none := by
  induction forest using Forest.induct with
  | nil => rfl
  | leaf head value rest ih =>
    rw [subtrees_leaf, List.forall_mem_cons] at plain
    rw [commentPath_leaf start rfl, if_neg (by simp [plain.1]), ih plain.2]
  | parent head children rest below ih =>
    rw [subtrees_parent, List.forall_mem_cons, List.forall_mem_append] at plain
    rw [commentPath_parent, if_neg (by simp [plain.1]), below plain.2.1, ih plain.2.2]
    rfl

section

variable {forest comments : List Node} {rank : Nat} {comment : Node}

theorem take_inserted (inserted : comments[rank]? = some comment) :
    comments.take (rank + 1) = comments.take rank ++ [comment] := by
  rw [List.take_add_one, inserted]
  rfl

theorem insertAll_lands (inserted : comments[rank]? = some comment) :
    ∃ chain, Lands comment chain (insertAll forest (comments.take rank))
      (insertAll forest (comments.take (rank + 1))) := by
  rw [take_inserted inserted, insertAll_append]
  exact (inserts_insert comment _).lands

/-- Of a run of comments with different offsets, each is found below the chain that it was put in
under, whatever comes before and after it. -/
theorem insertAll_commentPath_own (leaves : ∀ leaf ∈ comments, leaf.isParent = false)
    (tagged : comment.isComment = true)
    (distinct : comments.Pairwise fun first second => first.span.start ≠ second.span.start)
    (absent : commentPath comment.span.start forest = none)
    (inserted : comments[rank]? = some comment) {chain : List Head}
    (lands : Lands comment chain (insertAll forest (comments.take rank))
      (insertAll forest (comments.take (rank + 1)))) :
    commentPath comment.span.start (insertAll forest comments) = some (chain.map Head.tag) := by
  have early (leaf : Node) (member : leaf ∈ comments.take rank) : leaf.isParent = false :=
    leaves leaf (List.mem_of_mem_take member)
  have late (leaf : Node) (member : leaf ∈ comments.drop (rank + 1)) : leaf.isParent = false :=
    leaves leaf (List.mem_of_mem_drop member)
  have parts : comments.take (rank + 1) ++ comments.drop (rank + 1) = comments :=
    List.take_append_drop _ _
  rw [← parts, take_inserted inserted, List.append_assoc, List.singleton_append] at distinct
  obtain ⟨_, later, across⟩ := List.pairwise_append.mp distinct
  have before := insertAll_commentPath early
    (fun leaf member => across leaf member comment List.mem_cons_self) forest
  have after := insertAll_commentPath late
    (fun leaf member => ((List.pairwise_cons.mp later).1 leaf member).symm)
    (insertAll forest (comments.take (rank + 1)))
  rw [← insertAll_append, parts] at after
  rw [after]
  exact lands.commentPath_own (leaves comment (List.mem_of_getElem? inserted)) tagged
    (before.trans absent)

end

end Forest

/-- The path to a comment. A path is found just if some comment below the root starts at the offset, and
it consists of the tags above the first such comment that a traversal meets. So after a merge into a
tree without comments, of tokens with different offsets, each token's offset leads to the tags of the
root and of the parents, all of which include the token, that its leaf was put in under. -/
theorem Node.commentPath_finds_first :
    (∀ (root : Node) (start : Nat),
      ((∃ path, root.commentPath start = some path) ↔ ∃ address, root.CommentAt start address) ∧
      ∀ path, root.commentPath start = some path ↔
        ∃ address, root.FirstCommentAt start address ∧ path = (root.above address).map Node.tag) ∧
    ∀ (request : Request) (merged : Node),
      (∀ node ∈ request.root.subtrees, node.isComment = false) →
      (request.tokens.map fun token => token.span.start).Nodup →
      request.complete = .ok merged →
      ∃ head children leaves, request.root = .parent head children ∧
        commentLeaves request.source request.tokens = .ok leaves ∧
        merged = .parent head (Forest.insertAll children leaves) ∧
        ∀ rank token leaf, request.tokens[rank]? = some token → leaves[rank]? = some leaf →
          (∃ chain, Forest.Lands leaf chain (Forest.insertAll children (leaves.take rank))
            (Forest.insertAll children (leaves.take (rank + 1)))) ∧
          ∀ chain, Forest.Lands leaf chain (Forest.insertAll children (leaves.take rank))
              (Forest.insertAll children (leaves.take (rank + 1))) →
            (∀ outer ∈ chain, outer.span.Includes token.span) ∧
            merged.commentPath token.span.start = some (head.tag :: chain.map Head.tag) := by
  refine ⟨fun root start => ⟨exists_commentPath_iff, fun path => commentPath_eq_some_iff⟩, ?_⟩
  intro request merged plain distinct completed
  obtain ⟨head, children, leaves, shape, made, rfl, _⟩ :=
    (request.complete_eq_ok merged).mp completed
  refine ⟨head, children, leaves, shape, (commentLeaves_eq_ok _ _ _).mpr made, rfl, ?_⟩
  intro rank token leaf given inserted
  refine ⟨Forest.insertAll_lands inserted, ?_⟩
  intro chain lands
  have comments := comments_of_tokens made
  have starts := (pairwise_spans_iff made fun first second => first.start ≠ second.start).mpr
    (List.pairwise_map.mp distinct)
  have span : leaf.span = token.span := by
    obtain ⟨bound, rfl⟩ := List.getElem?_eq_some_iff.mp given
    obtain ⟨bound', rfl⟩ := List.getElem?_eq_some_iff.mp inserted
    obtain ⟨_, raw, same⟩ := CommentToken.toNode_eq_ok (made.get bound bound')
    exact congrArg Node.span same
  rw [shape] at plain
  have absent := Forest.commentPath_plain leaf.span.start (List.forall_mem_cons.mp plain).2
  have own := Forest.insertAll_commentPath_own (fun leaf member => (comments leaf member).1)
    (comments leaf (List.mem_of_getElem? inserted)).2 starts absent inserted lands
  rw [← span]
  refine ⟨lands.includes, ?_⟩
  rw [Node.commentPath, own]
  rfl

/-- Two tokens, of which the second goes two levels down. -/
theorem Node.commentPath_finds_specimen :
    (∀ node ∈ (Node.parent Specimen.root (Specimen.children [] [])).subtrees,
      node.isComment = false) ∧
    ([Specimen.outerToken, Specimen.innerToken].map fun token => token.span.start).Nodup ∧
    (Specimen.request [Specimen.outerToken, Specimen.innerToken]).complete =
      .ok (.parent Specimen.root (Specimen.children [Specimen.innerLeaf] [Specimen.outerLeaf])) ∧
    (Node.parent Specimen.root (Specimen.children [Specimen.innerLeaf]
      [Specimen.outerLeaf])).commentPath Specimen.innerToken.span.start =
        some ["Document", "Paragraph", "Emphasis"] := by
  have plain : ∀ node ∈ (Node.parent Specimen.root (Specimen.children [] [])).subtrees,
      node.isComment = false := by decide
  have distinct :
      ([Specimen.outerToken, Specimen.innerToken].map fun token => token.span.start).Nodup := by
    decide
  refine ⟨plain, distinct, rfl, ?_⟩
  obtain ⟨_, _, leaves, shape, made, -, each⟩ := commentPath_finds_first.2
    (Specimen.request [Specimen.outerToken, Specimen.innerToken]) _ plain distinct rfl
  obtain ⟨rfl, rfl⟩ := Node.parent.inj shape
  obtain rfl : [Specimen.outerLeaf, Specimen.innerLeaf] = leaves := Except.ok.inj made
  have lands : Forest.Lands Specimen.innerLeaf
      [Specimen.head "Paragraph" "A%B\nC" 0 5, Specimen.head "Emphasis" "A%B\nC" 0 5]
      (Specimen.children [] [Specimen.outerLeaf])
      (Specimen.children [Specimen.innerLeaf] [Specimen.outerLeaf]) := by
    refine .under _ _ _ _ [] _ (by decide) (.under _ _ _ _ [] [] (by decide) ?_)
    exact .here [.leaf (Specimen.head Tag.str "A" 0 1) "A"] [.leaf (Specimen.head Tag.str "C" 4 5) "C"]
  exact ((each 1 Specimen.innerToken Specimen.innerLeaf rfl rfl).2 _ lands).2

end LatexTree
