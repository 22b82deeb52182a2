import LatexTree.Command.Run
import LatexTree.Proofs.NormalForm

/-! The merge command from the grammar's text to its own output.

A comment goes into a parent that is there already, so that the merged tree is at most one level
deeper than the tree read. The tree read stood under one bracket more than the tree written does, and
that is the room the new level takes: what is written can always be read. -/
namespace LatexTree

/-! ### How deep comments go -/

mutual

/-- How many parents stand one in another. -/
def Node.parentHeight : Node → Nat
  | .parent _ children => Forest.parentHeight children + 1
  | .leaf .. => 0

def Forest.parentHeight : List Node → Nat
  | [] => 0
  | node :: rest => max node.parentHeight (Forest.parentHeight rest)

end

mutual

theorem Node.parentHeight_le : ∀ node : Node,
    node.height ≤ node.parentHeight ∧ node.parentHeight ≤ node.height + 1
  | .leaf .. => by simp [Node.height, Node.parentHeight]
  | .parent _ children => by
    have below := Forest.parentHeight_le children
    simp only [Node.height, Node.parentHeight]
    omega

theorem Forest.parentHeight_le : ∀ forest : List Node,
    Forest.height forest ≤ Forest.parentHeight forest + 1 ∧
      Forest.parentHeight forest ≤ Forest.height forest
  | [] => by simp [Forest.height, Forest.parentHeight]
  | node :: rest => by
    have := node.parentHeight_le
    have := Forest.parentHeight_le rest
    simp only [Forest.height, Forest.parentHeight]
    omega

end

namespace Forest

theorem Inserts.parentHeight {comment : Node} {forest settled : List Node}
    (placed : Inserts comment forest settled) (leaf : comment.isParent = false) :
    Forest.parentHeight settled = Forest.parentHeight forest := by
  have flat : comment.parentHeight = 0 := by
    cases comment with
    | parent head children => simp [Node.isParent] at leaf
    | leaf head value => rfl
  induction placed with
  | last => simp [Forest.parentHeight, flat]
  | before sibling rest _ => simp [Forest.parentHeight, flat]
  | inside head children settled rest _ _ _ ih => simp [Forest.parentHeight, Node.parentHeight, ih]
  | past sibling rest settled _ _ _ ih => simp [Forest.parentHeight, ih]

theorem Inserts.fits {comment : Node} {forest settled : List Node}
    (placed : Inserts comment forest settled) (own : comment.Fits) (fits : Forest.Fits forest) :
    Forest.Fits settled := by
  induction placed with
  | last => exact (Forest.fits_cons _ _).mpr ⟨own, fits⟩
  | before sibling rest _ => exact (Forest.fits_cons _ _).mpr ⟨own, fits⟩
  | inside head children settled rest _ _ _ ih =>
    rw [Forest.fits_cons, Node.fits_parent] at fits ⊢
    exact ⟨⟨fits.1.1, ih fits.1.2⟩, fits.2⟩
  | past sibling rest settled _ _ _ ih =>
    rw [Forest.fits_cons] at fits ⊢
    exact ⟨fits.1, ih fits.2⟩

theorem insertAll_parentHeight (forest comments : List Node)
    (leaves : ∀ comment ∈ comments, comment.isParent = false) :
    Forest.parentHeight (insertAll forest comments) = Forest.parentHeight forest := by
  induction comments generalizing forest with
  | nil => rfl
  | cons comment rest ih =>
    rw [List.forall_mem_cons] at leaves
    rw [insertAll_cons, ih _ leaves.2, (inserts_insert comment forest).parentHeight leaves.1]

theorem insertAll_fits {forest comments : List Node} (own : ∀ comment ∈ comments, comment.Fits)
    (fits : Forest.Fits forest) : Forest.Fits (insertAll forest comments) := by
  induction comments generalizing forest with
  | nil => exact fits
  | cons comment rest ih =>
    rw [List.forall_mem_cons] at own
    exact ih own.2 ((inserts_insert comment forest).fits own.1 fits)

end Forest

theorem CommentToken.toNode_fits {source : Source} {token : CommentToken} {leaf : Node}
    (fits : token.location.Fits) (made : token.toNode source = .ok leaf) : leaf.Fits := by
  obtain ⟨-, raw, rfl⟩ := CommentToken.toNode_eq_ok made
  obtain ⟨⟨start, line, column⟩, stop, line', column'⟩ := fits
  have one (n : Nat) (small : n ≤ Json.wordLimit) : n - 1 ≤ Json.wordLimit := by omega
  rw [Node.fits_leaf]
  exact ⟨⟨start, stop⟩, ⟨line, one _ column⟩, ⟨line', one _ column'⟩⟩

/-- What comes of a tree that was read can be written and read again. -/
theorem merged_readable {text : String} {parsed : Parsed} {merged : Node} (fits : parsed.Fits)
    (within : parsed.Within Json.depthLimit)
    (complete : (Processor.request text parsed).complete = .ok merged) :
    merged.Fits ∧ 2 * merged.height + 3 ≤ Json.depthLimit := by
  obtain ⟨head, children, leaves, shape, made, rfl, -⟩ := (Request.complete_eq_ok _ _).mp complete
  obtain ⟨root, comments⟩ := parsed
  obtain rfl : root = .parent head children := shape
  have own : ∀ leaf ∈ leaves, leaf.Fits := by
    intro leaf member
    obtain ⟨token, listed, single⟩ := token_of_leaf made member
    cases comments with
    | none => simp [Request.tokens, Processor.request] at listed
    | some tokens => exact CommentToken.toNode_fits (fits.2 tokens rfl token listed) single
  have inside := (Node.fits_parent head children).mp fits.1
  -- The parents are those of the tree read, and no leaf stands more than one level below a parent.
  have level := Forest.insertAll_parentHeight children leaves fun leaf member =>
    (comments_of_tokens made leaf member).1
  have before := Node.parentHeight_le (.parent head children)
  have after := Node.parentHeight_le (.parent head (Forest.insertAll children leaves))
  have short := within.1
  refine ⟨(Node.fits_parent _ _).mpr ⟨inside.1, Forest.insertAll_fits own inside.2⟩, ?_⟩
  simp only [Node.parentHeight, level] at before after
  simp only [Json.depthLimit] at short ⊢
  omega

/-! ### What is printed -/

theorem trimEnd_of_last {front : List Char} {c : Char} (sharp : c.isWhitespace = false) :
    trimEnd (String.ofList (front ++ [c])) = String.ofList (front ++ [c]) := by
  simp [trimEnd, sharp]

theorem trimEnd_nodeValue (node : Node) (layout : Json.Layout) :
    trimEnd ((Wire.nodeValue node).render layout) = (Wire.nodeValue node).render layout := by
  have shape : ∃ front, (Wire.nodeValue node).chars layout 0 = front ++ ['\x7d'] := by
    cases node with
    | leaf head value => exact ⟨_, (List.cons_append ..).symm⟩
    | parent head children => exact ⟨_, (List.cons_append ..).symm⟩
  obtain ⟨front, same⟩ := shape
  rw [Json.Value.render, same]
  exact trimEnd_of_last rfl

/-! ### How a run ends -/

theorem Processor.run_preParsed (parsed : Parsed) (options : Options) (text : String) (root : Node) :
    (⟨Grammar.preParsed parsed, options⟩ : Processor).run text = .ok root ↔
      (request text parsed).complete = .ok root := by
  change ((_ : Except Refusal Node).mapError _).mapError _ = _ ↔ _
  cases (request text parsed).complete with
  | error refusal => simp [Except.mapError]
  | ok merged => simp [Except.mapError]

theorem Run.check_bind_eq_ok {ε α β : Type} (failure : ε → Failure) (result : Except ε α)
    (next : α → Run β) (log : List String) (ending : β × List String) :
    (Run.check failure result >>= next) log = .ok ending ↔
      ∃ value, result = .ok value ∧ next value log = .ok ending := by
  cases result with
  | error error =>
    change Except.error _ = Except.ok _ ↔ _
    simp
  | ok value =>
    change next value log = .ok ending ↔ _
    simp

theorem Run.set_bind {β : Type} (lines log : List String) (next : Unit → Run β) :
    (set lines >>= next : Run β) log = next () lines := rfl

theorem Run.outcome_result (run : Run String) (text : String) :
    run.outcome.result = .ok text ↔ ∃ log, run [] = .ok (text, log) := by
  unfold Run.outcome
  split
  · next found log same => simp [same]
  · next log failure same => simp [same]

theorem Outcome.exitCode_eq_zero (outcome : Outcome) :
    outcome.exitCode = 0 ↔ ∃ text, outcome.result = .ok text := by
  obtain ⟨log, result⟩ := outcome
  cases result with
  | ok text => simp [Outcome.exitCode]
  | error failure =>
    simp only [Outcome.exitCode, Failure.exitCode]
    split
    · simp
    · simp

/-- The built-in settings are settings of the right kinds. -/
theorem Config.ofSetting_default :
    Config.ofSetting Config.defaultSettings = .ok ⟨⟨[], Options.builtinPath⟩, ⟨.json, true⟩⟩ := by
  have word : lowercase "json" = "json" := rfl
  simp [ofSetting, defaultSettings, readField, readProcessor, readOutput, readTexts, readText,
    readFormat, readBool, require, OutputFormat.named?, List.lookup_cons, word, bind, Except.bind, pure,
    Except.pure]

def Specimen.parsed : Parsed :=
  ⟨.parent Specimen.root (Specimen.children [] []), some [Specimen.outerToken, Specimen.innerToken]⟩

def Specimen.merged : Node :=
  .parent Specimen.root (Specimen.children [Specimen.innerLeaf] [Specimen.outerLeaf])

theorem Specimen.parsed_fits : Specimen.parsed.Fits := by
  refine ⟨by decide, ?_⟩
  rintro tokens ⟨⟩
  decide

namespace Invocation

/-- A merge prints exactly if its input is accepted and the comments go in. -/
theorem merge_result {invocation : Invocation} {surroundings : Surroundings}
    {parsedPath sourcePath : String} {format : Option OutputFormat} {compact : Bool} {filter : Filter}
    {config : Config} {json text : String}
    (command : invocation.command = .merge parsedPath sourcePath format compact)
    (filtered : invocation.filter surroundings.environment = .ok filter)
    (loaded : Config.load surroundings invocation.layers = .ok config)
    (grammar : surroundings.files.read parsedPath = .ok json)
    (source : surroundings.files.read sourcePath = .ok text) (output : String) :
    (invocation.run surroundings).result = .ok output ↔
      ∃ parsed merged, Parsed.ofJson json = .ok parsed ∧
        (Processor.request text parsed).complete = .ok merged ∧
        output = trimEnd (config.output.render merged) ++ "\n" := by
  unfold run start
  rw [Run.outcome_result]
  simp only [Run.check_bind_eq_ok, Run.set_bind, Processor.run_preParsed, filtered, loaded, command,
    merge, grammar, source, Except.ok.injEq, exists_eq_left']
  constructor
  · rintro ⟨log, parsed, read, merged, complete, ending⟩
    obtain ⟨rfl, -⟩ := Prod.mk.inj (Except.ok.inj ending)
    exact ⟨parsed, merged, read, complete, rfl⟩
  · rintro ⟨parsed, merged, read, complete, rfl⟩
    exact ⟨_, parsed, read, merged, complete, rfl⟩

/-- The whole merge command with JSON output: when it succeeds, what it prints, and that nothing is
printed otherwise. -/
theorem merge_prints_merged (invocation : Invocation) (surroundings : Surroundings)
    (parsedPath sourcePath : String) (format : Option OutputFormat) (compact : Bool) (filter : Filter)
    (config : Config) (json text : String)
    (command : invocation.command = .merge parsedPath sourcePath format compact)
    (filtered : invocation.filter surroundings.environment = .ok filter)
    (loaded : Config.load surroundings invocation.layers = .ok config)
    (selected : config.output.format = .json)
    (grammar : surroundings.files.read parsedPath = .ok json)
    (source : surroundings.files.read sourcePath = .ok text) :
    ((invocation.run surroundings).exitCode = 0 ↔
      ∃ parsed merged, Parsed.ofJson json = .ok parsed ∧
        (Processor.request text parsed).complete = .ok merged) ∧
    (∀ parsed merged, Parsed.ofJson json = .ok parsed →
      (Processor.request text parsed).complete = .ok merged →
        ∃ written, (invocation.run surroundings).output = written ++ "\n" ∧
          written = (Wire.nodeValue merged).render config.output.layout ∧
          Json.decode (Wire.readNode Json.depthLimit) written = .ok merged) ∧
    ((invocation.run surroundings).exitCode ≠ 0 → (invocation.run surroundings).output = "") := by
  have result := merge_result command filtered loaded grammar source
  have rendered (node : Node) :
      config.output.render node = (Wire.nodeValue node).render config.output.layout := by
    rw [Output.render, selected]
  refine ⟨?_, ?_, ?_⟩
  · rw [Outcome.exitCode_eq_zero]
    constructor
    · rintro ⟨output, printed⟩
      obtain ⟨parsed, merged, read, complete, -⟩ := (result output).mp printed
      exact ⟨parsed, merged, read, complete⟩
    · rintro ⟨parsed, merged, read, complete⟩
      exact ⟨_, (result _).mpr ⟨parsed, merged, read, complete, rfl⟩⟩
  · intro parsed merged read complete
    have printed := (result _).mpr ⟨parsed, merged, read, complete, rfl⟩
    obtain ⟨fits, within⟩ := Json.decode_yields (Wire.readParsed_yields Json.depthLimit) read
    obtain ⟨fits, short⟩ := merged_readable fits within complete
    refine ⟨_, ?_, rfl, Wire.readNode_written fits config.output.layout _ short⟩
    rw [Outcome.output, printed, rendered, trimEnd_nodeValue]
  · intro failed
    unfold Outcome.output
    split
    · next output printed => exact absurd ((Outcome.exitCode_eq_zero _).mpr ⟨output, printed⟩) failed
    · rfl

/-- The specimen as a grammar gives it, in a file of its own beside the text. -/
def specimenFiles : Files := fun path =>
  .ok (.text (if path = "tree.json" then (Wire.parsedValue Specimen.parsed).render .pretty
    else "A%B\nC%D"))

theorem merge_prints_specimen :
    ((⟨none, none, .merge "tree.json" "text.tex" none false⟩ : Invocation).run
        ⟨specimenFiles, []⟩).exitCode = 0 ∧
      ∃ written, ((⟨none, none, .merge "tree.json" "text.tex" none false⟩ : Invocation).run
          ⟨specimenFiles, []⟩).output = written ++ "\n" ∧
        Json.decode (Wire.readNode Json.depthLimit) written = .ok Specimen.merged := by
  have tree : specimenFiles.read "tree.json" =
      .ok ((Wire.parsedValue Specimen.parsed).render .pretty) := by
    simp [specimenFiles, Files.read]
  have text : specimenFiles.read "text.tex" = .ok "A%B\nC%D" := by simp [specimenFiles, Files.read]
  have read : Parsed.ofJson ((Wire.parsedValue Specimen.parsed).render .pretty) = .ok Specimen.parsed :=
    Wire.readParsed_written Specimen.parsed_fits ⟨by decide, by decide⟩ .pretty
  have source : Source.ofString "A%B\nC%D" = Specimen.source := rfl
  have complete : (Processor.request "A%B\nC%D" Specimen.parsed).complete = .ok Specimen.merged := by
    rw [Processor.request, source]
    rfl
  obtain ⟨succeeds, prints, -⟩ := merge_prints_merged
    ⟨none, none, .merge "tree.json" "text.tex" none false⟩ ⟨specimenFiles, []⟩ "tree.json" "text.tex"
    none false defaultFilter _ _ _ rfl rfl Config.ofSetting_default rfl tree text
  obtain ⟨written, printed, -, again⟩ := prints _ _ read complete
  exact ⟨succeeds.mpr ⟨_, _, read, complete⟩, written, printed, again⟩

end Invocation

end LatexTree
