import LatexTree.Processor

/-! Options and labelled messages in JSON. Options that are left out have their built-in value. -/
namespace LatexTree.Wire
open Json

def optionsValue (options : Options) : Value := .object [
  ("extensions", .list (options.extensions.map .text)),
  ("default_file_path", .text options.defaultPath)]

structure OptionsDraft where
  extensions : Option (List String) := none
  path : Option String := none

def optionsShape (budget : Nat) : Shape OptionsDraft Options where
  name := "ProcessorOptions"
  draft := {}
  fields := [
    ⟨"extensions", false, (·.extensions.isSome), fun draft =>
      return { draft with extensions := some (← readList budget fun _ => readString) }⟩,
    ⟨"default_file_path", false, (·.path.isSome),
      fun draft => return { draft with path := some (← readString) }⟩]
  finish draft := .ok ⟨draft.extensions.getD [], draft.path.getD Options.builtinPath⟩

def readOptions (budget : Nat) : Reader Options := readRecord budget optionsShape

def labelledValue (labelled : Labelled) : Value := .object [
  ("messages", .list labelled.messages), ("filePath", .text labelled.path)]

structure LabelledDraft where
  messages : Option (List Value) := none
  path : Option String := none

def labelledShape (budget : Nat) : Shape LabelledDraft Labelled where
  name := "PostProcessed"
  draft := {}
  fields := [
    ⟨"messages", true, (·.messages.isSome), fun draft =>
      return { draft with messages := some (← readList budget readValue) }⟩,
    ⟨"filePath", true, (·.path.isSome),
      fun draft => return { draft with path := some (← readString) }⟩]
  finish draft := return ⟨← need "messages" draft.messages, ← need "filePath" draft.path⟩

def readLabelled (budget : Nat) : Reader Labelled := readRecord budget labelledShape

def readMessages (budget : Nat) : Reader (List Value) := readList budget readValue

end LatexTree.Wire
