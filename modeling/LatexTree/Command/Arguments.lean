import LatexTree.Settings.Config

/-! Command-line arguments: options, the words between them, and the command that they ask for. -/
namespace LatexTree

inductive Command where
  | merge (parsed source : String) (format : Option OutputFormat) (compact : Bool)
  | extensions
  | label (messages : String) (path : Option String)
deriving DecidableEq, Repr

structure Invocation where
  config : Option String
  logFilter : Option String
  command : Command
deriving DecidableEq, Repr

inductive Stop where
  | misuse
  | version
  | help
deriving DecidableEq, Repr

structure OptionSpec where
  name : String
  letter : Option Char
  takesValue : Bool
  /-- The values that are allowed; any if there are none. -/
  choices : List String
deriving DecidableEq, Repr

namespace Arguments

structure Gathered where
  options : List (String × String) := []
  words : List String := []
deriving DecidableEq, Repr

namespace Gathered

/-- No option is given twice. -/
def option (gathered : Gathered) (spec : OptionSpec) (value : String) : Except Stop Gathered :=
  if (gathered.options.lookup spec.name).isSome then .error .misuse
  else if spec.choices ≠ [] ∧ value ∉ spec.choices then .error .misuse
  else .ok { gathered with options := gathered.options ++ [(spec.name, value)] }

def value? (gathered : Gathered) (spec : OptionSpec) : Option String :=
  gathered.options.lookup spec.name

end Gathered

def configOption : OptionSpec := ⟨"config", some 'c', true, []⟩

def logOption : OptionSpec := ⟨"log-level", none, true, []⟩

def sourceOption : OptionSpec := ⟨"source", some 's', true, []⟩

def formatOption : OptionSpec := ⟨"format", some 'f', true, ["json", "outline"]⟩

def compactOption : OptionSpec := ⟨"compact", none, false, []⟩

def pathOption : OptionSpec := ⟨"file-path", none, true, []⟩

def sharedOptions : List OptionSpec := [configOption, logOption]

/-- What may be given in one part of the arguments: options, so many words, and the names of commands,
which begin a part of their own. -/
structure Scope where
  options : List OptionSpec
  words : Nat
  commands : List String

def outerScope : Scope := ⟨sharedOptions, 0, ["merge", "extensions", "post-process", "help"]⟩

def mergeScope : Scope :=
  ⟨sharedOptions ++ [sourceOption, formatOption, compactOption], 1, []⟩

def extensionsScope : Scope := ⟨sharedOptions, 0, []⟩

def labelScope : Scope := ⟨sharedOptions ++ [pathOption], 1, []⟩

inductive Shape where
  | word
  /-- Only words follow. -/
  | divider
  | long (name : String) (value : Option String)
  | short (letter : Char) (value : Option String)
deriving DecidableEq, Repr

def attached (text : List Char) : Option String :=
  match text.dropWhile (· ≠ '=') with
  | [] => none
  | _ :: rest => some (String.ofList rest)

def shape (argument : String) : Shape :=
  match argument.toList with
  | ['-', '-'] => .divider
  | '-' :: '-' :: rest => .long (String.ofList (rest.takeWhile (· ≠ '='))) (attached rest)
  | ['-', letter] => .short letter none
  | '-' :: letter :: '=' :: rest => .short letter (some (String.ofList rest))
  | '-' :: letter :: rest => .short letter (some (String.ofList rest))
  | _ => .word

def Scope.option? (scope : Scope) : Shape → Option (OptionSpec × Option String)
  | .long name value => (scope.options.find? (·.name = name)).map (·, value)
  | .short letter value => (scope.options.find? (·.letter = some letter)).map (·, value)
  | _ => none

/-- An argument that names no option may still ask for help, or for the version where a command has not
been named yet. -/
def Scope.stop (scope : Scope) (shape : Shape) : Stop :=
  if scope.commands ≠ [] ∧ (shape = .long "version" none ∨ shape matches .short 'V' _) then .version
  else if shape = .long "help" none ∨ shape matches .short 'h' _ then .help
  else .misuse

def addWords (scope : Scope) (gathered : Gathered) (words : List String) :
    Except Stop Gathered :=
  let words := gathered.words ++ words
  if words.length ≤ scope.words then .ok { gathered with words } else .error .misuse

/-- Reads the arguments of a scope, up to the name of a command, which is given with what follows it.
The value of an option may be the next argument, unless that looks like an option. -/
def gather (scope : Scope) (gathered : Gathered) :
    List String → Except Stop (Gathered × Option (String × List String))
  | [] => .ok (gathered, none)
  | argument :: rest =>
    match shape argument with
    | .divider => do return (← addWords scope gathered rest, none)
    | .word =>
      if argument ∈ scope.commands then .ok (gathered, some (argument, rest))
      else do gather scope (← addWords scope gathered [argument]) rest
    | shape' =>
      match scope.option? shape' with
      | none => .error (scope.stop shape')
      | some (spec, value) =>
        match spec.takesValue, value, rest with
        | false, none, rest => do gather scope (← gathered.option spec "") rest
        | false, some _, _ => .error .misuse
        | true, some value, rest => do gather scope (← gathered.option spec value) rest
        | true, none, value :: rest =>
          if shape value = .word then do gather scope (← gathered.option spec value) rest
          else .error .misuse
        | true, none, [] => .error .misuse

def require {α : Type} (value : Option α) : Except Stop α := value.elim (.error .misuse) .ok

def command (name : String) (arguments : List String) : Except Stop (Gathered × Command) := do
  if name = "merge" then
    let (inner, _) ← gather mergeScope {} arguments
    let parsed ← require inner.words.head?
    let source ← require (inner.value? sourceOption)
    let format := (inner.value? formatOption).bind OutputFormat.named?
    return (inner, .merge parsed source format (inner.value? compactOption).isSome)
  else if name = "extensions" then
    let (inner, _) ← gather extensionsScope {} arguments
    return (inner, .extensions)
  else if name = "post-process" then
    let (inner, _) ← gather labelScope {} arguments
    return (inner, .label (← require inner.words.head?) (inner.value? pathOption))
  else .error .help

end Arguments

open Arguments in
/-- Reads all arguments. A shared option after the command wins over the same one before it. -/
def Invocation.parse (arguments : List String) : Except Stop Invocation := do
  let (outer, rest) ← gather outerScope {} arguments
  let (name, rest) ← require rest
  let (inner, command) ← Arguments.command name rest
  let shared (spec : OptionSpec) := (inner.value? spec).or (outer.value? spec)
  return ⟨shared configOption, shared logOption, command⟩

end LatexTree
