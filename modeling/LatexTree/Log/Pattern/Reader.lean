import LatexTree.Log.Pattern
import LatexTree.Text.Digits

/-! Reading patterns. What is wrong with a pattern is shown under it. -/
namespace LatexTree.Pattern

inductive Mistake where
  | classEscape
  | classOrder
  | classBound
  | classOpen
  | hexDigit
  | hexValue
  | escapeEnd
  | escape
  | negationEnd
  | flagRepeated
  | negationRepeated
  | flagEnd
  | flag
  | nameEmpty
  | name
  | nameEnd
  | groupOpen
  | groupClosed
  | countEmpty
  | countOpen
  | nothingRepeated
  | category
  | unknownCategory
  | backReference
  | lookAround
deriving DecidableEq, Repr

namespace Mistake

def message : Mistake → String
  | .classEscape => "invalid escape sequence found in character class"
  | .classOrder => "invalid character class range, the start must be <= the end"
  | .classBound => "invalid range boundary, must be a literal"
  | .classOpen => "unclosed character class"
  | .hexDigit => "invalid hexadecimal digit"
  | .hexValue => "hexadecimal literal is not a Unicode scalar value"
  | .escapeEnd => "incomplete escape sequence, reached end of pattern prematurely"
  | .escape => "unrecognized escape sequence"
  | .negationEnd => "dangling flag negation operator"
  | .flagRepeated => "duplicate flag"
  | .negationRepeated => "flag negation operator repeated"
  | .flagEnd => "expected flag but got end of regex"
  | .flag => "unrecognized flag"
  | .nameEmpty => "empty capture group name"
  | .name => "invalid capture group character"
  | .nameEnd => "unclosed capture group name"
  | .groupOpen => "unclosed group"
  | .groupClosed => "unopened group"
  | .countEmpty => "repetition quantifier expects a valid decimal"
  | .countOpen => "unclosed counted repetition"
  | .nothingRepeated => "repetition operator missing expression"
  | .category => "invalid Unicode character class"
  | .unknownCategory => "Unicode property not found"
  | .backReference => "backreferences are not supported"
  | .lookAround => "look-around, including look-ahead and look-behind, is not supported"

end Mistake

inductive PatternError where
  | mistake (mistake : Mistake) (first last : Nat)
  /-- Ends of words cannot be asked for. -/
  | wordEnd
deriving DecidableEq, Repr

namespace PatternError

def marked (pattern : String) (first last : Nat) : String :=
  s!"    {pattern}\n    " ++ String.ofList (List.replicate first ' ') ++
    String.ofList (List.replicate (max 1 (last - first)) '^') ++ "\n"

def chain (pattern : String) : PatternError → List String
  | .mistake kind first last => ["error building NFA", "error parsing regex",
      "regex parse error:\n" ++ marked pattern first last ++ "error: " ++ kind.message]
  | .wordEnd => ["unsupported regex feature for DFAs: cannot build DFAs for regexes with Unicode word boundaries; switch to ASCII word boundaries, or heuristically enable Unicode word boundaries or use a different regex engine"]

end PatternError

structure Flags where
  anyCase : Bool := false
  dotAll : Bool := false
  /-- Repetitions prefer fewer times unless they say otherwise. -/
  fewer : Bool := false
deriving DecidableEq, Repr

inductive Escape where
  | char (c : Char)
  | set (set : CharSet)
  | start
  | stop
deriving DecidableEq, Repr

/-- Readers know the length of the whole pattern, to tell places from what is left of it. -/
abbrev Reading (α : Type) := Nat → List Char → Except PatternError (α × List Char)

def fail {α : Type} (mistake : Mistake) (first last : Nat) : Except PatternError α :=
  .error (.mistake mistake first last)

def Flags.set (flags : Flags) (set : CharSet) : CharSet :=
  if flags.anyCase then .anyCase set else set

def hexDigits (whole : Nat) : Nat → Nat → List Char → Except PatternError (Nat × List Char)
  | 0, value, rest => .ok (value, rest)
  | _ + 1, _, [] => fail .escapeEnd whole whole
  | count + 1, value, c :: rest =>
    let place := whole - (rest.length + 1)
    match hexValue? c with
    | some digit => hexDigits whole count (value * 16 + digit) rest
    | none => fail .hexDigit place (place + 1)

def hexChar (digits : Nat) : Reading Escape := fun whole text => do
  let (value, rest) ← hexDigits whole digits 0 text
  if value.isValidChar then return (.char (Char.ofNat value), rest)
  else fail .hexValue (whole - text.length) (whole - rest.length)

def category? (name : Char) : Option CharSet :=
  match name.toLower with
  | 'l' => some (.ofRanges [('A', 'Z'), ('a', 'z')])
  | 'm' => some .empty
  | 'n' => some .digit
  | 'p' => some (.ofRanges [('!', '#'), ('%', '*'), (',', '/'), (':', ';'), ('?', '@'), ('[', ']'),
      ('_', '_'), ('\x7b', '\x7b'), ('\x7d', '\x7d')])
  | 's' => some (.ofRanges [('$', '$'), ('+', '+'), ('<', '>'), ('^', '^'), ('\x60', '\x60'),
      ('|', '|'), ('~', '~')])
  | 'z' => some (.single ' ')
  | 'c' => some (.ofRanges [('\x00', '\x1f'), ('\x7f', '\x7f')])
  | _ => none

def isMeta (c : Char) : Bool := "\\.+*?()|[]\x7b\x7d^$#&-~".toList.contains c

def escape (flags : Flags) : Reading Escape := fun whole text =>
  let first := whole - text.length - 1
  match text with
  | [] => fail .escapeEnd first whole
  | 'x' :: rest => hexChar 2 whole rest
  | 'u' :: rest => hexChar 4 whole rest
  | 'U' :: rest => hexChar 8 whole rest
  | 'd' :: rest => .ok (.set .digit, rest)
  | 'D' :: rest => .ok (.set (.compl .digit), rest)
  | 's' :: rest => .ok (.set .space, rest)
  | 'S' :: rest => .ok (.set (.compl .space), rest)
  | 'w' :: rest => .ok (.set .word, rest)
  | 'W' :: rest => .ok (.set (.compl .word), rest)
  | 'a' :: rest => .ok (.char '\x07', rest)
  | 'f' :: rest => .ok (.char '\x0c', rest)
  | 't' :: rest => .ok (.char '\t', rest)
  | 'n' :: rest => .ok (.char '\n', rest)
  | 'r' :: rest => .ok (.char '\r', rest)
  | 'v' :: rest => .ok (.char '\x0b', rest)
  | 'A' :: rest => .ok (.start, rest)
  | 'z' :: rest => .ok (.stop, rest)
  | c :: rest =>
    if c = 'p' ∨ c = 'P' then
      match rest with
      | [] => fail .escapeEnd whole whole
      | '\\' :: _ => fail .category (first + 2) (first + 3)
      | name :: rest => match category? name with
        | some set => .ok (.set (if c = 'P' then .compl (flags.set set) else flags.set set), rest)
        | none => fail .unknownCategory first (first + 3)
    else if c.isDigit then fail .backReference first (first + 2)
    else if c = 'b' ∨ c = 'B' ∨ c = '<' ∨ c = '>' then .error .wordEnd
    else if isMeta c ∨ c.toNat < 0x80 ∧ !c.isAlphanum then .ok (.char c, rest)
    else fail .escape first (first + 2)

/-! ### Classes in brackets -/

def namedClasses : List (String × CharSet) := [
  ("alnum", .ofRanges [('0', '9'), ('A', 'Z'), ('a', 'z')]),
  ("alpha", .ofRanges [('A', 'Z'), ('a', 'z')]),
  ("ascii", .range '\x00' '\x7f'),
  ("blank", .ofRanges [('\t', '\t'), (' ', ' ')]),
  ("cntrl", .ofRanges [('\x00', '\x1f'), ('\x7f', '\x7f')]),
  ("digit", .digit),
  ("graph", .range '!' '~'),
  ("lower", .range 'a' 'z'),
  ("print", .range ' ' '~'),
  ("punct", .ofRanges [('!', '/'), (':', '@'), ('[', '\x60'), ('\x7b', '~')]),
  ("space", .space),
  ("upper", .range 'A' 'Z'),
  ("word", .word),
  ("xdigit", .ofRanges [('0', '9'), ('A', 'F'), ('a', 'f')])]

def namedClass? : List Char → Option (CharSet × List Char)
  | '[' :: ':' :: text =>
    let (negated, text) := match text with
      | '^' :: text => (true, text)
      | text => (false, text)
    match text.dropWhile (· ≠ ':') with
    | ':' :: ']' :: rest =>
      (namedClasses.lookup (String.ofList (text.takeWhile (· ≠ ':')))).map fun set =>
        (if negated then .compl set else set, rest)
    | _ => none
  | _ => none

inductive SetOperator where
  | union
  | inter
  | difference
  | symmetric
deriving DecidableEq, Repr

def SetOperator.apply : SetOperator → CharSet → CharSet → CharSet
  | .union, first, second => .union first second
  | .inter, first, second => .inter first second
  | .difference, first, second => first.without second
  | .symmetric, first, second => .union (first.without second) (second.without first)

def classItem (flags : Flags) : Reading Escape := fun whole text =>
  match text with
  | '\\' :: rest => match escape flags whole rest with
    | .error .wordEnd =>
      let first := whole - text.length
      fail .classEscape first (first + 2)
    | result => result
  | c :: rest => .ok (.char c, rest)
  | [] => fail .classOpen whole whole

def bound (first last : Nat) : Escape → Except PatternError Char
  | .char c => .ok c
  | _ => fail .classBound first last

/-- Where a class began: from its bracket up to its first item. -/
abbrev ClassOpening := Nat × Nat

def classRange (flags : Flags) (opening : ClassOpening) : Reading CharSet := fun whole text => do
  let place (rest : List Char) := whole - rest.length
  let (first, rest) ← classItem flags whole text
  let alone : Except PatternError CharSet := match first with
    | .char c => .ok (flags.set (.single c))
    | .set set => .ok set
    | _ => fail .classEscape (place text) (place rest)
  match rest with
  | [] => fail .classOpen opening.1 opening.2
  | ['-'] => fail .classOpen opening.1 opening.2
  | '-' :: ']' :: _ => return (← alone, rest)
  | '-' :: '-' :: _ => return (← alone, rest)
  | '-' :: next =>
    let (second, last) ← classItem flags whole next
    let low ← bound (place text) (place rest) first
    let high ← bound (place next) (place last) second
    if low ≤ high then return (flags.set (.range low high), last)
    else fail .classOrder (place text) (place last)
  | _ => return (← alone, rest)

/-- The beginning of a class after its bracket: whether it is negated, and the hyphens or the bracket
that stand for themselves there. -/
def classStart (first : Nat) : Reading (Bool × CharSet × ClassOpening) := fun whole text => do
  let place (rest : List Char) := whole - rest.length
  let (negated, rest) := match text with
    | '^' :: rest => (true, rest)
    | rest => (false, rest)
  let inner := rest.dropWhile (· = '-')
  let hyphens : CharSet := if inner.length < rest.length then .single '-' else .empty
  match rest, inner with
  | [], _ => fail .classOpen first whole
  | _, [] => fail .classOpen first first
  | _, ']' :: last =>
    if hyphens ≠ .empty then return ((negated, hyphens, first, place inner), inner)
    else if last.isEmpty then fail .classOpen first whole
    else return ((negated, .single ']', first, place last), last)
  | _, _ => return ((negated, hyphens, first, place inner), inner)

/-- The rest of a class. What stands before the last operator waits until its other side is known. -/
def classBody (flags : Flags) (whole : Nat) : Nat → ClassOpening → Bool → SetOperator → CharSet →
    CharSet → List Char → Except PatternError (CharSet × List Char)
  | 0, opening, _, _, _, _, _ => fail .classOpen opening.1 opening.2
  | fuel + 1, opening, negated, operator, before, items, text =>
    let along (operator' : SetOperator) (rest : List Char) :=
      classBody flags whole fuel opening negated operator' (operator.apply before items) .empty rest
    let add (set : CharSet) (rest : List Char) :=
      classBody flags whole fuel opening negated operator before (.union items set) rest
    match text with
    | [] => fail .classOpen opening.1 opening.2
    | ']' :: rest =>
      let set := operator.apply before items
      .ok (if negated then .compl set else set, rest)
    | '&' :: '&' :: rest => along .inter rest
    | '-' :: '-' :: rest => along .difference rest
    | '~' :: '~' :: rest => along .symmetric rest
    | '[' :: rest =>
      match namedClass? text with
      | some (set, rest) => add (flags.set set) rest
      | none => do
        let ((negated', items', opening'), rest) ← classStart (whole - text.length) whole rest
        let (set, rest) ←
          classBody flags whole fuel opening' negated' .union .empty items' rest
        add set rest
    | text => do
      let (set, rest) ← classRange flags opening whole text
      add set rest

def bracketed (flags : Flags) : Reading CharSet := fun whole text => do
  let ((negated, items, opening), rest) ← classStart (whole - text.length - 1) whole text
  classBody flags whole (rest.length + 1) opening negated .union .empty items rest

/-! ### Groups -/

inductive Opening where
  | group (flags : Flags)
  /-- Flags for the rest of the group around them. -/
  | flags (flags : Flags)

def Flags.turn (flags : Flags) (on : Bool) : Char → Option Flags
  | 'i' => some { flags with anyCase := on }
  | 's' => some { flags with dotAll := on }
  | 'U' => some { flags with fewer := on }
  | 'm' => some flags
  | 'u' => some flags
  | 'R' => some flags
  | 'x' => some flags
  | _ => none

def groupFlags (whole : Nat) : List Char → Bool → Bool → Flags → List Char →
    Except PatternError (Opening × List Char)
  | _, _, _, _, [] => fail .flagEnd whole whole
  | seen, on, negated, flags, c :: rest =>
    let place := whole - (rest.length + 1)
    if c = ':' ∨ c = ')' then
      if negated then fail .negationEnd (place - 1) place
      else if c = ':' then .ok (.group flags, rest)
      else if seen.isEmpty then fail .nothingRepeated (place - 1) (place - 1)
      else .ok (.flags flags, rest)
    else if c = '-' then
      if on then groupFlags whole ('-' :: seen) false true flags rest
      else fail .negationRepeated place (place + 1)
    else match flags.turn on c with
      | none => fail .flag place (place + 1)
      | some flags =>
        if c ∈ seen then fail .flagRepeated place (place + 1)
        else groupFlags whole (c :: seen) on false flags rest

def isNameChar (first : Bool) (c : Char) : Bool :=
  c == '_' || c.isAlpha || !first && (c.isDigit || c == '.' || c == '[' || c == ']')

def groupName (flags : Flags) : Reading Opening := fun whole text =>
  let name := text.takeWhile (· ≠ '>')
  let first := whole - text.length
  match name.zipIdx.find? fun (c, index) => !isNameChar (index == 0) c with
  | some (_, index) => fail .name (first + index) (first + index + 1)
  | none => match text.dropWhile (· ≠ '>') with
    | [] => fail .nameEnd whole whole
    | _ :: rest =>
      if name.isEmpty then fail .nameEmpty first first else .ok (.group flags, rest)

def opening (flags : Flags) : Reading Opening := fun whole text =>
  let first := whole - text.length - 1
  match text with
  | '?' :: '=' :: _ | '?' :: '!' :: _ => fail .lookAround first (first + 3)
  | '?' :: '<' :: '=' :: _ | '?' :: '<' :: '!' :: _ => fail .lookAround first (first + 4)
  | '?' :: 'P' :: '<' :: rest => groupName flags whole rest
  | '?' :: '<' :: rest => groupName flags whole rest
  | ['?'] => fail .groupOpen first (first + 1)
  | '?' :: rest => groupFlags whole [] true false flags rest
  | rest => .ok (.group flags, rest)

/-! ### Patterns -/

/-- The parts of a sequence, the last one first. Flags among them cannot be repeated. -/
abbrev Sequence := List (Option Pattern)

def Sequence.pattern (parts : Sequence) : Pattern :=
  parts.foldl (fun pattern part => (part.map (Pattern.both · pattern)).getD pattern) .empty

def choice (parts : Sequence) (earlier : List Sequence) : Pattern :=
  earlier.foldl (fun pattern parts => .either parts.pattern pattern) parts.pattern

def repetition? (more : Bool) : Char → Option (Pattern → Pattern)
  | '*' => some (.many more)
  | '+' => some (.atLeastOnce more)
  | '?' => some (.optional more)
  | _ => none

/-- A number of times is never closed, since a filter ends a pattern at a closing brace. -/
def counted {α : Type} (whole : Nat) (text : List Char) : Except PatternError α :=
  let first := whole - text.length - 1
  let inner := text.dropWhile Char.isWhitespace
  let rest := (inner.dropWhile Char.isDigit).dropWhile Char.isWhitespace
  let noDigits := (inner.takeWhile Char.isDigit).isEmpty
  if rest.isEmpty ∨ !noDigits then fail .countOpen first (whole - rest.length)
  else fail .countEmpty (whole - inner.length) (whole - inner.length)

/-- A pattern or a group of it, whose opening parenthesis stands at the given place. -/
def group (whole : Nat) : Nat → Option Nat → Flags → List Sequence → Sequence → List Char →
    Except PatternError (Pattern × List Char)
  | _, none, _, earlier, parts, [] => .ok (choice parts earlier, [])
  | _, some place, _, _, _, [] => fail .groupOpen place (place + 1)
  | 0, _, _, _, _, _ => fail .groupOpen 0 0
  | fuel + 1, outer, flags, earlier, parts, c :: rest => do
    let place := whole - (rest.length + 1)
    let along (part : Pattern) (rest : List Char) :=
      group whole fuel outer flags earlier (some part :: parts) rest
    match c with
    | ')' =>
      if outer.isSome then .ok (choice parts earlier, rest)
      else fail .groupClosed place (place + 1)
    | '|' => group whole fuel outer flags (parts :: earlier) [] rest
    | '(' =>
      match ← opening flags whole rest with
      | (.flags flags, rest) => group whole fuel outer flags earlier (none :: parts) rest
      | (.group inner, rest) =>
        let (part, rest) ← group whole fuel (some place) inner [] [] rest
        along part rest
    | '[' =>
      let (set, rest) ← bracketed flags whole rest
      along (.one set) rest
    | '.' => along (.one (if flags.dotAll then .compl .empty else .compl (.single '\n'))) rest
    | '^' => along .start rest
    | '$' => along .stop rest
    | '\\' =>
      match ← escape flags whole rest with
      | (.char c, rest) => along (.one (flags.set (.single c))) rest
      | (.set set, rest) => along (.one set) rest
      | (.start, rest) => along .start rest
      | (.stop, rest) => along .stop rest
    | c =>
      let (fewer, next) := match rest with
        | '?' :: next => (!flags.fewer, next)
        | rest => (flags.fewer, rest)
      match repetition? (!fewer) c, c == '\x7b', parts with
      | some repeated, _, some part :: parts =>
        group whole fuel outer flags earlier (some (repeated part) :: parts) next
      | none, true, some _ :: _ => counted whole rest
      | none, false, _ => along (.one (flags.set (.single c))) rest
      | _, _, _ => fail .nothingRepeated place place

def parse (text : List Char) : Except PatternError Pattern := do
  let (pattern, _) ← group text.length (text.length + 1) none {} [] [] text
  return pattern

end LatexTree.Pattern
