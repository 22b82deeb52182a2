import LatexTree.Json.Fault
import LatexTree.Text.Digits

/-! Reading JSON from left to right. The first fault met is the one reported, whatever follows it. -/
namespace LatexTree.Json

abbrev Reader := StateT (List Char) (Except Fault)

def isBlank (c : Char) : Bool := c == ' ' || c == '\n' || c == '\t' || c == '\r'

/-- Passes over blanks and looks at the character after them. -/
def peek : Reader (Option Char) := do
  let rest := (← get).dropWhile isBlank
  set rest
  return rest.head?

def advance : Reader Unit := modify List.tail

def scan {α : Type} (scanner : List Char → Except Fault (α × List Char)) : Reader α := scanner

def wordRest : List Char → List Char → Except Fault (Unit × List Char)
  | [], rest => .ok ((), rest)
  | _ :: _, [] => .error (.ended .value)
  | letter :: letters, c :: rest =>
    if c = letter then wordRest letters rest else .error .expectedWord

/-! ### Numbers -/

/-- The largest number read digit by digit; what is beyond it is read as a real number. -/
def wordLimit : Nat := Nat.pow 2 64 - 1

/-- Appends digits to a number as long as it keeps within the limit; the digits after that are left
over. -/
def absorb (number : Nat) : List Char → Nat × List Char
  | [] => (number, [])
  | c :: rest =>
    let next := number * 10 + digitValue c
    if next ≤ wordLimit then absorb next rest else (number, c :: rest)

structure Mantissa where
  digits : Nat
  exponent : Int
  whole : Bool
deriving DecidableEq, Repr

def fraction (mantissa : Mantissa) : List Char → Except Fault (Mantissa × List Char)
  | '.' :: rest =>
    let run := rest.takeWhile Char.isDigit
    let after := rest.dropWhile Char.isDigit
    if run.isEmpty then .error (if after.isEmpty then .ended .value else .badNumber)
    else
      let (digits, dropped) := absorb mantissa.digits run
      .ok (⟨digits, mantissa.exponent - (run.length - dropped.length), false⟩, after)
  | rest => .ok (mantissa, rest)

def exponentDigits (mantissa : Mantissa) (negative : Bool) (text : List Char) :
    Except Fault (Mantissa × List Char) :=
  let run := text.takeWhile Char.isDigit
  let after := text.dropWhile Char.isDigit
  if run.isEmpty then .error (if after.isEmpty then .ended .value else .badNumber)
  else
    let power : Int := digitsValue run
    .ok (⟨mantissa.digits, mantissa.exponent + (if negative then -power else power), false⟩, after)

def exponent (mantissa : Mantissa) : List Char → Except Fault (Mantissa × List Char)
  | [] => .ok (mantissa, [])
  | c :: rest =>
    if c = 'e' ∨ c = 'E' then
      match rest with
      | '+' :: rest => exponentDigits mantissa false rest
      | '-' :: rest => exponentDigits mantissa true rest
      | rest => exponentDigits mantissa false rest
    else .ok (mantissa, c :: rest)

/-- A whole number stays whole if a word of 64 bits holds it; minus zero does not. -/
def Mantissa.toNumber (negative : Bool) (mantissa : Mantissa) : Except Fault Number :=
  if mantissa.whole ∧ ¬ negative then .ok (.natural mantissa.digits)
  else if mantissa.whole ∧ mantissa.digits ≠ 0 ∧ mantissa.digits ≤ Nat.pow 2 63 then
    .ok (.negative mantissa.digits)
  else
    match (Magnitude.ofNat mantissa.digits).scaleTen mantissa.exponent with
    | none => .error .outOfRange
    | some magnitude => .ok (.real ⟨negative, magnitude⟩)

/-- The digits before the point. A leading zero stands alone. -/
def integerPart : List Char → Except Fault (Mantissa × List Char)
  | [] => .error (.ended .value)
  | '0' :: rest =>
    if (rest.head?.map Char.isDigit).getD false then .error .badNumber else .ok (⟨0, 0, true⟩, rest)
  | c :: rest =>
    if c.isDigit then
      let (digits, dropped) := absorb 0 ((c :: rest).takeWhile Char.isDigit)
      .ok (⟨digits, dropped.length, dropped.isEmpty⟩, (c :: rest).dropWhile Char.isDigit)
    else .error .badNumber

def number (negative : Bool) (text : List Char) : Except Fault (Number × List Char) := do
  let (mantissa, rest) ← integerPart text
  let (mantissa, rest) ← fraction mantissa rest
  let (mantissa, rest) ← exponent mantissa rest
  return (← mantissa.toNumber negative, rest)

/-! ### Texts -/

/-- Four hexadecimal digits. Four bytes that are not such digits are a bad escape, fewer are the end
of the text. -/
def hexUnit (text : List Char) : Except Fault (Nat × List Char) :=
  match text with
  | a :: b :: c :: d :: rest =>
    match hexValue? a, hexValue? b, hexValue? c, hexValue? d with
    | some a, some b, some c, some d => .ok (((a * 16 + b) * 16 + c) * 16 + d, rest)
    | _, _, _, _ => .error .badEscape
  | few => .error (if few.foldr (·.utf8Size + ·) 0 < 4 then .ended .text else .badEscape)

def isHighSurrogate (unit : Nat) : Bool := 0xD800 ≤ unit && unit ≤ 0xDBFF

def isLowSurrogate (unit : Nat) : Bool := 0xDC00 ≤ unit && unit ≤ 0xDFFF

def lowHalf (high : Nat) : List Char → Except Fault (Char × List Char)
  | [] => .error (.ended .text)
  | ['\\'] => .error (.ended .text)
  | '\\' :: 'u' :: rest => do
    let (low, rest) ← hexUnit rest
    if isLowSurrogate low then
      return (Char.ofNat (0x10000 + (high - 0xD800) * 0x400 + (low - 0xDC00)), rest)
    else throw .loneSurrogate
  | _ => .error .brokenPair

def unicodeEscape (text : List Char) : Except Fault (Char × List Char) := do
  let (unit, rest) ← hexUnit text
  if isLowSurrogate unit then throw .loneSurrogate
  else if isHighSurrogate unit then lowHalf unit rest
  else return (Char.ofNat unit, rest)

def simpleEscape? (c : Char) : Option Char :=
  if c = '"' ∨ c = '\\' ∨ c = '/' then some c
  else if c = 'b' then some '\x08'
  else if c = 'f' then some '\x0c'
  else if c = 'n' then some '\n'
  else if c = 'r' then some '\r'
  else if c = 't' then some '\t'
  else none

def escape : List Char → Except Fault (Char × List Char)
  | [] => .error (.ended .text)
  | c :: rest =>
    match simpleEscape? c with
    | some c => .ok (c, rest)
    | none => if c = 'u' then unicodeEscape rest else .error .badEscape

theorem hexUnit_shorter {text rest : List Char} {unit : Nat}
    (read : hexUnit text = .ok (unit, rest)) : rest.length < text.length := by
  unfold hexUnit at read
  split at read
  · split at read
    · simp only [Except.ok.injEq, Prod.mk.injEq] at read
      obtain ⟨-, rfl⟩ := read
      simp only [List.length_cons]
      omega
    · contradiction
  · contradiction

theorem lowHalf_shorter {high : Nat} {text rest : List Char} {c : Char}
    (read : lowHalf high text = .ok (c, rest)) : rest.length < text.length := by
  unfold lowHalf at read
  split at read
  · contradiction
  · contradiction
  · next after =>
    cases low : hexUnit after with
    | error fault => simp [low, bind, Except.bind] at read
    | ok step =>
      obtain ⟨unit, left⟩ := step
      have shorter := hexUnit_shorter low
      simp only [low, bind, Except.bind] at read
      split at read
      · simp only [pure, Except.pure, Except.ok.injEq, Prod.mk.injEq] at read
        obtain ⟨-, rfl⟩ := read
        simp only [List.length_cons]
        omega
      · contradiction
  · contradiction

theorem escape_shorter {text rest : List Char} {c : Char}
    (read : escape text = .ok (c, rest)) : rest.length < text.length := by
  cases text with
  | nil => simp [escape] at read
  | cons first after =>
    simp only [escape] at read
    split at read
    · simp only [Except.ok.injEq, Prod.mk.injEq] at read
      obtain ⟨-, rfl⟩ := read
      simp
    · split at read
      · simp only [unicodeEscape] at read
        cases unit : hexUnit after with
        | error fault => simp [unit, bind, Except.bind] at read
        | ok step =>
          obtain ⟨value, left⟩ := step
          have shorter := hexUnit_shorter unit
          simp only [unit, bind, Except.bind] at read
          split at read
          · contradiction
          · split at read
            · have := lowHalf_shorter read
              simp only [List.length_cons]
              omega
            · simp only [pure, Except.pure, Except.ok.injEq, Prod.mk.injEq] at read
              obtain ⟨-, rfl⟩ := read
              simp only [List.length_cons]
              omega
      · contradiction

def textRest (text : List Char) : Except Fault (List Char × List Char) :=
  match text with
  | [] => .error (.ended .text)
  | c :: rest =>
    if c = '"' then .ok ([], rest)
    else if c = '\\' then
      match _ : escape rest with
      | .error fault => .error fault
      | .ok (c, after) => (textRest after).map fun (chars, left) => (c :: chars, left)
    else if c.toNat < 0x20 then .error .controlCharacter
    else (textRest rest).map fun (chars, left) => (c :: chars, left)
termination_by text.length
decreasing_by
  · have := escape_shorter ‹escape rest = _›
    simp only [List.length_cons]
    omega
  · simp

def readText : Reader String := do return String.ofList (← scan textRest)

/-! ### Values of the wrong kind -/

/-- Reads as much of a value as it takes to say what it is, and refuses it. -/
def mismatch {α : Type} (expected : Expected) : Reader α := do
  let refuse (found : Found) : Reader α := throw (.wrongType found expected)
  match ← peek with
  | none => throw (.ended .value)
  | some 'n' => advance; scan (wordRest ['u', 'l', 'l']); refuse .null
  | some 't' => advance; scan (wordRest ['r', 'u', 'e']); refuse (.bool true)
  | some 'f' => advance; scan (wordRest ['a', 'l', 's', 'e']); refuse (.bool false)
  | some '-' => advance; refuse (.number (← scan (number true)))
  | some '"' => advance; refuse (.text (← readText))
  | some '[' => refuse .sequence
  | some '\x7b' => refuse .map
  | some c => if c.isDigit then refuse (.number (← scan (number false))) else throw .expectedValue

/-! ### Brackets -/

def openBracket (budget : Nat) : Reader Unit :=
  if budget = 0 then throw .tooDeep else advance

/-- Whether a list goes on, and then up to its next item. -/
def nextItem (first : Bool) : Reader Bool := do
  match ← peek with
  | none => throw (.ended .list)
  | some ']' => return false
  | some c =>
    if first then return true
    else if c = ',' then
      advance
      match ← peek with
      | none => throw (.ended .value)
      | some ']' => throw .trailingComma
      | some _ => return true
    else throw .expectedListEnd

def closeList : Reader Unit := do
  match ← peek with
  | none => throw (.ended .list)
  | some ']' => advance
  | some ',' =>
    advance
    if (← peek) = some ']' then throw .trailingComma else throw .trailingCharacters
  | some _ => throw .trailingCharacters

def nextKey (first : Bool) : Reader Bool := do
  match ← peek with
  | none => throw (.ended .object)
  | some '\x7d' => return false
  | some c =>
    if first then
      if c = '"' then return true else throw .keyNotText
    else if c = ',' then
      advance
      match ← peek with
      | none => throw (.ended .value)
      | some '"' => return true
      | some '\x7d' => throw .trailingComma
      | some _ => throw .keyNotText
    else throw .expectedObjectEnd

def readColon : Reader Unit := do
  match ← peek with
  | none => throw (.ended .object)
  | some ':' => advance
  | some _ => throw .expectedColon

/-- The items of a list up to its closing bracket; each takes at least one character. -/
def itemsFrom {α : Type} (item : Reader α) : Nat → Bool → Reader (List α)
  | 0, _ => throw (.ended .list)
  | fuel + 1, first => do
    if ← nextItem first then
      let value ← item
      return value :: (← itemsFrom item fuel false)
    else return []

def readItems {α : Type} (item : Reader α) : Reader (List α) := do
  itemsFrom item ((← get).length + 1) true

def membersFrom {δ : Type} (add : String → δ → Reader δ) : Nat → Bool → δ → Reader δ
  | 0, _, _ => throw (.ended .object)
  | fuel + 1, first, draft => do
    if ← nextKey first then
      advance
      let key ← readText
      membersFrom add fuel false (← add key draft)
    else return draft

def readMembers {δ : Type} (add : String → δ → Reader δ) (draft : δ) : Reader δ := do
  membersFrom add ((← get).length + 1) true draft

def decode {α : Type} (reader : Reader α) (text : String) : Except Fault α := do
  let (value, rest) ← reader.run text.toList
  if (rest.dropWhile isBlank).isEmpty then return value else throw .trailingCharacters

end LatexTree.Json
