import LatexTree.Json.Reader

/-! Passing over a value that is not wanted. Nothing is decoded, so halves of surrogate pairs and
numbers of any size pass, and brackets may nest to any depth. -/
namespace LatexTree.Json

def skipTextRest (text : List Char) : Except Fault (Unit × List Char) :=
  match text with
  | [] => .error (.ended .text)
  | '"' :: rest => .ok ((), rest)
  | ['\\'] => .error (.ended .text)
  | '\\' :: 'u' :: rest =>
    match _ : hexUnit rest with
    | .error fault => .error fault
    | .ok (_, after) => skipTextRest after
  | '\\' :: c :: rest =>
    if (simpleEscape? c).isSome then skipTextRest rest else .error .badEscape
  | c :: rest => if c.toNat < 0x20 then .error .controlCharacter else skipTextRest rest
termination_by text.length
decreasing_by
  · have := hexUnit_shorter ‹hexUnit rest = _›
    simp only [List.length_cons]
    omega
  · simp only [List.length_cons]; omega
  · simp

def skipFraction : List Char → Except Fault (Unit × List Char)
  | '.' :: rest =>
    if (rest.takeWhile Char.isDigit).isEmpty then .error .badNumber
    else .ok ((), rest.dropWhile Char.isDigit)
  | rest => .ok ((), rest)

def skipSign : List Char → List Char
  | '+' :: rest => rest
  | '-' :: rest => rest
  | rest => rest

def skipExponent : List Char → Except Fault (Unit × List Char)
  | [] => .ok ((), [])
  | c :: rest =>
    if c = 'e' ∨ c = 'E' then
      if ((skipSign rest).takeWhile Char.isDigit).isEmpty then .error .badNumber
      else .ok ((), (skipSign rest).dropWhile Char.isDigit)
    else .ok ((), c :: rest)

def skipNumber (text : List Char) : Except Fault (Unit × List Char) := do
  let rest ←
    match text with
    | '0' :: rest =>
      if (rest.head?.map Char.isDigit).getD false then throw .badNumber else pure rest
    | text =>
      if (text.takeWhile Char.isDigit).isEmpty then throw .badNumber
      else pure (text.dropWhile Char.isDigit)
  let (_, rest) ← skipFraction rest
  skipExponent rest

def skipKey : Reader Unit := do
  match ← peek with
  | none => throw (.ended .object)
  | some '"' => advance; scan skipTextRest; readColon
  | some _ => throw .keyNotText

mutual

/-- Each step takes a character of the text, so its length is fuel enough. -/
def skipFrom : Nat → Reader Unit
  | 0 => throw (.ended .value)
  | fuel + 1 => do
    match ← peek with
    | none => throw (.ended .value)
    | some 'n' => advance; scan (wordRest ['u', 'l', 'l'])
    | some 't' => advance; scan (wordRest ['r', 'u', 'e'])
    | some 'f' => advance; scan (wordRest ['a', 'l', 's', 'e'])
    | some '-' => advance; scan skipNumber
    | some '"' => advance; scan skipTextRest
    | some '[' =>
      advance
      match ← peek with
      | none => throw (.ended .list)
      | some ']' => advance
      | some _ => skipItems fuel
    | some '\x7b' =>
      advance
      match ← peek with
      | none => throw (.ended .object)
      | some '\x7d' => advance
      | some _ => skipMembers fuel
    | some c => if c.isDigit then scan skipNumber else throw .expectedValue

def skipItems : Nat → Reader Unit
  | 0 => throw (.ended .list)
  | fuel + 1 => do
    skipFrom fuel
    match ← peek with
    | none => throw (.ended .list)
    | some ',' => advance; skipItems fuel
    | some ']' => advance
    | some _ => throw .expectedListEnd

def skipMembers : Nat → Reader Unit
  | 0 => throw (.ended .object)
  | fuel + 1 => do
    skipKey
    skipFrom fuel
    match ← peek with
    | none => throw (.ended .object)
    | some ',' => advance; skipMembers fuel
    | some '\x7d' => advance
    | some _ => throw .expectedObjectEnd

end

def skipValue : Reader Unit := do skipFrom (2 * (← get).length + 2)

end LatexTree.Json
