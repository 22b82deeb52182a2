import LatexTree.Settings.Value
import LatexTree.Text.Digits

/-! The words and strings of a TOML document. Scanners take the text that is left and give what they
read together with what follows it. -/
namespace LatexTree.Toml

abbrev Scanner (α : Type) := List Char → Option (α × List Char)

def isBlank (c : Char) : Bool := c == ' ' || c == '\t'

/-- What may stand in comments and in strings; line ends have rules of their own. -/
def isPrintable (c : Char) : Bool := c == '\t' || 0x20 ≤ c.toNat && c.toNat != 0x7f

def skipBlanks (text : List Char) : List Char := text.dropWhile isBlank

def lineEnd? : List Char → Option (List Char)
  | '\n' :: rest => some rest
  | '\r' :: '\n' :: rest => some rest
  | _ => none

def skipLayout (comment : Bool) : List Char → Option (List Char)
  | [] => if comment then none else some []
  | '\r' :: '\n' :: rest => skipLayout false rest
  | '\n' :: rest => skipLayout false rest
  | c :: rest =>
    if comment then (if isPrintable c then skipLayout true rest else none)
    else if isBlank c then skipLayout false rest
    else if c = '#' then skipLayout true rest
    else some (c :: rest)

/-- What may follow on a line: blanks and a comment, then the end of the line or of the text. -/
def lineRest (text : List Char) : Option (List Char) :=
  let rest := match skipBlanks text with
    | '#' :: rest => rest.dropWhile isPrintable
    | rest => rest
  if rest.isEmpty then some [] else lineEnd? rest

/-! ### Strings -/

def hexNumber : Nat → Nat → Scanner Nat
  | 0, number, rest => some (number, rest)
  | _ + 1, _, [] => none
  | count + 1, number, c :: rest => do hexNumber count (number * 16 + (← hexValue? c)) rest

def codePoint (count : Nat) : Scanner Char := fun text => do
  let (number, rest) ← hexNumber count 0 text
  if number.isValidChar then some (Char.ofNat number, rest) else none

def escape : Scanner Char
  | 'b' :: rest => some ('\x08', rest)
  | 't' :: rest => some ('\t', rest)
  | 'n' :: rest => some ('\n', rest)
  | 'f' :: rest => some ('\x0c', rest)
  | 'r' :: rest => some ('\r', rest)
  | '"' :: rest => some ('"', rest)
  | '\\' :: rest => some ('\\', rest)
  | 'u' :: rest => codePoint 4 rest
  | 'U' :: rest => codePoint 8 rest
  | _ => none

def basicString : Nat → Scanner (List Char)
  | 0, _ => none
  | _, [] => none
  | fuel + 1, c :: rest =>
    if c = '"' then some ([], rest)
    else if c = '\\' then do
      let (c, rest) ← escape rest
      let (chars, rest) ← basicString fuel rest
      return (c :: chars, rest)
    else if isPrintable c then do
      let (chars, rest) ← basicString fuel rest
      return (c :: chars, rest)
    else none

def literalString : Scanner (List Char)
  | [] => none
  | c :: rest =>
    if c = '\'' then some ([], rest)
    else if isPrintable c then (literalString rest).map fun (chars, rest) => (c :: chars, rest)
    else none

/-- Up to two more quotes after the closing three belong to the string. -/
def closingQuotes (quote : Char) : List Char → List Char × List Char
  | a :: b :: rest =>
    if a = quote ∧ b = quote then ([quote, quote], rest)
    else if a = quote then ([quote], b :: rest)
    else ([], a :: b :: rest)
  | [a] => if a = quote then ([quote], []) else ([], [a])
  | [] => ([], [])

def skipBlankLines : List Char → List Char
  | '\r' :: '\n' :: rest => skipBlankLines rest
  | c :: rest => if isBlank c || c == '\n' then skipBlankLines rest else c :: rest
  | [] => []

/-- The text after a backslash, if nothing but blanks is left on its line. -/
def lineContinuation? (text : List Char) : Option (List Char) :=
  (lineEnd? (skipBlanks text)).map skipBlankLines

def multilineBasic : Nat → Scanner (List Char)
  | 0, _ => none
  | _, [] => none
  | _, '"' :: '"' :: '"' :: rest => some (closingQuotes '"' rest)
  | fuel + 1, '\r' :: '\n' :: rest => do
    let (chars, rest) ← multilineBasic fuel rest
    return ('\n' :: chars, rest)
  | fuel + 1, '\\' :: rest =>
    match lineContinuation? rest with
    | some rest => multilineBasic fuel rest
    | none => do
      let (c, rest) ← escape rest
      let (chars, rest) ← multilineBasic fuel rest
      return (c :: chars, rest)
  | fuel + 1, c :: rest =>
    if c = '\n' ∨ isPrintable c then do
      let (chars, rest) ← multilineBasic fuel rest
      return (c :: chars, rest)
    else none

def multilineLiteral : Scanner (List Char)
  | [] => none
  | '\'' :: '\'' :: '\'' :: rest => some (closingQuotes '\'' rest)
  | '\r' :: '\n' :: rest => (multilineLiteral rest).map fun (chars, rest) => ('\n' :: chars, rest)
  | c :: rest =>
    if c = '\n' ∨ isPrintable c then
      (multilineLiteral rest).map fun (chars, rest) => (c :: chars, rest)
    else none

/-- A line end right after the opening quotes does not count. -/
def skipFirstLineEnd (text : List Char) : List Char := (lineEnd? text).getD text

def string : Scanner String := fun text =>
  let chars := match text with
    | '"' :: '"' :: '"' :: rest => multilineBasic rest.length (skipFirstLineEnd rest)
    | '"' :: rest => basicString rest.length rest
    | '\'' :: '\'' :: '\'' :: rest => multilineLiteral (skipFirstLineEnd rest)
    | '\'' :: rest => literalString rest
    | _ => none
  chars.map fun (chars, rest) => (String.ofList chars, rest)

/-! ### Keys -/

def isBareKey (c : Char) : Bool := c.isAlphanum || c == '_' || c == '-'

def simpleKey : Scanner String := fun text =>
  match text with
  | '"' :: rest => (basicString rest.length rest).map fun (chars, rest) =>
    (String.ofList chars, rest)
  | '\'' :: rest => (literalString rest).map fun (chars, rest) => (String.ofList chars, rest)
  | text =>
    let bare := text.takeWhile isBareKey
    if bare.isEmpty then none else some (String.ofList bare, text.dropWhile isBareKey)

def keyParts : Nat → Scanner (List String)
  | 0, _ => none
  | fuel + 1, text => do
    let (part, rest) ← simpleKey (skipBlanks text)
    match skipBlanks rest with
    | '.' :: rest =>
      let (parts, rest) ← keyParts fuel rest
      return (part :: parts, rest)
    | rest => return ([part], rest)

def depthLimit : Nat := 79

def key : Scanner (List String) := fun text => do
  let (parts, rest) ← keyParts (text.length + 1) text
  if parts.length ≤ depthLimit then some (parts, rest) else none

/-! ### Words -/

def isWordChar (c : Char) : Bool :=
  c.isAlphanum || c == '_' || c == '+' || c == '-' || c == '.' || c == ':'

/-- Digits, with single underscores between them. -/
def digitGroups? (isDigit : Char → Bool) : List Char → Option (List Char)
  | [] => none
  | [c] => if isDigit c then some [c] else none
  | c :: '_' :: rest => if isDigit c then (digitGroups? isDigit rest).map (c :: ·) else none
  | c :: rest => if isDigit c then (digitGroups? isDigit rest).map (c :: ·) else none

def isHexDigit (c : Char) : Bool := (hexValue? c).isSome

def radixValue (radix : Nat) (digits : List Char) : Nat :=
  digits.foldl (fun n c => n * radix + (hexValue? c).getD 0) 0

/-- A decimal integer without a leading zero. -/
def decimal? (text : List Char) : Option (List Char) := do
  let digits ← digitGroups? Char.isDigit text
  if digits.head? = some '0' ∧ 1 < digits.length then none else some digits

def inRange (value : Int) : Option Int :=
  if -Int.pow 2 63 ≤ value ∧ value < Int.pow 2 63 then some value else none

def radixInteger? (radix : Nat) (isDigit : Char → Bool) (text : List Char) : Option Int := do
  inRange (radixValue radix (← digitGroups? isDigit text))

def integer? : List Char → Option Int
  | '0' :: 'x' :: rest => radixInteger? 16 isHexDigit rest
  | '0' :: 'o' :: rest => radixInteger? 8 (fun c => '0' ≤ c && c ≤ '7') rest
  | '0' :: 'b' :: rest => radixInteger? 2 (fun c => c == '0' || c == '1') rest
  | text => do
    let (negative, rest) := RealValue.signed text
    let value : Int := digitsValue (← decimal? rest)
    inRange (if negative then -value else value)

def isExponentMark (c : Char) : Bool := c == 'e' || c == 'E'

def exponent? : List Char → Option Int
  | [] => some 0
  | _ :: rest => do
    let (negative, digits) := RealValue.signed rest
    let power : Int := digitsValue (← digitGroups? Char.isDigit digits)
    return if negative then -power else power

/-- A real number has a fraction or an exponent, and only a negative one may be too large. -/
def real? (text : List Char) : Option RealValue := do
  let (negative, rest) := RealValue.signed text
  let mantissa := rest.takeWhile fun c => !isExponentMark c
  let whole ← decimal? (mantissa.takeWhile (· != '.'))
  let fraction ← match mantissa.dropWhile (· != '.') with
    | [] => some []
    | _ :: rest => digitGroups? Char.isDigit rest
  let power := rest.dropWhile fun c => !isExponentMark c
  if fraction.isEmpty ∧ power.isEmpty then none
  else
    let exponent ← exponent? power
    let value := RealValue.ofDecimal negative (digitsValue (whole ++ fraction))
      (exponent - fraction.length)
    if value = .infinite false then none else some value

def special? (text : List Char) : Option RealValue :=
  let (negative, rest) := RealValue.signed text
  if rest = ['i', 'n', 'f'] then some (.infinite negative)
  else if rest = ['n', 'a', 'n'] then some .undefined
  else none

/-! ### Dates and times -/

def twoDigits? (low high : Nat) : Scanner Nat
  | a :: b :: rest =>
    let value := digitsValue [a, b]
    if a.isDigit ∧ b.isDigit ∧ low ≤ value ∧ value ≤ high then some (value, rest) else none
  | _ => none

def expect (c : Char) : Scanner Unit
  | first :: rest => if first = c then some ((), rest) else none
  | [] => none

def monthDays (year month : Nat) : Nat :=
  if month = 2 then
    if year % 4 = 0 ∧ (year % 100 ≠ 0 ∨ year % 400 = 0) then 29 else 28
  else if month = 4 ∨ month = 6 ∨ month = 9 ∨ month = 11 then 30
  else 31

def padded (width n : Nat) : String :=
  let digits := Nat.toDigits 10 n
  String.ofList (List.replicate (width - digits.length) '0' ++ digits)

def date : Scanner String := fun text => do
  let (century, rest) ← twoDigits? 0 99 text
  let (decade, rest) ← twoDigits? 0 99 rest
  let year := century * 100 + decade
  let (_, rest) ← expect '-' rest
  let (month, rest) ← twoDigits? 1 12 rest
  let (_, rest) ← expect '-' rest
  let (day, rest) ← twoDigits? 1 (monthDays year month) rest
  return (padded 4 year ++ "-" ++ padded 2 month ++ "-" ++ padded 2 day, rest)

/-- A fraction of a second, nine digits at most and no zeros at its end. -/
def secondFraction : Scanner String
  | '.' :: rest =>
    let digits := rest.takeWhile Char.isDigit
    if digits.isEmpty then none
    else
      let kept := ((digits.take 9).reverse.dropWhile (· = '0')).reverse
      some (if kept.isEmpty then "" else "." ++ String.ofList kept, rest.dropWhile Char.isDigit)
  | rest => some ("", rest)

def time (lastHour : Nat) : Scanner String := fun text => do
  let (hour, rest) ← twoDigits? 0 lastHour text
  let (_, rest) ← expect ':' rest
  let (minute, rest) ← twoDigits? 0 59 rest
  let (_, rest) ← expect ':' rest
  let (second, rest) ← twoDigits? 0 60 rest
  let (fraction, rest) ← secondFraction rest
  return (padded 2 hour ++ ":" ++ padded 2 minute ++ ":" ++ padded 2 second ++ fraction, rest)

def offset? : List Char → Option String
  | [] => some ""
  | ['Z'] => some "Z"
  | ['z'] => some "Z"
  | sign :: text => do
    let (hours, rest) ← twoDigits? 0 23 text
    let (_, rest) ← expect ':' rest
    let (minutes, rest) ← twoDigits? 0 59 rest
    if rest.isEmpty ∧ (sign = '+' ∨ sign = '-') then
      let shown := if hours = 0 ∧ minutes = 0 then '+' else sign
      some (shown.toString ++ padded 2 hours ++ ":" ++ padded 2 minutes)
    else none

def zonedTime? (text : List Char) : Option String := do
  let (time, rest) ← time 23 text
  return time ++ (← offset? rest)

def localTime? (lastHour : Nat) (text : List Char) : Option String := do
  let (time, rest) ← time lastHour text
  if rest.isEmpty then some time else none

def dateTime? (text : List Char) : Option String := do
  let (date, rest) ← date text
  match rest with
  | [] => some date
  | mark :: rest => if mark = 'T' ∨ mark = 't' then return date ++ "T" ++ (← zonedTime? rest) else none

/-- An offset in a quoted date, in which hours and minutes together make a day at most. -/
def quotedOffset? : List Char → Option String
  | [] => some ""
  | ['Z'] => some "Z"
  | ['z'] => some "Z"
  | sign :: text => do
    let (hours, rest) ← twoDigits? 0 99 text
    let (_, rest) ← expect ':' rest
    let (minutes, rest) ← twoDigits? 0 99 rest
    let total := hours * 60 + minutes
    if rest.isEmpty ∧ (sign = '+' ∨ sign = '-') ∧ total ≤ 24 * 60 then
      let shown := if total = 0 then '+' else sign
      some (shown.toString ++ padded 2 (total / 60) ++ ":" ++ padded 2 (total % 60))
    else none

/-- A date or time in quotes. The rules are wider there: a day may reach its last hour, and a blank
may stand before the time. -/
def quotedDate? (text : List Char) : Option String :=
  if text[2]? = some ':' then localTime? 24 text
  else do
    let (date, rest) ← date text
    match rest with
    | [] => some date
    | mark :: rest =>
      if mark = 'T' ∨ mark = 't' ∨ mark = ' ' then
        let (time, rest) ← time 24 rest
        return date ++ "T" ++ time ++ (← quotedOffset? rest)
      else none

inductive Word where
  | scalar (value : Scalar)
  | date (text : String)
deriving DecidableEq, Repr

def word? (text : List Char) : Option Word :=
  if text = ['t', 'r', 'u', 'e'] then some (.scalar (.bool true))
  else if text = ['f', 'a', 'l', 's', 'e'] then some (.scalar (.bool false))
  else
    ((dateTime? text).or (localTime? 23 text)).map .date |>.or
      (((real? text).or (special? text)).map (.scalar <| .real ·)) |>.or
      ((integer? text).map (.scalar <| .int ·))

/-- A date may have a time after a blank, so that it takes up two words. -/
def word : Scanner Word := fun text =>
  let first := text.takeWhile isWordChar
  let rest := text.dropWhile isWordChar
  match date first, rest with
  | some (date, []), ' ' :: next =>
    if (next.head?.map Char.isDigit).getD false then do
      let time ← zonedTime? (next.takeWhile isWordChar)
      return (.date (date ++ "T" ++ time), next.dropWhile isWordChar)
    else some (.date date, rest)
  | _, _ => (word? first).map fun word => (word, rest)

end LatexTree.Toml
