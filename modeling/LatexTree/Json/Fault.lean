import LatexTree.Json.Value
import LatexTree.Text.Quoted

/-! What can be wrong with a JSON text that is read as a value of a given kind. -/
namespace LatexTree.Json

inductive Expected where
  | text
  | sequence
  | natural
  | pair
  | record (name : String)
  | fields (name : String) (count : Nat)
  | nothing
deriving DecidableEq, Repr

inductive Found where
  | null
  | bool (value : Bool)
  | number (value : Number)
  | text (value : String)
  | sequence
  | map
deriving DecidableEq, Repr

inductive Place where
  | value
  | text
  | list
  | object
deriving DecidableEq, Repr

inductive Fault where
  | wrongType (found : Found) (expected : Expected)
  | wrongValue (found : Found) (expected : Expected)
  | wrongLength (length : Nat) (expected : Expected)
  | missing (field : String)
  | duplicate (field : String)
  | unknownVariant (name : String)
  | expectedValue
  | expectedWord
  | expectedColon
  | expectedListEnd
  | expectedObjectEnd
  | trailingCharacters
  | trailingComma
  | keyNotText
  | badEscape
  | badNumber
  | outOfRange
  | controlCharacter
  | loneSurrogate
  | brokenPair
  | tooDeep
  | ended (place : Place)
deriving DecidableEq, Repr

/-- The text does not fit the kind, is no JSON, or ends too early. -/
inductive Category where
  | unfit
  | illFormed
  | cutShort
deriving DecidableEq, Repr

namespace Expected

def phrase : Expected → String
  | .text => "a string"
  | .sequence => "a sequence"
  | .natural => "usize"
  | .pair => "an array of length 2"
  | .record name => s!"struct {name}"
  | .fields name count => s!"struct {name} with {count} elements"
  | .nothing => "unit"

end Expected

namespace Found

def phrase : Found → String
  | .null => "null"
  | .bool value => s!"boolean `{value}`"
  | .number (.real value) => s!"floating point `{String.ofList (numberLayout.binary64 value)}`"
  | .number value => s!"integer `{String.ofList value.chars}`"
  | .text value => s!"string {quoted value}"
  | .sequence => "sequence"
  | .map => "map"

end Found

namespace Place

def phrase : Place → String
  | .value => "a value"
  | .text => "a string"
  | .list => "a list"
  | .object => "an object"

end Place

namespace Fault

def message : Fault → String
  | .wrongType found expected => s!"invalid type: {found.phrase}, expected {expected.phrase}"
  | .wrongValue found expected => s!"invalid value: {found.phrase}, expected {expected.phrase}"
  | .wrongLength length expected => s!"invalid length {length}, expected {expected.phrase}"
  | .missing field => s!"missing field `{field}`"
  | .duplicate field => s!"duplicate field `{field}`"
  | .unknownVariant name => s!"unknown variant `{name}`, expected `comment`"
  | .expectedValue => "expected value"
  | .expectedWord => "expected ident"
  | .expectedColon => "expected `:`"
  | .expectedListEnd => "expected `,` or `]`"
  | .expectedObjectEnd => "expected `,` or `\x7d`"
  | .trailingCharacters => "trailing characters"
  | .trailingComma => "trailing comma"
  | .keyNotText => "key must be a string"
  | .badEscape => "invalid escape"
  | .badNumber => "invalid number"
  | .outOfRange => "number out of range"
  | .controlCharacter => "control character (\\u0000-\\u001F) found while parsing a string"
  | .loneSurrogate => "lone leading surrogate in hex escape"
  | .brokenPair => "unexpected end of hex escape"
  | .tooDeep => "recursion limit exceeded"
  | .ended place => s!"EOF while parsing {place.phrase}"

def category : Fault → Category
  | .wrongType .. | .wrongValue .. | .wrongLength .. | .missing .. | .duplicate ..
  | .unknownVariant .. => .unfit
  | .ended .. => .cutShort
  | _ => .illFormed

end Fault

end LatexTree.Json
