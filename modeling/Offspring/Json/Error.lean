import Offspring.Decimal.Float
import Offspring.Text.Quoted

/-!
# Why a JSON text cannot be read

Three classes of causes: the text is no JSON (`malformed`), it ends too early (`ends`), or it is
JSON of another shape than the reader wants (all others). `Error.message` is the wording of each.
-/

namespace Offspring.Json

/-- A number as written: a whole number that fits 64 bits, or a double. -/
inductive Number where
  | unsigned (n : Nat)
  | negative (n : Int)
  | real (x : Float)

/-- What stands where something else was wanted. -/
inductive Found where
  | null
  | boolean (b : Bool)
  | number (n : Number)
  | string (s : String)
  | sequence
  | map

/-- How a found thing is named in a message. -/
def Found.describe : Found → String
  | .null => "null"
  | .boolean b => "boolean `" ++ toString b ++ "`"
  | .number (.unsigned n) => "integer `" ++ toString n ++ "`"
  | .number (.negative n) => "integer `" ++ toString n ++ "`"
  | .number (.real x) => "floating point `" ++ Decimal.floatText x ++ "`"
  | .string s => "string " ++ Text.quoted s
  | .sequence => "sequence"
  | .map => "map"

/-- Where a text ended too early. -/
inductive Unfinished where
  | list
  | object
  | string
  | value

/-- What makes a text no JSON. -/
inductive Malformed where
  | expectedColon
  | expectedListCommaOrEnd
  | expectedObjectCommaOrEnd
  | expectedIdent
  | expectedValue
  | invalidEscape
  | invalidNumber
  | numberOutOfRange
  | controlCharacter
  | keyMustBeString
  | loneSurrogate
  | unexpectedEndOfHexEscape
  | trailingComma
  | trailingCharacters

/-- A cause for which a JSON text is refused. -/
inductive Error where
  | ends (inside : Unfinished)
  | malformed (cause : Malformed)
  | wrongType (found : Found) (expected : String)
  | wrongValue (found : Found) (expected : String)
  | wrongLength (length : Nat) (expected : String)
  | missingField (name : String)
  | duplicateField (name : String)

/-- The three classes of causes. -/
inductive Error.Class where
  | tooShort
  | syntactic
  | shape
  deriving DecidableEq

/-- The class of a cause. -/
def Error.classOf : Error → Error.Class
  | .ends _ => .tooShort
  | .malformed _ => .syntactic
  | _ => .shape

/-- The wording for a text that is no JSON. -/
def Malformed.message : Malformed → String
  | .expectedColon => "expected `:`"
  | .expectedListCommaOrEnd => "expected `,` or `]`"
  | .expectedObjectCommaOrEnd => "expected `,` or `\x7d`"
  | .expectedIdent => "expected ident"
  | .expectedValue => "expected value"
  | .invalidEscape => "invalid escape"
  | .invalidNumber => "invalid number"
  | .numberOutOfRange => "number out of range"
  | .controlCharacter =>
    "control character (\\u0000-\\u001F) found while parsing a string"
  | .keyMustBeString => "key must be a string"
  | .loneSurrogate => "lone leading surrogate in hex escape"
  | .unexpectedEndOfHexEscape => "unexpected end of hex escape"
  | .trailingComma => "trailing comma"
  | .trailingCharacters => "trailing characters"

/-- The wording for a text that ends too early. -/
def Unfinished.message : Unfinished → String
  | .list => "EOF while parsing a list"
  | .object => "EOF while parsing an object"
  | .string => "EOF while parsing a string"
  | .value => "EOF while parsing a value"

/-- The wording of a cause. -/
def Error.message : Error → String
  | .ends inside => inside.message
  | .malformed cause => cause.message
  | .wrongType found expected => "invalid type: " ++ found.describe ++ ", expected " ++ expected
  | .wrongValue found expected => "invalid value: " ++ found.describe ++ ", expected " ++ expected
  | .wrongLength n expected => "invalid length " ++ toString n ++ ", expected " ++ expected
  | .missingField name => "missing field `" ++ name ++ "`"
  | .duplicateField name => "duplicate field `" ++ name ++ "`"

end Offspring.Json
