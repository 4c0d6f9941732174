import TemplateLint.Json.Value
import TemplateLint.Number.Notation
import TemplateLint.Text.Quoted

/-!
# Faults in JSON text

The causes for which a JSON text, or a JSON value where a certain kind of value is
expected, is refused, and the one function that puts a cause into words.
-/

namespace TemplateLint.Json

/-- What was found in the place of an expected value. -/
inductive Found where
  | null
  | bool (value : Bool)
  | integer (value : Int)
  | double (value : Binary64)
  | text (value : String)
  | sequence
  | map
deriving DecidableEq

/-- A cause for refusing a JSON text or value. -/
inductive Fault where
  | endInValue
  | endInObject
  | endInList
  | endInString
  | expectedValue
  | expectedWord
  | expectedColon
  | expectedCommaOrBrace
  | expectedCommaOrBracket
  | keyNotString
  | trailingComma
  | trailingCharacters
  | invalidNumber
  | numberTooLarge
  | invalidEscape
  | lonelySurrogate
  | unfinishedSurrogate
  | controlCharacter
  | tooDeep
  | wrongType (found : Found) (expected : String)
  | wrongValue (found : Found) (expected : String)
  | missingField (name : String)
  | repeatedField (name : String)
  | wrongLength (length : Nat) (expected : String)
  | unknownVariant (name : String) (expected : String)
  | noVariant (type : String)
  | other (message : String)
deriving DecidableEq

/-- What is found when the given value stands in the place of an expected one. -/
def Found.ofValue : Value → Found
  | .null => .null
  | .bool b => .bool b
  | .number (.integer i) => .integer i
  | .number (.double x) => .double x
  | .text s => .text s
  | .list _ => .sequence
  | .object _ => .map

/-- The description of what was found. -/
def Found.message : Found → String
  | .null => "null"
  | .bool b => "boolean `" ++ (if b then "true" else "false") ++ "`"
  | .integer i => "integer `" ++ toString i ++ "`"
  | .double x => "floating point `" ++ x.toText ++ "`"
  | .text s => "string " ++ Text.quote s
  | .sequence => "sequence"
  | .map => "map"

/-- The wording of a fault. -/
def Fault.message : Fault → String
  | endInValue => "EOF while parsing a value"
  | endInObject => "EOF while parsing an object"
  | endInList => "EOF while parsing a list"
  | endInString => "EOF while parsing a string"
  | expectedValue => "expected value"
  | expectedWord => "expected ident"
  | expectedColon => "expected `:`"
  | expectedCommaOrBrace => "expected `,` or `\x7d`"
  | expectedCommaOrBracket => "expected `,` or `]`"
  | keyNotString => "key must be a string"
  | trailingComma => "trailing comma"
  | trailingCharacters => "trailing characters"
  | invalidNumber => "invalid number"
  | numberTooLarge => "number out of range"
  | invalidEscape => "invalid escape"
  | lonelySurrogate => "lone leading surrogate in hex escape"
  | unfinishedSurrogate => "unexpected end of hex escape"
  | controlCharacter => "control character (\\u0000-\\u001F) found while parsing a string"
  | tooDeep => "recursion limit exceeded"
  | wrongType found expected => "invalid type: " ++ found.message ++ ", expected " ++ expected
  | wrongValue found expected => "invalid value: " ++ found.message ++ ", expected " ++ expected
  | missingField name => "missing field `" ++ name ++ "`"
  | repeatedField name => "duplicate field `" ++ name ++ "`"
  | wrongLength length expected =>
    "invalid length " ++ toString length ++ ", expected " ++ expected
  | unknownVariant name expected => "unknown variant `" ++ name ++ "`, expected " ++ expected
  | noVariant type => "data did not match any variant of untagged enum " ++ type
  | other message => message

end TemplateLint.Json
