import Gamebook.Number.Layout
import Gamebook.Text.Quoted

/-!
# Gamebook — what can be wrong with a JSON text

* `Json.Found` — what stands where a value of another kind is due.
* `Json.Error` — the causes for which a text is refused.
* `Json.Error.message` — the wording of a cause, without its place in the text.
-/

namespace Gamebook.Json

/-- What a text may end in the middle of. -/
inductive Unfinished where
  | value
  | object
  | list
  | string
deriving DecidableEq

/-- What stands where a value of another kind is due. -/
inductive Found where
  | null
  | boolean (b : Bool)
  | integer (i : Int)
  | real (x : Number)
  | text (s : String)
  | sequence
  | map
deriving DecidableEq

/-- Why a JSON text is refused. -/
inductive Error where
  | endOfText (within : Unfinished)
  | expectedValue
  /-- A word that begins like `true`, `false` or `null` and goes on differently. -/
  | expectedIdent
  | expectedColon
  | expectedCommaOrBrace
  | expectedCommaOrBracket
  | keyNotString
  | trailingComma
  | trailingCharacters
  | invalidNumber
  | numberOutOfRange
  | controlCharacter
  | invalidEscape
  /-- The first half of a surrogate pair without an escape after it. -/
  | surrogateAlone
  /-- A second half in front, or a first half before something else than a second half. -/
  | surrogateUnpaired
  | tooDeep
  | missingField (name : String)
  | duplicateField (name : String)
  | tooFewElements (found : Nat) (record : String) (fields : Nat)
  | wrongKind (found : Found) (expected : String)
  | wrongValue (found : Found) (expected : String)
  | unknownVariant (name : String) (known : List String)
  | noVariant (type : String)
deriving DecidableEq

def Unfinished.name : Unfinished → String
  | value => "a value"
  | object => "an object"
  | list => "a list"
  | string => "a string"

/-- A name between backticks. -/
def ticked (s : String) : String := "\x60" ++ s ++ "\x60"

def Found.describe : Found → String
  | null => "null"
  | boolean b => "boolean " ++ ticked (if b then "true" else "false")
  | integer i => "integer " ++ ticked (toString i)
  | real x => "floating point " ++ ticked (String.ofList (x.write .json))
  | text s => "string " ++ Text.quoted s
  | sequence => "sequence"
  | map => "map"

/-- The wording of a cause. It does not end with the line and the column at which a text went
wrong: causes are told without their places, and no reader keeps count of them. -/
def Error.message : Error → String
  | endOfText within => "EOF while parsing " ++ within.name
  | expectedValue => "expected value"
  | expectedIdent => "expected ident"
  | expectedColon => "expected " ++ ticked ":"
  | expectedCommaOrBrace => "expected " ++ ticked "," ++ " or " ++ ticked "\x7d"
  | expectedCommaOrBracket => "expected " ++ ticked "," ++ " or " ++ ticked "]"
  | keyNotString => "key must be a string"
  | trailingComma => "trailing comma"
  | trailingCharacters => "trailing characters"
  | invalidNumber => "invalid number"
  | numberOutOfRange => "number out of range"
  | controlCharacter => "control character (\\u0000-\\u001F) found while parsing a string"
  | invalidEscape => "invalid escape"
  | surrogateAlone => "unexpected end of hex escape"
  | surrogateUnpaired => "lone leading surrogate in hex escape"
  | tooDeep => "recursion limit exceeded"
  | missingField name => "missing field " ++ ticked name
  | duplicateField name => "duplicate field " ++ ticked name
  | tooFewElements found record fields =>
    "invalid length " ++ toString found ++ ", expected struct " ++ record ++ " with " ++
      toString fields ++ (if fields = 1 then " element" else " elements")
  | wrongKind found expected => "invalid type: " ++ found.describe ++ ", expected " ++ expected
  | wrongValue found expected => "invalid value: " ++ found.describe ++ ", expected " ++ expected
  | unknownVariant name known =>
    "unknown variant " ++ ticked name ++ ", expected one of " ++
      ", ".intercalate (known.map ticked)
  | noVariant type => "data did not match any variant of untagged enum " ++ type

end Gamebook.Json
