/-
  FilterRules — why a text is not JSON, and where that shows.

  A reader stops at the first fault.  It keeps the cause and how much of the
  text is left behind the place where it stopped, from which the place is found
  when the whole text is known.

  * `Cause` and its wording;
  * `Fault.at` is a fault that shows at the next character: reading stops behind
    that character's first byte, or at the end of the text if there is none;
  * `Position` counts lines from 1 and, in a line, bytes;
  * `Fault.describe` is the message with the position.
-/
import FilterRules.Text.Basic

namespace FilterRules.Json

open Text (byteCount)

/-- What is wrong with a text that should be JSON. -/
inductive Cause where
  | endInValue
  | endInList
  | endInObject
  | endInString
  | expectedValue
  | expectedLiteral
  | expectedColon
  | expectedCommaOrBracket
  | expectedCommaOrBrace
  | expectedKey
  | trailingComma
  | trailingCharacters
  | invalidNumber
  | numberOutOfRange
  | invalidEscape
  | loneSurrogate
  | unfinishedSurrogatePair
  | controlCharacter
  | nestedTooDeep
  deriving DecidableEq, Repr

/-- The wording of a cause. -/
def Cause.message : Cause → String
  | .endInValue => "EOF while parsing a value"
  | .endInList => "EOF while parsing a list"
  | .endInObject => "EOF while parsing an object"
  | .endInString => "EOF while parsing a string"
  | .expectedValue => "expected value"
  | .expectedLiteral => "expected ident"
  | .expectedColon => "expected `:`"
  | .expectedCommaOrBracket => "expected `,` or `]`"
  | .expectedCommaOrBrace => "expected `,` or `\x7d`"
  | .expectedKey => "key must be a string"
  | .trailingComma => "trailing comma"
  | .trailingCharacters => "trailing characters"
  | .invalidNumber => "invalid number"
  | .numberOutOfRange => "number out of range"
  | .invalidEscape => "invalid escape"
  | .loneSurrogate => "lone leading surrogate in hex escape"
  | .unfinishedSurrogatePair => "unexpected end of hex escape"
  | .controlCharacter => "control character (\\u0000-\\u001F) found while parsing a string"
  | .nestedTooDeep => "recursion limit exceeded"

/-- A fault: its cause and the number of bytes left behind the place where
    reading stopped. -/
structure Fault where
  cause : Cause
  left : Nat
  deriving DecidableEq, Repr

/-- The fault that shows at the first of the characters `rest`: reading stops
    one byte further on, or right here if the text has ended. -/
def Fault.at (rest : List Char) (cause : Cause) : Fault := ⟨cause, byteCount rest - 1⟩

/-- The fault that shows just before the characters `rest`. -/
def Fault.before (rest : List Char) (cause : Cause) : Fault := ⟨cause, byteCount rest⟩

/-- A place in a text: its line, counted from 1, and the bytes of the line
    before it. -/
structure Position where
  line : Nat
  column : Nat
  deriving DecidableEq, Repr

/-- The place `bytes` bytes further on in the text that starts at a place. -/
def Position.advance : Position → List Char → (bytes : Nat) → Position
  | place, [], _ => place
  | place, c :: rest, bytes =>
    if bytes < c.utf8Size then ⟨place.line, place.column + bytes⟩
    else
      let next : Position :=
        if c = '\n' then ⟨place.line + 1, 0⟩ else ⟨place.line, place.column + c.utf8Size⟩
      next.advance rest (bytes - c.utf8Size)

/-- The place where a fault stopped the reading of a text. -/
def Fault.position (text : List Char) (fault : Fault) : Position :=
  Position.advance ⟨1, 0⟩ text (byteCount text - fault.left)

/-- The message of a fault in a text, with its place. -/
def Fault.describe (text : List Char) (fault : Fault) : String :=
  let place := fault.position text
  s!"{fault.cause.message} at line {place.line} column {place.column}"

end FilterRules.Json
