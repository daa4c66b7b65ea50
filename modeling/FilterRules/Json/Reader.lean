/-
  FilterRules — reading JSON.

  A text is read from left to right, and the first fault ends the reading.
  Arrays and objects may stand inside each other up to a given depth; of the
  members of an object with the same key the last one counts.

  * `scanValue depth` reads a value in which at most `depth` arrays and objects
    stand inside each other.  The items of an array and the members of an object
    are read in rounds, each of which uses up a character at least, so that as
    many rounds as there are characters suffice;
  * `read` reads a whole text, at most `nestingLimit` deep.
-/
import FilterRules.Json.Members
import FilterRules.Json.Scanner.Chars
import FilterRules.Json.Scanner.Number

namespace FilterRules.Json

/-- How deep arrays and objects may stand inside each other in a text. -/
def nestingLimit : Nat := 127

/-- Reads the items of an array to its end, each by `item`. -/
def scanItems (item : Scanner Json) : (rounds : Nat) → (first : Bool) → Scanner (List Json)
  | 0, _, cs => .error (.at cs .endInList)
  | rounds + 1, first, cs => do
    match ← elementAhead first cs with
    | .close rest => return ([], rest)
    | .item rest =>
      let (value, rest) ← item rest
      let (values, rest) ← scanItems item rounds false rest
      return (value :: values, rest)

/-- Reads the members of an object to its end, each value by `item`. -/
def scanMembers (item : Scanner Json) : (rounds : Nat) → (first : Bool) →
    Scanner (List (String × Json))
  | 0, _, cs => .error (.at cs .endInObject)
  | rounds + 1, first, cs => do
    match ← keyAhead first cs with
    | .close rest => return ([], rest)
    | .item rest =>
      let (key, rest) ← scanString rest
      let rest ← scanColon rest
      let (value, rest) ← item rest
      let (members, rest) ← scanMembers item rounds false rest
      return ((key, value) :: members, rest)

/-- Reads a value that is no array or object and starts with `c`. -/
def scanScalar (c : Char) (cs : List Char) : Except Fault (Scanned Json) :=
  if c = 'n' then scanLiteral .null ['u', 'l', 'l'] cs
  else if c = 't' then scanLiteral (.bool true) ['r', 'u', 'e'] cs
  else if c = 'f' then scanLiteral (.bool false) ['a', 'l', 's', 'e'] cs
  else if c = '"' then (scanString cs).map (Prod.map .string id)
  else if c = '-' then (scanNumber true cs).map (Prod.map .number id)
  else if c.isDigit then (scanNumber false (c :: cs)).map (Prod.map .number id)
  else .error (.at (c :: cs) .expectedValue)

/-- Reads a value in which at most `depth` arrays and objects stand inside each
    other. -/
def scanValue : (depth : Nat) → Scanner Json
  | depth, cs =>
    match skipBlanks cs with
    | [] => .error (.at [] .endInValue)
    | '[' :: rest =>
      match depth with
      | 0 => .error (.at ('[' :: rest) .nestedTooDeep)
      | depth + 1 => do
        let (items, rest) ← scanItems (scanValue depth) (rest.length + 1) true rest
        return (.array items, rest)
    | '{' :: rest =>
      match depth with
      | 0 => .error (.at ('{' :: rest) .nestedTooDeep)
      | depth + 1 => do
        let (members, rest) ← scanMembers (scanValue depth) (rest.length + 1) true rest
        return (ofMembers members, rest)
    | c :: rest => scanScalar c rest

/-- Reads a text that holds one value, at most `depth` deep. -/
def readDepth (depth : Nat) (text : List Char) : Except Fault Json := do
  let (value, rest) ← scanValue depth text
  closeText rest
  return value

/-- Reads a text that holds one value. -/
def read (text : String) : Except Fault Json := readDepth nestingLimit text.toList

end FilterRules.Json
