/-
  FilterRules — scanning a JSON text: words, and what stands between values.

  A scanner takes the characters that are left and gives what it has found with
  the characters behind it, or the fault that stopped it.

  * `Scanner`, and `Scanned` for what a scanner gives;
  * `skipBlanks` drops the blanks at the start, `scanLiteral` reads the rest of a
    word, `closeText` the end of the text;
  * `elementAhead` and `keyAhead` look ahead in an array and in an object: the
    container ends here, or another item or member follows (`Ahead`);
  * `scanColon` reads the colon behind a key;
  * `closeList` reads the end of an array from which no more items are wanted.
-/
import FilterRules.Json.Basic
import FilterRules.Json.Fault

namespace FilterRules.Json

/-- What a scanner finds, with the characters behind it. -/
abbrev Scanned (α : Type) := α × List Char

/-- Reads something at the start of the characters that are left. -/
abbrev Scanner (α : Type) := List Char → Except Fault (Scanned α)

/-- The four characters that may stand between the pieces of a text. -/
def isBlank (c : Char) : Bool := c == ' ' || c == '\n' || c == '\t' || c == '\r'

/-- The text without the blanks at its start. -/
def skipBlanks (cs : List Char) : List Char := cs.dropWhile isBlank

/-- Reads the rest of a word, of which the first letter has been read. -/
def scanLiteral (value : Json) : (word : List Char) → Scanner Json
  | [], cs => .ok (value, cs)
  | _ :: _, [] => .error (.at [] .endInValue)
  | w :: word, c :: cs =>
    if c = w then scanLiteral value word cs else .error (.at (c :: cs) .expectedLiteral)

/-- Reads the end of the text. -/
def closeText (cs : List Char) : Except Fault Unit :=
  match skipBlanks cs with
  | [] => .ok ()
  | rest => .error (.at rest .trailingCharacters)

/-! ## Items and members -/

/-- What stands ahead in a container: its end, with the text behind it, or
    another item, with the text from its start. -/
inductive Ahead where
  | close (rest : List Char)
  | item (rest : List Char)

/-- Looks ahead in an array, before its first item or behind an item. -/
def elementAhead (first : Bool) (cs : List Char) : Except Fault Ahead :=
  match skipBlanks cs with
  | [] => .error (.at [] .endInList)
  | ']' :: rest => .ok (.close rest)
  | c :: rest =>
    if first then .ok (.item (c :: rest))
    else if c = ',' then
      match skipBlanks rest with
      | [] => .error (.at [] .endInValue)
      | ']' :: rest => .error (.at (']' :: rest) .trailingComma)
      | rest => .ok (.item rest)
    else .error (.at (c :: rest) .expectedCommaOrBracket)

/-- Looks ahead in an object, before its first member or behind a member.  The
    text of a member starts behind the opening quote of its key. -/
def keyAhead (first : Bool) (cs : List Char) : Except Fault Ahead :=
  match skipBlanks cs with
  | [] => .error (.at [] .endInObject)
  | '}' :: rest => .ok (.close rest)
  | c :: rest =>
    if first then
      if c = '"' then .ok (.item rest) else .error (.at (c :: rest) .expectedKey)
    else if c = ',' then
      match skipBlanks rest with
      | [] => .error (.at [] .endInValue)
      | '"' :: rest => .ok (.item rest)
      | '}' :: rest => .error (.at ('}' :: rest) .trailingComma)
      | rest => .error (.at rest .expectedKey)
    else .error (.at (c :: rest) .expectedCommaOrBrace)

/-- Reads the colon behind a key. -/
def scanColon (cs : List Char) : Except Fault (List Char) :=
  match skipBlanks cs with
  | [] => .error (.at [] .endInObject)
  | ':' :: rest => .ok rest
  | rest => .error (.at rest .expectedColon)

/-- Reads the end of an array from which no more items are wanted. -/
def closeList (cs : List Char) : Except Fault (List Char) :=
  match skipBlanks cs with
  | [] => .error (.at [] .endInList)
  | ']' :: rest => .ok rest
  | ',' :: rest =>
    match skipBlanks rest with
    | ']' :: rest => .error (.at (']' :: rest) .trailingComma)
    | rest => .error (.at rest .trailingCharacters)
  | rest => .error (.at rest .trailingCharacters)

end FilterRules.Json
