/-
  FilterRules — passing over a JSON value that nobody wants.

  A value that is not kept is checked less closely than one that is: it may be
  nested to any depth, its numbers need not be in range and the halves of
  surrogate pairs need not meet.  Its faults have causes of their own: behind a
  comma a value or a key must follow, and a number that the text's end cuts off
  is an invalid number.

  * `skipNumber` and `skipString` pass over numbers and strings;
  * `skipValue` passes over a value; it is given as many levels as the text has
    characters, which no value can exceed.
-/
import FilterRules.Json.Scanner.Chars
import FilterRules.Json.Scanner.Number

namespace FilterRules.Json

/-! ## Numbers and strings -/

/-- Passes over the digits of an exponent behind its letter. -/
def skipExponent (cs : List Char) : Except Fault (List Char) :=
  match (scanSign cs).2 with
  | c :: rest =>
    if c.isDigit then .ok (rest.dropWhile Char.isDigit) else .error (.at (c :: rest) .invalidNumber)
  | [] => .error (.at [] .invalidNumber)

/-- Passes over the digits of a fraction behind its point. -/
def skipFraction (cs : List Char) : Except Fault (List Char) :=
  match cs with
  | c :: rest =>
    if c.isDigit then
      match rest.dropWhile Char.isDigit with
      | 'e' :: rest | 'E' :: rest => skipExponent rest
      | rest => .ok rest
    else .error (.at (c :: rest) .invalidNumber)
  | [] => .error (.at [] .invalidNumber)

/-- Passes over what follows the digits before the point. -/
def skipAfterWhole : List Char → Except Fault (List Char)
  | '.' :: cs => skipFraction cs
  | 'e' :: cs | 'E' :: cs => skipExponent cs
  | cs => .ok cs

/-- Passes over a number behind its sign. -/
def skipNumber : List Char → Except Fault (List Char)
  | [] => .error (.at [] .invalidNumber)
  | '0' :: cs =>
    match cs with
    | c :: rest =>
      if c.isDigit then .error (.at (c :: rest) .invalidNumber) else skipAfterWhole (c :: rest)
    | [] => .ok []
  | c :: cs =>
    if c.isDigit then skipAfterWhole (cs.dropWhile Char.isDigit)
    else .error (.at (c :: cs) .invalidNumber)

/-- Passes over the characters of a string and its closing quote. -/
def skipString : List Char → Except Fault (List Char)
  | [] => .error (.at [] .endInString)
  | '"' :: rest => .ok rest
  | '\\' :: 'u' :: a :: b :: c :: d :: rest =>
    if (hexUnit? a b c d).isSome then skipString rest
    else .error (hexFault (a :: b :: c :: d :: rest))
  | '\\' :: 'u' :: rest => .error (hexFault rest)
  | '\\' :: [] => .error (.at [] .endInString)
  | '\\' :: c :: rest =>
    if (shortEscape? c).isSome then skipString rest else .error (.at (c :: rest) .invalidEscape)
  | c :: rest =>
    if c.toNat < 32 then .error (.at (c :: rest) .controlCharacter) else skipString rest

/-! ## Values -/

/-- Passes over the items of an array that follow an item, and its end. -/
def skipItems (item : List Char → Except Fault (List Char)) : (rounds : Nat) → List Char →
    Except Fault (List Char)
  | 0, cs => .error (.at cs .endInList)
  | rounds + 1, cs =>
    match skipBlanks cs with
    | [] => .error (.at [] .endInList)
    | ']' :: rest => .ok rest
    | ',' :: rest => do skipItems item rounds (← item rest)
    | rest => .error (.at rest .expectedCommaOrBracket)

/-- Passes over a member of an object: key, colon and value. -/
def skipMember (item : List Char → Except Fault (List Char)) (cs : List Char) :
    Except Fault (List Char) :=
  match skipBlanks cs with
  | [] => .error (.at [] .endInObject)
  | '"' :: rest => do item (← scanColon (← skipString rest))
  | rest => .error (.at rest .expectedKey)

/-- Passes over the members of an object that follow a member, and its end. -/
def skipMembers (item : List Char → Except Fault (List Char)) : (rounds : Nat) → List Char →
    Except Fault (List Char)
  | 0, cs => .error (.at cs .endInObject)
  | rounds + 1, cs =>
    match skipBlanks cs with
    | [] => .error (.at [] .endInObject)
    | '}' :: rest => .ok rest
    | ',' :: rest => do skipMembers item rounds (← skipMember item rest)
    | rest => .error (.at rest .expectedCommaOrBrace)

/-- Passes over a value that is no array or object and starts with `c`. -/
def skipScalar (c : Char) (cs : List Char) : Except Fault (List Char) :=
  if c = 'n' then return (← scanLiteral .null ['u', 'l', 'l'] cs).2
  else if c = 't' then return (← scanLiteral .null ['r', 'u', 'e'] cs).2
  else if c = 'f' then return (← scanLiteral .null ['a', 'l', 's', 'e'] cs).2
  else if c = '"' then skipString cs
  else if c = '-' then skipNumber cs
  else if c.isDigit then skipNumber (c :: cs)
  else .error (.at (c :: cs) .expectedValue)

/-- Passes over a value at most `depth` deep. -/
def skipDepth : (depth : Nat) → List Char → Except Fault (List Char)
  | depth, cs =>
    match skipBlanks cs with
    | [] => .error (.at [] .endInValue)
    | '[' :: rest =>
      match depth with
      | 0 => .error (.at ('[' :: rest) .nestedTooDeep)
      | depth + 1 =>
        match skipBlanks rest with
        | [] => .error (.at [] .endInList)
        | ']' :: rest => .ok rest
        | rest => do skipItems (skipDepth depth) (rest.length + 1) (← skipDepth depth rest)
    | '{' :: rest =>
      match depth with
      | 0 => .error (.at ('{' :: rest) .nestedTooDeep)
      | depth + 1 =>
        match skipBlanks rest with
        | [] => .error (.at [] .endInObject)
        | '}' :: rest => .ok rest
        | rest => do
          skipMembers (skipDepth depth) (rest.length + 1) (← skipMember (skipDepth depth) rest)
    | c :: rest => skipScalar c rest

/-- Passes over a value. -/
def skipValue (cs : List Char) : Except Fault (List Char) := skipDepth cs.length cs

end FilterRules.Json
