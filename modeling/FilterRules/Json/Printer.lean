/-
  FilterRules — writing JSON.

  A value is written without white space, the members of an object in their
  order.  Inside a string only the quote, the backslash and the characters
  below U+0020 are escaped: five of those by a letter, the others by four
  hexadecimal digits.

  * `escape` is the text of one character inside a string, `quote` that of a
    string;
  * `render` is the text of a value.
-/
import FilterRules.Json.Basic

namespace FilterRules.Json

/-- The digit of a number below 16. -/
def hexDigit (n : Nat) : Char :=
  if n < 10 then Char.ofNat ('0'.toNat + n) else Char.ofNat ('a'.toNat + (n - 10))

/-- The text of a character inside a string. -/
def escape (c : Char) : List Char :=
  if c = '"' then ['\\', '"']
  else if c = '\\' then ['\\', '\\']
  else if c = '\x08' then ['\\', 'b']
  else if c = '\x0c' then ['\\', 'f']
  else if c = '\n' then ['\\', 'n']
  else if c = '\r' then ['\\', 'r']
  else if c = '\t' then ['\\', 't']
  else if c.toNat < 32 then ['\\', 'u', '0', '0', hexDigit (c.toNat / 16), hexDigit (c.toNat % 16)]
  else [c]

/-- The text of a string, between quotes. -/
def quote (s : String) : List Char := '"' :: (s.toList.flatMap escape ++ ['"'])

mutual

/-- The text of a value. -/
def render : Json → List Char
  | .null => ['n', 'u', 'l', 'l']
  | .bool true => ['t', 'r', 'u', 'e']
  | .bool false => ['f', 'a', 'l', 's', 'e']
  | .number n => n.render
  | .string s => quote s
  | .array [] => ['[', ']']
  | .array (item :: items) => '[' :: (item.render ++ renderItems items)
  | .object [] => ['{', '}']
  | .object ((key, value) :: rest) =>
    '{' :: (quote key ++ ':' :: value.render ++ renderMembers rest)

/-- The text of the items after the first, to the closing bracket. -/
def renderItems : List Json → List Char
  | [] => [']']
  | item :: items => ',' :: (item.render ++ renderItems items)

/-- The text of the members after the first, to the closing brace. -/
def renderMembers : List (String × Json) → List Char
  | [] => ['}']
  | (key, value) :: rest => ',' :: (quote key ++ ':' :: value.render ++ renderMembers rest)

end

/-- The text of a value, as a string. -/
def toText (json : Json) : String := String.ofList json.render

end FilterRules.Json
