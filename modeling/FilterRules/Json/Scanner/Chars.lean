/-
  FilterRules — scanning a JSON text: strings.

  * `scanChars` reads the characters of a string up to its closing quote, and
    `scanString` makes a string of them.  A character may be escaped by a letter
    or by four hexadecimal digits; one beyond U+FFFF takes the two halves of a
    surrogate pair, which may not stand alone.
-/
import FilterRules.Json.Scanner.Basic

namespace FilterRules.Json

open Text (byteCount)

/-- The value of a hexadecimal digit. -/
def hexValue? (c : Char) : Option Nat :=
  if c.isDigit then some (c.toNat - '0'.toNat)
  else if 'a' ≤ c ∧ c ≤ 'f' then some (c.toNat - 'a'.toNat + 10)
  else if 'A' ≤ c ∧ c ≤ 'F' then some (c.toNat - 'A'.toNat + 10)
  else none

/-- The value of four hexadecimal digits. -/
def hexUnit? (a b c d : Char) : Option Nat := do
  return 4096 * (← hexValue? a) + 256 * (← hexValue? b) + 16 * (← hexValue? c) + (← hexValue? d)

/-- The fault of an escape by number without four hexadecimal digits: four
    bytes are taken, or the text ends before them. -/
def hexFault (cs : List Char) : Fault :=
  if byteCount cs < 4 then ⟨.endInString, 0⟩ else ⟨.invalidEscape, byteCount cs - 4⟩

/-- The first halves of surrogate pairs. -/
def isHighSurrogate (unit : Nat) : Bool := 0xD800 ≤ unit && unit ≤ 0xDBFF

/-- The second halves of surrogate pairs. -/
def isLowSurrogate (unit : Nat) : Bool := 0xDC00 ≤ unit && unit ≤ 0xDFFF

/-- The character of a surrogate pair. -/
def ofSurrogates (high low : Nat) : Char :=
  Char.ofNat (0x10000 + 0x400 * (high - 0xD800) + (low - 0xDC00))

/-- The character that a letter behind a backslash stands for. -/
def shortEscape? (c : Char) : Option Char :=
  if c = '"' then some '"'
  else if c = '\\' then some '\\'
  else if c = '/' then some '/'
  else if c = 'b' then some '\x08'
  else if c = 'f' then some '\x0c'
  else if c = 'n' then some '\n'
  else if c = 'r' then some '\r'
  else if c = 't' then some '\t'
  else none

/-- Puts a character in front of what a scanner of characters gives. -/
def consScan (c : Char) : Except Fault (Scanned (List Char)) → Except Fault (Scanned (List Char))
  | .ok (s, rest) => .ok (c :: s, rest)
  | .error fault => .error fault

/-- Reads the characters of a string up to the closing quote. -/
def scanChars : Scanner (List Char)
  | [] => .error (.at [] .endInString)
  | '"' :: rest => .ok ([], rest)
  | '\\' :: 'u' :: a :: b :: c :: d :: rest =>
    match hexUnit? a b c d with
    | none => .error (hexFault (a :: b :: c :: d :: rest))
    | some unit =>
      if isLowSurrogate unit then .error (.before rest .loneSurrogate)
      else if !isHighSurrogate unit then consScan (Char.ofNat unit) (scanChars rest)
      else
        match rest with
        | '\\' :: 'u' :: e :: f :: g :: h :: rest =>
          match hexUnit? e f g h with
          | none => .error (hexFault (e :: f :: g :: h :: rest))
          | some low =>
            if isLowSurrogate low then consScan (ofSurrogates unit low) (scanChars rest)
            else .error (.before rest .loneSurrogate)
        | '\\' :: 'u' :: rest => .error (hexFault rest)
        | '\\' :: [] | [] => .error (.at [] .endInString)
        | '\\' :: rest => .error (.at rest .unfinishedSurrogatePair)
        | rest => .error (.at rest .unfinishedSurrogatePair)
  | '\\' :: 'u' :: rest => .error (hexFault rest)
  | '\\' :: [] => .error (.at [] .endInString)
  | '\\' :: c :: rest =>
    match shortEscape? c with
    | some e => consScan e (scanChars rest)
    | none => .error (.at (c :: rest) .invalidEscape)
  | c :: rest =>
    if c.toNat < 32 then .error (.at (c :: rest) .controlCharacter)
    else consScan c (scanChars rest)

/-- Reads a string behind its opening quote. -/
def scanString (cs : List Char) : Except Fault (Scanned String) :=
  match scanChars cs with
  | .ok (s, rest) => .ok (String.ofList s, rest)
  | .error fault => .error fault

end FilterRules.Json
