/-
  FilterRules — the values of records' fields.

  A field of a record may be missing or null, a scalar, a point in time, a list of
  values, or an object, which cannot be compared with anything.

  * `Timestamp` counts milliseconds from the start of 1970, kept within 64 bits;
  * `FieldValue` and the views of it: `text?`, `number?`, `timestamp?` (also of a
    string that is a date and time), `items?`;
  * `FieldValue.ofJson` is the value that a JSON value is.
-/
import FilterRules.Calendar.Rfc3339
import FilterRules.Json.Basic
import FilterRules.Record.Number

namespace FilterRules

/-! ## Timestamps -/

/-- A point in time, in milliseconds from the start of 1970. -/
structure Timestamp where
  milliseconds : Int
  deriving DecidableEq, Repr

namespace Timestamp

/-- The timestamp of a count of seconds, at the end of the 64-bit range if it
    would lie outside. -/
def ofSeconds (seconds : Int) : Timestamp :=
  ⟨max (-0x8000000000000000) (min 0x7fffffffffffffff (1000 * seconds))⟩

/-- The timestamp of an instant, rounded down. -/
def ofInstant (t : Instant) : Timestamp := ⟨t.milliseconds⟩

/-- The timestamp of a text that is a date and time. -/
def ofText? (text : String) : Option Timestamp := (Rfc3339.instant? text).map ofInstant

/-- The order of two timestamps. -/
def compare (a b : Timestamp) : Ordering := Ord.compare a.milliseconds b.milliseconds

end Timestamp

/-! ## Values -/

/-- The value of a field. -/
inductive FieldValue where
  | missing
  | null
  | bool (b : Bool)
  | number (n : Number)
  | string (s : String)
  | timestamp (t : Timestamp)
  | array (items : List FieldValue)
  | object

namespace FieldValue

mutual

/-- The field value that a JSON value is. -/
def ofJson : Json → FieldValue
  | .null => .null
  | .bool b => .bool b
  | .number n => .number (Number.ofJson n)
  | .string s => .string s
  | .array items => .array (ofJsonList items)
  | .object _ => .object

/-- The field values that some JSON values are. -/
def ofJsonList : List Json → List FieldValue
  | [] => []
  | item :: items => ofJson item :: ofJsonList items

end

mutual

/-- Equality of field values is decidable, item by item. -/
def decEq : (a b : FieldValue) → Decidable (a = b)
  | .missing, .missing | .null, .null | .object, .object => isTrue rfl
  | .bool x, .bool y => if h : x = y then isTrue (h ▸ rfl) else isFalse (by simp [h])
  | .number x, .number y => if h : x = y then isTrue (h ▸ rfl) else isFalse (by simp [h])
  | .string x, .string y => if h : x = y then isTrue (h ▸ rfl) else isFalse (by simp [h])
  | .timestamp x, .timestamp y => if h : x = y then isTrue (h ▸ rfl) else isFalse (by simp [h])
  | .array xs, .array ys =>
    match decEqList xs ys with
    | isTrue h => isTrue (h ▸ rfl)
    | isFalse h => isFalse (by simp [h])
  | .missing, .null | .missing, .bool _ | .missing, .number _ | .missing, .string _
  | .missing, .timestamp _ | .missing, .array _ | .missing, .object | .null, .missing
  | .null, .bool _ | .null, .number _ | .null, .string _ | .null, .timestamp _ | .null, .array _
  | .null, .object | .bool _, .missing | .bool _, .null | .bool _, .number _ | .bool _, .string _
  | .bool _, .timestamp _ | .bool _, .array _ | .bool _, .object | .number _, .missing
  | .number _, .null | .number _, .bool _ | .number _, .string _ | .number _, .timestamp _
  | .number _, .array _ | .number _, .object | .string _, .missing | .string _, .null
  | .string _, .bool _ | .string _, .number _ | .string _, .timestamp _ | .string _, .array _
  | .string _, .object | .timestamp _, .missing | .timestamp _, .null | .timestamp _, .bool _
  | .timestamp _, .number _ | .timestamp _, .string _ | .timestamp _, .array _
  | .timestamp _, .object | .array _, .missing | .array _, .null | .array _, .bool _
  | .array _, .number _ | .array _, .string _ | .array _, .timestamp _ | .array _, .object
  | .object, .missing | .object, .null | .object, .bool _ | .object, .number _
  | .object, .string _ | .object, .timestamp _ | .object, .array _ => isFalse (by simp)

/-- Equality of lists of field values. -/
def decEqList : (xs ys : List FieldValue) → Decidable (xs = ys)
  | [], [] => isTrue rfl
  | [], _ :: _ | _ :: _, [] => isFalse (by simp)
  | x :: xs, y :: ys =>
    match decEq x y, decEqList xs ys with
    | isTrue h, isTrue hs => isTrue (by rw [h, hs])
    | isFalse h, _ => isFalse (by simp [h])
    | _, isFalse hs => isFalse (by simp [hs])

end

instance : DecidableEq FieldValue := decEq

/-- Whether the field is missing. -/
def isMissing : FieldValue → Bool
  | .missing => true
  | _ => false

/-- Whether the field is there and null. -/
def isNull : FieldValue → Bool
  | .null => true
  | _ => false

/-- The string of a value that is one. -/
def text? : FieldValue → Option String
  | .string s => some s
  | _ => none

/-- The number of a value that is one. -/
def number? : FieldValue → Option Number
  | .number n => some n
  | _ => none

/-- The timestamp of a value that is one, or is a date and time in a string. -/
def timestamp? : FieldValue → Option Timestamp
  | .timestamp t => some t
  | .string s => Timestamp.ofText? s
  | _ => none

/-- The items of a value that is a list. -/
def items? : FieldValue → Option (List FieldValue)
  | .array items => some items
  | _ => none

end FieldValue

end FilterRules
