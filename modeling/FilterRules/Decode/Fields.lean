/-
  FilterRules — decoding objects with known keys.

  Data with known keys is decoded from a JSON value or straight from a text.  The
  two ways share the keys (`Field`), and keys that are not known are passed over.

  * `decodeMembers` goes through the members of an object, in their order;
  * `scanFields` goes through the text of an object.  A key that comes twice is
    an error there, before its value is looked at;
  * `wrongTypeAhead` is the error of a text that goes on with something of the
    wrong type: it names a scalar only if the scalar can be read.
-/
import FilterRules.Decode.Error
import FilterRules.Json.Reader
import FilterRules.Json.Skip

namespace FilterRules

open Json (Fault Members Scanned)

/-- A known key of the data that is decoded into `σ`. -/
structure Field (σ : Type) where
  key : String
  /-- Whether the key has come already. -/
  isSet : σ → Bool
  /-- Takes the value of the key from JSON. -/
  ofJson : σ → Json → Except DecodeError σ
  /-- Takes the value of the key from a text. -/
  scan : σ → List Char → Except DecodeError (Scanned σ)

/-- The result of reading a text, a fault counting as an error of the data. -/
def ofReading {α : Type} (result : Except Fault α) : Except DecodeError α :=
  result.mapError fun fault => .text fault.cause

section
variable {σ : Type}

/-- Takes the known keys among the members of an object. -/
def decodeMembers (fields : List (Field σ)) : σ → Members → Except DecodeError σ
  | state, [] => .ok state
  | state, (key, value) :: rest =>
    match fields.find? fun field => field.key == key with
    | some field => do decodeMembers fields (← field.ofJson state value) rest
    | none => decodeMembers fields state rest

/-- Takes the known keys of an object in a text, behind its opening brace, to its
    end.  Each round uses up a character at least. -/
def scanFields (fields : List (Field σ)) : (rounds : Nat) → (first : Bool) → σ →
    List Char → Except DecodeError (Scanned σ)
  | 0, _, _, _ => .error (.text .endInObject)
  | rounds + 1, first, state, cs => do
    match ← ofReading (Json.keyAhead first cs) with
    | .close rest => return (state, rest)
    | .item rest =>
      let (key, rest) ← ofReading (Json.scanString rest)
      match fields.find? fun field => field.key == key with
      | some field =>
        if field.isSet state then throw (.repeatedKey key)
        let (state, rest) ← field.scan state (← ofReading (Json.scanColon rest))
        scanFields fields rounds false state rest
      | none =>
        let rest ← ofReading (Json.skipValue (← ofReading (Json.scanColon rest)))
        scanFields fields rounds false state rest

end

/-- The error of a text that does not go on with what is expected. -/
def wrongTypeAhead (expected : String) (cs : List Char) : DecodeError :=
  match Json.skipBlanks cs with
  | [] => .text .endInValue
  | '[' :: _ => .wrongType .sequence expected
  | '{' :: _ => .wrongType .map expected
  | c :: rest =>
    match Json.scanScalar c rest with
    | .ok (value, _) => .wrongType value.found expected
    | .error fault => .text fault.cause

end FilterRules
