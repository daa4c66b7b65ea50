/-
  FilterRules — records and the paths of their fields.

  A record answers for each path with the value of that field.  In a JSON document
  a path is a list of keys joined by dots, each leading into the object that the
  ones before it have reached.

  * `segments` are the keys of a path: there is always one (`splitDots_ne_nil`),
    which may be empty;
  * `Json.walk` follows keys through objects, and `Json.walk_append` says that it
    can stop on the way and go on;
  * `Json.fieldValue` and `Json.Members.fieldValue` are the fields of a document
    and of an object.
-/
import FilterRules.Json.Members
import FilterRules.Record.Value

namespace FilterRules

/-- A record: the value of the field at each path. -/
abbrev Record := String → FieldValue

/-- The pieces of a text between its dots. -/
def splitDots : List Char → List (List Char)
  | [] => [[]]
  | c :: rest =>
    if c = '.' then [] :: splitDots rest
    else
      match splitDots rest with
      | piece :: pieces => (c :: piece) :: pieces
      | [] => [[c]]

theorem splitDots_ne_nil (cs : List Char) : splitDots cs ≠ [] := by
  cases cs with
  | nil => simp [splitDots]
  | cons c rest =>
    simp only [splitDots]
    split
    · simp
    · split <;> simp

/-- The keys of a path. -/
def segments (path : String) : List String := (splitDots path.toList).map String.ofList

namespace Json

/-- The value that keys lead to, one object after the other. -/
def walk : List String → Json → Option Json
  | [], json => some json
  | key :: keys, json => (json.get? key).bind (walk keys)

/-- Keys one after the other lead where the first keys and then the last ones lead. -/
theorem walk_append (keys more : List String) (json : Json) :
    walk (keys ++ more) json = (walk keys json).bind (walk more) := by
  induction keys generalizing json with
  | nil => rfl
  | cons key keys ih =>
    simp only [List.cons_append, walk]
    cases json.get? key with
    | none => rfl
    | some value => exact ih value

/-- The field of an object at a path. -/
def Members.fieldValue (ms : Members) (path : String) : FieldValue :=
  match segments path with
  | [] => .missing
  | key :: keys =>
    match (ms.find? key).bind (walk keys) with
    | some value => .ofJson value
    | none => .missing

/-- The field of a document at a path; what is no object has no fields. -/
def fieldValue (json : Json) (path : String) : FieldValue :=
  match json with
  | .object ms => Members.fieldValue ms path
  | _ => .missing

end Json

end FilterRules
