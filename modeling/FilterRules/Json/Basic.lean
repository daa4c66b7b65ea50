/-
  FilterRules — JSON values.

  An object is the list of its members, which stand in increasing order of their
  keys, each key once, wherever a value has been read.

  * `Json` and its decidable equality;
  * `Sorted` says that every object of a value has its keys in order;
  * `nesting` is the greatest number of arrays and objects that stand inside
    each other.
-/
import FilterRules.Json.Number

namespace FilterRules

/-- A JSON value. -/
inductive Json where
  | null
  | bool (b : Bool)
  | number (n : Json.Number)
  | string (s : String)
  | array (items : List Json)
  | object (members : List (String × Json))

namespace Json

instance : Inhabited Json := ⟨.null⟩

/-! ## Equality -/

mutual

/-- Equality of values is decidable, member by member and item by item. -/
def decEq : (a b : Json) → Decidable (a = b)
  | .null, .null => isTrue rfl
  | .bool x, .bool y => if h : x = y then isTrue (h ▸ rfl) else isFalse (by simp [h])
  | .number x, .number y => if h : x = y then isTrue (h ▸ rfl) else isFalse (by simp [h])
  | .string x, .string y => if h : x = y then isTrue (h ▸ rfl) else isFalse (by simp [h])
  | .array xs, .array ys =>
    match decEqItems xs ys with
    | isTrue h => isTrue (h ▸ rfl)
    | isFalse h => isFalse (by simp [h])
  | .object xs, .object ys =>
    match decEqMembers xs ys with
    | isTrue h => isTrue (h ▸ rfl)
    | isFalse h => isFalse (by simp [h])
  | .null, .bool _ | .null, .number _ | .null, .string _ | .null, .array _ | .null, .object _
  | .bool _, .null | .bool _, .number _ | .bool _, .string _ | .bool _, .array _
  | .bool _, .object _ | .number _, .null | .number _, .bool _ | .number _, .string _
  | .number _, .array _ | .number _, .object _ | .string _, .null | .string _, .bool _
  | .string _, .number _ | .string _, .array _ | .string _, .object _ | .array _, .null
  | .array _, .bool _ | .array _, .number _ | .array _, .string _ | .array _, .object _
  | .object _, .null | .object _, .bool _ | .object _, .number _ | .object _, .string _
  | .object _, .array _ => isFalse (by simp)

/-- Equality of lists of items. -/
def decEqItems : (xs ys : List Json) → Decidable (xs = ys)
  | [], [] => isTrue rfl
  | [], _ :: _ | _ :: _, [] => isFalse (by simp)
  | x :: xs, y :: ys =>
    match decEq x y, decEqItems xs ys with
    | isTrue h, isTrue hs => isTrue (by rw [h, hs])
    | isFalse h, _ => isFalse (by simp [h])
    | _, isFalse hs => isFalse (by simp [hs])

/-- Equality of lists of members. -/
def decEqMembers : (xs ys : List (String × Json)) → Decidable (xs = ys)
  | [], [] => isTrue rfl
  | [], _ :: _ | _ :: _, [] => isFalse (by simp)
  | (k, x) :: xs, (l, y) :: ys =>
    if hk : k = l then
      match decEq x y, decEqMembers xs ys with
      | isTrue h, isTrue hs => isTrue (by rw [hk, h, hs])
      | isFalse h, _ => isFalse (by simp [h])
      | _, isFalse hs => isFalse (by simp [hs])
    else isFalse (by simp [hk])

end

instance : DecidableEq Json := decEq

/-! ## Shape -/

/-- The members of an object. -/
abbrev Members := List (String × Json)

/-- The keys stand in increasing order. -/
def Members.Ordered (ms : Members) : Prop := (ms.map Prod.fst).Pairwise (· < ·)

mutual

/-- Every object of the value has its keys in increasing order. -/
def Sorted : Json → Prop
  | .array items => SortedItems items
  | .object ms => Members.Ordered ms ∧ SortedMembers ms
  | _ => True

/-- Every item is sorted. -/
def SortedItems : List Json → Prop
  | [] => True
  | item :: items => item.Sorted ∧ SortedItems items

/-- Every member's value is sorted. -/
def SortedMembers : List (String × Json) → Prop
  | [] => True
  | (_, value) :: rest => value.Sorted ∧ SortedMembers rest

end

mutual

/-- The greatest number of arrays and objects that stand inside each other. -/
def nesting : Json → Nat
  | .array items => nestingItems items + 1
  | .object ms => nestingMembers ms + 1
  | _ => 0

/-- The greatest nesting of some items. -/
def nestingItems : List Json → Nat
  | [] => 0
  | item :: items => max item.nesting (nestingItems items)

/-- The greatest nesting of some members' values. -/
def nestingMembers : List (String × Json) → Nat
  | [] => 0
  | (_, value) :: rest => max value.nesting (nestingMembers rest)

end

end Json

end FilterRules
