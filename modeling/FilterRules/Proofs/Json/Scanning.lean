/-
  FilterRules — how JSON has been read.

  From a value that a scanner has found it can be told how it has gone on, step by
  step, without regard to the rounds that it counts.

  * `elementAhead_close`, `elementAhead_item_first` and the like: what stands in the
    text where a container ends or goes on;
  * `Listed` and `Keyed` are the items and the members that follow one another behind
    one that has been read, to the end of the container; `scanItems_ok` and
    `scanMembers_ok` lead there;
  * `ScansAs` is how a value is read, by its first character.
-/
import FilterRules.Json.Reader
import FilterRules.Proofs.Preorder
import Mathlib.Data.List.DropRight

namespace FilterRules.Json

/-! ## Looking ahead -/

theorem length_skipBlanks_le (cs : List Char) : (skipBlanks cs).length ≤ cs.length :=
  List.length_dropWhile_le _ _

theorem skipBlanks_skipBlanks (cs : List Char) : skipBlanks (skipBlanks cs) = skipBlanks cs :=
  List.dropWhile_idempotent isBlank cs

section
variable {first : Bool} {c : Char} {cs rest : List Char}

theorem shorter_of_skipBlanks (h : skipBlanks cs = c :: rest) : rest.length < cs.length := by
  have hl := length_skipBlanks_le cs
  rw [h] at hl
  exact hl

theorem elementAhead_close (h : elementAhead first cs = .ok (.close rest)) :
    skipBlanks cs = ']' :: rest := by
  unfold elementAhead at h
  split at h
  · cases h
  · next hs =>
    cases h
    exact hs
  · split at h
    · cases h
    · split at h
      · split at h <;> cases h
      · cases h

theorem elementAhead_item_first (h : elementAhead true cs = .ok (.item rest)) :
    skipBlanks cs = rest ∧ ∃ c ds, rest = c :: ds ∧ c ≠ ']' := by
  unfold elementAhead at h
  split at h
  · cases h
  · cases h
  · next c ds hne hs =>
    rw [if_pos rfl] at h
    cases h
    exact ⟨hs, c, ds, rfl, hne⟩

theorem elementAhead_item_next (h : elementAhead false cs = .ok (.item rest)) :
    ∃ ds, skipBlanks cs = ',' :: ds ∧ skipBlanks ds = rest := by
  unfold elementAhead at h
  split at h
  · cases h
  · cases h
  · next c ds _ hs =>
    rw [if_neg Bool.false_ne_true] at h
    split at h
    · next hc =>
      subst hc
      split at h
      · cases h
      · cases h
      · cases h
        exact ⟨ds, hs, rfl⟩
    · cases h

theorem keyAhead_close (h : keyAhead first cs = .ok (.close rest)) :
    skipBlanks cs = '}' :: rest := by
  unfold keyAhead at h
  split at h
  · cases h
  · next hs =>
    cases h
    exact hs
  · split at h
    · split at h <;> cases h
    · split at h
      · split at h <;> cases h
      · cases h

theorem keyAhead_item_first (h : keyAhead true cs = .ok (.item rest)) :
    skipBlanks cs = '"' :: rest := by
  unfold keyAhead at h
  split at h
  · cases h
  · cases h
  · next c ds _ hs =>
    rw [if_pos rfl] at h
    split at h
    · next hc =>
      cases h
      rw [hs, hc]
    · cases h

theorem keyAhead_item_next (h : keyAhead false cs = .ok (.item rest)) :
    ∃ ds, skipBlanks cs = ',' :: ds ∧ skipBlanks ds = '"' :: rest := by
  unfold keyAhead at h
  split at h
  · cases h
  · cases h
  · next c ds _ hs =>
    rw [if_neg Bool.false_ne_true] at h
    split at h
    · next hc =>
      subst hc
      split at h
      · cases h
      · next hd =>
        cases h
        exact ⟨ds, hs, hd⟩
      · cases h
      · cases h
    · cases h

theorem scanColon_shorter (h : scanColon cs = .ok rest) : rest.length < cs.length := by
  unfold scanColon at h
  split at h
  · cases h
  · next hs =>
    cases h
    exact shorter_of_skipBlanks hs
  · cases h

end

/-! ## Containers -/

section
variable {item : Scanner Json}

/-- Behind an item come these items and the end of the array. -/
inductive Listed (item : Scanner Json) : List Char → List Json → List Char → Prop
  | close {cs rest} : elementAhead false cs = .ok (.close rest) → Listed item cs [] rest
  | item {cs ds value mid values rest} : elementAhead false cs = .ok (.item ds) →
      item ds = .ok (value, mid) → Listed item mid values rest →
      Listed item cs (value :: values) rest

/-- Behind a member come these members and the end of the object. -/
inductive Keyed (item : Scanner Json) : List Char → Members → List Char → Prop
  | close {cs rest} : keyAhead false cs = .ok (.close rest) → Keyed item cs [] rest
  | member {cs ds key ks vs value mid members rest} : keyAhead false cs = .ok (.item ds) →
      scanString ds = .ok (key, ks) → scanColon ks = .ok vs → item vs = .ok (value, mid) →
      Keyed item mid members rest → Keyed item cs ((key, value) :: members) rest

theorem bind_eq_ok_iff {ε α β : Type} {x : Except ε α} {f : α → Except ε β} {b : β} :
    x >>= f = .ok b ↔ ∃ a, x = .ok a ∧ f a = .ok b := by
  cases x <;> simp [bind, Except.bind]

/-- An array ends where it starts, or it has a first item. -/
theorem scanItems_ok {rounds : Nat} {first : Bool} {cs rest : List Char} {values : List Json}
    (h : scanItems item rounds first cs = .ok (values, rest)) :
    elementAhead first cs = .ok (.close rest) ∧ values = [] ∨
      ∃ ds value mid values', elementAhead first cs = .ok (.item ds) ∧
        item ds = .ok (value, mid) ∧ Listed item mid values' rest ∧ values = value :: values' := by
  induction rounds generalizing first cs values with
  | zero => cases h
  | succ rounds ih =>
    rw [scanItems] at h
    obtain ⟨ahead, ha, h⟩ := bind_eq_ok_iff.1 h
    cases ahead with
    | close rest' =>
      cases h
      exact .inl ⟨ha, rfl⟩
    | item ds =>
      obtain ⟨⟨value, mid⟩, hv, h⟩ := bind_eq_ok_iff.1 h
      obtain ⟨⟨values', rest'⟩, hs, h⟩ := bind_eq_ok_iff.1 h
      cases h
      refine .inr ⟨ds, value, mid, values', ha, hv, ?_, rfl⟩
      rcases ih hs with ⟨hc, rfl⟩ | ⟨ds', value', mid', values'', ha', hv', hl, rfl⟩
      · exact .close hc
      · exact .item ha' hv' hl

/-- An object ends where it starts, or it has a first member. -/
theorem scanMembers_ok {rounds : Nat} {first : Bool} {cs rest : List Char} {members : Members}
    (h : scanMembers item rounds first cs = .ok (members, rest)) :
    keyAhead first cs = .ok (.close rest) ∧ members = [] ∨
      ∃ ds key ks vs value mid members', keyAhead first cs = .ok (.item ds) ∧
        scanString ds = .ok (key, ks) ∧ scanColon ks = .ok vs ∧ item vs = .ok (value, mid) ∧
        Keyed item mid members' rest ∧ members = (key, value) :: members' := by
  induction rounds generalizing first cs members with
  | zero => cases h
  | succ rounds ih =>
    rw [scanMembers] at h
    obtain ⟨ahead, ha, h⟩ := bind_eq_ok_iff.1 h
    cases ahead with
    | close rest' =>
      cases h
      exact .inl ⟨ha, rfl⟩
    | item ds =>
      obtain ⟨⟨key, ks⟩, hk, h⟩ := bind_eq_ok_iff.1 h
      obtain ⟨vs, hc, h⟩ := bind_eq_ok_iff.1 h
      obtain ⟨⟨value, mid⟩, hv, h⟩ := bind_eq_ok_iff.1 h
      obtain ⟨⟨members', rest'⟩, hs, h⟩ := bind_eq_ok_iff.1 h
      cases h
      refine .inr ⟨ds, key, ks, vs, value, mid, members', ha, hk, hc, hv, ?_, rfl⟩
      rcases ih hs with ⟨hc', rfl⟩ |
        ⟨ds', key', ks', vs', value', mid', members'', ha', hk', hc', hv', hm, rfl⟩
      · exact .close hc'
      · exact .member ha' hk' hc' hv' hm

end

/-! ## Values -/

/-- A value is read as an array, as an object or as a scalar. -/
inductive ScansAs : Nat → List Char → Json → List Char → Prop
  | array {depth cs ds items rest} : skipBlanks cs = '[' :: ds →
      scanItems (scanValue depth) (ds.length + 1) true ds = .ok (items, rest) →
      ScansAs (depth + 1) cs (.array items) rest
  | object {depth cs ds given rest} : skipBlanks cs = '{' :: ds →
      scanMembers (scanValue depth) (ds.length + 1) true ds = .ok (given, rest) →
      ScansAs (depth + 1) cs (ofMembers given) rest
  | scalar {depth cs c ds value rest} : skipBlanks cs = c :: ds → c ≠ '[' → c ≠ '{' →
      scanScalar c ds = .ok (value, rest) → ScansAs depth cs value rest

theorem scansAs_of_scanValue {depth : Nat} {cs rest : List Char} {value : Json}
    (h : scanValue depth cs = .ok (value, rest)) : ScansAs depth cs value rest := by
  rw [scanValue] at h
  split at h
  · cases h
  · next ds hs =>
    cases depth with
    | zero => cases h
    | succ depth =>
      obtain ⟨⟨items, rest'⟩, hi, h⟩ := bind_eq_ok_iff.1 h
      cases h
      exact .array hs hi
  · next ds hs =>
    cases depth with
    | zero => cases h
    | succ depth =>
      obtain ⟨⟨given, rest'⟩, hm, h⟩ := bind_eq_ok_iff.1 h
      cases h
      exact .object hs hm
  · next c ds ha ho hs => exact .scalar hs ha ho h

end FilterRules.Json
