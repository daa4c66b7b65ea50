/-
  FilterRules — the structure of JSON values.

  * `Json.rec_value`: induction over a value, in which arrays and objects may rely
    on all that they hold;
  * `Json.Inside` leads to all values inside a value;
  * `sorted_array` and `sorted_object`: when arrays and objects are sorted;
  * `Members.ofList_ordered`: members that are given in order stay as they are;
  * `Members.find?_ofList`: a key that is given once has the value that is given.
-/
import FilterRules.Json.Members
import Mathlib.Data.List.Nodup

namespace FilterRules.Json

/-! ## Induction -/

/-- Induction over a value: arrays and objects may rely on all that they hold. -/
@[elab_as_elim, induction_eliminator]
theorem rec_value {motive : Json → Prop} (null : motive .null) (bool : ∀ b, motive (.bool b))
    (number : ∀ n, motive (.number n)) (string : ∀ s, motive (.string s))
    (array : ∀ items, (∀ item ∈ items, motive item) → motive (.array items))
    (object : ∀ members, (∀ m ∈ members, motive m.2) → motive (.object members))
    (json : Json) : motive json :=
  @Json.rec motive (fun items => ∀ item ∈ items, motive item)
    (fun members => ∀ m ∈ members, motive m.2) (fun m => motive m.2)
    null bool number string array object
    (fun _ h => absurd h List.not_mem_nil)
    (fun _ _ hi his => List.forall_mem_cons.2 ⟨hi, his⟩)
    (fun _ h => absurd h List.not_mem_nil)
    (fun _ _ hm hms => List.forall_mem_cons.2 ⟨hm, hms⟩)
    (fun _ _ h => h) json

/-! ## Values inside values -/

/-- A value is another one, or stands somewhere in it. -/
inductive Inside (part : Json) : Json → Prop
  | refl : Inside part part
  | item {items item} : item ∈ items → Inside part item → Inside part (.array items)
  | member {ms m} : m ∈ ms → Inside part m.2 → Inside part (.object ms)

theorem inside_array {part : Json} {items : List Json} :
    Inside part (.array items) ↔ part = .array items ∨ ∃ item ∈ items, Inside part item := by
  constructor
  · intro h
    cases h with
    | refl => exact .inl rfl
    | item hi h => exact .inr ⟨_, hi, h⟩
  · rintro (rfl | ⟨item, hi, h⟩)
    · exact .refl
    · exact .item hi h

/-! ## Sorted values -/

theorem sorted_array {items : List Json} :
    (array items).Sorted ↔ ∀ item ∈ items, item.Sorted := by
  rw [Sorted]
  induction items with
  | nil => simp [SortedItems]
  | cons item items ih => rw [SortedItems, ih, List.forall_mem_cons]

theorem sorted_object {ms : Members} :
    (object ms).Sorted ↔ ms.Ordered ∧ ∀ m ∈ ms, m.2.Sorted := by
  have h : SortedMembers ms ↔ ∀ m ∈ ms, m.2.Sorted := by
    induction ms with
    | nil => simp [SortedMembers]
    | cons m ms ih => rw [SortedMembers, ih, List.forall_mem_cons]
  rw [Sorted, h]

namespace Members

/-- A key behind all others is put at the end. -/
theorem insert_last {ms : Members} {key : String} (value : Json) (h : ∀ m ∈ ms, m.1 < key) :
    ms.insert key value = ms ++ [(key, value)] := by
  induction ms with
  | nil => rfl
  | cons m ms ih =>
    obtain ⟨hm, hms⟩ := List.forall_mem_cons.1 h
    have hne : key ≠ m.1 := fun he => String.lt_irrefl key (he ▸ hm)
    rw [insert, if_neg (String.lt_asymm hm), if_neg hne, ih hms, List.cons_append]

theorem foldl_insert {given ms : Members} (h : Ordered (ms ++ given)) :
    given.foldl (fun ms m => insert m.1 m.2 ms) ms = ms ++ given := by
  induction given generalizing ms with
  | nil => rw [List.foldl_nil, List.append_nil]
  | cons m given ih =>
    have hlt : ∀ l ∈ ms, l.1 < m.1 := by
      rw [Ordered, List.map_append, List.pairwise_append] at h
      exact fun l hl => h.2.2 l.1 (List.mem_map_of_mem hl) m.1 (by simp)
    have happ : ms ++ [m] ++ given = ms ++ m :: given := by simp
    rw [List.foldl_cons, insert_last m.2 hlt, ih (happ.symm ▸ h), happ]

/-- Members in the order of their keys stay as they are. -/
theorem ofList_ordered {ms : Members} (h : ms.Ordered) : ofList ms = ms := foldl_insert h

/-- The keys of members in order are different. -/
theorem Ordered.count_key_le {ms : Members} (h : ms.Ordered) (key : String) :
    (ms.map Prod.fst).count key ≤ 1 := by
  have hn : (ms.map Prod.fst).Nodup :=
    h.imp fun {a b} (hlt : a < b) (he : a = b) => String.lt_irrefl b (he ▸ hlt)
  exact List.nodup_iff_count_le_one.1 hn key

theorem find?_eq_none {given : Members} {key : String} (h : (given.map Prod.fst).count key = 0) :
    find? given key = none := by
  induction given with
  | nil => rfl
  | cons m given ih =>
    rw [List.map_cons, List.count_cons] at h
    have hne : key ≠ m.1 := by
      rintro rfl
      simp at h
    rw [find?_cons, if_neg hne, ih (by omega)]

theorem find?_foldl_insert {given ms : Members} {key : String}
    (h : (given.map Prod.fst).count key ≤ 1) :
    find? (given.foldl (fun ms m => insert m.1 m.2 ms) ms) key =
      (find? given key).or (find? ms key) := by
  induction given generalizing ms with
  | nil => rfl
  | cons m given ih =>
    rw [List.map_cons, List.count_cons] at h
    rw [List.foldl_cons, ih (by omega), find?_insert, find?_cons]
    by_cases hk : key = m.1
    · have h0 : (given.map Prod.fst).count key = 0 := by
        rw [if_pos (by simp [hk])] at h
        omega
      rw [if_pos hk, if_pos hk, find?_eq_none h0, Option.none_or, Option.some_or]
    · rw [if_neg hk, if_neg hk]

/-- A key that is given once has the value that is given. -/
theorem find?_ofList {given : Members} {key : String} (h : (given.map Prod.fst).count key ≤ 1) :
    find? (ofList given) key = find? given key := by
  rw [ofList, find?_foldl_insert h, find?_nil, Option.or_none]

end Members

end FilterRules.Json
