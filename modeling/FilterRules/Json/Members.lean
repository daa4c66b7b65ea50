/-
  FilterRules — the members of objects.

  * `Members.find?` and `get?` look a key up;
  * `Members.insert` sets the value of a key, and `Members.ofList` and `ofMembers`
    set one after the other, so that the last value given for a key stays;
  * `Members.find?_insert`: an insertion answers for its own key and leaves the
    others as they are; `Members.ordered_ofList`: what is built by insertion has
    its keys in increasing order, each once.
-/
import FilterRules.Json.Basic

namespace FilterRules.Json

/-- The value of a key of an object. -/
def Members.find? (ms : Members) (key : String) : Option Json := ms.lookup key

/-- The value of a key; what is no object has none. -/
def get? : Json → String → Option Json
  | .object ms, key => Members.find? ms key
  | _, _ => none

/-- Sets the value of a key, in the key's place in the order of keys. -/
def Members.insert (key : String) (value : Json) : Members → Members
  | [] => [(key, value)]
  | (k, v) :: rest =>
    if key < k then (key, value) :: (k, v) :: rest
    else if key = k then (key, value) :: rest
    else (k, v) :: Members.insert key value rest

/-- The members given one after the other, a later value replacing an earlier
    one of the same key. -/
def Members.ofList (given : List (String × Json)) : Members :=
  given.foldl (fun ms m => Members.insert m.1 m.2 ms) []

/-- The object with the given members. -/
def ofMembers (given : List (String × Json)) : Json := .object (Members.ofList given)

namespace Members

/-! ## Looking up -/

theorem find?_nil (key : String) : find? [] key = none := rfl

theorem find?_cons (m : String × Json) (ms : Members) (key : String) :
    find? (m :: ms) key = if key = m.1 then some m.2 else find? ms key := by
  obtain ⟨k, value⟩ := m
  by_cases h : key = k
  · simp [find?, h]
  · simp [find?, List.lookup_cons, h, beq_eq_false_iff_ne.2 h]

/-- An insertion answers for its own key and leaves the others as they are. -/
theorem find?_insert (ms : Members) (key k : String) (value : Json) :
    find? (ms.insert key value) k = if k = key then some value else ms.find? k := by
  induction ms with
  | nil => simp only [insert, find?_cons, find?_nil]
  | cons m rest ih =>
    obtain ⟨l, v⟩ := m
    simp only [insert]
    split
    · simp only [find?_cons]
    · rename_i hlt
      split
      · rename_i heq
        subst heq
        simp only [find?_cons]
        split <;> rfl
      · rename_i hne
        simp only [find?_cons, ih]
        by_cases hk : k = l
        · simp [hk, Ne.symm hne]
        · simp [hk]

/-! ## Order -/

theorem mem_keys_insert {ms : Members} {key k : String} {value : Json}
    (h : k ∈ (ms.insert key value).map Prod.fst) : k = key ∨ k ∈ ms.map Prod.fst := by
  induction ms with
  | nil => exact .inl (by simpa [insert] using h)
  | cons m rest ih =>
    simp only [insert] at h
    split at h
    · simpa only [List.map_cons, List.mem_cons] using h
    · split at h
      · rcases List.mem_cons.1 h with h | h
        · exact .inl h
        · exact .inr (List.mem_cons_of_mem _ h)
      · rcases List.mem_cons.1 h with h | h
        · exact .inr (by rw [h]; exact List.mem_cons_self)
        · exact (ih h).imp id (List.mem_cons_of_mem _)

/-- An insertion keeps the order of the keys. -/
theorem ordered_insert {ms : Members} (key : String) (value : Json) (h : ms.Ordered) :
    (ms.insert key value).Ordered := by
  induction ms with
  | nil => simp [insert, Ordered]
  | cons m rest ih =>
    obtain ⟨hm, hrest⟩ := List.pairwise_cons.1 h
    simp only [insert]
    split
    · rename_i hlt
      refine List.pairwise_cons.2 ⟨fun k hk => ?_, h⟩
      rcases List.mem_cons.1 hk with rfl | hk
      · exact hlt
      · exact String.lt_trans hlt (hm k hk)
    · rename_i hlt
      split
      · rename_i heq
        subst heq
        exact List.pairwise_cons.2 ⟨hm, hrest⟩
      · rename_i hne
        refine List.pairwise_cons.2 ⟨fun k hk => ?_, ih hrest⟩
        rcases mem_keys_insert hk with rfl | hk
        · exact Std.lt_of_le_of_ne (String.not_lt.1 hlt) (Ne.symm hne)
        · exact hm k hk

/-- What is built by insertion has its keys in order. -/
theorem ordered_ofList (given : List (String × Json)) : (ofList given).Ordered := by
  have go (given : List (String × Json)) (ms : Members) (h : ms.Ordered) :
      Ordered (given.foldl (fun ms m => insert m.1 m.2 ms) ms) := by
    induction given generalizing ms with
    | nil => exact h
    | cons m rest ih => exact ih _ (ordered_insert m.1 m.2 h)
  exact go given [] List.Pairwise.nil

end Members

end FilterRules.Json
