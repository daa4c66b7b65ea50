/-
  FilterRules — the fields of documents.

  A path leads into a document one key after the other, so that what stands behind a dot is a
  path from where the part before it has led.

  * `splitDots_eq`, `segments_append` and `intercalate_segments`: the keys of a path are what
    stands between its dots, empty texts included;
  * `Json.Leads` and `Json.Strays` tell where keys lead, and that some key does not lead on;
    `leads_iff_walk` and `strays_iff_walk` say that the walk follows them;
  * `fieldValue_eq`: the field at a path is the value that its keys lead to;
  * `fieldValue_compositional` joins these.
-/
import FilterRules.Record.Path

namespace FilterRules

/-! ## The keys of a path -/

theorem splitDots_eq (cs : List Char) : splitDots cs = cs.splitOn '.' := by
  induction cs with
  | nil => rw [splitDots, List.splitOn_nil]
  | cons c rest ih =>
    rw [splitDots, List.splitOn_cons_eq_if_modifyHead, ih]
    by_cases h : c = '.'
    · rw [if_pos h, if_pos (beq_iff_eq.2 h)]
    · rw [if_neg h, if_neg (mt beq_iff_eq.1 h)]
      cases hs : rest.splitOn '.' with
      | nil => exact absurd hs (List.splitOn_ne_nil '.' rest)
      | cons piece pieces => rfl

theorem dot_not_mem_splitDots {cs piece : List Char} (h : piece ∈ splitDots cs) : '.' ∉ piece := by
  induction cs generalizing piece with
  | nil =>
    obtain rfl : piece = [] := List.mem_singleton.1 h
    exact List.not_mem_nil
  | cons c rest ih =>
    rw [splitDots] at h
    split at h
    · rcases List.mem_cons.1 h with rfl | h
      · exact List.not_mem_nil
      · exact ih h
    · next hc =>
      split at h
      · next first pieces hs =>
        rw [hs] at ih
        rcases List.mem_cons.1 h with rfl | h
        · intro hm
          rcases List.mem_cons.1 hm with hm | hm
          · exact hc hm.symm
          · exact ih List.mem_cons_self hm
        · exact ih (List.mem_cons_of_mem _ h)
      · next hs => exact absurd hs (splitDots_ne_nil rest)

/-- A key of a path has no dot in it. -/
theorem dot_not_mem_segments {path key : String} (h : key ∈ segments path) :
    '.' ∉ key.toList := by
  obtain ⟨piece, hp, rfl⟩ := List.mem_map.1 h
  rw [String.toList_ofList]
  exact dot_not_mem_splitDots hp

/-- A path is its keys joined by dots. -/
theorem intercalate_segments (path : String) : ".".intercalate (segments path) = path := by
  have hk : (segments path).map String.toList = path.toList.splitOn '.' := by
    rw [segments, List.map_map, splitDots_eq]
    exact List.map_id'' (fun _ => String.toList_ofList) _
  rw [← String.toList_inj, String.toList_intercalate, hk]
  exact List.intercalate_splitOn '.'

/-- A dot parts the keys before it from the keys behind it. -/
theorem segments_append (p q : String) : segments (p ++ "." ++ q) = segments p ++ segments q := by
  have hc : (p ++ "." ++ q).toList = p.toList ++ '.' :: q.toList := by simp
  simp only [segments, splitDots_eq, hc, List.splitOn_append_cons_self, List.map_append]

theorem segments_ne_nil (path : String) : segments path ≠ [] :=
  mt List.map_eq_nil_iff.1 (splitDots_ne_nil _)

namespace Json

/-! ## Where keys lead -/

/-- Keys lead from a value to another one: each is a key of the object that those before it have
    reached. -/
inductive Leads : Json → List String → Json → Prop
  | here {json} : Leads json [] json
  | into {ms key keys value target} : Members.find? ms key = some value →
      Leads value keys target → Leads (.object ms) (key :: keys) target

/-- A value has nothing under a key: it is an object without that key, or no object. -/
inductive Lacks : Json → String → Prop
  | absent {ms key} : Members.find? ms key = none → Lacks (.object ms) key
  | noObject {json key} : (∀ ms, json ≠ .object ms) → Lacks json key

/-- Some keys lead to a value that has nothing under the next one. -/
def Strays (json : Json) (keys : List String) : Prop :=
  ∃ before key after value, keys = before ++ key :: after ∧ json.Leads before value ∧
    value.Lacks key

section
variable {keys : List String} {json value : Json}

theorem leads_iff_walk : json.Leads keys value ↔ walk keys json = some value := by
  constructor
  · intro h
    induction h with
    | here => rfl
    | into hf _ ih => rw [walk, get?, hf, Option.bind_some, ih]
  · intro h
    induction keys generalizing json with
    | nil =>
      cases h
      exact .here
    | cons key keys ih =>
      obtain ⟨next, hg, hw⟩ := Option.bind_eq_some_iff.1 h
      cases json with
      | object ms => exact .into hg (ih hw)
      | null | bool | number | string | array => cases hg

theorem lacks_iff {key : String} : json.Lacks key ↔ json.get? key = none := by
  constructor
  · intro h
    cases h with
    | absent h => exact h
    | noObject h =>
      cases json with
      | object ms => exact absurd rfl (h ms)
      | null | bool | number | string | array => rfl
  · intro h
    cases json with
    | object ms => exact .absent h
    | null | bool | number | string | array => exact .noObject fun ms => nofun

theorem strays_iff_walk : json.Strays keys ↔ walk keys json = none := by
  constructor
  · rintro ⟨before, key, after, value, rfl, hl, hn⟩
    rw [walk_append, leads_iff_walk.1 hl, Option.bind_some, walk, lacks_iff.1 hn,
      Option.bind_none]
  · intro h
    induction keys generalizing json with
    | nil => cases h
    | cons key keys ih =>
      rw [walk] at h
      cases hg : json.get? key with
      | none => exact ⟨[], key, keys, json, rfl, .here, lacks_iff.2 hg⟩
      | some next =>
        rw [hg, Option.bind_some] at h
        obtain ⟨before, key', after, value, rfl, hl, hn⟩ := ih h
        refine ⟨key :: before, key', after, value, rfl, leads_iff_walk.2 ?_, hn⟩
        rw [walk, hg, Option.bind_some, leads_iff_walk.1 hl]

/-- Keys lead somewhere, or one of them does not lead on. -/
theorem strays_or_leads (json : Json) (keys : List String) :
    json.Strays keys ∨ ∃ value, json.Leads keys value := by
  cases hw : walk keys json with
  | none => exact .inl (strays_iff_walk.2 hw)
  | some value => exact .inr ⟨value, leads_iff_walk.2 hw⟩

/-! ## Fields -/

/-- The field at a path is the value that its keys lead to. -/
theorem fieldValue_eq (json : Json) (path : String) :
    json.fieldValue path = (walk (segments path) json).elim .missing .ofJson := by
  cases hs : segments path with
  | nil => exact absurd hs (segments_ne_nil path)
  | cons key keys =>
    cases json with
    | object ms =>
      rw [fieldValue, Members.fieldValue, hs, walk, get?]
      dsimp only
      cases (Members.find? ms key).bind (walk keys) <;> rfl
    | null | bool | number | string | array => rfl

theorem fieldValue_of_leads {path : String} (h : json.Leads (segments path) value) :
    json.fieldValue path = .ofJson value := by
  rw [fieldValue_eq, leads_iff_walk.1 h, Option.elim_some]

theorem ofJson_ne_missing (json : Json) : FieldValue.ofJson json ≠ .missing := by
  cases json <;> simp [FieldValue.ofJson]

/-- A field is missing if a key of its path does not lead on; a null at the end is there. -/
theorem fieldValue_missing_iff {path : String} :
    json.fieldValue path = .missing ↔ json.Strays (segments path) := by
  rw [strays_iff_walk, fieldValue_eq]
  cases walk (segments path) json with
  | none => simp
  | some value => simp [ofJson_ne_missing]

/-- A path behind a dot starts from the object that the path before the dot leads to. -/
theorem fieldValue_append_of_leads {p : String} {ms : Members}
    (h : json.Leads (segments p) (.object ms)) (q : String) :
    json.fieldValue (p ++ "." ++ q) = (Json.object ms).fieldValue q := by
  rw [fieldValue_eq, segments_append, walk_append, leads_iff_walk.1 h, Option.bind_some,
    ← fieldValue_eq]

/-- There is nothing behind a dot if the path before it leads to no object. -/
theorem fieldValue_append_of_not_leads {p : String}
    (h : ∀ ms, ¬ json.Leads (segments p) (.object ms)) (q : String) :
    json.fieldValue (p ++ "." ++ q) = .missing := by
  rw [fieldValue_missing_iff, segments_append]
  rcases strays_or_leads json (segments p) with hs | ⟨value, hl⟩
  · rw [strays_iff_walk, walk_append, strays_iff_walk.1 hs, Option.bind_none]
  · cases hq : segments q with
    | nil => exact absurd hq (segments_ne_nil q)
    | cons key keys =>
      have hv : ∀ ms, value ≠ .object ms := fun ms he => h ms (he ▸ hl)
      exact ⟨segments p, key, keys, value, rfl, hl, .noObject hv⟩

end

/-- **Looking up a path is compositional.**  The keys of a path are what its dots part; the field
    there is missing if one of them does not lead on, and is otherwise the value that they lead
    to; and what stands behind a dot is looked up in the object that the part before it leads to,
    if that is an object.  The members of an object have the same fields as the object. -/
theorem fieldValue_compositional (json : Json) (p q : String) :
    (".".intercalate (segments p) = p ∧ ∀ key ∈ segments p, '.' ∉ key.toList) ∧
    (json.fieldValue p = .missing ↔ json.Strays (segments p)) ∧
    (json.Strays (segments p) ∨
      ∃ value, json.Leads (segments p) value ∧ json.fieldValue p = .ofJson value) ∧
    (∀ ms, json.Leads (segments p) (.object ms) →
      json.fieldValue (p ++ "." ++ q) = (Json.object ms).fieldValue q) ∧
    ((∀ ms, ¬ json.Leads (segments p) (.object ms)) →
      json.fieldValue (p ++ "." ++ q) = .missing) ∧
    ∀ ms : Members, (Json.object ms).fieldValue p = ms.fieldValue p := by
  refine ⟨⟨intercalate_segments p, fun key => dot_not_mem_segments⟩, fieldValue_missing_iff, ?_,
    fun ms h => fieldValue_append_of_leads h q, fun h => fieldValue_append_of_not_leads h q,
    fun ms => rfl⟩
  rcases strays_or_leads json (segments p) with h | ⟨value, h⟩
  · exact .inl h
  · exact .inr ⟨value, h, fieldValue_of_leads h⟩

/-- A null behind two empty keys is there, and a list has nothing behind a dot. -/
theorem fieldValue_compositional_emptyKeys :
    let json := Json.object
      [("", .object [("", .object [("a", .null)])]), ("list", .array [.bool true])]
    segments "." = ["", ""] ∧ json.fieldValue "..a" = .null ∧
      json.Strays (segments "list.0") ∧ json.fieldValue "list.0" = .missing := by
  intro json
  have ha : json.Leads (segments ".") (.object [("a", .null)]) :=
    leads_iff_walk.2 (by decide)
  have hl : ∀ ms, ¬ json.Leads (segments "list") (.object ms) := by
    intro ms h
    have hw : walk (segments "list") json = some (.array [.bool true]) := by decide
    rw [leads_iff_walk.1 h] at hw
    cases hw
  obtain ⟨-, -, -, hdot, -⟩ := fieldValue_compositional json "." "a"
  obtain ⟨-, -, -, -, hmissing, -⟩ := fieldValue_compositional json "list" "0"
  obtain ⟨-, hstrays, -⟩ := fieldValue_compositional json "list.0" ""
  exact ⟨by decide, (hdot _ ha).trans (by decide), hstrays.1 (hmissing hl), hmissing hl⟩

end Json

end FilterRules
