/-
  FilterRules — values read back from their text.

  A value that is written as a text is read from it as long as no more arrays and
  objects stand inside each other than the reading allows.

  * `Settles` says how the reading of something written ends, which depends on its
    nesting alone; `Settles.bind` puts one reading after another;
  * `settles_items` and `settles_members`: the items of an array and the members of
    an object, if each of them settles;
  * `settles_render`: a sorted value whose floats read back (`FloatsReadBack`), in front
    of a text that carries no number on;
  * `settles_readDepth`: a text that holds just the value.
-/
import FilterRules.Proofs.Json.Scalars
import FilterRules.Proofs.Json.Structure

namespace FilterRules.Json

/-! ## Outcomes -/

/-- How the reading of something ends that is nested in some way: it is found, with
    the text behind it, or it is nested deeper than the reading allows. -/
inductive Settles {α : Type} (depth nesting : Nat) (found : Scanned α) :
    Except Fault (Scanned α) → Prop
  | reads : nesting ≤ depth → Settles depth nesting found (.ok found)
  | faults {left} : depth < nesting → Settles depth nesting found (.error ⟨.nestedTooDeep, left⟩)

namespace Settles

variable {α β : Type} {depth n m : Nat} {found : Scanned α} {found' : Scanned β}
  {result : Except Fault (Scanned α)}

theorem of_eq (h : result = .ok found) : Settles depth 0 found result :=
  h ▸ .reads (Nat.zero_le _)

/-- What is read behind something that has been found. -/
theorem after {γ : Type} {x : Except Fault γ} {a : γ} (hx : x = .ok a)
    {f : γ → Except Fault (Scanned β)} (h : Settles depth n found' (f a)) :
    Settles depth n found' (x >>= f) := by
  subst hx
  exact h

/-- One reading after another is as deep as the deeper one. -/
theorem bind (h : Settles depth n found result) {f : Scanned α → Except Fault (Scanned β)}
    (hf : Settles depth m found' (f found)) : Settles depth (max n m) found' (result >>= f) := by
  cases h with
  | reads hn =>
    change Settles _ _ _ (f found)
    generalize f found = result' at hf ⊢
    cases hf with
    | reads hm => exact .reads (Nat.max_le.2 ⟨hn, hm⟩)
    | faults hm => exact .faults (by omega)
  | faults hn => exact .faults (by omega)

theorem map (h : Settles depth n found result) {f : Scanned α → Except Fault (Scanned β)}
    (hf : f found = .ok found') : Settles depth n found' (result >>= f) :=
  Nat.max_zero n ▸ h.bind (of_eq hf)

/-- What is read inside an array or object is one level deeper than the whole. -/
theorem inside (h : Settles depth n found result) {f : Scanned α → Except Fault (Scanned β)}
    (hf : f found = .ok found') : Settles (depth + 1) (n + 1) found' (result >>= f) := by
  cases h with
  | reads hn =>
    change Settles _ _ _ (f found)
    rw [hf]
    exact .reads (Nat.succ_le_succ hn)
  | faults hn => exact .faults (Nat.succ_lt_succ hn)

end Settles

/-! ## Arrays -/

theorem length_lt_renderItems (items : List Json) : items.length < (renderItems items).length := by
  induction items with
  | nil => simp [renderItems]
  | cons item items ih => simp [renderItems]; omega

theorem endsNumber_items (items : List Json) (rest : List Char) :
    EndsNumber (renderItems items ++ rest) := by
  cases items with
  | nil => exact endsNumber_cons (by decide)
  | cons item items => exact endsNumber_cons (by decide)

theorem elementAhead_first (json : Json) (rest : List Char) :
    elementAhead true (json.render ++ rest) = .ok (.item (json.render ++ rest)) := by
  obtain ⟨c, cs, hc, hb, he⟩ := render_head json
  rw [hc, List.cons_append, elementAhead, skipBlanks_cons hb]
  simp

theorem elementAhead_next (json : Json) (rest : List Char) :
    elementAhead false (',' :: (json.render ++ rest)) = .ok (.item (json.render ++ rest)) := by
  obtain ⟨c, cs, hc, hb, he⟩ := render_head json
  rw [hc, List.cons_append, elementAhead, skipBlanks_cons (by decide)]
  simp [skipBlanks_cons hb, he]

section
variable {depth : Nat} {item : Scanner Json}

/-- The scanner settles on a value, whatever comes behind it. -/
def SettlesOn (depth : Nat) (item : Scanner Json) (json : Json) : Prop :=
  ∀ rest, EndsNumber rest → Settles depth json.nesting (json, rest) (item (json.render ++ rest))

/-- An item and those behind it, which start with a comma or end the array. -/
theorem settles_item {json : Json} {items : List Json} {first : Bool} {cs rest : List Char}
    {rounds : Nat} (h : SettlesOn depth item json)
    (ha : elementAhead first cs = .ok (.item (json.render ++ (renderItems items ++ rest))))
    (hs : Settles depth (nestingItems items) (items, rest)
      (scanItems item rounds false (renderItems items ++ rest))) :
    Settles depth (nestingItems (json :: items)) (json :: items, rest)
      (scanItems item (rounds + 1) first cs) :=
  .after ha ((h _ (endsNumber_items items rest)).bind (hs.map rfl))

theorem settles_items {items : List Json} (h : ∀ json ∈ items, SettlesOn depth item json)
    (rest : List Char) {rounds : Nat} (hr : items.length < rounds) :
    Settles depth (nestingItems items) (items, rest)
      (scanItems item rounds false (renderItems items ++ rest)) := by
  induction items generalizing rounds with
  | nil =>
    obtain ⟨rounds, rfl⟩ := Nat.exists_eq_add_of_lt hr
    exact .of_eq rfl
  | cons json items ih =>
    obtain ⟨hj, hjs⟩ := List.forall_mem_cons.1 h
    obtain ⟨rounds, rfl⟩ := Nat.exists_eq_succ_of_ne_zero (Nat.ne_zero_of_lt hr)
    refine settles_item hj ?_ (ih hjs (Nat.lt_of_succ_lt_succ hr))
    rw [renderItems, List.cons_append, List.append_assoc, elementAhead_next]

theorem scanValue_array_succ (depth : Nat) (cs : List Char) :
    scanValue (depth + 1) ('[' :: cs) =
      scanItems (scanValue depth) (cs.length + 1) true cs >>= fun x => .ok (.array x.1, x.2) := rfl

/-- An array settles where its items do, one level further in. -/
theorem settlesOn_array {items : List Json}
    (h : ∀ depth, ∀ json ∈ items, SettlesOn depth (scanValue depth) json) :
    SettlesOn depth (scanValue depth) (.array items) := by
  intro rest _
  cases depth with
  | zero =>
    -- The opening bracket is one level too deep already.
    cases items with
    | nil => exact .faults (Nat.succ_pos _)
    | cons json items => exact .faults (Nat.succ_pos _)
  | succ depth =>
    cases items with
    | nil => exact .reads (Nat.succ_le_succ (Nat.zero_le _))
    | cons json items =>
      obtain ⟨hj, hjs⟩ := List.forall_mem_cons.1 (h depth)
      have hlt := length_lt_renderItems items
      have hf := elementAhead_first json (renderItems items ++ rest)
      rw [render, List.cons_append, List.append_assoc, scanValue_array_succ, nesting]
      refine (settles_item hj hf (settles_items hjs rest ?_)).inside rfl
      simp only [List.length_append]
      omega

end

/-! ## Objects -/

theorem length_lt_renderMembers (ms : Members) : ms.length < (renderMembers ms).length := by
  induction ms with
  | nil => simp [renderMembers]
  | cons m ms ih => simp [renderMembers]; omega

theorem endsNumber_members (ms : Members) (rest : List Char) :
    EndsNumber (renderMembers ms ++ rest) := by
  cases ms with
  | nil => exact endsNumber_cons (by decide)
  | cons m ms => exact endsNumber_cons (by decide)

/-- The text of a member behind the opening quote of its key. -/
def memberText (m : String × Json) (rest : List Char) : List Char :=
  m.1.toList.flatMap escape ++ '"' :: ':' :: (m.2.render ++ rest)

theorem renderMembers_append (m : String × Json) (ms : Members) (rest : List Char) :
    renderMembers (m :: ms) ++ rest = ',' :: '"' :: memberText m (renderMembers ms ++ rest) := by
  simp [renderMembers, memberText, quote]

theorem render_object_append (m : String × Json) (ms : Members) (rest : List Char) :
    (object (m :: ms)).render ++ rest =
      '{' :: '"' :: memberText m (renderMembers ms ++ rest) := by
  simp [render, memberText, quote]

theorem length_lt_memberText (m : String × Json) (ms : Members) (rest : List Char) :
    ms.length < (memberText m (renderMembers ms ++ rest)).length := by
  have := length_lt_renderMembers ms
  simp only [memberText, List.length_append, List.length_cons]
  omega

theorem keyAhead_first (m : String × Json) (rest : List Char) :
    keyAhead true ('"' :: memberText m rest) = .ok (.item (memberText m rest)) := rfl

theorem keyAhead_next (m : String × Json) (rest : List Char) :
    keyAhead false (',' :: '"' :: memberText m rest) = .ok (.item (memberText m rest)) := rfl

section
variable {depth : Nat} {item : Scanner Json}

/-- A member and those behind it, which start with a comma or end the object. -/
theorem settles_member {m : String × Json} {ms : Members} {first : Bool} {cs rest : List Char}
    {rounds : Nat} (h : SettlesOn depth item m.2)
    (ha : keyAhead first cs = .ok (.item (memberText m (renderMembers ms ++ rest))))
    (hs : Settles depth (nestingMembers ms) (ms, rest)
      (scanMembers item rounds false (renderMembers ms ++ rest))) :
    Settles depth (nestingMembers (m :: ms)) (m :: ms, rest)
      (scanMembers item (rounds + 1) first cs) := by
  have hk : scanString (memberText m (renderMembers ms ++ rest)) =
      .ok (m.1, ':' :: (m.2.render ++ (renderMembers ms ++ rest))) := scanString_quoted m.1 _
  have hc : scanColon (':' :: (m.2.render ++ (renderMembers ms ++ rest))) =
      .ok (m.2.render ++ (renderMembers ms ++ rest)) := rfl
  exact .after ha (.after hk (.after hc
    ((h _ (endsNumber_members ms rest)).bind (hs.map rfl))))

theorem settles_members {ms : Members} (h : ∀ m ∈ ms, SettlesOn depth item m.2)
    (rest : List Char) {rounds : Nat} (hr : ms.length < rounds) :
    Settles depth (nestingMembers ms) (ms, rest)
      (scanMembers item rounds false (renderMembers ms ++ rest)) := by
  induction ms generalizing rounds with
  | nil =>
    obtain ⟨rounds, rfl⟩ := Nat.exists_eq_add_of_lt hr
    exact .of_eq rfl
  | cons m ms ih =>
    obtain ⟨hm, hms⟩ := List.forall_mem_cons.1 h
    obtain ⟨rounds, rfl⟩ := Nat.exists_eq_succ_of_ne_zero (Nat.ne_zero_of_lt hr)
    refine settles_member hm ?_ (ih hms (Nat.lt_of_succ_lt_succ hr))
    rw [renderMembers_append, keyAhead_next]

theorem scanValue_object_succ (depth : Nat) (cs : List Char) :
    scanValue (depth + 1) ('{' :: cs) =
      scanMembers (scanValue depth) (cs.length + 1) true cs >>=
        fun x => .ok (ofMembers x.1, x.2) := rfl

/-- An object settles where the values of its members do, one level further in. -/
theorem settlesOn_object {ms : Members} (ho : ms.Ordered)
    (h : ∀ depth, ∀ m ∈ ms, SettlesOn depth (scanValue depth) m.2) :
    SettlesOn depth (scanValue depth) (.object ms) := by
  intro rest _
  cases depth with
  | zero =>
    -- The opening brace is one level too deep already.
    cases ms with
    | nil => exact .faults (Nat.succ_pos _)
    | cons m ms => exact .faults (Nat.succ_pos _)
  | succ depth =>
    cases ms with
    | nil => exact .reads (Nat.succ_le_succ (Nat.zero_le _))
    | cons m ms =>
      obtain ⟨hm, hms⟩ := List.forall_mem_cons.1 (h depth)
      have hr := (length_lt_memberText m ms rest).trans (Nat.lt_succ_self _)
      have hf := keyAhead_first m (renderMembers ms ++ rest)
      rw [render_object_append, scanValue_object_succ, nesting]
      refine (settles_member hm hf (settles_members hms rest hr)).inside ?_
      rw [ofMembers, Members.ofList_ordered ho]

end

/-! ## Values -/

/-- The floats in a value read back from their texts. -/
def FloatsReadBack (json : Json) : Prop :=
  ∀ x hf, Inside (.number (.float x hf)) json → (Number.float x hf).ReadsBack

/-- **A sorted value whose floats read back reads back from its text, unless it is nested too
    deep.** -/
theorem settles_render {json : Json} (hs : json.Sorted) (hb : json.FloatsReadBack) (depth : Nat) :
    SettlesOn depth (scanValue depth) json := by
  induction json generalizing depth with
  | null => exact fun rest _ => .of_eq (scanValue_null rest depth)
  | bool b => exact fun rest _ => .of_eq (scanValue_bool b rest depth)
  | number n =>
    intro rest hr
    cases n with
    | integer n h => exact .of_eq (scans_integer n h rest hr depth)
    | float x hf => exact .of_eq (scans_of_readsBack (hb x hf .refl) rest hr depth)
  | string s => exact fun rest _ => .of_eq (scanValue_string s rest depth)
  | array items ih =>
    have hi := sorted_array.1 hs
    refine settlesOn_array fun depth json hj => ih json hj (hi json hj) ?_ depth
    exact fun x hf h => hb x hf (.item hj h)
  | object ms ih =>
    obtain ⟨ho, hms⟩ := sorted_object.1 hs
    refine settlesOn_object ho fun depth m hm => ih m hm (hms m hm) ?_ depth
    exact fun x hf h => hb x hf (.member hm h)

/-! ## Texts -/

/-- How the reading of a text ends that holds just a value. -/
theorem settles_readDepth {json : Json} (hs : json.Sorted) (hb : json.FloatsReadBack)
    (depth : Nat) :
    (json.nesting ≤ depth → readDepth depth json.render = .ok json) ∧
      (depth < json.nesting →
        ∃ left, readDepth depth json.render = .error ⟨.nestedTooDeep, left⟩) := by
  have h := settles_render hs hb depth [] endsNumber_nil
  rw [List.append_nil] at h
  unfold readDepth
  generalize scanValue depth json.render = result at h ⊢
  cases h with
  | reads hn => exact ⟨fun _ => rfl, fun hlt => absurd hn (Nat.not_le.2 hlt)⟩
  | faults hlt => exact ⟨fun hn => absurd hn (Nat.not_le.2 hlt), fun _ => ⟨_, rfl⟩⟩

end FilterRules.Json
