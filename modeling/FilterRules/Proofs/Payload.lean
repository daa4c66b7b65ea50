/-
  FilterRules — a rule inside other data is the same from a text as from a value.

  Data is decoded from a text while that is read, with all keys but one passed over,
  or from a value, the members of which have been put in order.

  * `writtenKeys` are the keys of the object in a text, as they are written;
  * `read_object`: how an object has been read;
  * `scanFields_eq`: the one known key of an object in a text is taken as among the
    members that are read, unless it comes twice;
  * `Style.decoded` is what the value of the key or its absence gives;
  * `Payload.ofText_eq_ofJson`: both ways give that.
-/
import FilterRules.Payload
import FilterRules.Proofs.Json.Skip
import FilterRules.Proofs.Json.Structure

namespace FilterRules

open Json

/-! ## Objects in texts -/

namespace Json

/-- The keys of the object in a text from left to right, escapes being resolved: one may come
    more than once. -/
def writtenKeys (text : String) : List String :=
  match skipBlanks text.toList with
  | '{' :: rest =>
    match scanMembers (scanValue (nestingLimit - 1)) (rest.length + 1) true rest with
    | .ok (given, _) => given.map Prod.fst
    | .error _ => []
  | _ => []

theorem scanScalar_ne_object {c : Char} {cs rest : List Char} {ms : Members} :
    scanScalar c cs ≠ .ok (.object ms, rest) := by
  have literal {value : Json} {word : List Char}
      (h : scanLiteral value word cs = .ok (.object ms, rest)) : value = .object ms := by
    have hv := (scanLiteral_ok h).1.symm.trans h
    cases hv
    rfl
  intro h
  unfold scanScalar at h
  split_ifs at h with hn ht hf hq hm hd
  · cases literal h
  · cases literal h
  · cases literal h
  · obtain ⟨x, -, he⟩ := map_eq_ok_iff.1 h
    cases he
  · obtain ⟨x, -, he⟩ := map_eq_ok_iff.1 h
    cases he
  · obtain ⟨x, -, he⟩ := map_eq_ok_iff.1 h
    cases he

/-- A text that is read as an object has members one after the other, and nothing behind. -/
theorem read_object {text : String} {ms : Members} (h : read text = .ok (.object ms)) :
    ∃ ds given rest, skipBlanks text.toList = '{' :: ds ∧
      scanMembers (scanValue (nestingLimit - 1)) (ds.length + 1) true ds = .ok (given, rest) ∧
      closeText rest = .ok () ∧ ms = Members.ofList given ∧
      writtenKeys text = given.map Prod.fst := by
  obtain ⟨⟨value, rest⟩, hv, h⟩ := bind_eq_ok_iff.1 h
  obtain ⟨_, hc, h⟩ := bind_eq_ok_iff.1 h
  cases h
  generalize hd : nestingLimit = depth at hv
  cases scansAs_of_scanValue hv with
  | @object depth _ ds given _ hs hm =>
    obtain rfl : nestingLimit - 1 = depth := by rw [hd, Nat.add_sub_cancel]
    exact ⟨ds, given, rest, hs, hm, hc, rfl, by rw [writtenKeys, hs]; simp only [hm]⟩
  | scalar hs ha ho hv => exact absurd hv scanScalar_ne_object

end Json

/-! ## One known key -/

section
variable {σ : Type} {field : Field σ} {item : Scanner Json} {key : String} {state : σ}
  {cs ds ks vs mid rest : List Char} {value : Json} {given : Members}

/-- A field takes from a text what it takes from the value that stands there. -/
def Field.Agrees (field : Field σ) (item : Scanner Json) : Prop :=
  ∀ {state cs value rest}, item cs = .ok (value, rest) →
    field.scan state cs = (field.ofJson state value).map fun next => (next, rest)

theorem decodeMembers_cons (field : Field σ) (state : σ) (key : String) (value : Json)
    (given : Members) : decodeMembers [field] state ((key, value) :: given) =
      if field.key = key then
        field.ofJson state value >>= fun next => decodeMembers [field] next given
      else decodeMembers [field] state given := by
  rw [decodeMembers]
  by_cases h : field.key = key <;> simp [h]

theorem decodeMembers_absent (h : (given.map Prod.fst).count field.key = 0) :
    decodeMembers [field] state given = .ok state := by
  induction given with
  | nil => rfl
  | cons m given ih =>
    obtain ⟨key, value⟩ := m
    rw [List.map_cons, List.count_cons] at h
    have hne : field.key ≠ key := by
      rintro rfl
      simp at h
    rw [decodeMembers_cons, if_neg hne, ih (by omega)]

/-- A member in a text: its key is looked at before its value. -/
theorem scanFields_succ {rounds : Nat} {first : Bool} (ha : keyAhead first cs = .ok (.item ds))
    (hk : scanString ds = .ok (key, ks)) (hc : scanColon ks = .ok vs) :
    scanFields [field] (rounds + 1) first state cs =
      if field.key = key then
        if field.isSet state then .error (.repeatedKey key)
        else field.scan state vs >>= fun x => scanFields [field] rounds false x.1 x.2
      else ofReading (skipValue vs) >>= scanFields [field] rounds false state := by
  rw [scanFields, ha]
  change (ofReading (scanString ds) >>= _) = _
  rw [hk]
  by_cases h : field.key = key
  · by_cases hset : field.isSet state = true
    · simp [ofReading, Except.mapError, bind, Except.bind, h, hset]
      rfl
    · simp [ofReading, Except.mapError, bind, Except.bind, h, hset, hc]
  · simp [ofReading, Except.mapError, bind, Except.bind, h, hc]

section
variable (hitem : ∀ {cs value rest}, item cs = .ok (value, rest) → Passes cs rest (skipValue cs))
  (hfield : field.Agrees item)
include hitem hfield

/-- A member in a text is taken as among the members that are read, if those behind it are. -/
theorem scanFields_member {rounds : Nat} {first : Bool}
    (ha : keyAhead first cs = .ok (.item ds)) (hk : scanString ds = .ok (key, ks))
    (hc : scanColon ks = .ok vs) (hv : item vs = .ok (value, mid))
    (hcount : (field.isSet state).toNat +
      (((key, value) :: given).map Prod.fst).count field.key ≤ 1)
    (ih : ∀ next, (field.isSet next).toNat + (given.map Prod.fst).count field.key ≤ 1 →
      scanFields [field] rounds false next mid =
        (decodeMembers [field] next given).map fun found => (found, rest)) :
    scanFields [field] (rounds + 1) first state cs =
      (decodeMembers [field] state ((key, value) :: given)).map fun found => (found, rest) := by
  rw [List.map_cons, List.count_cons] at hcount
  rw [scanFields_succ ha hk hc, decodeMembers_cons]
  by_cases h : field.key = key
  · rw [if_pos (by simp [h])] at hcount
    have hset : field.isSet state = false := Bool.toNat_eq_zero.1 (by omega)
    rw [if_pos h, if_pos h, hset, if_neg Bool.false_ne_true, hfield hv]
    cases field.ofJson state value with
    | error e => rfl
    | ok next =>
      have hnext := (field.isSet next).toNat_le
      exact ih next (by omega)
  · rw [if_neg h, if_neg h, (hitem hv).skipped_eq]
    exact ih state (by omega)

/-- The members behind a member are taken, in as many rounds as there are characters. -/
theorem scanFields_keyed {rounds : Nat} (h : Keyed item cs given rest) (hr : cs.length < rounds)
    (hcount : (field.isSet state).toNat + (given.map Prod.fst).count field.key ≤ 1) :
    scanFields [field] rounds false state cs =
      (decodeMembers [field] state given).map fun found => (found, rest) := by
  induction h generalizing rounds state with
  | close ha =>
    obtain ⟨rounds, rfl⟩ := Nat.exists_eq_succ_of_ne_zero (Nat.ne_zero_of_lt hr)
    rw [scanFields, ha]
    rfl
  | member ha hk hc hv _ ih =>
    obtain ⟨rounds, rfl⟩ := Nat.exists_eq_succ_of_ne_zero (Nat.ne_zero_of_lt hr)
    obtain ⟨es, hd, hq⟩ := keyAhead_item_next ha
    have hes := shorter_of_skipBlanks hd
    have hds := shorter_of_skipBlanks hq
    have hks := (passes_string hk).shorter
    have hvs := scanColon_shorter hc
    have hmid := (hitem hv).shorter
    exact scanFields_member hitem hfield ha hk hc hv hcount fun next hn => ih (by omega) hn

/-- **The one known key of an object in a text is taken as among the members that are read**,
    unless it comes twice. -/
theorem scanFields_eq (h : scanMembers item (cs.length + 1) true cs = .ok (given, rest))
    (hset : field.isSet state = false) (hcount : (given.map Prod.fst).count field.key ≤ 1) :
    scanFields [field] (cs.length + 1) true state cs =
      (decodeMembers [field] state given).map fun found => (found, rest) := by
  rcases scanMembers_ok h with
    ⟨ha, rfl⟩ | ⟨ds, key, ks, vs, value, mid, members, ha, hk, hc, hv, hm, rfl⟩
  · rw [scanFields, ha]
    rfl
  · have hds := shorter_of_skipBlanks (keyAhead_item_first ha)
    have hks := (passes_string hk).shorter
    have hvs := scanColon_shorter hc
    have hmid := (hitem hv).shorter
    refine scanFields_member hitem hfield ha hk hc hv ?_ fun next hn => ?_
    · rw [hset, Bool.toNat_false, Nat.zero_add]
      exact hcount
    · exact scanFields_keyed hitem hfield hm (by omega) hn

end
end

/-! ## Rules inside other data -/

namespace Payload

/-- The rule that the value of the key gives, or its absence. -/
def Style.decoded (style : Style) : Option Json → Except DecodeError (Option Rule)
  | none => style.absent
  | some json => style.ofMember json

theorem Style.field_agrees (style : Style) : style.field.Agrees (scanValue (nestingLimit - 1)) := by
  intro state cs value rest h
  simp only [field, scanMember, h, ofReading, Except.mapError, bind, Except.bind, pure,
    Except.pure]
  cases style.ofMember value <;> rfl

/-- The rule of the members of an object in which the key comes once at most. -/
theorem Style.decodeMembers_eq {style : Style} {given : Members}
    (h : (given.map Prod.fst).count memberKey ≤ 1) :
    (decodeMembers [style.field] none given >>= style.finish) =
      style.decoded (Members.find? given memberKey) := by
  induction given with
  | nil => rfl
  | cons m given ih =>
    obtain ⟨key, value⟩ := m
    rw [List.map_cons, List.count_cons] at h
    rw [decodeMembers_cons, Members.find?_cons]
    change ((if memberKey = key then _ else _) >>= _) = _
    by_cases hk : memberKey = key
    · rw [if_pos (by simp [hk])] at h
      have h0 : (given.map Prod.fst).count memberKey = 0 := by omega
      have hrest : ∀ next, decodeMembers [style.field] next given = .ok next :=
        fun next => decodeMembers_absent h0
      rw [if_pos hk, if_pos hk]
      simp only [hrest]
      change ((style.ofMember value >>= _) >>= _ >>= _) = style.ofMember value
      cases style.ofMember value <;> rfl
    · rw [if_neg hk, if_neg hk]
      exact ih (by omega)

theorem ofJson_object (style : Style) {ms : Members} (h : ms.Ordered) :
    ofJson style (.object ms) = style.decoded (Members.find? ms memberKey) :=
  Style.decodeMembers_eq (Members.Ordered.count_key_le h memberKey)

theorem ofText_object {style : Style} {text : String} {ms : Members}
    (h : read text = .ok (.object ms)) (hc : (writtenKeys text).count memberKey ≤ 1) :
    ofText style text = style.decoded (Members.find? ms memberKey) := by
  obtain ⟨ds, given, rest, hs, hm, hclose, rfl, hkeys⟩ := read_object h
  rw [hkeys] at hc
  have hscan := scanFields_eq (fun hv => passes_value hv) style.field_agrees hm
    (rfl : style.field.isSet none = false) hc
  rw [Members.find?_ofList hc, ← Style.decodeMembers_eq hc, ofText, hs]
  simp only [scanObject, hscan]
  cases decodeMembers [style.field] none given with
  | error e => rfl
  | ok found =>
    change ((style.finish found >>= _) >>= _) = style.finish found
    cases style.finish found with
    | error e => rfl
    | ok rule =>
      change (ofReading (closeText rest) >>= _) = _
      rw [hclose]
      rfl

/-- **A rule inside other data is the same from a text as from the value of the text**, be it
    required, nullable or optional, if its key comes once at most in the text: the same rule, no
    rule or the same error.  It is what reading the value `w` of the key gives; but a required
    rule has to be there and be one, and a nullable rule has to be one if it is there and not
    null. -/
theorem ofText_eq_ofJson {text : String} {ms : Members} (h : read text = .ok (.object ms))
    (hc : (writtenKeys text).count memberKey ≤ 1) :
    (∀ style, ofText style text = ofJson style (.object ms)) ∧
    (ofJson .optional (.object ms) = match Members.find? ms memberKey with
      | none => .ok none
      | some w => (Rule.ofJson w).mapError .rule) ∧
    (ofJson .required (.object ms) = match Members.find? ms memberKey with
      | none => .error (.missingKey memberKey)
      | some w => match Rule.ofJson w with
        | .ok (some rule) => .ok (some rule)
        | .ok none => .error (.rule (.atRoot .noFilter))
        | .error e => .error (.rule e)) ∧
    ofJson .nullable (.object ms) =
      if Members.find? ms memberKey = none ∨ Members.find? ms memberKey = some .null then .ok none
      else ofJson .required (.object ms) := by
  have ho : ms.Ordered := by
    obtain ⟨_, given, _, -, -, -, rfl, -⟩ := read_object h
    exact Members.ordered_ofList given
  refine ⟨fun style => (ofText_object h hc).trans (ofJson_object style ho).symm, ?_, ?_, ?_⟩
  · rw [ofJson_object .optional ho]
    cases Members.find? ms memberKey <;> rfl
  · rw [ofJson_object .required ho]
    cases Members.find? ms memberKey with
    | none => rfl
    | some w =>
      simp only [Style.decoded, Style.ofMember, Rule.decodeJson]
      cases Rule.ofJson w with
      | error e => rfl
      | ok rule => cases rule <;> rfl
  · rw [ofJson_object .nullable ho, ofJson_object .required ho]
    cases Members.find? ms memberKey with
    | none => rfl
    | some w => cases w <;> rfl

/-- An object without members under a key with an escape, behind a member that is passed over. -/
theorem ofText_eq_ofJson_escaped : ∃ text ms,
    text = "\x7b\"a\":[-0],\"f\\u0069lter\":\x7b\x7d\x7d" ∧
    read text = .ok (.object ms) ∧ (writtenKeys text).count memberKey ≤ 1 ∧
    ofText .required text = ofJson .required (.object ms) ∧
    ofText .required text = .error (.rule (.atRoot .noFilter)) ∧
    ofText .optional text = .ok none := by
  have h : read "\x7b\"a\":[-0],\"f\\u0069lter\":\x7b\x7d\x7d" = .ok (.object
      [("a", .array [.number (.float ⟨0x8000000000000000⟩ (by decide))]),
        ("filter", .object [])]) := by
    decide +kernel
  have hc : (writtenKeys "\x7b\"a\":[-0],\"f\\u0069lter\":\x7b\x7d\x7d").count memberKey ≤ 1 := by
    decide +kernel
  obtain ⟨htext, hoptional, hrequired, -⟩ := ofText_eq_ofJson h hc
  exact ⟨_, _, rfl, h, hc, htext .required, (htext .required).trans hrequired,
    (htext .optional).trans hoptional⟩

end Payload

end FilterRules
