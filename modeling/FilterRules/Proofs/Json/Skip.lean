/-
  FilterRules — what can be read can be passed over.

  Passing over a value is laxer than reading it: wherever a value is read, the same
  text is left behind it when it is passed over.

  * `Passes` says so of one way to pass over a text, and that some of the text has
    been used up, from which it follows that there are rounds and levels enough;
  * `passes_string`, `passes_number` and `passes_scalar`: what has no parts;
  * `passes_items` and `passes_members`: the rest of an array and of an object, if
    what they hold is passed over (`Covers`);
  * `covers_scanValue` and `passes_value`: a value that is read is passed over.
-/
import FilterRules.Json.Skip
import FilterRules.Proofs.Json.Scanning

namespace FilterRules.Json

/-- A text has been passed over up to the rest of it, which is shorter. -/
structure Passes (cs rest : List Char) (skipped : Except Fault (List Char)) : Prop where
  skipped_eq : skipped = .ok rest
  shorter : rest.length < cs.length

namespace Passes

variable {cs ds mid rest : List Char} {skipped : Except Fault (List Char)}

theorem longer (h : Passes ds rest skipped) (hl : ds.length ≤ cs.length) :
    Passes cs rest skipped :=
  ⟨h.skipped_eq, Nat.lt_of_lt_of_le h.shorter hl⟩

/-- One part of a text is passed over behind another one. -/
theorem bind (h : Passes cs mid skipped) {f : List Char → Except Fault (List Char)}
    (hf : Passes mid rest (f mid)) : Passes cs rest (skipped >>= f) := by
  rw [h.skipped_eq]
  exact ⟨hf.skipped_eq, hf.shorter.trans h.shorter⟩

end Passes

/-! ## Words and strings -/

/-- The value that a word stands for does not matter. -/
theorem scanLiteral_ok {value other : Json} {word cs : List Char} {found : Scanned Json}
    (h : scanLiteral value word cs = .ok found) :
    scanLiteral other word cs = .ok (other, found.2) ∧ found.2.length ≤ cs.length := by
  induction word generalizing cs with
  | nil =>
    cases h
    exact ⟨rfl, Nat.le_refl _⟩
  | cons w word ih =>
    cases cs with
    | nil => cases h
    | cons c cs =>
      rw [scanLiteral] at h ⊢
      split at h
      · next hc =>
        obtain ⟨ho, hl⟩ := ih h
        rw [if_pos hc, ho]
        exact ⟨rfl, Nat.le_succ_of_le hl⟩
      · cases h

theorem consScan_ok {c : Char} {result : Except Fault (Scanned (List Char))}
    {s rest : List Char} (h : consScan c result = .ok (s, rest)) :
    ∃ t, result = .ok (t, rest) := by
  cases result with
  | error fault => cases h
  | ok scanned =>
    cases h
    exact ⟨scanned.1, rfl⟩

theorem passes_chars {cs s rest : List Char} (h : scanChars cs = .ok (s, rest)) :
    Passes cs rest (skipString cs) := by
  fun_induction scanChars cs generalizing s with
  | case2 rest' =>
    cases h
    exact ⟨rfl, Nat.lt_succ_self _⟩
  | case5 a b c d rest' unit hu _ _ ih =>
    obtain ⟨t, ht⟩ := consScan_ok h
    rw [skipString, if_pos (by simp [hu])]
    exact (ih ht).longer (by simp only [List.length_cons]; omega)
  | case7 a b c d unit hu _ _ e f g k rest' low hl _ ih =>
    -- Both halves of a surrogate pair are passed over, one after the other.
    obtain ⟨t, ht⟩ := consScan_ok h
    rw [skipString, if_pos (by simp [hu]), skipString, if_pos (by simp [hl])]
    exact (ih ht).longer (by simp only [List.length_cons]; omega)
  | case16 c rest' hx hu e he ih =>
    obtain ⟨t, ht⟩ := consScan_ok h
    have hs : skipString ('\\' :: c :: rest') = skipString rest' := by
      rw [skipString, if_pos (by simp [he])] <;> assumption
    rw [hs]
    exact (ih ht).longer (by simp only [List.length_cons]; omega)
  | case19 c rest' hq hx hu hb hc hlt ih =>
    obtain ⟨t, ht⟩ := consScan_ok h
    have hs : skipString (c :: rest') = skipString rest' := by
      rw [skipString, if_neg hlt] <;> assumption
    rw [hs]
    exact (ih ht).longer (Nat.le_succ _)
  | _ => cases h

theorem passes_string {cs rest : List Char} {s : String} (h : scanString cs = .ok (s, rest)) :
    Passes cs rest (skipString cs) := by
  unfold scanString at h
  cases hc : scanChars cs with
  | error fault => simp [hc] at h
  | ok scanned =>
    rw [hc] at h
    cases h
    exact passes_chars hc

/-! ## Numbers -/

theorem scanExponentDigits_rest {n : Nat} {cs rest : List Char} {value : Option Nat}
    (h : scanExponentDigits n cs = (value, rest)) :
    rest.dropWhile Char.isDigit = cs.dropWhile Char.isDigit ∧
      (value.isSome → rest = cs.dropWhile Char.isDigit) := by
  induction cs generalizing n with
  | nil =>
    cases h
    exact ⟨rfl, fun _ => rfl⟩
  | cons c cs ih =>
    rw [scanExponentDigits] at h
    split at h
    · next hc =>
      rw [List.dropWhile_cons_of_pos hc]
      dsimp only at h
      split at h
      · cases h
        exact ⟨rfl, nofun⟩
      · exact ih h
    · next hc =>
      cases h
      exact ⟨rfl, fun _ => (List.dropWhile_cons_of_neg (by simpa using hc)).symm⟩

theorem finishFloat_rest {n : Numeral} {cs rest : List Char} {value : Number}
    (h : finishFloat n cs = .ok (value, rest)) : rest = cs := by
  unfold finishFloat at h
  split at h
  · cases h
    rfl
  · cases h

section
variable {negative : Bool} {whole fraction cs rest : List Char} {value : Number}

/-- An exponent is passed over to the end of its digits, however large it is. -/
theorem skipExponent_eq (h : scanExponent negative whole fraction cs = .ok (value, rest)) :
    skipExponent cs = .ok rest := by
  simp only [scanExponent] at h
  rw [skipExponent]
  generalize (scanSign cs).1 = down at h
  cases hs : (scanSign cs).2 with
  | nil => simp [hs] at h
  | cons c ds =>
    rw [hs] at h
    dsimp only at h ⊢
    split at h
    · cases h
    · next hc =>
      have hd : c.isDigit = true := by simpa using hc
      rw [if_pos hd, ← List.dropWhile_cons_of_pos hd]
      split at h
      · next he =>
        rw [finishFloat_rest h, (scanExponentDigits_rest he).2 rfl]
      · next he =>
        split at h
        · cases h
        · rw [finishFloat_rest h, (scanExponentDigits_rest he).1]

theorem skipFraction_exponent {c : Char} {ds es : List Char} (hd : c.isDigit = true)
    (he : ds.dropWhile Char.isDigit = 'e' :: es ∨ ds.dropWhile Char.isDigit = 'E' :: es) :
    skipFraction (c :: ds) = skipExponent es := by
  rw [skipFraction, if_pos hd]
  rcases he with he | he
  · simp [he]
  · simp [he]

theorem skipFraction_end {c : Char} {ds : List Char} (hd : c.isDigit = true)
    (he : ∀ es, ds.dropWhile Char.isDigit ≠ 'e' :: es)
    (hE : ∀ es, ds.dropWhile Char.isDigit ≠ 'E' :: es) :
    skipFraction (c :: ds) = .ok (ds.dropWhile Char.isDigit) := by
  rw [skipFraction, if_pos hd]
  split
  · next h => exact absurd h (he _)
  · next h => exact absurd h (hE _)
  · rfl

theorem skipFraction_eq (h : scanFraction negative whole cs = .ok (value, rest)) :
    skipFraction cs = .ok rest := by
  simp only [scanFraction] at h
  split at h
  · cases h
  · next hne =>
    cases cs with
    | nil => simp at hne
    | cons c ds =>
      have hd : c.isDigit = true := by
        by_contra hc
        simp [List.takeWhile_cons_of_neg hc] at hne
      rw [List.dropWhile_cons_of_pos hd] at h
      split at h
      · next es he =>
        rw [skipFraction_exponent hd (.inl he)]
        exact skipExponent_eq h
      · next es hE =>
        rw [skipFraction_exponent hd (.inr hE)]
        exact skipExponent_eq h
      · next he hE => rw [skipFraction_end hd he hE, finishFloat_rest h]

theorem skipAfterWhole_eq (h : scanAfterWhole negative whole cs = .ok (value, rest)) :
    skipAfterWhole cs = .ok rest := by
  unfold scanAfterWhole at h
  split at h
  · exact skipFraction_eq h
  · exact skipExponent_eq h
  · exact skipExponent_eq h
  · next hp he hE =>
    rw [skipAfterWhole]
    · split at h
      · cases h
        rfl
      · rw [finishFloat_rest h]
    all_goals assumption

theorem skipNumber_eq (h : scanNumber negative cs = .ok (value, rest)) :
    skipNumber cs = .ok rest := by
  unfold scanNumber at h
  split at h
  · cases h
  · split at h
    · split at h
      · cases h
      · next hc =>
        rw [skipNumber, if_neg hc]
        exact skipAfterWhole_eq h
    · exact skipAfterWhole_eq h
  · split at h
    · next hc =>
      rw [skipNumber]
      · rw [if_pos hc]
        rw [List.dropWhile_cons_of_pos hc] at h
        exact skipAfterWhole_eq h
      all_goals assumption
    · cases h

theorem scanSign_suffix (cs : List Char) : (scanSign cs).2 <:+ cs := by
  unfold scanSign
  split
  · exact List.suffix_cons _ _
  · exact List.suffix_cons _ _
  · exact List.suffix_refl _

theorem skipExponent_suffix (h : skipExponent cs = .ok rest) : rest <:+ cs := by
  unfold skipExponent at h
  split at h
  · next c ds hs =>
    split at h
    · cases h
      have hc : c :: ds <:+ cs := hs ▸ scanSign_suffix cs
      exact (List.dropWhile_suffix _).trans ((List.suffix_cons c ds).trans hc)
    · cases h
  · cases h

theorem skipFraction_suffix (h : skipFraction cs = .ok rest) : rest <:+ cs := by
  cases cs with
  | nil => cases h
  | cons c ds =>
    rw [skipFraction] at h
    split at h
    · have hd : ds.dropWhile Char.isDigit <:+ c :: ds :=
        (List.dropWhile_suffix _).trans (List.suffix_cons c ds)
      generalize ds.dropWhile Char.isDigit = tail at h hd
      split at h
      · exact (skipExponent_suffix h).trans ((List.suffix_cons _ _).trans hd)
      · exact (skipExponent_suffix h).trans ((List.suffix_cons _ _).trans hd)
      · cases h
        exact hd
    · cases h

theorem skipAfterWhole_suffix (h : skipAfterWhole cs = .ok rest) : rest <:+ cs := by
  unfold skipAfterWhole at h
  split at h
  · exact (skipFraction_suffix h).trans (List.suffix_cons _ _)
  · exact (skipExponent_suffix h).trans (List.suffix_cons _ _)
  · exact (skipExponent_suffix h).trans (List.suffix_cons _ _)
  · cases h
    exact List.suffix_refl _

theorem skipNumber_shorter (h : skipNumber cs = .ok rest) : rest.length < cs.length := by
  unfold skipNumber at h
  split at h
  · cases h
  · split at h
    · split at h
      · cases h
      · exact Nat.lt_succ_of_le (skipAfterWhole_suffix h).length_le
    · cases h
      exact Nat.succ_pos _
  · next c ds _ =>
    split at h
    · have hs := (skipAfterWhole_suffix h).trans (List.dropWhile_suffix _)
      exact Nat.lt_succ_of_le hs.length_le
    · cases h

theorem passes_number (h : scanNumber negative cs = .ok (value, rest)) :
    Passes cs rest (skipNumber cs) :=
  ⟨skipNumber_eq h, skipNumber_shorter (skipNumber_eq h)⟩

end

/-! ## Values -/

theorem passes_scalar {c : Char} {cs rest : List Char} {value : Json}
    (h : scanScalar c cs = .ok (value, rest)) : Passes (c :: cs) rest (skipScalar c cs) := by
  have literal {word : Json} {letters : List Char}
      (hw : scanLiteral word letters cs = .ok (value, rest)) :
      Passes (c :: cs) rest (do return (← scanLiteral .null letters cs).2) := by
    obtain ⟨hn, hl⟩ := scanLiteral_ok hw
    rw [hn]
    exact ⟨rfl, Nat.lt_succ_of_le hl⟩
  unfold scanScalar at h
  unfold skipScalar
  split_ifs at h ⊢ with hn ht hf hq hm hd
  · exact literal h
  · exact literal h
  · exact literal h
  · obtain ⟨⟨s, rest'⟩, hs, he⟩ := map_eq_ok_iff.1 h
    cases he
    exact (passes_string hs).longer (Nat.le_succ _)
  · obtain ⟨⟨n, rest'⟩, hs, he⟩ := map_eq_ok_iff.1 h
    cases he
    exact (passes_number hs).longer (Nat.le_succ _)
  · obtain ⟨⟨n, rest'⟩, hs, he⟩ := map_eq_ok_iff.1 h
    cases he
    exact passes_number hs

/-! ## Arrays and objects -/

/-- What a scanner finds in a text that is no longer than `n` is passed over. -/
def Covers (n : Nat) (scan : Scanner Json) (skip : List Char → Except Fault (List Char)) : Prop :=
  ∀ {cs value rest}, cs.length ≤ n → scan cs = .ok (value, rest) → Passes cs rest (skip cs)

section
variable {n rounds : Nat} {scan : Scanner Json} {skip : List Char → Except Fault (List Char)}
  {cs ds rest : List Char}

theorem skipItems_comma (h : skipBlanks cs = ',' :: ds) :
    skipItems skip (rounds + 1) cs = skip ds >>= skipItems skip rounds := by
  rw [skipItems, h]
  rfl

theorem skipMembers_comma (h : skipBlanks cs = ',' :: ds) :
    skipMembers skip (rounds + 1) cs = skipMember skip ds >>= skipMembers skip rounds := by
  rw [skipMembers, h]
  rfl

theorem skipMember_quote (h : skipBlanks cs = '"' :: ds) :
    skipMember skip cs = skipString ds >>= fun ks => scanColon ks >>= skip := by
  rw [skipMember, h]
  rfl

theorem passes_colon (h : scanColon cs = .ok rest) : Passes cs rest (scanColon cs) :=
  ⟨h, scanColon_shorter h⟩

/-- The items behind an item are passed over, in as many rounds as there are characters. -/
theorem passes_items (hs : Covers n scan skip) (hb : ∀ cs, skip (skipBlanks cs) = skip cs)
    {values : List Json} (h : Listed scan cs values rest) (hn : cs.length ≤ n)
    (hr : cs.length < rounds) : Passes cs rest (skipItems skip rounds cs) := by
  induction h generalizing rounds with
  | close ha =>
    obtain ⟨rounds, rfl⟩ := Nat.exists_eq_succ_of_ne_zero (Nat.ne_zero_of_lt hr)
    have hd := elementAhead_close ha
    rw [skipItems, hd]
    exact ⟨rfl, shorter_of_skipBlanks hd⟩
  | item ha hv _ ih =>
    obtain ⟨rounds, rfl⟩ := Nat.exists_eq_succ_of_ne_zero (Nat.ne_zero_of_lt hr)
    obtain ⟨ds, hd, rfl⟩ := elementAhead_item_next ha
    have hds := shorter_of_skipBlanks hd
    have hle := length_skipBlanks_le ds
    have hitem := hs (by omega) hv
    have hmid := hitem.shorter
    rw [skipItems_comma hd, ← hb]
    exact (hitem.bind (ih (by omega) (by omega))).longer (by omega)

theorem passes_member (hs : Covers n scan skip) {ks vs : List Char} {key : String} {value : Json}
    (ha : skipBlanks cs = '"' :: ds) (hk : scanString ds = .ok (key, ks))
    (hc : scanColon ks = .ok vs) (hv : scan vs = .ok (value, rest)) (hn : cs.length ≤ n) :
    Passes cs rest (skipMember skip cs) := by
  have hds := shorter_of_skipBlanks ha
  have hkey := passes_string hk
  have hcolon := passes_colon hc
  have hks := hkey.shorter
  have hvs := hcolon.shorter
  rw [skipMember_quote ha]
  exact (hkey.bind (hcolon.bind (hs (by omega) hv))).longer (by omega)

/-- The members behind a member are passed over, in as many rounds as there are characters. -/
theorem passes_members (hs : Covers n scan skip) {members : Members}
    (h : Keyed scan cs members rest) (hn : cs.length ≤ n) (hr : cs.length < rounds) :
    Passes cs rest (skipMembers skip rounds cs) := by
  induction h generalizing rounds with
  | close ha =>
    obtain ⟨rounds, rfl⟩ := Nat.exists_eq_succ_of_ne_zero (Nat.ne_zero_of_lt hr)
    have hd := keyAhead_close ha
    rw [skipMembers, hd]
    exact ⟨rfl, shorter_of_skipBlanks hd⟩
  | member ha hk hc hv _ ih =>
    obtain ⟨rounds, rfl⟩ := Nat.exists_eq_succ_of_ne_zero (Nat.ne_zero_of_lt hr)
    obtain ⟨ds, hd, hq⟩ := keyAhead_item_next ha
    have hds := shorter_of_skipBlanks hd
    have hmember := passes_member hs hq hk hc hv (by omega)
    have hmid := hmember.shorter
    rw [skipMembers_comma hd]
    exact (hmember.bind (ih (by omega) (by omega))).longer (by omega)

end

/-! ## Values -/

section
variable {d depth : Nat} {c : Char} {cs ds es rest : List Char}

theorem skipDepth_skipBlanks (depth : Nat) (cs : List Char) :
    skipDepth depth (skipBlanks cs) = skipDepth depth cs := by
  rw [skipDepth, skipDepth, skipBlanks_skipBlanks]

theorem skipDepth_array (ha : skipBlanks cs = '[' :: ds) (hi : skipBlanks ds = c :: es)
    (hc : c ≠ ']') : skipDepth (d + 1) cs =
      skipDepth d (c :: es) >>= skipItems (skipDepth d) ((c :: es).length + 1) := by
  rw [skipDepth, ha]
  simp only [hi]
  split
  · next h => cases h
  · next h => exact absurd (List.cons.inj h).1 hc
  · rfl

theorem skipDepth_object (ho : skipBlanks cs = '{' :: ds) (hm : skipBlanks ds = '"' :: es) :
    skipDepth (d + 1) cs = skipMember (skipDepth d) ('"' :: es) >>=
      skipMembers (skipDepth d) (('"' :: es).length + 1) := by
  rw [skipDepth, ho]
  simp only [hm]
  rfl

theorem skipDepth_scalar (h : skipBlanks cs = c :: ds) (ha : c ≠ '[') (ho : c ≠ '{') :
    skipDepth d cs = skipScalar c ds := by
  rw [skipDepth, h]
  split
  · next h => cases h
  · next h => exact absurd (List.cons.inj h).1 ha
  · next h => exact absurd (List.cons.inj h).1 ho
  · next h =>
    cases h
    rfl

theorem passes_array (hs : Covers d (scanValue depth) (skipDepth d)) {items : List Json}
    (ha : skipBlanks cs = '[' :: ds)
    (h : scanItems (scanValue depth) (ds.length + 1) true ds = .ok (items, rest))
    (hn : cs.length ≤ d + 1) : Passes cs rest (skipDepth (d + 1) cs) := by
  have hds := shorter_of_skipBlanks ha
  rcases scanItems_ok h with ⟨hc, -⟩ | ⟨ds', value, mid, values, hi, hv, hl, -⟩
  · have hclose := elementAhead_close hc
    have hrest := shorter_of_skipBlanks hclose
    rw [skipDepth, ha]
    simp only [hclose]
    exact ⟨rfl, hrest.trans hds⟩
  · obtain ⟨he, c, es, rfl, hne⟩ := elementAhead_item_first hi
    have hle := length_skipBlanks_le ds
    rw [he] at hle
    have hitem := hs (by omega) hv
    have hmid := hitem.shorter
    have hitems := passes_items hs (skipDepth_skipBlanks d) hl (by omega) (Nat.lt_succ_of_lt hmid)
    rw [skipDepth_array ha he hne]
    exact (hitem.bind hitems).longer (by omega)

theorem passes_object (hs : Covers d (scanValue depth) (skipDepth d)) {given : Members}
    (ho : skipBlanks cs = '{' :: ds)
    (h : scanMembers (scanValue depth) (ds.length + 1) true ds = .ok (given, rest))
    (hn : cs.length ≤ d + 1) : Passes cs rest (skipDepth (d + 1) cs) := by
  have hds := shorter_of_skipBlanks ho
  rcases scanMembers_ok h with
    ⟨hc, -⟩ | ⟨es, key, ks, vs, value, mid, members, hi, hk, hcolon, hv, hm, -⟩
  · have hclose := keyAhead_close hc
    have hrest := shorter_of_skipBlanks hclose
    rw [skipDepth, ho]
    simp only [hclose]
    exact ⟨rfl, hrest.trans hds⟩
  · have hq := keyAhead_item_first hi
    have hle := length_skipBlanks_le ds
    rw [hq] at hle
    have hb : skipBlanks ('"' :: es) = '"' :: es := by rw [← hq, skipBlanks_skipBlanks]
    have hmember := passes_member hs hb hk hcolon hv (by omega)
    have hmid := hmember.shorter
    have hmembers := passes_members hs hm (by omega) (Nat.lt_succ_of_lt hmid)
    rw [skipDepth_object ho hq]
    exact (hmember.bind hmembers).longer (by omega)

theorem passes_depth_scalar {value : Json} (hs : skipBlanks cs = c :: ds) (ha : c ≠ '[')
    (ho : c ≠ '{') (hv : scanScalar c ds = .ok (value, rest)) :
    Passes cs rest (skipDepth d cs) := by
  rw [skipDepth_scalar hs ha ho]
  exact (passes_scalar hv).longer (shorter_of_skipBlanks hs)

/-- What is read is passed over, with as many levels as there are characters. -/
theorem covers_scanValue (depth d : Nat) : Covers d (scanValue depth) (skipDepth d) := by
  induction depth generalizing d with
  | zero =>
    intro cs value rest hn h
    cases scansAs_of_scanValue h with
    | scalar hs ha ho hv => exact passes_depth_scalar hs ha ho hv
  | succ depth ih =>
    intro cs value rest hn h
    cases scansAs_of_scanValue h with
    | array ha hi =>
      have hlt := shorter_of_skipBlanks ha
      obtain ⟨d, rfl⟩ := Nat.exists_eq_succ_of_ne_zero (by omega : d ≠ 0)
      exact passes_array (ih d) ha hi hn
    | object ho hm =>
      have hlt := shorter_of_skipBlanks ho
      obtain ⟨d, rfl⟩ := Nat.exists_eq_succ_of_ne_zero (by omega : d ≠ 0)
      exact passes_object (ih d) ho hm hn
    | scalar hs ha ho hv => exact passes_depth_scalar hs ha ho hv

/-- **A value that is read is passed over**, up to the same place in the text. -/
theorem passes_value {value : Json} (h : scanValue depth cs = .ok (value, rest)) :
    Passes cs rest (skipValue cs) :=
  covers_scanValue depth cs.length (Nat.le_refl _) h

end

end FilterRules.Json
