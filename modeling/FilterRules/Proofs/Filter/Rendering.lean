/-
  FilterRules — what the document of a filter tells.

  A document tells all of the filter that it is made of but the digits of its dates
  past the millisecond.  The names of fields, the keys of clauses and the words that
  join filters are all keys of objects there, but under the name of a field stands
  an object and under a word that joins filters a list.

  * `Filter.rec_join`: induction over a filter, in which filters joined may rely on
    each of them;
  * `toMilliseconds` cuts the dates of a bound, a clause and a filter down to
    milliseconds, and `Instant.toMilliseconds_eq_iff` says what that leaves of one;
  * `Bound.document_eq_iff`, `Clause.document_eq_iff` and `document_eq_iff`: two of
    them have one document if that makes them equal;
  * `document_eq_iff_toMilliseconds`: filters are told apart by their documents to
    the millisecond, and so they are whatever is held equal among numbers.
-/
import FilterRules.Proofs.Calendar.Writing
import FilterRules.Proofs.Filter.Document

namespace FilterRules

/-! ## Instants -/

/-- Two instants are equal to the millisecond if they have the same count of milliseconds and
    none of them lies in a leap second, or both: the count alone takes a leap second for the
    second behind it. -/
theorem Instant.toMilliseconds_eq_iff {t u : Instant} :
    t.toMilliseconds = u.toMilliseconds ↔
      t.milliseconds = u.milliseconds ∧ t.isLeap = u.isLeap := by
  obtain ⟨s, n, hn, hl⟩ := t
  obtain ⟨s', n', hn', hl'⟩ := u
  simp only [toMilliseconds, milliseconds, isLeap, Instant.mk.injEq, decide_eq_decide]
  omega

/-! ## Bounds -/

@[simp]
theorem Json.single_inj {key key' : String} {value value' : Json} :
    Json.single key value = Json.single key' value' ↔ key = key' ∧ value = value' := by
  simp [single]

/-- A bound to the millisecond. -/
def Bound.toMilliseconds : Bound → Bound
  | .number n => .number n
  | .datetime t => .datetime t.toMilliseconds

theorem Bound.document_eq_iff {b b' : Bound} :
    b.document = b'.document ↔ b.toMilliseconds = b'.toMilliseconds := by
  cases b with
  | number n =>
    cases b' with
    | number m => simp [document, toMilliseconds]
    | datetime u => simp [document, toMilliseconds, Json.single]
  | datetime t =>
    cases b' with
    | number m => simp [document, toMilliseconds, Json.single]
    | datetime u => simp [document, toMilliseconds, Rfc3339.render_eq_iff]

/-! ## Clauses -/

/-- A clause to the millisecond. -/
def Clause.toMilliseconds : Clause → Clause
  | .lt bound => .lt bound.toMilliseconds
  | .lte bound => .lte bound.toMilliseconds
  | .gt bound => .gt bound.toMilliseconds
  | .gte bound => .gte bound.toMilliseconds
  | clause => clause

theorem Clause.document_eq_iff {c c' : Clause} :
    c.document = c'.document ↔ c.toMilliseconds = c'.toMilliseconds := by
  -- The key tells the constructor, and the operand what it is applied to.
  cases c <;> cases c' <;>
    simp [document, key, operand, toMilliseconds, Bound.document_eq_iff]

/-! ## Filters -/

namespace Filter

/-- Induction over a filter: filters joined may rely on each of them. -/
@[elab_as_elim, induction_eliminator]
theorem rec_join {motive : Filter → Prop} (field : ∀ name clause, motive (.field name clause))
    (join : ∀ condition filters, (∀ f ∈ filters, motive f) → motive (join condition filters))
    (filter : Filter) : motive filter :=
  @Filter.rec motive (fun filters => ∀ f ∈ filters, motive f) (join .and) (join .or) field
    (fun _ h => absurd h List.not_mem_nil)
    (fun _ _ hf hfs => List.forall_mem_cons.2 ⟨hf, hfs⟩) filter

mutual

/-- A filter to the millisecond. -/
def toMilliseconds : Filter → Filter
  | .and filters => .and (toMillisecondsList filters)
  | .or filters => .or (toMillisecondsList filters)
  | .field name clause => .field name clause.toMilliseconds

/-- Some filters to the millisecond. -/
def toMillisecondsList : List Filter → List Filter
  | [] => []
  | filter :: filters => filter.toMilliseconds :: toMillisecondsList filters

end

theorem toMilliseconds_join (condition : Condition) (filters : List Filter) :
    (join condition filters).toMilliseconds = join condition (filters.map toMilliseconds) := by
  have h : toMillisecondsList filters = filters.map toMilliseconds := by
    induction filters with
    | nil => rfl
    | cons f filters ih => rw [toMillisecondsList, ih, List.map_cons]
  cases condition <;> rw [join, toMilliseconds, h, join]

theorem join_inj {condition condition' : Condition} {filters filters' : List Filter} :
    join condition filters = join condition' filters' ↔
      condition = condition' ∧ filters = filters' := by
  cases condition <;> cases condition' <;> simp [join]

theorem join_document_eq_iff {condition condition' : Condition} {filters filters' : List Filter} :
    (join condition filters).document = (join condition' filters').document ↔
      condition = condition' ∧ filters.map document = filters'.map document := by
  cases condition <;> cases condition' <;> simp [join, document, Rule.documents_eq]

/-- Under the name of a field stands an object and not a list, whatever the name is. -/
theorem field_document_ne_join {name : String} {clause : Clause} {condition : Condition}
    {filters : List Filter} :
    (field name clause).document ≠ (join condition filters).document := by
  cases condition <;> simp [join, document, Clause.document, Json.single]

theorem map_eq_map_iff_of_forall {α β γ : Type} {p : α → β} {q : α → γ} {xs ys : List α}
    (h : ∀ x ∈ xs, ∀ y, p x = p y ↔ q x = q y) : xs.map p = ys.map p ↔ xs.map q = ys.map q := by
  induction xs generalizing ys with
  | nil => simp [eq_comm]
  | cons x xs ih =>
    obtain ⟨hx, hxs⟩ := List.forall_mem_cons.1 h
    cases ys with
    | nil => simp
    | cons y ys => simp [hx, ih hxs]

theorem field_ne_join {name : String} {clause : Clause} {condition : Condition}
    {filters : List Filter} : field name clause ≠ join condition filters := by
  cases condition <;> simp [join]

/-- Filters have one document if and only if they are equal to the millisecond. -/
theorem document_eq_iff {f f' : Filter} :
    f.document = f'.document ↔ f.toMilliseconds = f'.toMilliseconds := by
  induction f generalizing f' with
  | field name clause =>
    induction f' with
    | field name' clause' => simp [document, toMilliseconds, Clause.document_eq_iff]
    | join condition' filters' =>
      rw [toMilliseconds_join, toMilliseconds]
      exact iff_of_false field_document_ne_join field_ne_join
  | join condition filters ih =>
    induction f' with
    | field name' clause' =>
      rw [toMilliseconds_join, toMilliseconds]
      exact iff_of_false field_document_ne_join.symm field_ne_join.symm
    | join condition' filters' =>
      rw [join_document_eq_iff, toMilliseconds_join, toMilliseconds_join, join_inj,
        map_eq_map_iff_of_forall fun f hf f' => ih f hf]

end Filter

/-! ## Numbers -/

section
variable (g : Json.Number → Json.Number)

theorem Json.mapNumbers_single (key : String) (value : Json) :
    (single key value).mapNumbers g = single key (value.mapNumbers g) := by
  rw [single, mapNumbers, mapNumbersMembers, mapNumbersMembers, single]

theorem Bound.document_mapNumbers (b : Bound) :
    (b.mapNumbers g).document = b.document.mapNumbers g := by
  cases b <;> simp [mapNumbers, document, Json.mapNumbers, Json.mapNumbers_single]

theorem Clause.document_mapNumbers (c : Clause) :
    (c.mapNumbers g).document = c.document.mapNumbers g := by
  rw [document, document, Json.mapNumbers_single]
  cases c with
  | isIn values | notIn values => rw [operand, Json.mapNumbers_array]; rfl
  | lt bound | lte bound | gt bound | gte bound => rw [operand, ← bound.document_mapNumbers]; rfl
  | notRegex pattern => rw [operand, Json.mapNumbers_single]; rfl
  | _ => rfl

theorem Clause.toMilliseconds_mapNumbers (c : Clause) :
    (c.mapNumbers g).toMilliseconds = c.toMilliseconds.mapNumbers g := by
  cases c with
  | lt bound | lte bound | gt bound | gte bound => cases bound <;> rfl
  | _ => rfl

namespace Filter

theorem document_mapNumbers (f : Filter) :
    (f.mapNumbers g).document = f.document.mapNumbers g := by
  induction f with
  | field name clause =>
    rw [mapNumbers, document, document, Json.mapNumbers_single, Clause.document_mapNumbers]
  | join condition filters ih =>
    have h : filters.map (fun f => (f.mapNumbers g).document) =
        filters.map (fun f => f.document.mapNumbers g) := List.map_congr_left ih
    rw [mapNumbers_join]
    cases condition <;> simp [join, document, Rule.documents_eq, Json.mapNumbers_single,
      Json.mapNumbers_array, h, Function.comp_def]

theorem toMilliseconds_mapNumbers (f : Filter) :
    (f.mapNumbers g).toMilliseconds = f.toMilliseconds.mapNumbers g := by
  induction f with
  | field name clause => simp only [mapNumbers, toMilliseconds, Clause.toMilliseconds_mapNumbers]
  | join condition filters ih =>
    rw [mapNumbers_join, toMilliseconds_join, toMilliseconds_join, mapNumbers_join, List.map_map,
      List.map_map]
    exact congrArg (join condition) (List.map_congr_left ih)

end Filter
end

/-- **Rendering loses nothing of a filter but the digits past the millisecond**: two filters have
    one document if and only if they are equal once their dates are cut down to milliseconds, and
    so it is where numbers are told apart less finely than by their bits, as when the sign of a
    zero does not count.  Dates cut down so are still told apart by their counts of milliseconds
    and, where these are equal, as a leap second from the second behind it. -/
theorem Filter.document_eq_iff_toMilliseconds (f f' : Filter) :
    (f.document = f'.document ↔ f.toMilliseconds = f'.toMilliseconds) ∧
    (∀ g, f.document.mapNumbers g = f'.document.mapNumbers g ↔
      f.toMilliseconds.mapNumbers g = f'.toMilliseconds.mapNumbers g) ∧
    ∀ t u : Instant, (Bound.datetime t).toMilliseconds = (Bound.datetime u).toMilliseconds ↔
      t.milliseconds = u.milliseconds ∧ t.isLeap = u.isLeap := by
  refine ⟨document_eq_iff, fun g => ?_, fun t u => ?_⟩
  · rw [← document_mapNumbers, ← document_mapNumbers, ← toMilliseconds_mapNumbers,
      ← toMilliseconds_mapNumbers, document_eq_iff]
  · rw [Bound.toMilliseconds, Bound.toMilliseconds, Bound.datetime.injEq,
      Instant.toMilliseconds_eq_iff]

end FilterRules
