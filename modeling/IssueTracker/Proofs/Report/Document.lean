import IssueTracker.Proofs.Json.RoundTrip
import IssueTracker.Proofs.Query.WellFormed
import IssueTracker.Report.Document
import IssueTracker.Store.Basic

/-!
# Reading back reports

Issues, queries and search results are read back from their JSON values as they are.  Of their numbers only
those that a numeral can write are (`Text.numeralLimit`); the ids that a database can hold are far below, and
the limit of a query was read from a numeral.
-/

namespace IssueTracker

open Json (IsReadAs)

variable {room : Nat}

theorem lt_pow_numeralLimit {n : Nat} (small : n ≤ 2 ^ 64) : n < 10 ^ Text.numeralLimit := by
  have least : 10 ^ 20 ≤ 10 ^ Text.numeralLimit := Nat.pow_le_pow_right (by decide) (by decide)
  omega

theorem fitsId_iff {id : Int} : fitsId id ↔ -9223372036854775808 ≤ id ∧ id ≤ 9223372036854775807 := by
  simp [fitsId]

/-! ## Issues -/

/-- An issue whose id, if it has one, is a number that the database can hold. -/
def Issue.FitsId (i : Issue) : Prop := ∀ id, i.id = some id → fitsId id

theorem isReadAs_moment (m : Option Moment) : IsReadAs room (Moment.document? m) (Moment.document? m) :=
  Json.isReadAs_text? _

theorem Issue.isReadAs_document {i : Issue} (fits : i.FitsId) : IsReadAs (room + 2) i.document i.document := by
  have id : IsReadAs (room + 1) (.integer? i.id) (.integer? i.id) := by
    refine Json.isReadAs_integer? fun m given => lt_pow_numeralLimit ?_
    have within := fitsId_iff.mp (fits m given)
    omega
  have labels : IsReadAs (room + 1) (.array ((i.labels.getD []).map .text?))
      (.array ((i.labels.getD []).map .text?)) := by
    refine Json.isReadAs_elements fun v member => ?_
    obtain ⟨label, _, rfl⟩ := List.mem_map.mp member
    exact Json.isReadAs_text? label
  refine Json.isReadAs_members (by simp) ?_
  simp only [List.forall_mem_cons, List.not_mem_nil, false_implies, implies_true, and_true,
    AnyText.isPlain_plain, true_and]
  exact ⟨id, Json.isReadAs_text? _, Json.isReadAs_text? _, Json.isReadAs_text? _, Json.isReadAs_text? _,
    Json.isReadAs_text? _, Json.isReadAs_text? _, Json.isReadAs_text? _, labels, isReadAs_moment _,
    isReadAs_moment _, isReadAs_moment _⟩

theorem isReadAs_issues {issues : List Issue} (fits : ∀ i ∈ issues, i.FitsId) :
    IsReadAs (room + 3) (.array (issues.map Issue.document)) (.array (issues.map Issue.document)) := by
  refine Json.isReadAs_elements fun v member => ?_
  obtain ⟨i, inside, rfl⟩ := List.mem_map.mp member
  exact Issue.isReadAs_document (fits i inside)

/-! ## Queries -/

theorem Bound.isReadAs_document (b : Bound) : IsReadAs (room + 1) b.document b.document := by
  refine Json.isReadAs_members (by simp) ?_
  simp only [List.forall_mem_cons, List.not_mem_nil, false_implies, implies_true, and_true,
    AnyText.isPlain_plain, true_and]
  exact ⟨Json.isReadAs_string _, Json.isReadAs_text? _, Json.isReadAs_text? _⟩

/-- Conditions are read back where no two fields have one name. -/
theorem isReadAs_conditions {α β : Type} {conditions : List (Condition α β)} {name : α → String}
    (document : List β → Json) (distinct : (conditions.map (·.field)).Nodup)
    (apart : ∀ c ∈ conditions, ∀ d ∈ conditions, name c.field = name d.field → c.field = d.field)
    (each : ∀ c ∈ conditions, IsReadAs room (document c.values) (document c.values)) :
    IsReadAs (room + 1) (.object (conditions.map fun c => (name c.field, document c.values)))
      (.object (conditions.map fun c => (name c.field, document c.values))) := by
  refine Json.isReadAs_members ?_ fun m member => ?_
  · have names : ((conditions.map (·.field)).map fun field => AnyText.plain (name field)).Nodup := by
      refine distinct.map_on fun a first b second same => ?_
      obtain ⟨c, inside, rfl⟩ := List.mem_map.mp first
      obtain ⟨d, there, rfl⟩ := List.mem_map.mp second
      exact apart c inside d there (AnyText.plain.inj same)
    rw [List.map_map] at names ⊢
    exact names
  · obtain ⟨c, inside, rfl⟩ := List.mem_map.mp member
    exact ⟨AnyText.isPlain_plain _, each c inside⟩

namespace Query
variable {q : Query}

theorem WellFormed.isReadAs_filters (wellFormed : q.WellFormed) :
    IsReadAs (room + 2) (.object (q.filters.map fun c => (c.field.name, .strings c.values)))
      (.object (q.filters.map fun c => (c.field.name, .strings c.values))) := by
  have apart : ∀ a ∈ FilterField.all, ∀ b ∈ FilterField.all, a.name = b.name → a = b := by decide
  refine isReadAs_conditions .strings wellFormed.filterFields ?_ fun c _ => Json.isReadAs_strings c.values
  exact fun c first d second => apart _ (wellFormed.filters c first).known _ (wellFormed.filters d second).known

theorem WellFormed.isReadAs_bounds (wellFormed : q.WellFormed) :
    IsReadAs (room + 3) (.object (q.bounds.map fun c => (c.field.name, .array (c.values.map Bound.document))))
      (.object (q.bounds.map fun c => (c.field.name, .array (c.values.map Bound.document)))) := by
  have apart : ∀ a ∈ DateField.all, ∀ b ∈ DateField.all, a.name = b.name → a = b := by decide
  have each (bounds : List Bound) :
      IsReadAs (room + 2) (.array (bounds.map Bound.document)) (.array (bounds.map Bound.document)) := by
    refine Json.isReadAs_elements fun v member => ?_
    obtain ⟨b, _, rfl⟩ := List.mem_map.mp member
    exact b.isReadAs_document
  refine isReadAs_conditions (fun bounds => .array (bounds.map Bound.document)) wellFormed.boundFields ?_
    fun c _ => each c.values
  exact fun c first d second => apart _ (wellFormed.bounds c first).known _ (wellFormed.bounds d second).known

private theorem natAbs_lt_pow {n : Int} {k : Nat} (positive : 0 ≤ n) (less : n < 10 ^ k) :
    n.natAbs < 10 ^ k := by
  obtain ⟨m, rfl⟩ := Int.eq_ofNat_of_zero_le positive
  exact_mod_cast less

theorem WellFormed.isReadAs_document (wellFormed : q.WellFormed) :
    IsReadAs (room + 4) q.document q.document := by
  have limit : IsReadAs (room + 3) (.integer? q.limit) (.integer? q.limit) := by
    refine Json.isReadAs_integer? fun m given => ?_
    obtain ⟨positive, short⟩ := wellFormed.limit m given
    exact natAbs_lt_pow positive short
  refine Json.isReadAs_members (by simp) ?_
  simp only [List.forall_mem_cons, List.not_mem_nil, false_implies, implies_true, and_true,
    AnyText.isPlain_plain, true_and]
  exact ⟨Json.isReadAs_string _, wellFormed.isReadAs_filters, wellFormed.isReadAs_bounds,
    Json.isReadAs_string _, Json.isReadAs_strings _, Json.isReadAs_text? _, Json.isReadAs_string _, limit⟩

end Query

/-! ## Search results -/

/-- The duration is written `0.0`, which is read as zero. -/
theorem isReadAs_searchDuration : IsReadAs room (.float searchDuration) (.float searchDuration) := by
  refine Json.isReadAs_finite fun {rest} ends => ?_
  have point : Json.EndsDigits ('.' :: '0' :: rest) := by
    intro c first
    rw [← Option.some.inj first]
    decide
  exact Json.readNumber_float Json.isWhole_zero false point
    (Json.fractionPart_point Json.isWhole_zero.toIsDigits ends.digit) (Json.exponentPart_none ends.mark)
    (by simp)

theorem SearchResult.isReadAs_document {r : SearchResult} (raw : String) (fits : ∀ i ∈ r.issues, i.FitsId)
    (total : r.total ≤ 2 ^ 64) (count : r.count ≤ 2 ^ 64) :
    IsReadAs (room + 4) (r.document raw) (r.document raw) := by
  refine Json.isReadAs_members (by simp) ?_
  simp only [List.forall_mem_cons, List.not_mem_nil, false_implies, implies_true, and_true,
    AnyText.isPlain_plain, true_and]
  exact ⟨Json.isReadAs_string _, Json.isReadAs_integer (lt_pow_numeralLimit total),
    Json.isReadAs_integer (lt_pow_numeralLimit count), isReadAs_searchDuration, isReadAs_issues fits⟩

end IssueTracker
