import IssueTracker.Proofs.Query.Lexeme
import IssueTracker.Proofs.Query.Reading
import IssueTracker.Proofs.Query.Values
import IssueTracker.Proofs.Text.Digits

/-!
# Well-formed queries

What every parsed query keeps (`wellFormed_of_parseQuery`): the invariant of the draft, carried
through each kind of token.
-/

namespace IssueTracker

/-- A condition on a field of the query language: at least one value, and each once. -/
structure Condition.IsProper (c : Condition FilterField String) : Prop where
  known : c.field ∈ FilterField.all
  filled : c.values ≠ []
  distinct : c.values.Nodup
  allowed : ∀ v ∈ c.values, c.field.Allows v

/-- A condition on a time of the query language: at least one bound. -/
structure Condition.IsProperTime (c : Condition DateField Bound) : Prop where
  known : c.field ∈ DateField.all
  filled : c.values ≠ []
  allowed : ∀ b ∈ c.values, b.IsProper

/-- A well-formed query: its text has no quotes in it and no blanks around it, it has proper
    conditions, at most one on each field, and its order and limit are such as can be written. -/
structure Query.WellFormed (q : Query) : Prop where
  textUnquoted : '"' ∉ q.text.toList
  textTrimmed : Text.strip q.text = q.text
  filterFields : (q.filters.map (·.field)).Nodup
  filters : ∀ c ∈ q.filters, c.IsProper
  boundFields : (q.bounds.map (·.field)).Nodup
  bounds : ∀ c ∈ q.bounds, c.IsProperTime
  sort : ∀ order, q.sort = some order → order.key ∈ SortKey.all
  limit : ∀ n, q.limit = some n → 0 ≤ n ∧ n < 10 ^ Text.numeralLimit

/-! ## The invariant of a draft -/

/-- What a draft keeps while it is read. -/
structure Draft.IsProper (d : Draft) : Prop where
  text : ∀ piece ∈ d.text, piece ≠ [] ∧ Text.IsTrimmed piece ∧ '"' ∉ piece
  filters : ∀ c ∈ d.filters, c.IsProper
  bounds : ∀ c ∈ d.bounds, c.IsProperTime
  sort : ∀ order, d.sort = some order → order.key ∈ SortKey.all
  limit : ∀ n, d.limit = some n → n < 10 ^ Text.numeralLimit

theorem readSort_known {value : List Char} {order : SortOrder} (reads : readSort value = .ok order) :
    order.key ∈ SortKey.all := by
  simp only [readSort] at reads
  split at reads
  · cases reads
  · split at reads
    · cases reads
    · rename_i key found
      have known := List.mem_of_find?_eq_some found
      split at reads
      · cases reads
        exact known
      · split at reads
        · cases reads
          exact known
        · cases reads

theorem readLimit_lt {value token : List Char} {n : Nat} (reads : readLimit value token = .ok n) :
    n < 10 ^ Text.numeralLimit := by
  simp only [readLimit] at reads
  generalize (if value.getLast? = some '\n' then value.dropLast else value) = digits at reads
  split at reads
  · cases reads
  · exact Text.readNumeral_lt (mapError_eq_ok.mp reads)

section
variable {d d' : Draft} {token : Token}

/-- Values that are read for a field keep the conditions proper. -/
private theorem Draft.IsProper.filters_add (h : d.IsProper) {field : FilterField} {value : List Char}
    {values : List String} (is : Lexeme.ofToken token = .filter field value)
    (reads : filterValues field value = .ok values) (negated : Bool) :
    ∀ c ∈ addCondition (List.foldl addNew) field negated values d.filters, c.IsProper := by
  have proper := Lexeme.proper_ofToken token
  rw [is] at proper
  obtain ⟨some, allowed⟩ := allows_of_filterValues proper.2 reads
  have grown (old : List String) : values.foldl addNew old ≠ [] := by
    obtain ⟨v, member⟩ := List.exists_mem_of_ne_nil values some
    exact List.ne_nil_of_mem (mem_foldl_addNew.mpr (Or.inr member))
  refine forall_addCondition h.filters ?_ ?_
  · exact {
      known := proper.1
      filled := grown []
      distinct := nodup_foldl_addNew List.nodup_nil values
      allowed := fun v member => allowed v (by simpa [mem_foldl_addNew] using member) }
  · intro c member same
    have old := h.filters c member
    refine ⟨old.known, grown c.values, nodup_foldl_addNew old.distinct values, ?_⟩
    intro v inside
    rcases mem_foldl_addNew.mp inside with before | new
    · exact old.allowed v before
    · exact same ▸ allowed v new

/-- A bound that is read for a time keeps the conditions proper. -/
private theorem Draft.IsProper.bounds_add (h : d.IsProper) {field : DateField} {value : List Char}
    {bound : Bound} (is : Lexeme.ofToken token = .date field value)
    (reads : Bound.read (String.ofList value) (String.ofList token) = .ok bound) (negated : Bool) :
    ∀ c ∈ addCondition (· ++ ·) field negated [bound] d.bounds, c.IsProperTime := by
  have proper := Lexeme.proper_ofToken token
  rw [is] at proper
  have isProper : bound.IsProper := by
    intro age target
    rcases Bound.read_eq_ok.mp reads with ⟨isAge, rfl⟩ | ⟨_, _, date, _, rfl⟩
    · cases target
      simpa using isAge
    · cases target
  refine forall_addCondition h.bounds ?_ ?_
  · exact ⟨proper.1, by simp, by simpa using isProper⟩
  · intro c member same
    have old := h.bounds c member
    refine ⟨old.known, by simp, ?_⟩
    intro b inside
    rcases List.mem_append.mp inside with before | new
    · exact old.allowed b before
    · exact List.mem_singleton.mp new ▸ isProper

/-- Every token that is read keeps the invariant. -/
theorem Draft.IsProper.of_reads (h : d.IsProper) (reads : d.Reads token d') : d'.IsProper := by
  cases reads with
  | not is => exact ⟨h.text, h.filters, h.bounds, h.sort, h.limit⟩
  | connective is free => exact ⟨h.text, h.filters, h.bounds, h.sort, h.limit⟩
  | sort is free reads =>
    refine ⟨h.text, h.filters, h.bounds, ?_, h.limit⟩
    rintro order ⟨rfl⟩
    exact readSort_known reads
  | limit is free reads =>
    refine ⟨h.text, h.filters, h.bounds, h.sort, ?_⟩
    rintro n ⟨rfl⟩
    exact readLimit_lt reads
  | filter is agrees reads => exact ⟨h.text, h.filters_add is reads _, h.bounds, h.sort, h.limit⟩
  | date is agrees reads => exact ⟨h.text, h.filters, h.bounds_add is reads _, h.sort, h.limit⟩
  | @text value is free =>
    have proper := Lexeme.proper_ofToken token
    rw [is] at proper
    refine ⟨?_, h.filters, h.bounds, h.sort, h.limit⟩
    intro piece member
    by_cases empty : value.isEmpty
    · rw [if_pos empty] at member
      exact h.text piece member
    · rw [if_neg empty] at member
      rcases List.mem_append.mp member with before | new
      · exact h.text piece before
      · rw [List.mem_singleton.mp new]
        exact ⟨by simpa using empty, proper.2, proper.1⟩

end

theorem isProper_of_readTokens {tokens : List Token} {d : Draft} (read : readTokens tokens = .ok d) :
    d.IsProper :=
  readTokens_induction (motive := fun _ d => d.IsProper)
    ⟨by simp, by simp, by simp, by simp, by simp⟩ (fun _ _ _ _ h reads => h.of_reads reads) read

private theorem natCast_lt_pow {n k : Nat} (less : n < 10 ^ k) : (n : Int) < 10 ^ k := by
  exact_mod_cast less

/-- A parsed query is well-formed. -/
theorem wellFormed_of_parseQuery {raw : String} {q : Query} (parsed : parseQuery raw = .ok q) :
    q.WellFormed := by
  obtain ⟨d, read, _, rfl⟩ := parseQuery_eq_ok.mp parsed
  have proper := isProper_of_readTokens read
  have holds := readTokens_holds read
  have text : d.query.text.toList = [' '].intercalate d.text := by
    simp [Draft.query, String.toList_intercalate, Function.comp_def]
  exact {
    textUnquoted := by
      rw [text]
      intro member
      rcases Text.mem_intercalate member with space | ⟨piece, isPiece, inside⟩
      · cases space
      · exact (proper.text piece isPiece).2.2 inside
    textTrimmed := by
      rw [Text.strip_eq_self_iff, text]
      exact Text.isTrimmed_intercalate fun piece member =>
        ⟨(proper.text piece member).1, (proper.text piece member).2.1⟩
    filterFields := holds.filters.distinct
    filters := proper.filters
    boundFields := holds.bounds.distinct
    bounds := proper.bounds
    sort := proper.sort
    limit := by
      intro n same
      obtain ⟨m, isLimit, rfl⟩ := Option.map_eq_some_iff.mp same
      have bound := proper.limit m isLimit
      exact ⟨Int.natCast_nonneg m, natCast_lt_pow bound⟩ }

end IssueTracker
