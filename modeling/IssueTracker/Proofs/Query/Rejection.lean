import IssueTracker.Proofs.Query.Acceptance
import IssueTracker.Proofs.Text.Digits

/-!
# Why a text writes no query

Reading stops at the first token that cannot be read behind those before it, whatever follows, and
what it fails with is the rejection (`readTokens_eq_error`).  A rejection is an error in the query,
except at a limit of more digits than a numeral may have (`parseQuery_eq_longLimit`).
-/

namespace IssueTracker

/-! ## The token that stops -/

/-- A lexeme that no `NOT` may stand before, whatever it holds. -/
def Lexeme.IsPlain : Lexeme → Prop
  | connective _ | sort _ | limit _ | text _ => True
  | not | filter .. | date .. | unknown _ => False

/-- A token is not read behind what a draft holds, for a reason. -/
inductive Draft.Fails (d : Draft) (token : Token) : Rejection → Prop
  | negated (is : (Lexeme.ofToken token).IsPlain) (pending : d.pending.isSome) :
      Fails d token (.query (.invalidNegation (String.ofList token)))
  | unknown {name : List Char} (is : Lexeme.ofToken token = .unknown name) :
      Fails d token (.query (.unknownField (String.ofList name)))
  | sort {value : List Char} {e : QueryError} (is : Lexeme.ofToken token = .sort value)
      (free : d.pending = none) (fails : readSort value = .error e) : Fails d token (.query e)
  | limit {value : List Char} {r : Rejection} (is : Lexeme.ofToken token = .limit value)
      (free : d.pending = none) (fails : readLimit value token = .error r) : Fails d token r
  | filterConflict {field : FilterField} {value : List Char}
      (is : Lexeme.ofToken token = .filter field value)
      (disagrees : conflicts field (d.pending.getD false) d.filters = true) :
      Fails d token (.query (.conflictingNegation field.name (String.ofList token)))
  | filter {field : FilterField} {value : List Char} {e : QueryError}
      (is : Lexeme.ofToken token = .filter field value)
      (agrees : conflicts field (d.pending.getD false) d.filters = false)
      (fails : filterValues field value = .error e) : Fails d token (.query e)
  | dateConflict {field : DateField} {value : List Char}
      (is : Lexeme.ofToken token = .date field value)
      (disagrees : conflicts field (d.pending.getD false) d.bounds = true) :
      Fails d token (.query (.conflictingNegation field.name (String.ofList token)))
  | date {field : DateField} {value : List Char} {e : QueryError}
      (is : Lexeme.ofToken token = .date field value)
      (agrees : conflicts field (d.pending.getD false) d.bounds = false)
      (fails : Bound.read (String.ofList value) (String.ofList token) = .error e) :
      Fails d token (.query e)

theorem noPending_eq_error {d : Draft} {token : Token} {r : Rejection} :
    d.noPending token = .error r ↔
      d.pending.isSome ∧ r = .query (.invalidNegation (String.ofList token)) := by
  cases pending : d.pending <;> simp [Draft.noPending, reject, pending, eq_comm]

theorem Draft.fails_or_free {d : Draft} {token : Token} {r : Rejection} {α : Type}
    {rest : Unit → Except Rejection α} (is : (Lexeme.ofToken token).IsPlain)
    (run : (d.noPending token >>= rest) = .error r) :
    d.Fails token r ∨ d.pending = none ∧ rest () = .error r := by
  rcases bind_eq_error.mp run with fails | ⟨_, free, run⟩
  · obtain ⟨pending, rfl⟩ := noPending_eq_error.mp fails
    exact Or.inl (.negated is pending)
  · exact Or.inr ⟨noPending_eq_ok.mp free, run⟩

theorem Draft.fails_of_step {d : Draft} {token : Token} {r : Rejection}
    (run : d.step token = .error r) : d.Fails token r := by
  rw [step] at run
  cases is : Lexeme.ofToken token with
  | not =>
    rw [is] at run
    cases run
  | connective connective =>
    rw [is] at run
    rcases fails_or_free (by simp [is, Lexeme.IsPlain]) run with fails | ⟨_, run⟩
    · exact fails
    · cases run
  | unknown name =>
    rw [is] at run
    cases run
    exact .unknown is
  | sort value =>
    rw [is] at run
    rcases fails_or_free (by simp [is, Lexeme.IsPlain]) run with fails | ⟨free, run⟩
    · exact fails
    · obtain ⟨e, fails, rfl⟩ := mapError_eq_error.mp (bind_ok_eq_error.mp run)
      exact .sort is free fails
  | limit value =>
    rw [is] at run
    rcases fails_or_free (by simp [is, Lexeme.IsPlain]) run with fails | ⟨free, run⟩
    · exact fails
    · exact .limit is free (bind_ok_eq_error.mp run)
  | filter field value =>
    rw [is] at run
    rcases ite_error_eq_error.mp run with ⟨disagrees, rfl⟩ | ⟨agrees, run⟩
    · exact .filterConflict is disagrees
    · obtain ⟨e, fails, rfl⟩ := mapError_eq_error.mp (bind_ok_eq_error.mp run)
      exact .filter is (eq_false_of_ne_true agrees) fails
  | date field value =>
    rw [is] at run
    rcases ite_error_eq_error.mp run with ⟨disagrees, rfl⟩ | ⟨agrees, run⟩
    · exact .dateConflict is disagrees
    · obtain ⟨e, fails, rfl⟩ := mapError_eq_error.mp (bind_ok_eq_error.mp run)
      exact .date is (eq_false_of_ne_true agrees) fails
  | text value =>
    rw [is] at run
    rcases fails_or_free (by simp [is, Lexeme.IsPlain]) run with fails | ⟨_, run⟩
    · exact fails
    · cases run

/-- Tokens are not read when one of them fails on what those before it made. -/
theorem readTokens_eq_error {tokens : List Token} {r : Rejection} : readTokens tokens = .error r ↔
    ∃ before token after d, tokens = before ++ token :: after ∧ readTokens before = .ok d ∧
      d.step token = .error r := by
  induction tokens using List.reverseRecOn with
  | nil =>
    constructor
    · intro run
      cases run
    · rintro ⟨before, token, after, d, split, _⟩
      simp at split
  | append_singleton tokens last ih =>
    rw [readTokens_concat, bind_eq_error, ih]
    constructor
    · rintro (⟨before, token, after, d, rfl, read, fails⟩ | ⟨d, read, fails⟩)
      · exact ⟨before, token, after ++ [last], d, by simp, read, fails⟩
      · exact ⟨tokens, last, [], d, rfl, read, fails⟩
    · rintro ⟨before, token, after, d, split, read, fails⟩
      rcases List.eq_nil_or_concat after with rfl | ⟨after, t, rfl⟩
      · obtain ⟨rfl, same⟩ := List.append_inj' split rfl
        cases same
        exact Or.inr ⟨d, read, fails⟩
      · rw [List.concat_eq_append, ← List.cons_append, ← List.append_assoc] at split
        obtain ⟨rfl, _⟩ := List.append_inj' split rfl
        exact Or.inl ⟨before, token, after, d, rfl, read, fails⟩

/-- A text writes no query when a token is not read, or a run of `NOT` is left at the end. -/
theorem parseQuery_eq_error {raw : String} {r : Rejection} : parseQuery raw = .error r ↔
    readTokens (tokenize raw.toList) = .error r ∨
      ∃ d, readTokens (tokenize raw.toList) = .ok d ∧ d.pending.isSome ∧
        r = .query (.invalidNegation "") := by
  rw [parseQuery, map_eq_error, readQuery, bind_eq_error]
  refine or_congr_right (exists_congr fun d => and_congr_right fun _ => ?_)
  cases pending : d.pending <;> simp [Draft.finish, reject, pending, bind, Except.bind, eq_comm]

/-! ## Long limits -/

/-- A token that writes a limit: digits of any script, and at most one line end. -/
def WritesLimit (token : Token) (digits : List Char) : Prop :=
  ∃ value, Lexeme.ofToken token = .limit value ∧ (value = digits ∨ value = digits ++ ['\n']) ∧
    ∀ c ∈ digits, Text.isDecimal c

/-- The first of the tokens that cannot be read is a limit of more digits than a numeral may have. -/
def StopAtLongLimit (tokens : List Token) (numeral : Text.LongNumeral) : Prop :=
  ∃ before token after digits, tokens = before ++ token :: after ∧ Readable before ∧
    trailingNots before = 0 ∧ WritesLimit token digits ∧ Text.numeralLimit < digits.length ∧
    numeral = ⟨digits.length⟩

theorem readLimit_eq_longLimit {value token : List Char} {numeral : Text.LongNumeral} :
    readLimit value token = .error (.longLimit numeral) ↔
      ∃ digits, (value = digits ∨ value = digits ++ ['\n']) ∧ (∀ c ∈ digits, Text.isDecimal c) ∧
        Text.numeralLimit < digits.length ∧ numeral = ⟨digits.length⟩ := by
  have tooLong (digits : List Char) : ((Text.readNumeral digits).mapError Rejection.longLimit =
      .error (.longLimit numeral)) ↔
      Text.numeralLimit < digits.length ∧ numeral = ⟨digits.length⟩ := by
    by_cases long : Text.numeralLimit < digits.length <;>
      simp [Text.readNumeral, long, Except.mapError, eq_comm]
  rw [readLimit]
  constructor
  · intro fails
    by_cases ended : value.getLast? = some '\n'
    · obtain ⟨digits, rfl⟩ := List.getLast?_eq_some_iff.mp ended
      rw [if_pos ended, List.dropLast_concat] at fails
      split at fails
      · cases fails
      · rename_i decimal
        exact ⟨digits, Or.inr rfl, by simpa using (not_or.mp decimal).2, (tooLong digits).mp fails⟩
    · rw [if_neg ended] at fails
      split at fails
      · cases fails
      · rename_i decimal
        exact ⟨value, Or.inl rfl, by simpa using (not_or.mp decimal).2, (tooLong value).mp fails⟩
  · rintro ⟨digits, isValue, decimal, long, rfl⟩
    have stripped : (if value.getLast? = some '\n' then value.dropLast else value) = digits := by
      rcases isValue with rfl | rfl
      · exact if_neg (Text.getLast?_ne_lineEnd decimal)
      · simp
    have filled : digits ≠ [] := List.ne_nil_of_length_pos (by omega)
    have fine : ¬(digits.isEmpty ∨ ¬digits.all Text.isDecimal) := by
      simpa [filled] using decimal
    rw [stripped, if_neg fine]
    exact (tooLong digits).mpr ⟨long, rfl⟩

/-- A token stops at a long limit only by being one, with no `NOT` before it. -/
theorem Draft.step_eq_longLimit {d : Draft} {token : Token} {numeral : Text.LongNumeral} :
    d.step token = .error (.longLimit numeral) ↔ d.pending = none ∧
      ∃ digits, WritesLimit token digits ∧ Text.numeralLimit < digits.length ∧
        numeral = ⟨digits.length⟩ := by
  constructor
  · intro run
    cases fails_of_step run with
    | limit is free fails =>
      obtain ⟨digits, isValue, decimal, long, same⟩ := readLimit_eq_longLimit.mp fails
      exact ⟨free, digits, ⟨_, is, isValue, decimal⟩, long, same⟩
  · rintro ⟨free, digits, ⟨value, is, isValue, decimal⟩, long, same⟩
    have fails : readLimit value token = .error (.longLimit numeral) :=
      readLimit_eq_longLimit.mpr ⟨digits, isValue, decimal, long, same⟩
    simp only [step, is, noPending_eq_ok.mpr free, fails]
    rfl

/-- A rejection is no error in the query exactly when reading stops at a long limit. -/
theorem parseQuery_eq_longLimit {raw : String} {numeral : Text.LongNumeral} :
    parseQuery raw = .error (.longLimit numeral) ↔
      StopAtLongLimit (tokenize raw.toList) numeral := by
  rw [parseQuery_eq_error]
  constructor
  · rintro (fails | ⟨_, _, _, other⟩)
    · obtain ⟨before, token, after, d, split, read, fails⟩ := readTokens_eq_error.mp fails
      obtain ⟨free, digits, writes, long, same⟩ := Draft.step_eq_longLimit.mp fails
      obtain ⟨readable, ended⟩ := exists_settled_iff.mp ⟨d, read, free⟩
      exact ⟨before, token, after, digits, split, readable, ended, writes, long, same⟩
    · cases other
  · rintro ⟨before, token, after, digits, split, readable, ended, writes, long, same⟩
    obtain ⟨d, read, free⟩ := exists_settled_iff.mpr ⟨readable, ended⟩
    exact Or.inl (readTokens_eq_error.mpr ⟨before, token, after, d, split, read,
      Draft.step_eq_longLimit.mpr ⟨free, digits, writes, long, same⟩⟩)

end IssueTracker
