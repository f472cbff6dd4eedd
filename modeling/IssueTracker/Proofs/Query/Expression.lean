import Mathlib.Data.List.Induction
import IssueTracker.Query.Age
import IssueTracker.Proofs.Calendar.Iso
import IssueTracker.Proofs.Text.Digits

/-!
# The expressions that write a bound

An expression writes a bound when it is a comparison, or none for equality, and behind it a day in ASCII
digits or an age in digits of any script (`Bound.WrittenBy`).  Such expressions are read as the bounds
that they write, and all others are refused (`Bound.ofExpression_eq_ok_iff`).
-/

namespace IssueTracker

/-! ## Numbers of a fixed width -/

/-- So many ASCII digits, and the number that they write. -/
structure Text.WritesNumber (width : Nat) (ds : List Char) (n : Nat) : Prop where
  length : ds.length = width
  digits : ∀ c ∈ ds, Iso.isDigit c = true
  value : digitsValue ds = n

namespace Text

/-- An ASCII digit counts for what it shows. -/
theorem digitValue?_of_isDigit {c : Char} (digit : Iso.isDigit c = true) :
    ∃ k < 10, digitValue? c = some k ∧ c = digitChar k := by
  simp only [Iso.isDigit, Bool.and_eq_true, decide_eq_true_eq] at digit
  have least : 48 ≤ c.toNat := digit.1
  have most : c.toNat ≤ 57 := digit.2
  have all : ∀ n ≤ 57, 48 ≤ n →
      digitValue? (Char.ofNat n) = some (n - 48) ∧ Char.ofNat n = digitChar (n - 48) := by decide
  have both := all c.toNat most least
  rw [Char.ofNat_toNat] at both
  exact ⟨c.toNat - 48, by omega, both⟩

theorem WritesNumber.lt {width n : Nat} {ds : List Char} (writes : WritesNumber width ds n) :
    n < 10 ^ width := by
  rw [← writes.value, ← writes.length]
  exact digitsValue_lt ds

theorem writesNumber_fixedDigits {width n : Nat} (small : n < 10 ^ width) :
    WritesNumber width (fixedDigits width n) n := by
  refine ⟨length_fixedDigits width n, fun c member => ?_, ?_⟩
  · obtain ⟨k, single, rfl⟩ := exists_digit_of_mem_fixedDigits member
    exact isDigit_digitChar single
  · induction width generalizing n with
    | zero => simpa [fixedDigits, digitsValue] using (Nat.lt_one_iff.mp small).symm
    | succ width ih =>
      have shown : ∀ k < 10, digitValue? (digitChar k) = some k := by decide
      rw [fixedDigits, digitsValue_append, ih (by omega), digitsValue_singleton,
        shown _ (Nat.mod_lt n (by decide))]
      simp only [List.length_singleton, Nat.pow_one, Option.getD_some]
      omega

/-- The digits of a number are those of its width. -/
theorem WritesNumber.eq_fixedDigits {width n : Nat} {ds : List Char} (writes : WritesNumber width ds n) :
    ds = fixedDigits width n := by
  obtain ⟨rfl, digits, rfl⟩ := writes
  induction ds using List.reverseRecOn with
  | nil => rfl
  | append_singleton ds c ih =>
    obtain ⟨k, single, shown, rfl⟩ := digitValue?_of_isDigit (digits c (by simp))
    have early := ih fun d member => digits d (List.mem_append_left _ member)
    rw [List.length_append, List.length_singleton, fixedDigits, digitsValue_append, digitsValue_singleton,
      shown, List.length_singleton, Nat.pow_one, Option.getD_some]
    have first : (digitsValue ds * 10 + k) / 10 = digitsValue ds := by omega
    have last : (digitsValue ds * 10 + k) % 10 = k := by omega
    rw [first, last, ← early]

/-- A character takes at least a byte, and no more only if it is an ASCII character. -/
theorem length_le_utf8ByteSize (cs : List Char) :
    cs.length ≤ (String.ofList cs).utf8ByteSize ∧
      ((String.ofList cs).utf8ByteSize ≤ cs.length → ∀ c ∈ cs, c.toNat < 128) := by
  induction cs with
  | nil => simp
  | cons c cs ih =>
    have some := c.utf8Size_pos
    rw [String.ofList_cons, String.utf8ByteSize_append, String.utf8ByteSize_singleton, List.length_cons]
    refine ⟨by omega, fun few => List.forall_mem_cons.mpr ⟨?_, ih.2 (by omega)⟩⟩
    have single : c.val ≤ 127 := Char.utf8Size_eq_one_iff.mp (by omega)
    have ascii : c.toNat ≤ 127 := single
    omega

end Text

/-! ## Days -/

/-- A text that writes a day as `YYYY-MM-DD`. -/
def Date.WrittenBy (d : Date) (cs : List Char) : Prop :=
  ∃ year month day, cs = year ++ '-' :: (month ++ '-' :: day) ∧ Text.WritesNumber 4 year d.year ∧
    Text.WritesNumber 2 month d.month ∧ Text.WritesNumber 2 day d.day

theorem Date.writtenBy_iff {d : Date} {cs : List Char} : d.WrittenBy cs ↔ cs = d.isoChars := by
  rw [d.isoChars_eq]
  constructor
  · rintro ⟨year, month, day, rfl, isYear, isMonth, isDay⟩
    rw [isYear.eq_fixedDigits, isMonth.eq_fixedDigits, isDay.eq_fixedDigits]
  · rintro rfl
    obtain ⟨yearBound, monthBound, dayBound⟩ := d.components_lt
    exact ⟨_, _, _, rfl, Text.writesNumber_fixedDigits yearBound, Text.writesNumber_fixedDigits monthBound,
      Text.writesNumber_fixedDigits dayBound⟩

/-- Ten characters in the shape of a day are digits of a year, a month and a day between hyphens. -/
theorem exists_of_hasDayShape {cs : List Char} (shape : hasDayShape cs = true) (short : cs.length ≤ 10) :
    ∃ year month day, cs = year ++ '-' :: (month ++ '-' :: day) ∧
      (year.length = 4 ∧ month.length = 2 ∧ day.length = 2) ∧
      ∀ c ∈ year ++ month ++ day, Text.isDecimal c = true := by
  have hyphen (c : Char) (is : (if Text.isDecimal c then '0' else c) = '-') : c = '-' := by
    split at is
    · cases is
    · exact is
  have decimal {ds : List Char} {n : Nat}
      (are : ds.map (fun c => if Text.isDecimal c then '0' else c) = List.replicate n '0') :
      ds.length = n ∧ ∀ c ∈ ds, Text.isDecimal c = true := by
    have length : ds.length = n := by simpa using congrArg List.length are
    rw [← length, List.map_eq_replicate_iff] at are
    refine ⟨length, fun c member => ?_⟩
    have is := are c member
    split at is
    · assumption
    · rw [is]
      decide
  have zeros : "0000-00-00".toList =
      List.replicate 4 '0' ++ '-' :: (List.replicate 2 '0' ++ '-' :: List.replicate 2 '0') := by decide
  simp only [hasDayShape, Bool.or_eq_true, beq_iff_eq] at shape
  rcases shape with shape | shape
  · rw [zeros] at shape
    obtain ⟨year, rest, rfl, isYear, shape⟩ := List.map_eq_append_iff.mp shape
    obtain ⟨first, rest, rfl, isFirst, shape⟩ := List.map_eq_cons_iff.mp shape
    obtain ⟨month, rest, rfl, isMonth, shape⟩ := List.map_eq_append_iff.mp shape
    obtain ⟨second, day, rfl, isSecond, isDay⟩ := List.map_eq_cons_iff.mp shape
    rw [hyphen first isFirst, hyphen second isSecond]
    refine ⟨year, month, day, rfl, ⟨(decimal isYear).1, (decimal isMonth).1, (decimal isDay).1⟩, ?_⟩
    simp only [List.forall_mem_append]
    exact ⟨⟨(decimal isYear).2, (decimal isMonth).2⟩, (decimal isDay).2⟩
  · have length := congrArg List.length shape
    rw [List.length_map] at length
    have eleven : "0000-00-00\n".toList.length = 11 := by decide
    omega

/-- A decimal digit of ASCII is one of the ten. -/
theorem Text.isDigit_of_isDecimal {c : Char} (decimal : isDecimal c = true) (ascii : c.toNat < 128) :
    Iso.isDigit c = true := by
  have all : ∀ n < 128, isDecimal (Char.ofNat n) = true → Iso.isDigit (Char.ofNat n) = true := by decide
  have single := all c.toNat ascii
  rw [Char.ofNat_toNat] at single
  exact single decimal

/-- A day has the shape of days, not that of ages. -/
theorem day_shape (d : Date) :
    ageParts? d.isoChars = none ∧ hasDayShape d.isoChars = true ∧ d.isoChars.head? ≠ some '=' := by
  have digit (n : Nat) : Text.isDecimal (Text.digitChar (n % 10)) = true := by
    have all : ∀ n < 10, Text.isDecimal (Text.digitChar n) = true := by decide
    exact all _ (Nat.mod_lt n (by decide))
  have hyphen : Text.isDecimal '-' = false := by decide
  have other (n : Nat) : Text.digitChar (n % 10) ≠ '=' :=
    Iso.digitChar_ne (Nat.mod_lt n (by decide)) (by decide)
  refine ⟨?_, ?_, ?_⟩
  · simp [ageParts?, Date.isoChars, Text.fixedDigits, digit, hyphen]
  · simp [hasDayShape, Date.isoChars, Text.fixedDigits, digit, hyphen]
  · simpa [Date.isoChars, Text.fixedDigits] using other _

/-- In the shape of days, exactly the texts that write a day are read as one: a digit of another script
    takes more than a byte. -/
theorem ofIso_eq_ok_iff {cs : List Char} {d : Date} :
    (hasDayShape cs = true ∧ Date.ofIso (String.ofList cs) = .ok d) ↔ d.WrittenBy cs := by
  constructor
  · rintro ⟨shape, reads⟩
    rw [Date.ofIso, String.toList_ofList] at reads
    split at reads
    · rename_i bytes
      obtain ⟨least, ascii⟩ := Text.length_le_utf8ByteSize cs
      have most : (String.ofList cs).utf8ByteSize ≤ 10 := by
        simp only [List.mem_cons, List.not_mem_nil, or_false] at bytes
        omega
      obtain ⟨year, month, day, rfl, ⟨isYear, isMonth, isDay⟩, decimal⟩ :=
        exists_of_hasDayShape shape (Nat.le_trans least most)
      have single := ascii (by simp only [List.length_append, List.length_cons]; omega)
      have digits : ∀ c ∈ year ++ month ++ day, Iso.isDigit c = true := fun c member =>
        Text.isDigit_of_isDecimal (decimal c member) (single c (by simp at member ⊢; tauto))
      simp only [List.forall_mem_append] at digits
      have writesYear : Text.WritesNumber 4 year _ := ⟨isYear, digits.1.1, rfl⟩
      have writesMonth : Text.WritesNumber 2 month _ := ⟨isMonth, digits.1.2, rfl⟩
      have writesDay : Text.WritesNumber 2 day _ := ⟨isDay, digits.2, rfl⟩
      have read := Iso.date?_digits writesYear.lt writesMonth.lt writesDay.lt
      rw [← writesYear.eq_fixedDigits, ← writesMonth.eq_fixedDigits, ← writesDay.eq_fixedDigits] at read
      rw [read, Option.getD_some, Date.make] at reads
      split at reads
      · cases reads
        exact ⟨year, month, day, rfl, writesYear, writesMonth, writesDay⟩
      · split_ifs at reads
    · cases reads
  · intro written
    rw [Date.writtenBy_iff] at written
    subst written
    exact ⟨(day_shape d).2.1, Date.ofIso_iso d⟩

/-! ## Ages -/

/-- The letters of units are no digits. -/
theorem AgeUnit.not_isDecimal_of_ofLetter? {c : Char} {unit : AgeUnit} (is : ofLetter? c = some unit) :
    Text.isDecimal c = false := by
  revert is
  rw [ofLetter?.eq_def]
  split <;> intro is
  · decide
  · decide
  · decide
  · decide
  · cases is

/-- The parts of an age: digits of any script, and the letter of a unit with at most one line end behind
    it. -/
theorem ageParts?_eq_some_iff {cs digits : List Char} {unit : AgeUnit} :
    ageParts? cs = some (digits, unit) ↔
      ∃ letter ending, cs = digits ++ letter :: ending ∧ digits ≠ [] ∧
        (∀ c ∈ digits, Text.isDecimal c = true) ∧ AgeUnit.ofLetter? letter = some unit ∧
        (ending = [] ∨ ending = ['\n']) := by
  constructor
  · intro parts
    have decimal : ∀ c ∈ cs.takeWhile Text.isDecimal, Text.isDecimal c = true := fun c member =>
      List.all_eq_true.mp List.all_takeWhile c member
    have text : cs = cs.takeWhile Text.isDecimal ++ cs.dropWhile Text.isDecimal :=
      List.takeWhile_append_dropWhile.symm
    simp only [ageParts?] at parts
    split at parts
    · cases parts
    · rename_i filled
      have filled : cs.takeWhile Text.isDecimal ≠ [] := by simpa using filled
      split at parts
      · rename_i letter rest
        obtain ⟨_, is, ⟨⟩⟩ := Option.map_eq_some_iff.mp parts
        exact ⟨letter, [], rest ▸ text, filled, decimal, is, Or.inl rfl⟩
      · rename_i letter rest
        obtain ⟨_, is, ⟨⟩⟩ := Option.map_eq_some_iff.mp parts
        exact ⟨letter, ['\n'], rest ▸ text, filled, decimal, is, Or.inr rfl⟩
      · cases parts
  · rintro ⟨letter, ending, rfl, filled, decimal, is, ended⟩
    have other := AgeUnit.not_isDecimal_of_ofLetter? is
    have first : (digits ++ letter :: ending).takeWhile Text.isDecimal = digits := by
      rw [List.takeWhile_append_of_pos decimal, List.takeWhile_cons_of_neg (by simp [other]), List.append_nil]
    have rest : (digits ++ letter :: ending).dropWhile Text.isDecimal = letter :: ending := by
      rw [List.dropWhile_append_of_pos decimal, List.dropWhile_cons_of_neg (by simp [other])]
    rcases ended with rfl | rfl <;> simp [ageParts?, first, rest, filled, is]

theorem ageParts?_append {digits : List Char} (filled : digits ≠ [])
    (decimal : ∀ c ∈ digits, Text.isDecimal c = true) {letter : Char} {unit : AgeUnit}
    (is : AgeUnit.ofLetter? letter = some unit) : ageParts? (digits ++ [letter]) = some (digits, unit) :=
  ageParts?_eq_some_iff.mpr ⟨letter, [], rfl, filled, decimal, is, Or.inl rfl⟩

/-- A text that writes an age: digits of any script, the letter of a unit, and at most one line end. -/
def IsAge (cs : List Char) : Prop :=
  ∃ digits letter ending, cs = digits ++ letter :: ending ∧ digits ≠ [] ∧
    (∀ c ∈ digits, Text.isDecimal c = true) ∧ letter ∈ ['d', 'w', 'm', 'y'] ∧ (ending = [] ∨ ending = ['\n'])

theorem AgeUnit.isSome_ofLetter?_iff {c : Char} : (ofLetter? c).isSome ↔ c ∈ ['d', 'w', 'm', 'y'] := by
  constructor
  · intro known
    rw [ofLetter?.eq_def] at known
    split at known <;> simp_all
  · intro member
    simp only [List.mem_cons, List.not_mem_nil, or_false] at member
    rcases member with rfl | rfl | rfl | rfl <;> rfl

theorem isSome_ageParts?_iff {cs : List Char} : (ageParts? cs).isSome ↔ IsAge cs := by
  constructor
  · intro some
    obtain ⟨⟨digits, unit⟩, parts⟩ := Option.isSome_iff_exists.mp some
    obtain ⟨letter, ending, text, filled, decimal, is, ended⟩ := ageParts?_eq_some_iff.mp parts
    exact ⟨digits, letter, ending, text, filled, decimal, AgeUnit.isSome_ofLetter?_iff.mp (by simp [is]), ended⟩
  · rintro ⟨digits, letter, ending, text, filled, decimal, isLetter, ended⟩
    obtain ⟨unit, is⟩ := Option.isSome_iff_exists.mp (AgeUnit.isSome_ofLetter?_iff.mpr isLetter)
    rw [ageParts?_eq_some_iff.mpr ⟨letter, ending, text, filled, decimal, is, ended⟩]
    rfl

/-! ## Bounds -/

/-- A text that writes what a bound compares with: a day, or an age, which is kept as it is written. -/
def Target.WrittenBy (cs : List Char) : Target → Prop
  | .day date => date.WrittenBy cs
  | .age token => cs = token.toList ∧ IsAge cs

/-- A text that writes a bound: its comparison, which may be left out for equality, and its target. -/
def Bound.WrittenBy (b : Bound) (cs : List Char) : Prop :=
  ∃ rest, (cs = b.comparison.symbol.toList ++ rest ∨ b.comparison = .eq ∧ cs = rest) ∧
    b.target.WrittenBy rest

/-- A comparison is split off again, unless an equals sign follows it. -/
theorem splitComparison_symbol (comparison : Comparison) {rest : List Char}
    (first : rest.head? ≠ some '=') :
    splitComparison (comparison.symbol.toList ++ rest) = (comparison, rest) := by
  have found : Comparison.all.find? (·.symbol.toList.isPrefixOf (comparison.symbol.toList ++ rest)) =
      some comparison := by
    cases rest with
    | nil => cases comparison <;> decide
    | cons c rest =>
      have other : ('=' == c) = false := by
        rw [beq_eq_false_iff_ne]
        rintro rfl
        exact first rfl
      cases comparison <;> simp [Comparison.all, Comparison.symbol, List.isPrefixOf, other]
  rw [splitComparison, found]
  simp [← String.length_toList]

/-- A target starts with a digit, so its text is none of a comparison. -/
theorem Target.WrittenBy.starts {target : Target} {cs : List Char} (written : target.WrittenBy cs) :
    ∃ c rest, cs = c :: rest ∧ Text.isDecimal c = true := by
  have first {ds rest : List Char} (filled : ds ≠ []) (decimal : ∀ c ∈ ds, Text.isDecimal c = true) :
      ∃ c others, ds ++ rest = c :: others ∧ Text.isDecimal c = true := by
    obtain ⟨c, others, rfl⟩ := List.exists_cons_of_ne_nil filled
    exact ⟨c, others ++ rest, rfl, decimal c List.mem_cons_self⟩
  cases target with
  | day date =>
    obtain ⟨year, month, day, rfl, isYear, _⟩ := written
    refine first (fun empty => ?_) fun c member => ?_
    · simpa [empty] using isYear.length
    · obtain ⟨k, _, shown, _⟩ := Text.digitValue?_of_isDigit (isYear.digits c member)
      simp [Text.isDecimal, shown]
  | age token =>
    obtain ⟨_, digits, letter, ending, rfl, filled, decimal, _⟩ := written
    exact first filled decimal

/-- A written bound is cut between its comparison and its target. -/
theorem splitComparison_of_writtenBy {b : Bound} {cs rest : List Char}
    (text : cs = b.comparison.symbol.toList ++ rest ∨ b.comparison = .eq ∧ cs = rest)
    (written : b.target.WrittenBy rest) : splitComparison cs = (b.comparison, rest) := by
  obtain ⟨c, others, rfl, digit⟩ := written.starts
  have other {d : Char} (noDigit : Text.isDecimal d = false) : c ≠ d := by
    rintro rfl
    cases digit.symm.trans noDigit
  have notGreater : c ≠ '>' := other (by decide)
  have notLess : c ≠ '<' := other (by decide)
  have notEqual : c ≠ '=' := other (by decide)
  rcases text with rfl | ⟨isEq, rfl⟩
  · exact splitComparison_symbol _ (by simpa using notEqual)
  · simp [splitComparison, Comparison.all, Comparison.symbol, isEq, Ne.symm notGreater, Ne.symm notLess,
      Ne.symm notEqual]

/-- A text is a comparison and what is behind it, or starts with none. -/
theorem splitComparison_text (cs : List Char) :
    cs = (splitComparison cs).1.symbol.toList ++ (splitComparison cs).2 ∨
      (splitComparison cs).1 = .eq ∧ cs = (splitComparison cs).2 := by
  rw [splitComparison]
  split
  · rename_i comparison found
    have starts := List.find?_some found
    rw [List.isPrefixOf_iff_prefix] at starts
    obtain ⟨rest, rfl⟩ := starts
    left
    simp [← String.length_toList]
  · exact Or.inr ⟨rfl, rfl⟩

/-- A bound, as it is written in a query. -/
def Bound.chars (b : Bound) : List Char :=
  b.comparison.symbol.toList ++ match b.target with
    | .day date => date.isoChars
    | .age token => token.toList

namespace Bound

/-- An expression is read as a bound exactly when its rest is an age, or a day of the calendar. -/
theorem read_eq_ok {expression token : String} {bound : Bound} :
    read expression token = .ok bound ↔
      (ageParts? (splitComparison expression.toList).2).isSome ∧
        bound = ⟨(splitComparison expression.toList).1,
          .age (String.ofList (splitComparison expression.toList).2)⟩ ∨
      (ageParts? (splitComparison expression.toList).2).isSome = false ∧
        hasDayShape (splitComparison expression.toList).2 ∧
        ∃ date, Date.ofIso (String.ofList (splitComparison expression.toList).2) = .ok date ∧
          bound = ⟨(splitComparison expression.toList).1, .day date⟩ := by
  rw [read]
  generalize splitComparison expression.toList = parts
  obtain ⟨comparison, rest⟩ := parts
  cases isAge : (ageParts? rest).isSome with
  | true => simp [isAge, @eq_comm _ bound]
  | false =>
    cases isDay : hasDayShape rest with
    | false => simp [isAge, isDay]
    | true => cases day : Date.ofIso (String.ofList rest) <;> simp [isAge, isDay, day, @eq_comm _ bound]

/-- An expression is read as a bound when it writes the bound. -/
theorem read_eq_ok_iff {expression token : String} {b : Bound} :
    read expression token = .ok b ↔ b.WrittenBy expression.toList := by
  rw [read_eq_ok]
  constructor
  · have text := splitComparison_text expression.toList
    rintro (⟨isAge, rfl⟩ | ⟨_, shape, date, reads, rfl⟩)
    · exact ⟨_, text, by rw [String.toList_ofList], isSome_ageParts?_iff.mp isAge⟩
    · exact ⟨_, text, ofIso_eq_ok_iff.mp ⟨shape, reads⟩⟩
  · rintro ⟨rest, text, written⟩
    rw [splitComparison_of_writtenBy text written]
    obtain ⟨comparison, target⟩ := b
    cases target with
    | day date =>
      obtain ⟨shape, reads⟩ := ofIso_eq_ok_iff.mpr written
      have noAge : ageParts? rest = none := Date.writtenBy_iff.mp written ▸ (day_shape date).1
      exact Or.inr ⟨by rw [noAge]; rfl, shape, date, reads, rfl⟩
    | age age =>
      obtain ⟨rfl, isAge⟩ := written
      exact Or.inl ⟨isSome_ageParts?_iff.mpr isAge, by rw [String.ofList_toList]⟩

/-- Where no bound is read, the token is blamed. -/
theorem read_eq_error {expression token : String} {e : QueryError}
    (refused : read expression token = .error e) : ∃ fault, e = .invalidDate token fault := by
  rw [read] at refused
  dsimp only at refused
  split_ifs at refused
  · split at refused
    · cases refused
    · cases refused
      exact ⟨_, rfl⟩
  · cases refused
    exact ⟨_, rfl⟩

/-- A bound writes the text of its comparison and its target. -/
theorem writtenBy_chars {b : Bound} (isAge : ∀ token, b.target = .age token → IsAge token.toList) :
    b.WrittenBy b.chars := by
  refine ⟨_, Or.inl rfl, ?_⟩
  cases target : b.target with
  | day date => exact Date.writtenBy_iff.mpr rfl
  | age token => exact ⟨rfl, isAge token target⟩

/-- Exactly the texts that write a bound are read, as the bound that they write, and for any other the
    token is blamed, or the expression itself where there is no token.  The text of every bound on a day
    or on an age writes the bound. -/
theorem ofExpression_eq_ok_iff (expression : String) (token : Option String) :
    (∀ b, ofExpression expression token = .ok b ↔ b.WrittenBy expression.toList) ∧
      ((∀ b : Bound, ¬b.WrittenBy expression.toList) →
        ∃ fault, ofExpression expression token = .error (.invalidDate (blamed expression token) fault)) ∧
      ∀ b : Bound, (∀ age, b.target = .age age → IsAge age.toList) →
        ofExpression (String.ofList b.chars) token = .ok b := by
  refine ⟨fun b => read_eq_ok_iff, fun none => ?_, fun b isAge => ?_⟩
  · cases outcome : ofExpression expression token with
    | ok b => exact absurd (read_eq_ok_iff.mp outcome) (none b)
    | error e =>
      obtain ⟨fault, rfl⟩ := read_eq_error outcome
      exact ⟨fault, rfl⟩
  · refine read_eq_ok_iff.mpr ?_
    rw [String.toList_ofList]
    exact writtenBy_chars isAge

end Bound

end IssueTracker
