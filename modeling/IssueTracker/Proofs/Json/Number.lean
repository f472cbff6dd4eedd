import IssueTracker.Json.Printer
import IssueTracker.Json.Reader
import IssueTracker.Proofs.Text.Digits

/-!
# Reading back numbers

The text of a whole number is read as that number (`readNumber_integer`), and the text of a
floating-point number as one again (`exists_readNumber_finiteText`), also where more text follows that does
not go on with the number.
-/

namespace IssueTracker.Json

/-- A text that does not go on with digits. -/
def EndsDigits (rest : List Char) : Prop := ∀ c, rest.head? = some c → isDigit c = false

/-- A text that does not go on with a number. -/
structure EndsNumber (rest : List Char) : Prop where
  digit : EndsDigits rest
  point : rest.head? ≠ some '.'
  mark : rest.head? ≠ some 'e' ∧ rest.head? ≠ some 'E'

/-- Some ASCII digits. -/
structure IsDigits (ds : List Char) : Prop where
  filled : ds ≠ []
  each : ∀ c ∈ ds, isDigit c = true

/-- The digits of a whole part: a zero alone, or digits that do not start with one. -/
structure IsWhole (ds : List Char) : Prop extends IsDigits ds where
  start : ds = ['0'] ∨ ds.head? ≠ some '0'

theorem isDigit_digitChar {n : Nat} (single : n < 10) : isDigit (Nat.digitChar n) = true := by
  have all : ∀ n < 10, isDigit (Nat.digitChar n) = true := by decide
  exact all n single

theorem isDigits_toDigits (n : Nat) : IsDigits (Nat.toDigits 10 n) := by
  refine ⟨Nat.toDigits_ne_nil, ?_⟩
  intro c member
  obtain ⟨k, single, rfl⟩ := Text.exists_digit_of_mem_toDigits member
  exact isDigit_digitChar single

/-- The digits of a positive number do not start with a zero. -/
theorem head?_toDigits {n : Nat} (positive : 0 < n) : (Nat.toDigits 10 n).head? ≠ some '0' := by
  induction n using Nat.strongRecOn with
  | ind n ih =>
    by_cases single : n < 10
    · have all : ∀ k < 10, 0 < k → Nat.digitChar k ≠ '0' := by decide
      rw [Nat.toDigits_of_lt_base single, List.head?_cons]
      exact fun same => all n single positive (Option.some.inj same)
    · rw [Nat.toDigits_of_base_le (by decide) (Nat.le_of_not_lt single),
        List.head?_append, Option.or_of_isSome (by simp)]
      exact ih (n / 10) (by omega) (by omega)

theorem isWhole_toDigits (n : Nat) : IsWhole (Nat.toDigits 10 n) := by
  refine ⟨isDigits_toDigits n, ?_⟩
  rcases Nat.eq_zero_or_pos n with rfl | positive
  · exact Or.inl rfl
  · exact Or.inr (head?_toDigits positive)

/-! ## The parts of a number -/

section
variable {ds rest : List Char}

theorem takeWhile_digits (digits : ∀ c ∈ ds, isDigit c = true) (ends : EndsDigits rest) :
    (ds ++ rest).takeWhile isDigit = ds := by
  rw [List.takeWhile_append_of_pos digits]
  cases rest with
  | nil => simp
  | cons c rest => simp [ends c rfl]

theorem dropWhile_digits (digits : ∀ c ∈ ds, isDigit c = true) (ends : EndsDigits rest) :
    (ds ++ rest).dropWhile isDigit = rest := by
  rw [List.dropWhile_append_of_pos digits]
  cases rest with
  | nil => rfl
  | cons c rest => simp [ends c rfl]

theorem wholePart?_append (whole : IsWhole ds) (ends : EndsDigits rest) :
    wholePart? (ds ++ rest) = some (ds, rest) := by
  obtain ⟨⟨filled, digits⟩, start⟩ := whole
  rcases start with rfl | start
  · rfl
  · cases ds with
    | nil => exact absurd rfl filled
    | cons d ds =>
      have nonzero : d ≠ '0' := fun same => start (by rw [same]; rfl)
      have later : ∀ c ∈ ds, isDigit c = true := fun c member =>
        digits c (List.mem_cons_of_mem _ member)
      rw [List.cons_append, wholePart?.eq_def]
      simp only [digits d List.mem_cons_self, if_true, takeWhile_digits later ends,
        dropWhile_digits later ends]

theorem fractionPart_point (fraction : IsDigits ds) (ends : EndsDigits rest) :
    fractionPart ('.' :: ds ++ rest) = (ds, rest) := by
  obtain ⟨filled, digits⟩ := fraction
  cases ds with
  | nil => exact absurd rfl filled
  | cons d ds =>
    have later : ∀ c ∈ ds, isDigit c = true := fun c member =>
      digits c (List.mem_cons_of_mem _ member)
    simp [fractionPart, digits d List.mem_cons_self, takeWhile_digits later ends,
      dropWhile_digits later ends]

theorem fractionPart_none (ends : rest.head? ≠ some '.') : fractionPart rest = ([], rest) := by
  rw [fractionPart.eq_def]
  split
  · exact absurd rfl ends
  · rfl

/-- The exponent that a sign and digits write. -/
def exponentOf (sign : Char) (size : List Char) : Int :=
  (if sign = '-' then -1 else 1) * Text.digitsValue size

theorem exponentPart_mark {sign : Char} (is : sign = '-' ∨ sign = '+') (size : IsDigits ds)
    (ends : EndsDigits rest) :
    exponentPart ('e' :: sign :: ds ++ rest) = (some (exponentOf sign ds), rest) := by
  have first : (ds ++ rest).head?.any isDigit = true := by
    obtain ⟨filled, digits⟩ := size
    cases ds with
    | nil => exact absurd rfl filled
    | cons d ds => simpa using digits d List.mem_cons_self
  have before := takeWhile_digits size.each ends
  have after := dropWhile_digits size.each ends
  rcases is with rfl | rfl
  · simp only [exponentPart, List.cons_append, true_or, if_true, first, before, after]
    rfl
  · simp only [exponentPart, List.cons_append, true_or, if_true, first, before, after]
    rfl

theorem exponentPart_none (ends : rest.head? ≠ some 'e' ∧ rest.head? ≠ some 'E') :
    exponentPart rest = (none, rest) := by
  cases rest with
  | nil => rfl
  | cons c rest =>
    have other : ¬(c = 'e' ∨ c = 'E') := by
      rintro (rfl | rfl)
      · exact ends.1 rfl
      · exact ends.2 rfl
    simp [exponentPart, other]

end

/-! ## Signed numbers -/

/-- The sign of a number. -/
def signText (negative : Bool) : List Char := if negative then ['-'] else []

theorem isDigit_minus : isDigit '-' = false := by decide

section
variable {ds after middle rest fraction : List Char} {exponent : Option Int}

/-- The sign is taken off before the whole part is read. -/
theorem unsigned_signText (whole : IsWhole ds) (negative : Bool) (after : List Char) :
    ((signText negative ++ (ds ++ after)).head? = some '-' ↔ negative = true) ∧
      (if negative then (signText negative ++ (ds ++ after)).tail
        else signText negative ++ (ds ++ after)) = ds ++ after := by
  cases negative with
  | true => exact ⟨by simp [signText], rfl⟩
  | false =>
    refine ⟨?_, rfl⟩
    obtain ⟨⟨filled, digits⟩, _⟩ := whole
    cases ds with
    | nil => exact absurd rfl filled
    | cons d ds =>
      have digit := digits d List.mem_cons_self
      have unsigned : d ≠ '-' := by
        rintro rfl
        rw [isDigit_minus] at digit
        cases digit
      simp [signText, unsigned]

/-- Digits without a fraction and an exponent are read as a whole number. -/
theorem readNumber_whole {n : Nat} (whole : IsWhole ds) (negative : Bool) (ends : EndsNumber rest)
    (numeral : Text.readNumeral ds = .ok n) :
    readNumber (signText negative ++ (ds ++ rest)) = .ok (.integer (if negative then -n else n), rest) := by
  obtain ⟨sign, unsigned⟩ := unsigned_signText whole negative rest
  simp only [readNumber, sign, unsigned, wholePart?_append whole ends.digit,
    fractionPart_none ends.point, exponentPart_none ends.mark, List.isEmpty_nil, Option.isNone_none,
    and_self, if_true, numeral]

/-- Digits with a fraction or an exponent are read as a floating-point number. -/
theorem readNumber_float (whole : IsWhole ds) (negative : Bool) (ends : EndsDigits after)
    (fractionIs : fractionPart after = (fraction, middle))
    (exponentIs : exponentPart middle = (exponent, rest))
    (some : ¬(fraction.isEmpty = true ∧ exponent.isNone = true)) :
    readNumber (signText negative ++ (ds ++ after)) = .ok (.float (.ofDecimal negative
      (Text.digitsValue (ds ++ fraction)) (exponent.getD 0 - fraction.length)), rest) := by
  obtain ⟨sign, unsigned⟩ := unsigned_signText whole negative after
  simp only [readNumber, sign, unsigned, wholePart?_append whole ends, fractionIs, exponentIs, if_neg some,
    Bool.decide_eq_true]

end

theorem toList_integer (n : Int) :
    (toString n).toList = signText (n < 0) ++ Nat.toDigits 10 n.natAbs := by
  rw [Int.toString_eq_repr, Int.repr_eq_if]
  by_cases negative : n < 0
  · have size : (-n).toNat = n.natAbs := by omega
    simp [signText, negative, Int.not_le.mpr negative, Nat.repr_eq_ofList_toDigits, size]
  · have size : n.toNat = n.natAbs := by omega
    simp [signText, negative, Int.not_lt.mp negative, Nat.repr_eq_ofList_toDigits, size]

/-- A whole number is read back from its text. -/
theorem readNumber_integer {n : Int} {rest : List Char} (short : n.natAbs < 10 ^ Text.numeralLimit)
    (ends : EndsNumber rest) : readNumber ((toString n).toList ++ rest) = .ok (.integer n, rest) := by
  have whole := isWhole_toDigits n.natAbs
  have value : (if n < 0 then -(n.natAbs : Int) else n.natAbs) = n := by
    split <;> omega
  rw [toList_integer, List.append_assoc,
    readNumber_whole whole _ ends (Text.readNumeral_toDigits short)]
  simp only [decide_eq_true_eq, value]

/-! ## Floating-point numbers -/

/-- The text of a number with a fraction or an exponent, without its sign. -/
inductive IsFractional : List Char → Prop
  | point {whole fraction : List Char} (starts : IsWhole whole) (digits : IsDigits fraction) :
    IsFractional (whole ++ '.' :: fraction)
  | power {whole size : List Char} {sign : Char} (starts : IsWhole whole)
    (is : sign = '-' ∨ sign = '+') (digits : IsDigits size) : IsFractional (whole ++ 'e' :: sign :: size)
  | both {whole fraction size : List Char} {sign : Char} (starts : IsWhole whole)
    (digits : IsDigits fraction) (is : sign = '-' ∨ sign = '+') (sized : IsDigits size) :
    IsFractional (whole ++ '.' :: fraction ++ 'e' :: sign :: size)

/-- The text of a number with a fraction or an exponent is read as a floating-point number. -/
theorem exists_readNumber_of_isFractional {text : List Char} (fractional : IsFractional text)
    (negative : Bool) : ∃ x, ∀ {rest : List Char}, EndsNumber rest →
      readNumber (signText negative ++ text ++ rest) = .ok (.float x, rest) := by
  have mark (more : List Char) : EndsDigits ('e' :: more) := by
    intro c first
    rw [← Option.some.inj first]
    decide
  have point (more : List Char) : EndsDigits ('.' :: more) := by
    intro c first
    rw [← Option.some.inj first]
    decide
  cases fractional with
  | @point whole fraction starts digits =>
    apply Exists.intro
    intro rest ends
    rw [List.append_assoc, List.append_assoc]
    exact readNumber_float starts negative (point _) (fractionPart_point digits ends.digit)
      (exponentPart_none ends.mark) (by simp [digits.filled])
  | @power whole size sign starts is digits =>
    apply Exists.intro
    intro rest ends
    rw [List.append_assoc, List.append_assoc]
    exact readNumber_float starts negative (mark _) (fractionPart_none (by simp))
      (exponentPart_mark is digits ends.digit) (by simp)
  | @both whole fraction size sign starts digits is sized =>
    apply Exists.intro
    intro rest ends
    rw [List.append_assoc, List.append_assoc, List.append_assoc]
    exact readNumber_float starts negative (point _) (fractionPart_point digits (mark _))
      (exponentPart_mark is sized ends.digit) (by simp)

/-! ## Shortest decimals -/

theorem isDigit_zero : isDigit '0' = true := by decide

theorem isWhole_zero : IsWhole ['0'] := ⟨⟨by simp, by simp [isDigit_zero]⟩, Or.inl rfl⟩

theorem IsDigits.of_replicate {n : Nat} {ds : List Char} (digits : IsDigits ds) :
    IsDigits (List.replicate n '0' ++ ds) := by
  refine ⟨by simp [digits.filled], ?_⟩
  intro c member
  rcases List.mem_append.mp member with zero | other
  · rw [List.eq_of_mem_replicate zero, isDigit_zero]
  · exact digits.each c other

open Binary64 in
/-- Digits that do not start with a zero keep their start where the zeros at the end are removed. -/
theorem trimZeros_cons {d : Char} (nonzero : d ≠ '0') (ds : List Char) :
    ∃ es, trimZeros (d :: ds) = d :: es ∧ ∀ c ∈ es, c ∈ ds := by
  have split : trimZeros (d :: ds) = d :: trimZeros ds := by
    simp only [trimZeros, List.reverse_cons, List.dropWhile_append]
    split
    · rename_i gone
      rw [List.isEmpty_iff.mp gone, List.dropWhile_cons_of_neg (by simpa using nonzero)]
      rfl
    · simp
  refine ⟨trimZeros ds, split, ?_⟩
  intro c member
  rw [trimZeros, List.mem_reverse] at member
  exact List.mem_reverse.mp ((List.dropWhile_sublist _).subset member)

/-- The exponent of a number is written with at least two digits. -/
theorem isDigits_size (power : Int) :
    IsDigits (if (Nat.toDigits 10 power.natAbs).length < 2 then '0' :: Nat.toDigits 10 power.natAbs
      else Nat.toDigits 10 power.natAbs) := by
  have digits := isDigits_toDigits power.natAbs
  split
  · exact digits.of_replicate (n := 1)
  · exact digits

open Binary64 in
/-- The decimal of digits that do not start with a zero has a fraction or an exponent. -/
theorem isFractional_decimalText {d : Char} {ds : List Char} (digits : ∀ c ∈ d :: ds, isDigit c = true)
    (nonzero : d ≠ '0') (exponent : Int) : IsFractional (decimalText (d :: ds) exponent) := by
  obtain ⟨es, trimmed, kept⟩ := trimZeros_cons nonzero ds
  have each : ∀ c ∈ es, isDigit c = true := fun c member =>
    digits c (List.mem_cons_of_mem _ (kept c member))
  have first : isDigit d = true := digits d List.mem_cons_self
  simp only [decimalText, trimmed]
  generalize ((d :: ds).length : Int) + exponent = point
  split
  · split
    · exact .point isWhole_zero (.of_replicate ⟨by simp, by simpa using ⟨first, each⟩⟩)
    · -- the point stands after the first digit or later
      obtain ⟨count, place⟩ : ∃ count, point.toNat = count + 1 := ⟨point.toNat - 1, by omega⟩
      rw [place, List.take_succ_cons, List.drop_succ_cons, List.cons_append]
      refine .point ⟨⟨by simp, ?_⟩, Or.inr (by simpa using nonzero)⟩ ?_
      · intro c member
        rcases List.mem_cons.mp member with rfl | member
        · exact first
        rcases List.mem_append.mp member with taken | zero
        · exact each c (List.mem_of_mem_take taken)
        · rw [List.eq_of_mem_replicate zero, isDigit_zero]
      · split
        · exact isWhole_zero.toIsDigits
        · rename_i filled
          exact ⟨by simpa using filled, fun c member => each c (List.mem_of_mem_drop member)⟩
  · have whole : IsWhole [d] := ⟨⟨by simp, by simpa using first⟩, Or.inr (by simpa using nonzero)⟩
    have sign : (if point - 1 < 0 then '-' else '+') = '-' ∨
        (if point - 1 < 0 then '-' else '+') = '+' := by
      split <;> simp
    cases es with
    | nil => simpa using IsFractional.power whole sign (isDigits_size _)
    | cons e es =>
      simpa using IsFractional.both whole ⟨List.cons_ne_nil e es, each⟩ sign (isDigits_size _)

open Binary64 in
/-- No digits at all do not read back as a positive number. -/
theorem holds_zero {mantissa : Nat} (positive : mantissa ≠ 0) (exponent places : Int) :
    (interval mantissa exponent).holds 0 places = false := by
  have low : 0 < (interval mantissa exponent).low := by
    simp only [interval, Nat.pow_eq]
    refine Nat.mul_pos ?_ (Nat.two_pow_pos _)
    split <;> omega
  have scale : 0 < Nat.pow 10 (-places).toNat := Nat.pow_pos (by decide)
  have least := Nat.mul_pos low scale
  simp only [Interval.holds, Nat.zero_mul]
  split
  · exact decide_eq_false fun both => absurd both.1 (Nat.not_le.mpr least)
  · exact decide_eq_false fun both => absurd both.1 (Nat.not_lt_zero _)

open Binary64 in
theorem nearest?_ne_zero {mantissa : Nat} (positive : mantissa ≠ 0) {exponent places : Int} {digits : Nat}
    (near : (interval mantissa exponent).nearest? places = some digits) : digits ≠ 0 := by
  rintro rfl
  have never := holds_zero positive exponent places
  simp only [Interval.nearest?] at near
  split at near
  · rename_i below _
    split at near
    · rw [Option.some.inj near, never] at below
      cases below
    · cases near
  · rename_i below _
    rw [Option.some.inj near, never] at below
    cases below
  · cases near
  · cases near

open Binary64 in
/-- The shortest decimal of a positive number has digits, unless none was tried. -/
theorem shortest_ne_zero {mantissa : Nat} (positive : mantissa ≠ 0) (exponent places : Int)
    (tried fuel : Nat) :
    ((interval mantissa exponent).shortest places tried fuel).1 ≠ 0 ∨
      (interval mantissa exponent).shortest places tried fuel = (0, 0) := by
  induction fuel generalizing tried with
  | zero => exact Or.inr rfl
  | succ fuel ih =>
    rw [Interval.shortest]
    split
    · rename_i near
      exact Or.inl (nearest?_ne_zero positive near)
    · exact ih (tried + 1)

/-- The text of zero. -/
theorem isFractional_zero : IsFractional ['0', '.', '0'] := .point isWhole_zero isWhole_zero.toIsDigits

open Binary64 in
theorem isFractional_shortest {mantissa : Nat} (positive : mantissa ≠ 0) (exponent places : Int)
    (tried fuel : Nat) :
    IsFractional (decimalText
      (Nat.toDigits 10 ((interval mantissa exponent).shortest places tried fuel).1)
      ((interval mantissa exponent).shortest places tried fuel).2) := by
  rcases shortest_ne_zero positive exponent places tried fuel with some | none
  · generalize (interval mantissa exponent).shortest places tried fuel = found at some ⊢
    have digits := isDigits_toDigits found.1
    have start := head?_toDigits (Nat.pos_of_ne_zero some)
    cases same : Nat.toDigits 10 found.1 with
    | nil => exact absurd same digits.filled
    | cons d ds =>
      rw [same] at digits start
      exact isFractional_decimalText digits.each (fun zero => start (by rw [zero]; rfl)) _
  · rw [none]
    exact isFractional_zero

open Binary64 in
theorem toList_finiteText (negative : Bool) (mantissa : Nat) (exponent : Int) :
    ∃ text, (finiteText negative mantissa exponent).toList = signText negative ++ text ∧
      IsFractional text := by
  rw [finiteText]
  split
  · exact ⟨_, String.toList_ofList, isFractional_zero⟩
  · rename_i positive
    have shape := isFractional_shortest positive exponent
      (decimalExponent (interval mantissa exponent).value (interval mantissa exponent).den) 1 17
    refine ⟨_, ?_, shape⟩
    dsimp only
    exact String.toList_ofList

/-- The text of a finite number is read as a floating-point number. -/
theorem exists_readNumber_finiteText (negative : Bool) (mantissa : Nat) (exponent : Int) :
    ∃ x, ∀ {rest : List Char}, EndsNumber rest →
      readNumber ((Binary64.finiteText negative mantissa exponent).toList ++ rest) =
        .ok (.float x, rest) := by
  obtain ⟨text, same, fractional⟩ := toList_finiteText negative mantissa exponent
  rw [same]
  exact exists_readNumber_of_isFractional fractional negative

/-! ## How a number starts -/

/-- A text that starts like a number: with a digit, maybe after a sign. -/
def IsNumberText (text : List Char) : Prop :=
  ∃ negative d more, text = signText negative ++ d :: more ∧ isDigit d = true

theorem isNumberText_digits {ds : List Char} (digits : IsDigits ds) (negative : Bool)
    (more : List Char) : IsNumberText (signText negative ++ (ds ++ more)) := by
  obtain ⟨filled, each⟩ := digits
  cases ds with
  | nil => exact absurd rfl filled
  | cons d ds => exact ⟨negative, d, ds ++ more, rfl, each d List.mem_cons_self⟩

theorem chars_integer (n : Int) (level : Nat) : (integer n).chars level = (toString n).toList := by rw [chars]

theorem chars_finite (negative : Bool) (mantissa : Nat) (exponent : Int) (level : Nat) :
    (float (.finite negative mantissa exponent)).chars level =
      (Binary64.finiteText negative mantissa exponent).toList := by
  rw [chars, floatText]

theorem isNumberText_integer (n : Int) : IsNumberText (toString n).toList := by
  rw [toList_integer, ← List.append_nil (Nat.toDigits 10 n.natAbs)]
  exact isNumberText_digits (isDigits_toDigits _) _ []

theorem isNumberText_finiteText (negative : Bool) (mantissa : Nat) (exponent : Int) :
    IsNumberText (Binary64.finiteText negative mantissa exponent).toList := by
  obtain ⟨text, same, fractional⟩ := toList_finiteText negative mantissa exponent
  rw [same]
  cases fractional with
  | point starts digits => exact isNumberText_digits starts.toIsDigits negative _
  | power starts is digits => exact isNumberText_digits starts.toIsDigits negative _
  | both starts digits is sized =>
    rw [List.append_assoc]
    exact isNumberText_digits starts.toIsDigits negative _

/-! ## The characters of a number -/

theorem carriage_notMem_digits {ds : List Char} (digits : IsDigits ds) : '\r' ∉ ds := by
  intro member
  have digit := digits.each _ member
  revert digit
  decide

theorem carriage_notMem_signText (negative : Bool) : '\r' ∉ signText negative := by
  cases negative <;> decide

theorem carriage_notMem_integer (n : Int) : '\r' ∉ (toString n).toList := by
  rw [toList_integer, List.mem_append, not_or]
  exact ⟨carriage_notMem_signText _, carriage_notMem_digits (isDigits_toDigits _)⟩

theorem carriage_notMem_finiteText (negative : Bool) (mantissa : Nat) (exponent : Int) :
    '\r' ∉ (Binary64.finiteText negative mantissa exponent).toList := by
  obtain ⟨text, same, fractional⟩ := toList_finiteText negative mantissa exponent
  rw [same, List.mem_append, not_or]
  refine ⟨carriage_notMem_signText negative, ?_⟩
  cases fractional with
  | point starts digits =>
    simp [carriage_notMem_digits starts.toIsDigits, carriage_notMem_digits digits]
  | power starts is digits =>
    rcases is with rfl | rfl <;>
      simp [carriage_notMem_digits starts.toIsDigits, carriage_notMem_digits digits]
  | both starts digits is sized =>
    rcases is with rfl | rfl <;>
      simp [carriage_notMem_digits starts.toIsDigits, carriage_notMem_digits digits,
        carriage_notMem_digits sized]

end IssueTracker.Json
