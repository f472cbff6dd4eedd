import IssueTracker.Proofs.Text.Digits

/-!
# Texts that write a whole number

The written form of a whole number as a relation (`Text.Writes`), and that reading a text finds the number
that it writes (`Text.wholeNumber?_eq_some_iff`).
-/

namespace IssueTracker.Text

theorem pieces_eq_splitOnP (p : Char → Bool) (cs : List Char) : pieces p cs = cs.splitOnP p := by
  induction cs with
  | nil => simp [pieces]
  | cons c rest ih =>
    rw [pieces, List.splitOnP_cons_eq_if_modifyHead, ← ih]
    by_cases cuts : p c
    · rw [if_pos cuts, if_pos cuts]
    · rw [if_neg cuts, if_neg cuts]
      cases split : pieces p rest with
      | nil => exact absurd split (pieces_ne_nil p rest)
      | cons piece others => rfl

/-- The underscores of a text stand between its pieces. -/
theorem intercalate_pieces (cs : List Char) : ['_'].intercalate (pieces (· == '_') cs) = cs := by
  rw [pieces_eq_splitOnP]
  exact List.intercalate_splitOn '_'

theorem pieces_intercalate {groups : List (List Char)} (filled : groups ≠ [])
    (none : ∀ group ∈ groups, '_' ∉ group) : pieces (· == '_') (['_'].intercalate groups) = groups := by
  rw [pieces_eq_splitOnP]
  exact List.splitOn_intercalate '_' none filled

/-! ## Digits and blanks -/

theorem not_isDecimal_of_code {codes : List Nat}
    (apart : ∀ code ∈ codes, (digitZeros.find? fun first => first ≤ code && code < first + 10) = none)
    {c : Char} (member : c.toNat ∈ codes) : isDecimal c = false := by
  rw [isDecimal, digitValue?, apart c.toNat member]
  rfl

/-- No digit is a blank around a number. -/
theorem not_isDecimal_of_isNumberBlank {c : Char} (blank : isNumberBlank c = true) : isDecimal c = false := by
  have isBlank : c.toNat ∈ blankCodes := by
    rw [isNumberBlank, Bool.and_eq_true] at blank
    simpa [Text.isBlank] using blank.1
  exact not_isDecimal_of_code (by decide) isBlank

theorem not_isDecimal_underscore : isDecimal '_' = false := by decide

/-! ## The written form -/

/-- The digits of a numeral: groups of them, none empty, with single underscores between them. -/
structure Grouped (digits : List Char) (groups : List (List Char)) : Prop where
  written : digits = ['_'].intercalate groups
  isFilled : groups ≠ []
  filled : ∀ group ∈ groups, group ≠ [] ∧ ∀ c ∈ group, isDecimal c = true

/-- A sign of a number. -/
def IsSign (sign : List Char) : Prop := sign = [] ∨ sign = ['+'] ∨ sign = ['-']

/-- A text that writes a whole number: a sign or none and a numeral that is not too long, with blanks around
    them. -/
inductive Writes : List Char → Int → Prop
  | intro {before sign digits after : List Char} {groups : List (List Char)}
      (blankBefore : ∀ c ∈ before, isNumberBlank c = true) (blankAfter : ∀ c ∈ after, isNumberBlank c = true)
      (isSign : IsSign sign) (grouped : Grouped digits groups) (short : groups.flatten.length ≤ numeralLimit) :
      Writes (before ++ (sign ++ digits) ++ after)
        (if sign = ['-'] then -(digitsValue groups.flatten : Int) else digitsValue groups.flatten)

theorem groupedDigits?_eq_some_iff {cs digits : List Char} :
    groupedDigits? cs = some digits ↔ ∃ groups, Grouped cs groups ∧ digits = groups.flatten := by
  rw [groupedDigits?]
  constructor
  · intro found
    split at found
    · rename_i filled
      refine ⟨pieces (· == '_') cs, ⟨(intercalate_pieces cs).symm, pieces_ne_nil _ _, ?_⟩, ?_⟩
      · intro group member
        simpa using List.all_eq_true.mp filled group member
      · exact (Option.some.inj found).symm
    · cases found
  · rintro ⟨groups, grouped, rfl⟩
    have noUnderscore : ∀ group ∈ groups, '_' ∉ group := by
      intro group member inside
      have decimal := (grouped.filled group member).2 '_' inside
      rw [not_isDecimal_underscore] at decimal
      cases decimal
    rw [grouped.written, pieces_intercalate grouped.isFilled noUnderscore]
    apply if_pos
    apply List.all_eq_true.mpr
    intro group member
    simpa using grouped.filled group member

/-! ## Blanks around a number -/

/-- A text is its trimmed form with blanks before and behind it. -/
theorem exists_eq_trimNumber (text : List Char) : ∃ before after, text = before ++ trimNumber text ++ after ∧
    (∀ c ∈ before, isNumberBlank c = true) ∧ ∀ c ∈ after, isNumberBlank c = true := by
  refine ⟨text.takeWhile isNumberBlank,
    ((text.dropWhile isNumberBlank).reverse.takeWhile isNumberBlank).reverse, ?_, ?_, ?_⟩
  · rw [trimNumber, List.append_assoc, ← List.reverse_append, List.takeWhile_append_dropWhile,
      List.reverse_reverse, List.takeWhile_append_dropWhile]
  · intro c member
    exact List.all_eq_true.mp List.all_takeWhile c member
  · intro c member
    exact List.all_eq_true.mp List.all_takeWhile c (List.mem_reverse.mp member)

theorem dropWhile_blanks {before rest : List Char} (blank : ∀ c ∈ before, isNumberBlank c = true)
    (first : ∀ c, rest.head? = some c → isNumberBlank c = false) :
    (before ++ rest).dropWhile isNumberBlank = rest := by
  rw [List.dropWhile_append_of_pos blank]
  cases rest with
  | nil => rfl
  | cons c rest => rw [List.dropWhile_cons, first c rfl]; rfl

theorem trimNumber_blanks {before core after : List Char} (blankBefore : ∀ c ∈ before, isNumberBlank c = true)
    (blankAfter : ∀ c ∈ after, isNumberBlank c = true) (filled : core ≠ [])
    (first : ∀ c, core.head? = some c → isNumberBlank c = false)
    (last : ∀ c, core.getLast? = some c → isNumberBlank c = false) :
    trimNumber (before ++ core ++ after) = core := by
  have start : (before ++ core ++ after).dropWhile isNumberBlank = core ++ after := by
    rw [List.append_assoc]
    apply dropWhile_blanks blankBefore
    intro c isFirst
    obtain ⟨d, rest, rfl⟩ := List.exists_cons_of_ne_nil filled
    exact first c isFirst
  have finish : (core ++ after).reverse.dropWhile isNumberBlank = core.reverse := by
    rw [List.reverse_append]
    apply dropWhile_blanks
    · intro c member
      exact blankAfter c (List.mem_reverse.mp member)
    · intro c isLast
      rw [List.head?_reverse] at isLast
      exact last c isLast
  rw [trimNumber, start, finish, List.reverse_reverse]

/-- A numeral starts and ends with a digit. -/
theorem Grouped.ends {digits : List Char} {groups : List (List Char)} (grouped : Grouped digits groups) :
    (∃ c, digits.head? = some c ∧ isDecimal c = true) ∧ ∃ c, digits.getLast? = some c ∧ isDecimal c = true := by
  obtain ⟨rfl, isFilled, filled⟩ := grouped
  induction groups with
  | nil => exact absurd rfl isFilled
  | cons group others ih =>
    obtain ⟨notEmpty, decimal⟩ := filled group List.mem_cons_self
    have first : ∃ c, group.head? = some c ∧ isDecimal c = true :=
      ⟨_, List.head?_eq_some_head notEmpty, decimal _ (List.head_mem notEmpty)⟩
    cases others with
    | nil =>
      rw [List.intercalate_singleton]
      exact ⟨first, _, List.getLast?_eq_some_getLast notEmpty, decimal _ (List.getLast_mem notEmpty)⟩
    | cons second others =>
      obtain ⟨_, c, isLast, isDigit⟩ :=
        ih (by simp) fun other member => filled other (List.mem_cons_of_mem _ member)
      rw [List.intercalate_cons_cons]
      constructor
      · obtain ⟨d, isFirst, firstDigit⟩ := first
        exact ⟨d, by rw [List.append_assoc, List.head?_append, isFirst, Option.some_or], firstDigit⟩
      · exact ⟨c, by rw [List.getLast?_append, isLast, Option.some_or], isDigit⟩

/-! ## Reading -/

/-- A text is split into its sign, if it starts with one, and what follows. -/
structure Signed (core sign digits : List Char) : Prop where
  written : core = sign ++ digits
  isSign : IsSign sign
  whole : sign = [] → digits.head? ≠ some '-' ∧ digits.head? ≠ some '+'

theorem exists_signed (core : List Char) : ∃ sign digits, Signed core sign digits := by
  by_cases minus : core.head? = some '-'
  · obtain ⟨digits, rfl⟩ := List.head?_eq_some_iff.mp minus
    exact ⟨['-'], digits, rfl, Or.inr (Or.inr rfl), nofun⟩
  · by_cases plus : core.head? = some '+'
    · obtain ⟨digits, rfl⟩ := List.head?_eq_some_iff.mp plus
      exact ⟨['+'], digits, rfl, Or.inr (Or.inl rfl), nofun⟩
    · exact ⟨[], core, rfl, Or.inl rfl, fun _ => ⟨minus, plus⟩⟩

/-- The numeral behind the sign is read. -/
theorem wholeNumber?_of_signed {text sign digits : List Char} (signed : Signed (trimNumber text) sign digits)
    (n : Int) : wholeNumber? text = some n ↔ ∃ numeral, groupedDigits? digits = some numeral ∧
      numeral.length ≤ numeralLimit ∧
      n = if sign = ['-'] then -(digitsValue numeral : Int) else digitsValue numeral := by
  have negative : ((sign ++ digits).head? == some '-') = decide (sign = ['-']) := by
    rcases signed.isSign with rfl | rfl | rfl
    · simpa using (signed.whole rfl).1
    · rfl
    · rfl
  have unsigned : (if decide (sign = ['-']) || (sign ++ digits).head? == some '+' then (sign ++ digits).tail
      else sign ++ digits) = digits := by
    rcases signed.isSign with rfl | rfl | rfl
    · exact if_neg (by simpa using (signed.whole rfl).2)
    · rfl
    · rfl
  rw [wholeNumber?, signed.written, negative, unsigned]
  cases groupedDigits? digits with
  | none => simp
  | some numeral =>
    dsimp only
    rw [readNumeral]
    by_cases long : numeralLimit < numeral.length
    · rw [if_pos long]
      simp [Nat.not_le_of_lt long]
    · rw [if_neg long]
      simp [Nat.le_of_not_lt long, eq_comm]

section
variable {sign digits : List Char} {groups : List (List Char)}

theorem isNumberBlank_of_isDecimal {c : Char} (digit : isDecimal c = true) : isNumberBlank c = false := by
  cases blank : isNumberBlank c with
  | false => rfl
  | true =>
    rw [not_isDecimal_of_isNumberBlank blank] at digit
    cases digit

/-- A sign and a numeral have no blank at their ends, so only the blanks around them are trimmed. -/
theorem trimNumber_of_grouped {before after : List Char} (blankBefore : ∀ c ∈ before, isNumberBlank c = true)
    (blankAfter : ∀ c ∈ after, isNumberBlank c = true) (isSign : IsSign sign) (grouped : Grouped digits groups) :
    trimNumber (before ++ (sign ++ digits) ++ after) = sign ++ digits := by
  obtain ⟨⟨c, isFirst, firstDigit⟩, d, isLast, lastDigit⟩ := grouped.ends
  have filled : digits ≠ [] := by
    rintro rfl
    cases isFirst
  apply trimNumber_blanks blankBefore blankAfter (List.append_ne_nil_of_right_ne_nil _ filled)
  · intro e first
    rcases isSign with rfl | rfl | rfl
    · rw [List.nil_append, isFirst] at first
      exact Option.some.inj first ▸ isNumberBlank_of_isDecimal firstDigit
    · cases first
      decide
    · cases first
      decide
  · intro e last
    rw [List.getLast?_append, isLast, Option.some_or] at last
    exact Option.some.inj last ▸ isNumberBlank_of_isDecimal lastDigit

/-- A numeral starts with a digit, so a sign before it is the sign of the whole. -/
theorem signed_of_grouped (isSign : IsSign sign) (grouped : Grouped digits groups) :
    Signed (sign ++ digits) sign digits := by
  obtain ⟨c, isFirst, firstDigit⟩ := grouped.ends.1
  refine ⟨rfl, isSign, fun _ => ?_⟩
  rw [isFirst]
  constructor
  · rintro ⟨rfl⟩
    exact absurd firstDigit (by decide)
  · rintro ⟨rfl⟩
    exact absurd firstDigit (by decide)

end

/-- A whole number is read from just the texts that write it. -/
theorem wholeNumber?_eq_some_iff {text : List Char} {n : Int} : wholeNumber? text = some n ↔ Writes text n := by
  constructor
  · intro reads
    obtain ⟨sign, digits, signed⟩ := exists_signed (trimNumber text)
    obtain ⟨numeral, isNumeral, short, rfl⟩ := (wholeNumber?_of_signed signed n).mp reads
    obtain ⟨groups, grouped, rfl⟩ := groupedDigits?_eq_some_iff.mp isNumeral
    obtain ⟨before, after, whole, blankBefore, blankAfter⟩ := exists_eq_trimNumber text
    rw [whole, signed.written]
    exact .intro blankBefore blankAfter signed.isSign grouped short
  · rintro ⟨blankBefore, blankAfter, isSign, grouped, short⟩
    rename_i before sign digits after groups
    have signed : Signed (trimNumber (before ++ (sign ++ digits) ++ after)) sign digits := by
      rw [trimNumber_of_grouped blankBefore blankAfter isSign grouped]
      exact signed_of_grouped isSign grouped
    apply (wholeNumber?_of_signed signed _).mpr
    exact ⟨groups.flatten, groupedDigits?_eq_some_iff.mpr ⟨groups, grouped, rfl⟩, short, rfl⟩

end IssueTracker.Text
