import Mathlib.Data.List.Forall2
import IssueTracker.Proofs.Json.Number
import IssueTracker.Proofs.Json.Storable
import IssueTracker.Proofs.Text.AnyText

/-!
# Reading back values

What is written over several lines is read again (`read_chars`): texts, whole numbers and truth values
as they were, arrays and objects with what their parts are read as.  A floating-point number is read
as some number again.
-/

namespace IssueTracker.Json

/-! ## Strings -/

/-- The digit of a hexadecimal numeral counts for what it shows. -/
theorem hexValue?_digit {d : Nat} (single : d < 16) :
    Text.hexValue? (Char.ofNat (if d < 10 then 48 + d else 87 + d)) = some d := by
  have all : ∀ d < 16, Text.hexValue? (Char.ofNat (if d < 10 then 48 + d else 87 + d)) = some d := by
    decide
  exact all d single

/-- Four hexadecimal digits are read back where the text goes on. -/
theorem hexUnit?_hexDigits {n : Nat} (small : n < 0x10000) (next : Char) (rest : List Char) :
    hexUnit? (Text.hexDigits 4 n ++ next :: rest) = some (n, next :: rest) := by
  have digit (k : Nat) : k % 16 < 16 := Nat.mod_lt k (by decide)
  simp only [Text.hexDigits, List.nil_append, List.cons_append, hexUnit?, hexValue?_digit (digit _),
    Option.bind_eq_bind, Option.bind_some, Option.some.injEq, Prod.mk.injEq, and_true]
  omega

/-- A control character is read from its escape. -/
theorem unicodeEscape_hexDigits {c : Char} (control : c.toNat < 0x20) (next : Char)
    (rest before : List Char) :
    unicodeEscape (Text.hexDigits 4 c.toNat ++ next :: rest) before = .ok (.char c, next :: rest) := by
  have notHigh : isHighUnit c.toNat = false := by
    simp only [isHighUnit, Bool.and_eq_false_iff, decide_eq_false_iff_not]
    omega
  have isChar : CodePoint.ofNat c.toNat = .char c := by
    rw [CodePoint.ofNat, dif_neg (by omega), Char.ofNat_toNat]
  rw [unicodeEscape, hexUnit?_hexDigits (by omega)]
  simp [notHigh, isChar]

/-- A character is read from what stands for it between quotes. -/
theorem readString_escapeChar (c : Char) (start : List Char) (acc : List CodePoint) (rest : List Char)
    (next : Char) (fuel : Nat) :
    readString start (fuel + 1) acc (escapeChar c ++ next :: rest) =
      readString start fuel (.char c :: acc) (next :: rest) := by
  rw [escapeChar]
  by_cases quote : c = '"'
  · subst quote
    rfl
  by_cases backslash : c = '\\'
  · subst backslash
    rfl
  by_cases newline : c = '\n'
  · subst newline
    rfl
  by_cases carriage : c = '\r'
  · subst carriage
    rfl
  by_cases tab : c = '\t'
  · subst tab
    rfl
  by_cases backspace : c = '\x08'
  · subst backspace
    rfl
  by_cases feed : c = '\x0c'
  · subst feed
    rfl
  rw [if_neg quote, if_neg backslash, if_neg newline, if_neg carriage, if_neg tab, if_neg backspace,
    if_neg feed]
  split
  · rename_i control
    have escape := unicodeEscape_hexDigits control next rest
    rw [List.cons_append, List.cons_append, readString.eq_def]
    simp [escape]
  · rename_i plain
    rw [List.singleton_append, readString.eq_def]
    simp [quote, backslash, plain]

theorem readString_flatMap (cs start : List Char) (acc : List CodePoint) (rest : List Char) {fuel : Nat}
    (enough : cs.length < fuel) :
    readString start fuel acc (cs.flatMap escapeChar ++ '"' :: rest) =
      .ok (.ofPoints (acc.reverse ++ cs.map .char), rest) := by
  induction cs generalizing acc fuel with
  | nil =>
    obtain ⟨fuel, rfl⟩ := Nat.exists_eq_add_one_of_ne_zero (Nat.ne_of_gt enough)
    simp [readString]
  | cons c cs ih =>
    obtain ⟨fuel, rfl⟩ := Nat.exists_eq_add_one_of_ne_zero (Nat.ne_zero_of_lt enough)
    have later := ih (.char c :: acc) (Nat.lt_of_succ_lt_succ enough)
    obtain ⟨next, more, same⟩ : ∃ next more, cs.flatMap escapeChar ++ '"' :: rest = next :: more :=
      List.exists_cons_of_ne_nil (by simp)
    rw [List.flatMap_cons, List.append_assoc, same, readString_escapeChar, ← same, later]
    simp

theorem length_le_flatMap_escapeChar (cs : List Char) : cs.length ≤ (cs.flatMap escapeChar).length := by
  induction cs with
  | nil => exact Nat.le_refl 0
  | cons c cs ih =>
    have one : 1 ≤ (escapeChar c).length := by
      simp only [escapeChar]
      repeat' split
      all_goals simp
    simp only [List.flatMap_cons, List.length_append, List.length_cons]
    omega

theorem quoted_plain (s : String) : quoted s = '"' :: s.toList.flatMap escapeChar ++ ['"'] := by
  rw [quoted, AnyText.points, List.flatMap_map]
  rfl

/-- A text is read back from its quoted form. -/
theorem stringFrom_quoted (s : String) (rest : List Char) :
    stringFrom (quoted s ++ rest) = .ok (.plain s, rest) := by
  have enough := length_le_flatMap_escapeChar s.toList
  have same : quoted s ++ rest = '"' :: (s.toList.flatMap escapeChar ++ '"' :: rest) := by
    simp [quoted_plain]
  rw [stringFrom, same, List.tail_cons, readString_flatMap]
  · rw [List.reverse_nil, List.nil_append, AnyText.ofPoints_map_char, AnyText.ofChars, String.ofList_toList]
  · simp only [List.length_cons, List.length_append]
    omega

/-! ## How a value starts -/

/-- A character that a value can start with. -/
def isStart (c : Char) : Bool := isDigit c || "\"[\x7b-ntfNI".toList.contains c

/-- A text that starts like a value. -/
def StartsValue (cs : List Char) : Prop := ∃ c more, cs = c :: more ∧ isStart c = true

theorem StartsValue.append {cs : List Char} (starts : StartsValue cs) (rest : List Char) :
    StartsValue (cs ++ rest) := by
  obtain ⟨c, more, rfl, start⟩ := starts
  exact ⟨c, more ++ rest, rfl, start⟩

/-- A text that starts like a value or is empty. -/
def MayStart (cs : List Char) : Prop := ∀ c, cs.head? = some c → isStart c = true

theorem StartsValue.mayStart {cs : List Char} (starts : StartsValue cs) : MayStart cs := by
  obtain ⟨c, more, rfl, start⟩ := starts
  rintro _ ⟨⟩
  exact start

theorem mayStart_nil : MayStart [] := by
  rintro _ ⟨⟩

/-- The first character of a value is none of the others. -/
theorem MayStart.head?_ne {cs : List Char} (starts : MayStart cs) {c : Char}
    (other : isStart c = false) : cs.head? ≠ some c := by
  intro same
  rw [starts c same] at other
  cases other

theorem MayStart.skipSpace {cs : List Char} (starts : MayStart cs) : skipSpace cs = cs := by
  cases cs with
  | nil => rfl
  | cons c more =>
    have start := starts c rfl
    have blank : isSpace c = false := by
      by_contra space
      simp only [isSpace, Bool.not_eq_false, Bool.or_eq_true, beq_iff_eq] at space
      rcases space with ((rfl | rfl) | rfl) | rfl <;> revert start <;> decide
    rw [Json.skipSpace, List.dropWhile_cons_of_neg (by simp [blank])]

theorem startsValue_number {text : List Char} (number : IsNumberText text) : StartsValue text := by
  obtain ⟨negative, d, more, rfl, digit⟩ := number
  cases negative with
  | true => exact ⟨'-', d :: more, rfl, by decide⟩
  | false => exact ⟨d, more, rfl, by simp [isStart, digit]⟩

theorem startsValue_chars (v : Json) (level : Nat) : StartsValue (v.chars level) := by
  cases v with
  | null => exact ⟨'n', _, rfl, by decide⟩
  | bool value => cases value <;> exact ⟨_, _, rfl, by decide⟩
  | integer value => exact startsValue_number (isNumberText_integer value)
  | float value =>
    cases value with
    | finite negative mantissa exponent =>
      exact startsValue_number (isNumberText_finiteText negative mantissa exponent)
    | infinity negative => cases negative <;> exact ⟨_, _, rfl, by decide⟩
    | nan => exact ⟨'N', _, rfl, by decide⟩
  | string value => exact ⟨'"', _, rfl, by decide⟩
  | array elements => cases elements <;> exact ⟨'[', _, rfl, by decide⟩
  | object members => cases members <;> exact ⟨'\x7b', _, rfl, by decide⟩

/-! ## Values -/

/-- A value whose texts consist of characters. -/
inductive IsPlain : Json → Prop
  | null : IsPlain .null
  | bool (value : Bool) : IsPlain (.bool value)
  | integer (value : Int) : IsPlain (.integer value)
  | float (value : Binary64) : IsPlain (.float value)
  | string {value : AnyText} (plain : value.IsPlain) : IsPlain (.string value)
  | array {elements : List Json} (each : ∀ element ∈ elements, IsPlain element) :
    IsPlain (.array elements)
  | object {members : List (AnyText × Json)} (names : ∀ member ∈ members, member.1.IsPlain)
      (each : ∀ member ∈ members, IsPlain member.2) : IsPlain (.object members)

/-- What is read for a value that was written, with room for so many containers or more. -/
structure IsReadAs (room : Nat) (v w : Json) : Prop where
  back : ∀ (level fuel : Nat) {more : Nat} {rest : List Char}, room ≤ more → EndsNumber rest →
    (v.chars level).length ≤ fuel → readValue fuel more (v.chars level ++ rest) = .ok (w, rest)

variable {room : Nat}

theorem IsReadAs.mono {less : Nat} {v w : Json} (is : IsReadAs less v w) (atMost : less ≤ room) :
    IsReadAs room v w :=
  ⟨fun level fuel _ _ enters => is.back level fuel (Nat.le_trans atMost enters)⟩

theorem EndsNumber.of_cons {c : Char} (other : isDigit c = false ∧ c ≠ '.' ∧ c ≠ 'e' ∧ c ≠ 'E')
    (rest : List Char) : EndsNumber (c :: rest) := by
  obtain ⟨digit, point, lower, upper⟩ := other
  refine ⟨?_, ?_, ?_, ?_⟩
  · intro d first
    rw [← Option.some.inj first, digit]
  · simpa using point
  · simpa using lower
  · simpa using upper

theorem EndsNumber.of_nil : EndsNumber [] := ⟨by simp [EndsDigits], by simp, by simp, by simp⟩

theorem endsNumber_comma (rest : List Char) : EndsNumber (',' :: rest) := .of_cons (by decide) rest

/-! ### Words and numbers -/

/-- Whoever has fuel for each character of a value can begin to read it. -/
theorem exists_fuel {text : List Char} (starts : StartsValue text) {fuel : Nat}
    (enough : text.length ≤ fuel) : ∃ less, fuel = less + 1 := by
  obtain ⟨c, more, rfl, _⟩ := starts
  exact Nat.exists_eq_add_one_of_ne_zero (Nat.ne_zero_of_lt enough)

theorem isReadAs_null : IsReadAs room .null .null := by
  constructor
  intro level fuel more rest _ _ enough
  obtain ⟨fuel, rfl⟩ := exists_fuel (startsValue_chars _ level) enough
  rfl

theorem isReadAs_bool (value : Bool) : IsReadAs room (.bool value) (.bool value) := by
  constructor
  intro level fuel more rest _ _ enough
  obtain ⟨fuel, rfl⟩ := exists_fuel (startsValue_chars _ level) enough
  cases value <;> rfl

/-- No word starts like a number. -/
theorem word?_number {text : List Char} (number : IsNumberText text) (rest : List Char) :
    word? (text ++ rest) = none := by
  obtain ⟨negative, d, more, rfl, digit⟩ := number
  have other {c : Char} (letter : isDigit c = false) : c ≠ d := by
    rintro rfl
    rw [letter] at digit
    cases digit
  have n := other (c := 'n') (by decide)
  have t := other (c := 't') (by decide)
  have f := other (c := 'f') (by decide)
  have N := other (c := 'N') (by decide)
  have I := other (c := 'I') (by decide)
  have minus := other (c := '-') (by decide)
  cases negative <;> simp [word?, words, signText, n, t, f, N, I, minus]

theorem IsNumberText.head?_ne {text : List Char} (number : IsNumberText text) (rest : List Char) {c : Char}
    (letter : isDigit c = false) (unsigned : '-' ≠ c) : (text ++ rest).head? ≠ some c := by
  obtain ⟨negative, d, more, rfl, digit⟩ := number
  cases negative with
  | true => exact fun same => unsigned (Option.some.inj same)
  | false =>
    rintro same
    rw [← Option.some.inj same, digit] at letter
    cases letter

theorem readValue_number {text : List Char} (number : IsNumberText text) (rest : List Char)
    (fuel room : Nat) : readValue (fuel + 1) room (text ++ rest) = readNumber (text ++ rest) := by
  unfold readValue
  split
  · rename_i same
    exact absurd (congrArg List.head? same) (number.head?_ne rest (by decide) (by decide))
  · rename_i same
    exact absurd (congrArg List.head? same) (number.head?_ne rest (by decide) (by decide))
  · rename_i same
    exact absurd (congrArg List.head? same) (number.head?_ne rest (by decide) (by decide))
  · rw [word?_number number rest]

theorem isReadAs_integer {n : Int} (short : n.natAbs < 10 ^ Text.numeralLimit) :
    IsReadAs room (.integer n) (.integer n) := by
  constructor
  intro level fuel more rest _ ends enough
  have number := isNumberText_integer n
  obtain ⟨fuel, rfl⟩ := exists_fuel (startsValue_number number) enough
  rw [chars_integer, readValue_number number, readNumber_integer short ends]

/-- A finite number is read as what its text is read as. -/
theorem isReadAs_finite {negative : Bool} {mantissa : Nat} {exponent : Int} {y : Binary64}
    (reads : ∀ {rest : List Char}, EndsNumber rest →
      readNumber ((Binary64.finiteText negative mantissa exponent).toList ++ rest) = .ok (.float y, rest)) :
    IsReadAs room (.float (.finite negative mantissa exponent)) (.float y) := by
  have number := isNumberText_finiteText negative mantissa exponent
  constructor
  intro level fuel more rest _ ends enough
  obtain ⟨fuel, rfl⟩ := exists_fuel (startsValue_number number) enough
  rw [chars_finite, readValue_number number, reads ends]

/-- A floating-point number is read as one again. -/
theorem exists_isReadAs_float (x : Binary64) : ∃ y, IsReadAs room (.float x) (.float y) := by
  cases x with
  | finite negative mantissa exponent =>
    obtain ⟨y, reads⟩ := exists_readNumber_finiteText negative mantissa exponent
    exact ⟨y, isReadAs_finite reads⟩
  | infinity negative =>
    refine ⟨.infinity negative, ⟨?_⟩⟩
    intro level fuel more rest _ _ enough
    obtain ⟨fuel, rfl⟩ := exists_fuel (startsValue_chars _ level) enough
    cases negative <;> rfl
  | nan =>
    refine ⟨.nan, ⟨?_⟩⟩
    intro level fuel more rest _ _ enough
    obtain ⟨fuel, rfl⟩ := exists_fuel (startsValue_chars _ level) enough
    rfl

/-- A text of characters is read back. -/
theorem isReadAs_string (s : String) : IsReadAs room (.string s) (.string s) := by
  constructor
  intro level fuel more rest _ _ enough
  obtain ⟨fuel, rfl⟩ := exists_fuel (startsValue_chars _ level) enough
  have reads := stringFrom_quoted s rest
  rw [quoted, List.cons_append, List.cons_append] at reads
  rw [chars, quoted, List.cons_append, List.cons_append]
  unfold readValue
  simp only [reads]
  rfl

/-! ### Separators -/

/-- The line end before an item is skipped. -/
theorem skipSpace_newLine (level : Nat) (rest : List Char) :
    skipSpace (newLine level ++ rest) = skipSpace rest := by
  have spaces : ∀ c ∈ newLine level, isSpace c = true := by
    intro c member
    rcases List.mem_cons.mp member with rfl | member
    · decide
    · rw [List.eq_of_mem_replicate member]
      decide
  rw [skipSpace, List.dropWhile_append_of_pos spaces, skipSpace]

theorem endsNumber_newLine (level : Nat) (rest : List Char) : EndsNumber (newLine level ++ rest) :=
  .of_cons (by decide) _

/-! ### Arrays -/

section
variable {value : Json} {cs after rest : List Char} {fuel : Nat}

/-- Behind its opening bracket an array that is not empty is read element by element. -/
theorem readValue_opening (starts : MayStart cs) (fuel room level : Nat) :
    readValue (fuel + 1) (room + 1) ('[' :: (newLine level ++ cs)) =
      ((readElements fuel room cs).map fun (elements, rest) =>
        (Json.array elements, rest)).mapError (Stop.inside room) := by
  have skipped : skipSpace (newLine level ++ cs) = cs := by
    rw [skipSpace_newLine, starts.skipSpace]
  unfold readValue
  simp only [enter, skipped]
  split
  · exact absurd rfl (starts.head?_ne (c := ']') (by decide))
  · rfl

/-- An element is read before others. -/
theorem readElements_next (reads : readValue fuel room cs = .ok (value, after))
    (comma : skipSpace after = ',' :: rest) : readElements (fuel + 1) room cs =
      (readElements fuel room (skipSpace rest)).map fun (elements, rest) => (value :: elements, rest) := by
  rw [readElements, reads]
  simp only [comma]

/-- The elements of an array are read up to its closing bracket. -/
theorem readElements_chars {v w : Json} {vs ws : List Json} (first : IsReadAs room v w)
    (others : List.Forall₂ (IsReadAs room) vs ws) (level fuel : Nat) {more : Nat} (enters : room ≤ more)
    (closes : EndsNumber after) (bracket : skipSpace after = ']' :: rest)
    (enough : (v.chars level ++ moreElements level vs).length < fuel) :
    readElements fuel more (v.chars level ++ (moreElements level vs ++ after)) = .ok (w :: ws, rest) := by
  obtain ⟨fuel, rfl⟩ := Nat.exists_eq_add_one_of_ne_zero (Nat.ne_zero_of_lt enough)
  -- Behind the first element stands the bracket, or a comma and the rest as an array of its own.
  induction others generalizing v w fuel with
  | nil =>
    have reads := first.back level fuel enters closes
      (by simpa [moreElements] using Nat.le_of_lt_succ enough)
    rw [moreElements, List.nil_append, readElements, reads]
    simp only [bracket]
  | @cons v' w' vs ws next others ih =>
    have comma : EndsNumber (moreElements level (v' :: vs) ++ after) := endsNumber_comma _
    simp only [moreElements, List.length_append, List.length_cons, newLine] at enough
    have reads := first.back level fuel enters comma (by omega)
    obtain ⟨fuel, rfl⟩ := Nat.exists_eq_add_one_of_ne_zero (n := fuel) (by omega)
    have later := ih next fuel (by simp only [List.length_append]; omega)
    have starts := (startsValue_chars v' level).append (moreElements level vs ++ after)
    have skipped : skipSpace (moreElements level (v' :: vs) ++ after) =
        ',' :: (newLine level ++ (v'.chars level ++ (moreElements level vs ++ after))) := by
      simp only [moreElements, List.cons_append, List.append_assoc]
      rfl
    rw [readElements_next reads skipped, skipSpace_newLine, starts.mayStart.skipSpace, later]
    rfl

end

/-- What enters a container has room for one less inside. -/
theorem exists_room {more : Nat} (enters : room + 1 ≤ more) : ∃ less, more = less + 1 ∧ room ≤ less := by
  obtain ⟨less, rfl⟩ := Nat.exists_eq_add_one_of_ne_zero (Nat.ne_zero_of_lt enters)
  exact ⟨less, rfl, Nat.le_of_succ_le_succ enters⟩

theorem isReadAs_array {vs ws : List Json} (each : List.Forall₂ (IsReadAs room) vs ws) :
    IsReadAs (room + 1) (.array vs) (.array ws) := by
  constructor
  intro level fuel more rest enters _ enough
  obtain ⟨less, rfl, inside⟩ := exists_room enters
  cases each with
  | nil =>
    obtain ⟨fuel, rfl⟩ := exists_fuel (startsValue_chars _ level) enough
    rfl
  | @cons v w vs ws first others =>
    simp only [chars, List.length_append, List.length_cons, newLine] at enough
    obtain ⟨fuel, rfl⟩ := Nat.exists_eq_add_one_of_ne_zero (n := fuel) (by omega)
    have elements := readElements_chars first others (level + 1) fuel inside
      (endsNumber_newLine level (']' :: rest)) (by rw [skipSpace_newLine]; rfl)
      (by simp only [List.length_append]; omega)
    simp only [chars, List.cons_append, List.append_assoc, List.nil_append]
    rw [readValue_opening ((startsValue_chars v (level + 1)).append _).mayStart, elements]
    rfl

/-! ### Objects -/

/-- What is read for a member that was written; its name is a text of characters. -/
def IsMemberReadAs (room : Nat) (m n : AnyText × Json) : Prop :=
  m.1.IsPlain ∧ m.1 = n.1 ∧ IsReadAs room m.2 n.2

section
variable {name : String} {value : Json} {cs after rest : List Char} {fuel : Nat}

/-- Behind its opening brace an object that is not empty is read member by member. -/
theorem readValue_openingBrace (starts : skipSpace cs = cs) (notClosed : cs.head? ≠ some '\x7d')
    (fuel room level : Nat) : readValue (fuel + 1) (room + 1) ('\x7b' :: (newLine level ++ cs)) =
      ((readMembers fuel room cs).map fun (members, rest) =>
        (Json.object (lastValues members), rest)).mapError (Stop.inside room) := by
  have skipped : skipSpace (newLine level ++ cs) = cs := by
    rw [skipSpace_newLine, starts]
  unfold readValue
  simp only [enter, skipped]
  split
  · exact absurd rfl notClosed
  · rfl

/-- A member is read by its name and then its value. -/
theorem readMembers_name (name : String) (starts : MayStart cs) (fuel room : Nat) :
    readMembers (fuel + 1) room (quoted name ++ ':' :: ' ' :: cs) =
      match readValue fuel room cs with
      | .error stop => .error stop
      | .ok (value, rest) =>
        match skipSpace rest with
        | '}' :: rest => .ok ([(.plain name, value)], rest)
        | ',' :: rest =>
          (readMembers fuel room (skipSpace rest)).map fun (members, rest) =>
            ((.plain name, value) :: members, rest)
        | rest => .error (.problem .expectedComma rest) := by
  have string := stringFrom_quoted name (':' :: ' ' :: cs)
  have space : skipSpace (' ' :: cs) = cs := starts.skipSpace
  rw [quoted, List.cons_append, List.cons_append] at string ⊢
  conv_rhs => rw [← space]
  rw [readMembers.eq_def]
  dsimp only
  rw [string]
  rfl

/-- A member is read before others. -/
theorem readMembers_next (starts : MayStart cs) (reads : readValue fuel room cs = .ok (value, after))
    (comma : skipSpace after = ',' :: rest) :
    readMembers (fuel + 1) room (quoted name ++ ':' :: ' ' :: cs) =
      (readMembers fuel room (skipSpace rest)).map fun (members, rest) =>
        ((.plain name, value) :: members, rest) := by
  rw [readMembers_name name starts, reads]
  simp only [comma]

end

theorem startsQuoted (name : String) (rest : List Char) :
    skipSpace (quoted name ++ rest) = quoted name ++ rest := rfl

/-- The members of an object are read up to its closing brace. -/
theorem readMembers_chars (name : String) {v w : Json} {ms ns : List (AnyText × Json)}
    (first : IsReadAs room v w) (others : List.Forall₂ (IsMemberReadAs room) ms ns) (level fuel : Nat)
    {more : Nat} {after rest : List Char} (enters : room ≤ more) (closes : EndsNumber after)
    (brace : skipSpace after = '\x7d' :: rest)
    (enough : (v.chars level ++ moreMembers level ms).length < fuel) :
    readMembers fuel more
      (quoted name ++ ':' :: ' ' :: (v.chars level ++ (moreMembers level ms ++ after))) =
      .ok ((.plain name, w) :: ns, rest) := by
  obtain ⟨fuel, rfl⟩ := Nat.exists_eq_add_one_of_ne_zero (Nat.ne_zero_of_lt enough)
  induction others generalizing name v w fuel with
  | nil =>
    have reads := first.back level fuel enters closes
      (by simpa [moreMembers] using Nat.le_of_lt_succ enough)
    have starts := ((startsValue_chars v level).append (moreMembers level [] ++ after)).mayStart
    rw [readMembers_name name starts, moreMembers, List.nil_append, reads]
    simp only [brace]
  | @cons m n ms ns next others ih =>
    obtain ⟨_, v'⟩ := m
    obtain ⟨same, w'⟩ := n
    obtain ⟨⟨other, rfl⟩, rfl, next⟩ := next
    have comma : EndsNumber (moreMembers level ((.plain other, v') :: ms) ++ after) :=
      endsNumber_comma _
    simp only [moreMembers, List.length_append, List.length_cons, newLine] at enough
    have reads := first.back level fuel enters comma (by omega)
    obtain ⟨fuel, rfl⟩ := Nat.exists_eq_add_one_of_ne_zero (n := fuel) (by omega)
    have later := ih other next fuel (by simp only [List.length_append]; omega)
    have skipped : skipSpace (moreMembers level ((.plain other, v') :: ms) ++ after) =
        ',' :: (newLine level ++ (quoted other ++ ':' :: ' ' :: (v'.chars level ++
          (moreMembers level ms ++ after)))) := by
      simp only [moreMembers, List.cons_append, List.append_assoc]
      rfl
    rw [readMembers_next ((startsValue_chars v level).append _).mayStart reads skipped, skipSpace_newLine,
      startsQuoted, later]
    rfl

/-- An object is read with its last values, which are all where no name is repeated. -/
theorem isReadAs_object {ms ns : List (AnyText × Json)}
    (each : List.Forall₂ (IsMemberReadAs room) ms ns) :
    IsReadAs (room + 1) (.object ms) (.object (lastValues ns)) := by
  constructor
  intro level fuel more rest enters _ enough
  obtain ⟨less, rfl, inside⟩ := exists_room enters
  cases each with
  | nil =>
    obtain ⟨fuel, rfl⟩ := exists_fuel (startsValue_chars _ level) enough
    rfl
  | @cons m n ms ns first others =>
    obtain ⟨_, v⟩ := m
    obtain ⟨same, w⟩ := n
    obtain ⟨⟨name, rfl⟩, rfl, first⟩ := first
    simp only [chars, List.length_append, List.length_cons, newLine] at enough
    obtain ⟨fuel, rfl⟩ := Nat.exists_eq_add_one_of_ne_zero (n := fuel) (by omega)
    have members := readMembers_chars name first others (level + 1) fuel inside
      (endsNumber_newLine level ('\x7d' :: rest)) (by rw [skipSpace_newLine]; rfl)
      (by simp only [List.length_append]; omega)
    simp only [chars, List.cons_append, List.append_assoc, List.nil_append]
    rw [readValue_openingBrace (startsQuoted name _) (by simp [quoted]), members]
    rfl

/-! ### Values that are read back as they are -/

theorem isReadAs_elements {vs : List Json} (each : ∀ v ∈ vs, IsReadAs room v v) :
    IsReadAs (room + 1) (.array vs) (.array vs) :=
  isReadAs_array (List.forall₂_same.mpr each)

theorem isReadAs_members {ms : List (AnyText × Json)} (distinct : (ms.map Prod.fst).Nodup)
    (each : ∀ m ∈ ms, m.1.IsPlain ∧ IsReadAs room m.2 m.2) :
    IsReadAs (room + 1) (.object ms) (.object ms) := by
  have reads := isReadAs_object (List.forall₂_same.mpr fun m member =>
    ⟨(each m member).1, rfl, (each m member).2⟩)
  rwa [lastValues_eq_self distinct] at reads

theorem isReadAs_text? (s : Option String) : IsReadAs room (.text? s) (.text? s) := by
  cases s with
  | none => exact isReadAs_null
  | some s => exact isReadAs_string s

theorem isReadAs_integer? {n : Option Int} (short : ∀ m, n = some m → m.natAbs < 10 ^ Text.numeralLimit) :
    IsReadAs room (.integer? n) (.integer? n) := by
  cases n with
  | none => exact isReadAs_null
  | some m => exact isReadAs_integer (short m rfl)

theorem isReadAs_strings (xs : List String) : IsReadAs (room + 1) (.strings xs) (.strings xs) := by
  refine isReadAs_elements fun v member => ?_
  obtain ⟨x, _, rfl⟩ := List.mem_map.mp member
  exact isReadAs_string x

/-- Named texts of characters are read back where no name is repeated. -/
theorem isReadAs_texts {pairs : List (AnyText × AnyText)} (distinct : (pairs.map Prod.fst).Nodup)
    (plain : ∀ pair ∈ pairs, pair.1.IsPlain ∧ pair.2.IsPlain) :
    IsReadAs (room + 1) (.texts pairs) (.texts pairs) := by
  refine isReadAs_members ?_ fun m member => ?_
  · rw [List.map_map]
    exact distinct
  · obtain ⟨⟨name, text⟩, inside, rfl⟩ := List.mem_map.mp member
    obtain ⟨namePlain, text, rfl⟩ := plain _ inside
    exact ⟨namePlain, isReadAs_string text⟩

/-! ## Whole texts -/

/-- What is read from the text of a value with blanks behind it. -/
theorem read_chars_append [Nesting] {v w : Json} (is : IsReadAs Nesting.limit v w) {after : List Char}
    (ends : EndsNumber after) (blank : skipSpace after = []) : read (v.chars 0 ++ after) = .ok w := by
  have starts := ((startsValue_chars v 0).append after).mayStart
  have noMark : (v.chars 0 ++ after).head? ≠ some '\uFEFF' := starts.head?_ne (by decide)
  have reads := is.back 0 (2 * (v.chars 0 ++ after).length + 1) (Nat.le_refl _) ends
    (by simp only [List.length_append]; omega)
  simp only [read, if_neg noMark, starts.skipSpace, reads, blank]

/-- What is read from the text of a value. -/
theorem read_chars [Nesting] {v w : Json} (is : IsReadAs Nesting.limit v w) : read (v.chars 0) = .ok w := by
  have reads := read_chars_append is .of_nil rfl
  rwa [List.append_nil] at reads

/-- What is chosen for each of a list makes a list. -/
theorem exists_forall₂ {α : Type} {P : α → Prop} {R : α → α → Prop} {xs : List α}
    (each : ∀ x ∈ xs, ∃ y, P y ∧ R x y) : ∃ ys, (∀ y ∈ ys, P y) ∧ List.Forall₂ R xs ys := by
  induction xs with
  | nil => exact ⟨[], by simp, .nil⟩
  | cons x xs ih =>
    obtain ⟨first, others⟩ := List.forall_mem_cons.mp each
    obtain ⟨y, holds, related⟩ := first
    obtain ⟨ys, hold, relates⟩ := ih others
    exact ⟨y :: ys, List.forall_mem_cons.mpr ⟨holds, hold⟩, .cons related relates⟩

/-- What can be stored and encoded is read again as a value that can be encoded, though its fractions may
    be others. -/
theorem IsStorable.exists_isReadAs {v : Json} (storable : v.IsStorable room) (plain : v.IsPlain) :
    ∃ w, w.IsPlain ∧ IsReadAs room v w := by
  induction storable with
  | null => exact ⟨_, .null, isReadAs_null⟩
  | bool value => exact ⟨_, .bool value, isReadAs_bool value⟩
  | integer short => exact ⟨_, .integer _, isReadAs_integer short⟩
  | @float _ value _ =>
    obtain ⟨y, is⟩ := exists_isReadAs_float value
    exact ⟨_, .float y, is⟩
  | string value =>
    cases plain with
    | string isPlain =>
      obtain ⟨text, rfl⟩ := isPlain
      exact ⟨_, .string (AnyText.isPlain_plain text), isReadAs_string text⟩
  | array _ ih =>
    cases plain with
    | array plain =>
      obtain ⟨ws, arePlain, others⟩ := exists_forall₂ fun e member => ih e member (plain e member)
      exact ⟨_, .array arePlain, isReadAs_array others⟩
  | @object room members _ _ ih =>
    cases plain with
    | object names plain =>
      have each : ∀ m ∈ members, ∃ n : AnyText × Json,
          (n.1.IsPlain ∧ n.2.IsPlain) ∧ IsMemberReadAs room m n := by
        intro m member
        obtain ⟨w, isPlain, is⟩ := ih m member (plain m member)
        exact ⟨(m.1, w), ⟨names m member, isPlain⟩, names m member, rfl, is⟩
      obtain ⟨ns, arePlain, others⟩ := exists_forall₂ each
      exact ⟨_, .object (fun n member => (arePlain n (mem_lastValues member)).1)
        (fun n member => (arePlain n (mem_lastValues member)).2), isReadAs_object others⟩

end IssueTracker.Json
