import Mathlib.Algebra.Group.Nat.Defs
import IssueTracker.Calendar.Iso

/-!
# Reading back what is written in ISO 8601

A date is read back from `YYYY-MM-DD` (`Date.ofIso_iso`).
-/

namespace IssueTracker

namespace Text

theorem isDigit_digitChar {n : Nat} (single : n < 10) : Iso.isDigit (digitChar n) = true := by
  have all : ∀ n < 10, Iso.isDigit (digitChar n) = true := by decide
  exact all n single

theorem toNat_digitChar {n : Nat} (single : n < 10) : (digitChar n).toNat = 48 + n := by
  have all : ∀ n < 10, (digitChar n).toNat = 48 + n := by decide
  exact all n single

/-- The characters of a number of fixed width are digits. -/
theorem exists_digit_of_mem_fixedDigits {width n : Nat} {c : Char} (member : c ∈ fixedDigits width n) :
    ∃ k < 10, c = digitChar k := by
  induction width generalizing n with
  | zero => simp [fixedDigits] at member
  | succ width ih =>
    rw [fixedDigits, List.mem_append, List.mem_singleton] at member
    rcases member with early | last
    · exact ih early
    · exact ⟨n % 10, Nat.mod_lt n (by decide), last⟩

/-- A text of one-byte characters has as many bytes as characters. -/
theorem utf8ByteSize_ofList {cs : List Char} (single : ∀ c ∈ cs, c.utf8Size = 1) :
    (String.ofList cs).utf8ByteSize = cs.length := by
  induction cs with
  | nil => rfl
  | cons c cs ih =>
    rw [String.ofList_cons, String.utf8ByteSize_append, String.utf8ByteSize_singleton,
      single c List.mem_cons_self, ih fun d member => single d (List.mem_cons_of_mem _ member),
      List.length_cons, Nat.add_comm]

end Text

namespace Iso

/-- Digits may be read in two goes. -/
theorem takeDigits_add (a b acc : Nat) (cs : List Char) :
    takeDigits (a + b) acc cs =
      (takeDigits a acc cs).bind fun (value, rest) => takeDigits b value rest := by
  induction a generalizing acc cs with
  | zero => simp [takeDigits]
  | succ a ih =>
    cases cs with
    | nil => simp [takeDigits, Nat.succ_add]
    | cons c cs =>
      rw [Nat.succ_add, takeDigits, takeDigits]
      by_cases digit : isDigit c <;> simp [digit, ih]

/-- A number of fixed width is read back. -/
theorem takeDigits_fixedDigits (width n acc : Nat) (rest : List Char) :
    takeDigits width acc (Text.fixedDigits width n ++ rest) =
      some (acc * 10 ^ width + n % 10 ^ width, rest) := by
  induction width generalizing n acc rest with
  | zero => simp [takeDigits, Text.fixedDigits, Nat.mod_one]
  | succ width ih =>
    have last : n % 10 < 10 := Nat.mod_lt n (by decide)
    have split : n % (10 ^ width * 10) = n / 10 % 10 ^ width * 10 + n % 10 := by
      rw [Nat.mul_comm, Nat.mod_mul]
      omega
    rw [takeDigits_add, Text.fixedDigits, List.append_assoc, ih]
    simp only [Option.bind_some, List.singleton_append, takeDigits, Text.isDigit_digitChar last,
      if_true, Text.toNat_digitChar last, Nat.pow_succ, split]
    have shift : acc * (10 ^ width * 10) = 10 * (acc * 10 ^ width) := by
      rw [← Nat.mul_assoc, Nat.mul_comm]
    congr 2
    omega

/-- A number of two digits after nothing is read back. -/
theorem takeDigits_two {n : Nat} (small : n < 100) (rest : List Char) :
    takeDigits 2 0 (Text.fixedDigits 2 n ++ rest) = some (n, rest) := by
  have whole : n % 10 ^ 2 = n := Nat.mod_eq_of_lt small
  rw [takeDigits_fixedDigits, Nat.zero_mul, Nat.zero_add, whole]

/-- The characters of a number of two digits. -/
theorem fixedDigits_two (n : Nat) :
    Text.fixedDigits 2 n = [Text.digitChar (n / 10 % 10), Text.digitChar (n % 10)] := rfl

/-- No digit is another character. -/
theorem digitChar_ne {n : Nat} (single : n < 10) {c : Char} (other : isDigit c = false) :
    Text.digitChar n ≠ c := by
  rintro rfl
  rw [Text.isDigit_digitChar single] at other
  cases other

/-- Four, two and two digits between hyphens are read as the year, month and day that they write. -/
theorem date?_digits {year month day : Nat} (yearBound : year < 10 ^ 4) (monthBound : month < 100)
    (dayBound : day < 100) :
    date? (Text.fixedDigits 4 year ++ '-' :: (Text.fixedDigits 2 month ++ '-' :: Text.fixedDigits 2 day)) =
      some (Date.make year month day) := by
  have notWeek : Text.digitChar (month / 10 % 10) ≠ 'W' :=
    digitChar_ne (Nat.mod_lt _ (by decide)) (by decide)
  have readDay := takeDigits_two dayBound []
  rw [List.append_nil] at readDay
  have readMonth := takeDigits_two monthBound ('-' :: Text.fixedDigits 2 day)
  have readYear := takeDigits_fixedDigits 4 year 0
    ('-' :: (Text.fixedDigits 2 month ++ '-' :: Text.fixedDigits 2 day))
  rw [Nat.zero_mul, Nat.zero_add, Nat.mod_eq_of_lt yearBound] at readYear
  have first : ¬(Text.fixedDigits 2 month).head?.getD '-' = 'W' := by
    simpa [fixedDigits_two] using notWeek
  rw [date?, readYear]
  simp [first, readMonth, readDay]

end Iso

/-- The components of a date have four, two and two digits. -/
theorem Date.components_lt (d : Date) : d.year < 10 ^ 4 ∧ d.month < 100 ∧ d.day < 100 := by
  obtain ⟨year, month, day, valid⟩ := d
  have last := valid.2.1
  have days : daysInMonth year month ≤ 31 := by
    unfold daysInMonth
    split <;> first | omega | (split <;> omega)
  simp only [maxYear] at last
  refine ⟨?_, ?_, ?_⟩ <;> dsimp only <;> omega

theorem Date.isoChars_eq (d : Date) :
    d.isoChars = Text.fixedDigits 4 d.year ++
      '-' :: (Text.fixedDigits 2 d.month ++ '-' :: Text.fixedDigits 2 d.day) := by
  simp [isoChars]

theorem Iso.date?_isoChars (d : Date) : date? d.isoChars = some (.ok d) := by
  obtain ⟨yearBound, monthBound, dayBound⟩ := d.components_lt
  have made : Date.make d.year d.month d.day = .ok d := dif_pos d.valid
  rw [d.isoChars_eq, date?_digits yearBound monthBound dayBound, made]

/-- The characters of a date are ASCII digits and hyphens, ten of them. -/
theorem Date.mem_isoChars {d : Date} {c : Char} (member : c ∈ d.isoChars) :
    c = '-' ∨ ∃ k < 10, c = Text.digitChar k := by
  simp only [isoChars, List.mem_append, List.mem_cons] at member
  rcases member with (year | hyphen | month) | hyphen | day
  · exact Or.inr (Text.exists_digit_of_mem_fixedDigits year)
  · exact Or.inl hyphen
  · exact Or.inr (Text.exists_digit_of_mem_fixedDigits month)
  · exact Or.inl hyphen
  · exact Or.inr (Text.exists_digit_of_mem_fixedDigits day)

theorem Date.length_isoChars (d : Date) : d.isoChars.length = 10 := by
  simp [isoChars, Text.length_fixedDigits]

theorem Date.utf8ByteSize_iso (d : Date) : d.iso.utf8ByteSize = 10 := by
  rw [iso, Text.utf8ByteSize_ofList, length_isoChars]
  intro c member
  rcases mem_isoChars member with rfl | ⟨k, single, rfl⟩
  · rfl
  · have all : ∀ k < 10, (Text.digitChar k).utf8Size = 1 := by decide
    exact all k single

/-- A date is read back. -/
theorem Date.ofIso_iso (d : Date) : Date.ofIso d.iso = .ok d := by
  rw [ofIso, utf8ByteSize_iso, if_pos (by simp), iso, String.toList_ofList, Iso.date?_isoChars]
  rfl

/-- An empty text writes no moment, so what writes one is not taken for a missing time. -/
theorem Moment.ofIso?_of_ofIso {text : String} {m : Moment} (reads : ofIso text = .ok m) :
    ofIso? text = .ok (some m) := by
  unfold ofIso?
  split
  · rename_i missing
    cases missing
  · rename_i empty
    cases empty
    cases reads
  · rename_i same
    cases same
    rw [reads]
    rfl

end IssueTracker
