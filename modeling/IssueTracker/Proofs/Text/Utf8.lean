import IssueTracker.Text.Utf8

/-!
# Decoding what was encoded

Every text is decoded from its bytes (`decodeUtf8_encodeUtf8`), and a text without carriage returns
keeps its line ends.
-/

namespace IssueTracker.Text

theorem toNat_toUInt8 {n : Nat} (small : n < 256) : n.toUInt8.toNat = n := by
  simp [Nat.toUInt8, Nat.mod_eq_of_lt small]

/-- A byte may follow the first one when it goes on with a character that is neither too short for
    its bytes, nor half of a pair, nor beyond the last one. -/
theorem isSecond_of_range {first b : UInt8} (low : 0x80 ≤ b.toNat) (high : b.toNat ≤ 0xBF)
    (afterE0 : first.toNat = 0xE0 → 0xA0 ≤ b.toNat) (afterED : first.toNat = 0xED → b.toNat ≤ 0x9F)
    (afterF0 : first.toNat = 0xF0 → 0x90 ≤ b.toNat) (afterF4 : first.toNat = 0xF4 → b.toNat ≤ 0x8F) :
    isSecond first b = true := by
  simp only [isSecond, secondRange, ← UInt8.toNat_inj]
  split
  · rename_i is
    simpa [UInt8.le_iff_toNat_le] using ⟨afterE0 is, high⟩
  · split
    · rename_i is
      simpa [UInt8.le_iff_toNat_le] using ⟨low, afterED is⟩
    · split
      · rename_i is
        simpa [UInt8.le_iff_toNat_le] using ⟨afterF0 is, high⟩
      · split
        · rename_i is
          simpa [UInt8.le_iff_toNat_le] using ⟨low, afterF4 is⟩
        · simpa [UInt8.le_iff_toNat_le] using ⟨low, high⟩

theorem isContinuation_of_range {b : UInt8} (low : 0x80 ≤ b.toNat) (high : b.toNat ≤ 0xBF) :
    isContinuation b = true := by
  simpa [isContinuation, UInt8.le_iff_toNat_le] using ⟨low, high⟩

/-- A code point of a character is no half of a pair, and not beyond the last one. -/
theorem toNat_range (c : Char) : c.toNat < 0xD800 ∨ 0xDFFF < c.toNat ∧ c.toNat < 0x110000 := c.valid

/-! ## One character -/

section
variable {position : Nat} {b0 b1 b2 b3 : UInt8} {rest : Bytes}

theorem decodeFrom_one (first : b0.toNat < 0x80) :
    decodeFrom position (b0 :: rest) =
      (decodeFrom (position + 1) rest).map (Char.ofNat b0.toNat :: ·) := by
  have isOne : b0 < 0x80 := UInt8.lt_iff_toNat_lt.mpr first
  rw [decodeFrom.eq_def]
  simp [isOne]

theorem decodeFrom_two (low : 0xC2 ≤ b0.toNat) (high : b0.toNat < 0xE0)
    (second : isSecond b0 b1 = true) :
    decodeFrom position (b0 :: b1 :: rest) = (decodeFrom (position + 2) rest).map
      (Char.ofNat ((b0.toNat - 0xC0) * 64 + lowBits b1) :: ·) := by
  have notOne : ¬b0 < 0x80 := by rw [UInt8.lt_iff_toNat_lt]; simp; omega
  have starts : ¬(b0 < 0xC2 ∨ 0xF4 < b0) := by
    rw [UInt8.lt_iff_toNat_lt, UInt8.lt_iff_toNat_lt]; simp; omega
  have isTwo : b0 < 0xE0 := UInt8.lt_iff_toNat_lt.mpr high
  rw [decodeFrom.eq_def]
  simp [notOne, starts, second, isTwo]

theorem decodeFrom_three (low : 0xE0 ≤ b0.toNat) (high : b0.toNat < 0xF0)
    (second : isSecond b0 b1 = true) (third : isContinuation b2 = true) :
    decodeFrom position (b0 :: b1 :: b2 :: rest) = (decodeFrom (position + 3) rest).map
      (Char.ofNat (((b0.toNat - 0xE0) * 64 + lowBits b1) * 64 + lowBits b2) :: ·) := by
  have notOne : ¬b0 < 0x80 := by rw [UInt8.lt_iff_toNat_lt]; simp; omega
  have starts : ¬(b0 < 0xC2 ∨ 0xF4 < b0) := by
    rw [UInt8.lt_iff_toNat_lt, UInt8.lt_iff_toNat_lt]; simp; omega
  have notTwo : ¬b0 < 0xE0 := by rw [UInt8.lt_iff_toNat_lt]; simp; omega
  have isThree : b0 < 0xF0 := UInt8.lt_iff_toNat_lt.mpr high
  rw [decodeFrom.eq_def]
  simp [notOne, starts, second, third, notTwo, isThree]

theorem decodeFrom_four (low : 0xF0 ≤ b0.toNat) (high : b0.toNat ≤ 0xF4)
    (second : isSecond b0 b1 = true) (third : isContinuation b2 = true)
    (fourth : isContinuation b3 = true) :
    decodeFrom position (b0 :: b1 :: b2 :: b3 :: rest) = (decodeFrom (position + 4) rest).map
      (Char.ofNat ((((b0.toNat - 0xF0) * 64 + lowBits b1) * 64 + lowBits b2) * 64 + lowBits b3) ::
        ·) := by
  have notOne : ¬b0 < 0x80 := by rw [UInt8.lt_iff_toNat_lt]; simp; omega
  have starts : ¬(b0 < 0xC2 ∨ 0xF4 < b0) := by
    rw [UInt8.lt_iff_toNat_lt, UInt8.lt_iff_toNat_lt]; simp; omega
  have notTwo : ¬b0 < 0xE0 := by rw [UInt8.lt_iff_toNat_lt]; simp; omega
  have notThree : ¬b0 < 0xF0 := by rw [UInt8.lt_iff_toNat_lt]; simp; omega
  rw [decodeFrom.eq_def]
  simp [notOne, starts, second, third, fourth, notTwo, notThree]

end

/-- A character is decoded from its bytes, and the rest after it. -/
theorem decodeFrom_encodeChar (c : Char) (position : Nat) (rest : Bytes) :
    ∃ next, decodeFrom position (encodeChar c ++ rest) = (decodeFrom next rest).map (c :: ·) := by
  have range := toNat_range c
  have back : Char.ofNat c.toNat = c := Char.ofNat_toNat c
  have tail (n : Nat) : (0x80 + n % 64).toUInt8.toNat = 0x80 + n % 64 := toNat_toUInt8 (by omega)
  have low (n : Nat) : lowBits (0x80 + n % 64).toUInt8 = n % 64 := by
    rw [lowBits, tail]
    omega
  have continues (n : Nat) : isContinuation (0x80 + n % 64).toUInt8 = true :=
    isContinuation_of_range (by rw [tail]; omega) (by rw [tail]; omega)
  rw [encodeChar]
  generalize c.toNat = n at range back
  split
  · have first := toNat_toUInt8 (by omega : n < 256)
    refine ⟨position + 1, ?_⟩
    rw [List.singleton_append, decodeFrom_one (by omega), first, back]
  · split
    · have first := toNat_toUInt8 (by omega : 0xC0 + n / 64 < 256)
      have second : isSecond (0xC0 + n / 64).toUInt8 (0x80 + n % 64).toUInt8 = true :=
        isSecond_of_range (by rw [tail]; omega) (by rw [tail]; omega) (by omega) (by omega) (by omega)
          (by omega)
      refine ⟨position + 2, ?_⟩
      rw [List.cons_append, List.singleton_append, decodeFrom_two (by omega) (by omega) second, first,
        low, show (0xC0 + n / 64 - 0xC0) * 64 + n % 64 = n by omega, back]
    · split
      · have first := toNat_toUInt8 (by omega : 0xE0 + n / 4096 < 256)
        have second : isSecond (0xE0 + n / 4096).toUInt8 (0x80 + n / 64 % 64).toUInt8 = true :=
          isSecond_of_range (by rw [tail]; omega) (by rw [tail]; omega) (by rw [tail]; omega)
            (by rw [tail]; omega) (by omega) (by omega)
        refine ⟨position + 3, ?_⟩
        rw [List.cons_append, List.cons_append, List.singleton_append,
          decodeFrom_three (by omega) (by omega) second (continues _), first, low, low,
          show ((0xE0 + n / 4096 - 0xE0) * 64 + n / 64 % 64) * 64 + n % 64 = n by omega, back]
      · have first := toNat_toUInt8 (by omega : 0xF0 + n / 262144 < 256)
        have second : isSecond (0xF0 + n / 262144).toUInt8 (0x80 + n / 4096 % 64).toUInt8 = true :=
          isSecond_of_range (by rw [tail]; omega) (by rw [tail]; omega) (by omega) (by omega)
            (by rw [tail]; omega) (by rw [tail]; omega)
        refine ⟨position + 4, ?_⟩
        rw [List.cons_append, List.cons_append, List.cons_append, List.singleton_append,
          decodeFrom_four (by omega) (by omega) second (continues _) (continues _), first, low, low, low,
          show (((0xF0 + n / 262144 - 0xF0) * 64 + n / 4096 % 64) * 64 + n / 64 % 64) * 64 + n % 64 = n
            by omega, back]

/-! ## Texts -/

/-- Every text is decoded from its bytes. -/
theorem decodeUtf8_encodeUtf8 (cs : List Char) : decodeUtf8 (encodeUtf8 cs) = .ok cs := by
  have all : ∀ position, decodeFrom position (encodeUtf8 cs) = .ok cs := by
    induction cs with
    | nil => exact fun position => rfl
    | cons c cs ih =>
      intro position
      obtain ⟨next, step⟩ := decodeFrom_encodeChar c position (encodeUtf8 cs)
      rw [encodeUtf8, List.flatMap_cons, ← encodeUtf8, step, ih]
      rfl
  exact all 0

/-- A text without carriage returns keeps its line ends. -/
theorem unifyLineEnds_eq_self {cs : List Char} (plain : '\r' ∉ cs) : unifyLineEnds cs = cs := by
  induction cs with
  | nil => rfl
  | cons c cs ih =>
    rw [List.mem_cons, not_or] at plain
    rw [unifyLineEnds, if_neg (Ne.symm plain.1), ih plain.2]
    intro rest same _
    exact plain.1 same.symm

end IssueTracker.Text
