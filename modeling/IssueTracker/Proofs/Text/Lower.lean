import IssueTracker.Text.Blank
import IssueTracker.Text.Case

/-!
# Texts in lower case

An ASCII text without capitals is its own lower-case form.  A character without another case, such as a
blank, is in the lower-case form of every text that it is in.  A part of a text is in lower case a part of
it, unless one of its capital sigmas ends a word in one of the two and not in the other
(`lowerChars_isInfix`).
-/

namespace IssueTracker.Text

/-- An ASCII character that is no capital. -/
def isPlainLower (c : Char) : Bool := c.toNat < 128 && !c.isUpper

theorem lowerChar_eq_self {c : Char} (plain : isPlainLower c) : lowerChar c = [c] := by
  simp only [isPlainLower, Bool.and_eq_true, decide_eq_true_eq, Bool.not_eq_true'] at plain
  have same : c.toLower = c := dif_neg (of_decide_eq_false plain.2)
  rw [lowerChar_ascii c plain.1, same]

/-- A text of characters that are their own lower-case forms is its own. -/
theorem lowerAfter_of_fixed {cs : List Char} (fixed : ∀ c ∈ cs, lowerChar c = [c]) (afterCased : Bool) :
    lowerAfter afterCased cs = cs := by
  induction cs generalizing afterCased with
  | nil => rfl
  | cons c cs ih =>
    have first := fixed c List.mem_cons_self
    have noSigma : c ≠ 'Σ' := by
      rintro rfl
      exact absurd first (by decide +kernel)
    rw [lowerAfter, if_neg noSigma, first, ih fun d member => fixed d (List.mem_cons_of_mem _ member),
      List.singleton_append]

theorem lowerAfter_eq_self {cs : List Char} (plain : ∀ c ∈ cs, isPlainLower c) (afterCased : Bool) :
    lowerAfter afterCased cs = cs :=
  lowerAfter_of_fixed (fun c member => lowerChar_eq_self (plain c member)) afterCased

theorem lowerChars_eq_self {cs : List Char} (plain : ∀ c ∈ cs, isPlainLower c) :
    lowerChars cs = cs :=
  lowerAfter_eq_self plain false

theorem lower_eq_self {s : String} (plain : ∀ c ∈ s.toList, isPlainLower c) : lower s = s := by
  rw [lower, lowerChars_eq_self plain, String.ofList_toList]

theorem lowerChar_ne_nil (c : Char) : lowerChar c ≠ [] := by
  rw [lowerChar]
  split
  · simp
  · split <;> simp

theorem lowerAfter_eq_nil {cs : List Char} {afterCased : Bool} : lowerAfter afterCased cs = [] ↔ cs = [] := by
  cases cs with
  | nil => simp [lowerAfter]
  | cons c cs =>
    rw [lowerAfter]
    by_cases isSigma : c = 'Σ' <;> simp [isSigma, lowerChar_ne_nil]

/-- No character has an empty lower-case form. -/
theorem lower_eq_empty {s : String} : lower s = "" ↔ s = "" := by
  rw [lower, ← String.toList_inj, String.toList_ofList, lowerChars]
  simp [lowerAfter_eq_nil]

theorem mem_lowerAfter {cs : List Char} {c : Char} (member : c ∈ cs) (noSigma : c ≠ 'Σ')
    (same : lowerChar c = [c]) (afterCased : Bool) : c ∈ lowerAfter afterCased cs := by
  induction cs generalizing afterCased with
  | nil => simp at member
  | cons first cs ih =>
    rw [lowerAfter, List.mem_append]
    rcases List.mem_cons.mp member with rfl | later
    · rw [if_neg noSigma, same]
      exact Or.inl List.mem_cons_self
    · exact Or.inr (ih later _)

theorem mem_lowerChars_of_isBlank {cs : List Char} {c : Char} (member : c ∈ cs) (blank : isBlank c) :
    c ∈ lowerChars cs := by
  have all : ∀ code ∈ blankCodes,
      Char.ofNat code ≠ 'Σ' ∧ lowerChar (Char.ofNat code) = [Char.ofNat code] := by decide +kernel
  have fixed := all c.toNat (List.contains_iff_mem.mp blank)
  rw [Char.ofNat_toNat] at fixed
  exact mem_lowerAfter member fixed.1 fixed.2 false

/-! ## Parts of a text -/

/-- Whether a capital sigma with these characters before and after it ends a word. -/
def endsWord (before after : List Char) : Bool := startsCased before.reverse && !startsCased after

/-- The capital sigmas of a part end words in its text where they do in the part by itself. -/
def KeepsSigmas (before part after : List Char) : Prop :=
  ∀ first last, part = first ++ 'Σ' :: last → endsWord (before ++ first) (last ++ after) = endsWord first last

theorem keepsSigmas_of_notMem {before part after : List Char} (none : 'Σ' ∉ part) :
    KeepsSigmas before part after := by
  rintro first last rfl
  simp at none

theorem startsCased_reverse_concat (before : List Char) (c : Char) :
    startsCased (before ++ [c]).reverse =
      if isCaseIgnorable c then startsCased before.reverse else isCased c := by
  rw [List.reverse_append, List.reverse_singleton, List.singleton_append, startsCased]

/-- What stands behind a character that is neither cased nor passed over does not count. -/
theorem startsCased_append {c : Char} (stops : isCaseIgnorable c = false) (uncased : isCased c = false)
    (cs rest : List Char) : startsCased (cs ++ c :: rest) = startsCased cs := by
  induction cs with
  | nil => simp [startsCased, stops, uncased]
  | cons d cs ih => rw [List.cons_append, startsCased, startsCased, ih]

section
variable {before part after rest : List Char} {c : Char}

/-- Nor does what stands behind such a character count for the sigmas of a part before it. -/
theorem KeepsSigmas.append_right (keeps : KeepsSigmas before part after) (stops : isCaseIgnorable c = false)
    (uncased : isCased c = false) : KeepsSigmas before part (after ++ c :: rest) := by
  intro first last split
  rw [← keeps first last split, endsWord, endsWord, ← List.append_assoc, startsCased_append stops uncased]

theorem KeepsSigmas.append_left (keeps : KeepsSigmas before part after) (stops : isCaseIgnorable c = false)
    (uncased : isCased c = false) : KeepsSigmas (rest ++ c :: before) part after := by
  intro first last split
  have mirrored : (rest ++ c :: before ++ first).reverse = (before ++ first).reverse ++ c :: rest.reverse := by
    simp
  rw [← keeps first last split, endsWord, endsWord, mirrored, startsCased_append stops uncased]

end

/-- The lower-case form goes on behind the first characters as they leave it. -/
theorem exists_lowerAfter_append (before first rest : List Char) :
    ∃ lowered, lowerAfter (startsCased before.reverse) (first ++ rest) =
      lowered ++ lowerAfter (startsCased (before ++ first).reverse) rest := by
  induction first generalizing before with
  | nil => exact ⟨[], by simp⟩
  | cons c first ih =>
    obtain ⟨lowered, is⟩ := ih (before ++ [c])
    rw [startsCased_reverse_concat, List.append_assoc, List.singleton_append] at is
    rw [List.cons_append, lowerAfter, is, ← List.append_assoc]
    exact ⟨_, rfl⟩

/-- A part whose sigmas are kept has the same lower-case form in two places. -/
theorem lowerAfter_append {before before' part after : List Char}
    (keeps : ∀ first last, part = first ++ 'Σ' :: last →
      endsWord (before ++ first) (last ++ after) = endsWord (before' ++ first) last) :
    lowerAfter (startsCased before.reverse) (part ++ after) =
      lowerAfter (startsCased before'.reverse) part ++
        lowerAfter (startsCased (before ++ part).reverse) after := by
  induction part generalizing before before' with
  | nil => simp [lowerAfter]
  | cons c part ih =>
    have keeps' : ∀ first last, part = first ++ 'Σ' :: last →
        endsWord (before ++ [c] ++ first) (last ++ after) = endsWord (before' ++ [c] ++ first) last := by
      intro first last split
      simpa using keeps (c :: first) last (congrArg (c :: ·) split)
    have later := ih keeps'
    rw [startsCased_reverse_concat, startsCased_reverse_concat, List.append_assoc before,
      List.singleton_append] at later
    rw [List.cons_append, lowerAfter, lowerAfter, later, List.append_assoc]
    congr 1
    by_cases isSigma : c = 'Σ'
    · have same := keeps [] part (by rw [isSigma]; rfl)
      rw [List.append_nil, List.append_nil, endsWord, endsWord] at same
      rw [if_pos isSigma, if_pos isSigma, same]
    · rw [if_neg isSigma, if_neg isSigma]

/-- The lower-case form of a part whose sigmas are kept is a part of that of the text. -/
theorem lowerChars_isInfix {before part after : List Char} (keeps : KeepsSigmas before part after) :
    lowerChars part <:+: lowerChars (before ++ part ++ after) := by
  obtain ⟨first, start⟩ := exists_lowerAfter_append [] before (part ++ after)
  have middle : lowerAfter (startsCased before.reverse) (part ++ after) =
      lowerAfter (startsCased [].reverse) part ++ lowerAfter (startsCased (before ++ part).reverse) after :=
    lowerAfter_append keeps
  rw [List.nil_append, middle] at start
  refine ⟨first, lowerAfter (startsCased (before ++ part).reverse) after, ?_⟩
  rw [lowerChars, lowerChars, List.append_assoc, List.append_assoc]
  exact start.symm

end IssueTracker.Text
