import IssueTracker.Text.Blank

/-!
# Trimmed texts

Trimming leaves a text without blanks at its ends, and leaves such a text as it is.
-/

namespace IssueTracker

namespace Text

/-- A text without blanks at its ends. -/
def IsTrimmed (cs : List Char) : Prop :=
  (∀ c, cs.head? = some c → isBlank c = false) ∧ ∀ c, cs.getLast? = some c → isBlank c = false

private theorem dropWhile_eq_self {p : Char → Bool} {cs : List Char}
    (first : ∀ c, cs.head? = some c → p c = false) : cs.dropWhile p = cs := by
  cases cs with
  | nil => rfl
  | cons c rest => rw [List.dropWhile_cons, first c rfl]; rfl

private theorem head?_dropWhile {p : Char → Bool} {cs : List Char} {c : Char}
    (first : (cs.dropWhile p).head? = some c) : p c = false := by
  have stopped := List.head?_dropWhile_not p cs
  rw [first] at stopped
  exact stopped

theorem isTrimmed_trim (cs : List Char) : IsTrimmed (trim cs) := by
  constructor
  · intro c first
    obtain ⟨blanks, rest⟩ : trim cs <+: trimStart cs := by
      have ending := List.reverse_prefix.mpr
        (List.dropWhile_suffix (l := (trimStart cs).reverse) isBlank)
      rwa [List.reverse_reverse] at ending
    refine head?_dropWhile (?_ : (cs.dropWhile isBlank).head? = some c)
    rw [← trimStart, ← rest, List.head?_append, first]
    rfl
  · intro c last
    rw [trim, trimEnd, List.getLast?_reverse] at last
    exact head?_dropWhile last

theorem trim_eq_self {cs : List Char} (trimmed : IsTrimmed cs) : trim cs = cs := by
  have start : trimStart cs = cs := dropWhile_eq_self trimmed.1
  have finish : cs.reverse.dropWhile isBlank = cs.reverse := by
    apply dropWhile_eq_self
    intro c first
    exact trimmed.2 c (by rwa [List.head?_reverse] at first)
  rw [trim, start, trimEnd, finish, List.reverse_reverse]

theorem trim_eq_self_iff {cs : List Char} : trim cs = cs ↔ IsTrimmed cs :=
  ⟨fun same => same ▸ isTrimmed_trim cs, trim_eq_self⟩

@[simp] theorem trim_trim (cs : List Char) : trim (trim cs) = trim cs := trim_eq_self (isTrimmed_trim cs)

/-- A character of a trimmed text is one of the text. -/
theorem mem_of_mem_trim {cs : List Char} {c : Char} (member : c ∈ trim cs) : c ∈ cs := by
  rw [trim, trimEnd, List.mem_reverse] at member
  have inside := (List.dropWhile_sublist isBlank).subset member
  exact (List.dropWhile_sublist isBlank).subset (List.mem_reverse.mp inside)

/-- A text that starts with no blank is its trimmed form with blanks behind it. -/
theorem exists_eq_trim_append {cs : List Char} (first : ∀ c, cs.head? = some c → isBlank c = false) :
    ∃ blanks, cs = trim cs ++ blanks ∧ ∀ c ∈ blanks, isBlank c = true := by
  have start : trimStart cs = cs := dropWhile_eq_self first
  refine ⟨(cs.reverse.takeWhile isBlank).reverse, ?_, fun c member => ?_⟩
  · rw [trim, start, trimEnd, ← List.reverse_append, List.takeWhile_append_dropWhile,
      List.reverse_reverse]
  · exact List.all_eq_true.mp List.all_takeWhile c (List.mem_reverse.mp member)

@[simp] theorem strip_strip (s : String) : strip (strip s) = strip s := by
  simp [strip]

theorem strip_eq_self_iff {s : String} : strip s = s ↔ IsTrimmed s.toList := by
  rw [← trim_eq_self_iff, strip, ← String.toList_inj, String.toList_ofList]

/-- A character of joined pieces is one of a piece, or the space between two of them. -/
theorem mem_intercalate {pieces : List (List Char)} {c : Char}
    (member : c ∈ [' '].intercalate pieces) : c = ' ' ∨ ∃ piece ∈ pieces, c ∈ piece := by
  induction pieces with
  | nil => simp at member
  | cons piece others ih =>
    cases others with
    | nil => exact Or.inr ⟨piece, by simp, by simpa using member⟩
    | cons second others =>
      rw [List.intercalate_cons_cons, List.mem_append, List.mem_append, List.mem_singleton] at member
      rcases member with (inside | space) | later
      · exact Or.inr ⟨piece, by simp, inside⟩
      · exact Or.inl space
      · rcases ih later with space | ⟨other, isOther, inside⟩
        · exact Or.inl space
        · exact Or.inr ⟨other, List.mem_cons_of_mem _ isOther, inside⟩

/-- Trimmed pieces that are not empty are trimmed when they are joined by a space. -/
theorem isTrimmed_intercalate {pieces : List (List Char)}
    (filled : ∀ piece ∈ pieces, piece ≠ [] ∧ IsTrimmed piece) :
    IsTrimmed ([' '].intercalate pieces) := by
  induction pieces with
  | nil => simp [IsTrimmed]
  | cons piece others ih =>
    obtain ⟨notEmpty, trimmed⟩ := filled piece List.mem_cons_self
    have rest := ih fun other member => filled other (List.mem_cons_of_mem _ member)
    cases others with
    | nil => simpa using trimmed
    | cons second others =>
      have secondFilled := (filled second (by simp)).1
      have restFilled : [' '].intercalate (second :: others) ≠ [] := by
        cases others <;> simp [secondFilled]
      rw [List.intercalate_cons_cons]
      constructor
      · intro c first
        obtain ⟨start, more, rfl⟩ := List.exists_cons_of_ne_nil notEmpty
        exact trimmed.1 c (by simpa using first)
      · intro c last
        rw [List.getLast?_append, List.getLast?_eq_some_getLast restFilled, Option.some_or,
          ← List.getLast?_eq_some_getLast restFilled] at last
        exact rest.2 c last

end Text

/-- A text that can name something: not empty, without blanks around it. -/
structure IsName (text : String) : Prop where
  notEmpty : text ≠ ""
  trimmed : Text.strip text = text

end IssueTracker
