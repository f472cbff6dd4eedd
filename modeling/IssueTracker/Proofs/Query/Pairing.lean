import IssueTracker.Query.Token

/-!
# Quotes in pairs

The quotes of a text are paired from left to right, the first with the second, the third with the fourth.
What separates tokens are the blanks that are not between the two quotes of a pair, and the last quote
when it has no partner (`separates`).  The tokens of a text are the runs of all other characters
(`tokenize_eq_runs`), so a space behind a text in which all quotes are paired separates its tokens from
those that follow (`tokenize_append`).
-/

namespace IssueTracker

/-- Whether a place in a text is between the quotes of a pair: an odd number of quotes stands before it,
    and the partner of the last one behind it. -/
def betweenQuotes (before after : List Char) : Bool := before.count '"' % 2 == 1 && after.contains '"'

/-- Whether a character in a text separates tokens: a quote without a partner, or a blank that is not
    between the quotes of a pair. -/
def separates (before : List Char) (c : Char) (after : List Char) : Bool :=
  if c = '"' then before.count '"' % 2 == 0 && !after.contains '"'
  else Text.isBlank c && !betweenQuotes before after

/-- The characters of a text behind another one, each with whether it separates tokens. -/
def marks (before : List Char) : List Char → List (Char × Bool)
  | [] => []
  | c :: after => (c, separates before c after) :: marks (before ++ [c]) after

/-- What stands between the characters that separate, where that is anything. -/
def markedRuns (marked : List (Char × Bool)) : List Token :=
  ((marked.splitOnP Prod.snd).map (List.map Prod.fst)).filter (!·.isEmpty)

/-- The longest runs of characters of a text that do not separate tokens. -/
def runs (raw : List Char) : List Token := markedRuns (marks [] raw)

/-! ## Places -/

section
variable {before after : List Char}

theorem betweenQuotes_cons_quote :
    betweenQuotes before ('"' :: after) = (before.count '"' % 2 == 1) := by
  simp [betweenQuotes]

theorem betweenQuotes_append_quote :
    betweenQuotes (before ++ ['"']) after = (before.count '"' % 2 == 0 && after.contains '"') := by
  have turns : ((before.count '"' + 1) % 2 == 1) = (before.count '"' % 2 == 0) := by
    rw [Bool.eq_iff_iff, beq_iff_eq, beq_iff_eq]
    omega
  rw [betweenQuotes, List.count_append, List.count_singleton_self, turns]

theorem betweenQuotes_cons_other {c : Char} (other : c ≠ '"') :
    betweenQuotes before (c :: after) = betweenQuotes before after := by
  simp [betweenQuotes, Ne.symm other]

theorem betweenQuotes_append_other {c : Char} (other : c ≠ '"') :
    betweenQuotes (before ++ [c]) after = betweenQuotes before after := by
  simp [betweenQuotes, other]

end

/-! ## Runs -/

theorem consWord_append (word : List Char) (before after : List Token) :
    consWord word (before ++ after) = consWord word before ++ after := by
  by_cases empty : word.isEmpty
  · simp [consWord, empty]
  · simp [consWord, empty]

theorem markedRuns_append (marked others : List (Char × Bool)) (c : Char) :
    markedRuns (marked ++ (c, true) :: others) = markedRuns marked ++ markedRuns others := by
  rw [markedRuns, List.splitOnP_append_cons marked others rfl, List.map_append, List.filter_append]
  rfl

/-- Characters that do not separate are one run. -/
theorem markedRuns_plain (word : List Char) :
    markedRuns (word.reverse.map (·, false)) = consWord word [] := by
  have single : (word.reverse.map (·, false)).splitOnP Prod.snd = [word.reverse.map (·, false)] := by
    refine List.splitOnP_eq_singleton fun mark member => ?_
    obtain ⟨c, _, rfl⟩ := List.mem_map.mp member
    rfl
  have characters : (word.reverse.map (·, false)).map Prod.fst = word.reverse := by
    rw [List.map_map]
    exact List.map_id _
  rw [markedRuns, single, List.map_singleton, characters, consWord]
  cases word <;> simp

/-- The tokens of a text of which a word has been read are the runs of the word and the text. -/
theorem tokensFrom_eq_markedRuns (cs before word : List Char) :
    tokensFrom (betweenQuotes before cs) word cs =
      markedRuns (word.reverse.map (·, false) ++ marks before cs) := by
  induction cs generalizing before word with
  | nil => rw [tokensFrom, marks, List.append_nil, markedRuns_plain]
  | cons c cs ih =>
    -- What goes on with the word is one more character that does not separate.
    have goesOn (plain : separates before c cs = false) :
        markedRuns (word.reverse.map (·, false) ++ marks before (c :: cs)) =
          tokensFrom (betweenQuotes (before ++ [c]) cs) (c :: word) cs := by
      rw [ih, marks, plain]
      simp
    have ends (separator : separates before c cs = true) :
        markedRuns (word.reverse.map (·, false) ++ marks before (c :: cs)) =
          consWord word (tokensFrom (betweenQuotes (before ++ [c]) cs) [] cs) := by
      rw [ih, marks, separator, markedRuns_append, markedRuns_plain, ← consWord_append]
      rfl
    rw [tokensFrom]
    by_cases quote : c = '"'
    · subst quote
      rw [if_pos rfl, betweenQuotes_cons_quote]
      rw [betweenQuotes_append_quote] at goesOn ends
      rcases Nat.mod_two_eq_zero_or_one (before.count '"') with even | odd
      · rw [if_neg (by simp [even])]
        cases partner : cs.contains '"' with
        | true =>
          rw [goesOn (by simp only [separates, if_true, partner, Bool.not_true, Bool.and_false]), partner, even]
          rfl
        | false =>
          rw [ends (by simp only [separates, if_true, partner, even]; rfl), partner, even]
          rfl
      · rw [goesOn (by simp [separates, odd])]
        simp [odd]
    · rw [betweenQuotes_append_other quote] at goesOn ends
      have blank : separates before c cs = (!betweenQuotes before cs && Text.isBlank c) := by
        rw [separates, if_neg quote, Bool.and_comm]
      rw [if_neg quote, betweenQuotes_cons_other quote, ← blank]
      cases separator : separates before c cs with
      | true =>
        have outside : betweenQuotes before cs = false := by
          rw [separator] at blank
          simpa using (Bool.and_eq_true_iff.mp blank.symm).1
        rw [ends separator, outside, if_pos rfl]
      | false => rw [goesOn separator, if_neg (by decide)]

/-- The tokens of a text are its runs. -/
theorem tokenize_eq_runs (raw : List Char) : tokenize raw = runs raw := tokensFrom_eq_markedRuns raw [] []

/-! ## Texts behind a space -/

/-- Of what stands before a place, only the parity of the quotes counts. -/
theorem marks_congr {before before' : List Char}
    (same : before.count '"' % 2 = before'.count '"' % 2) (cs : List Char) :
    marks before cs = marks before' cs := by
  induction cs generalizing before before' with
  | nil => rfl
  | cons c cs ih =>
    have next : (before ++ [c]).count '"' % 2 = (before' ++ [c]).count '"' % 2 := by
      rw [List.count_append, List.count_append, Nat.add_mod, same, ← Nat.add_mod]
    rw [marks, marks, ih next]
    simp only [separates, betweenQuotes, same]

/-- In a text without quotes exactly the blanks separate. -/
theorem marks_of_notMem {cs : List Char} (unquoted : '"' ∉ cs) (before : List Char) :
    marks before cs = cs.map fun c => (c, Text.isBlank c) := by
  induction cs generalizing before with
  | nil => rfl
  | cons c cs ih =>
    rw [List.mem_cons, not_or] at unquoted
    rw [marks, ih unquoted.2, List.map_cons]
    simp [separates, betweenQuotes, Ne.symm unquoted.1, unquoted.2]

section
variable {before a b : List Char}

/-- What follows behind a space does not count where all quotes are paired before it, or none follows. -/
theorem separates_append_space {c : Char}
    (apart : (before ++ c :: a).count '"' % 2 = 0 ∨ '"' ∉ b) :
    separates before c (a ++ ' ' :: b) = separates before c a := by
  have closing : (a ++ ' ' :: b).contains '"' = (a.contains '"' || b.contains '"') := by simp
  rcases apart with even | unquoted
  · by_cases inside : '"' ∈ a
    · have there : a.contains '"' = true := by simpa using inside
      simp only [separates, betweenQuotes, closing, there, Bool.true_or]
    · -- The quotes up to the character are paired, so it does not matter what follows.
      have none : a.count '"' = 0 := List.count_eq_zero.mpr inside
      by_cases quote : c = '"'
      · have odd : before.count '"' % 2 = 1 := by
          simp only [List.count_append, quote, List.count_cons_self, none] at even
          omega
        simp [separates, quote, odd]
      · have even : before.count '"' % 2 = 0 := by
          simpa [quote, none] using even
        simp [separates, betweenQuotes, quote, even]
  · have absent : b.contains '"' = false := by simpa using unquoted
    simp only [separates, betweenQuotes, closing, absent, Bool.or_false]

/-- A space separates what stands before it from what stands behind it where all quotes are paired before
    it, or none follows. -/
theorem marks_append_space (apart : (before ++ a).count '"' % 2 = 0 ∨ '"' ∉ b) :
    marks before (a ++ ' ' :: b) = marks before a ++ (' ', true) :: marks [] b := by
  have blank : Text.isBlank ' ' = true := by decide
  induction a generalizing before with
  | nil =>
    rw [List.append_nil] at apart
    rw [List.nil_append, marks, marks, List.nil_append]
    rcases apart with even | unquoted
    · have same : (before ++ [' ']).count '"' % 2 = ([] : List Char).count '"' % 2 := by
        simpa using even
      rw [marks_congr same]
      simp [separates, betweenQuotes, even, blank]
    · rw [marks_of_notMem unquoted, marks_of_notMem unquoted]
      simp [separates, betweenQuotes, unquoted, blank]
  | cons c a ih =>
    have later : (before ++ [c] ++ a).count '"' % 2 = 0 ∨ '"' ∉ b := by
      rwa [List.append_assoc, List.singleton_append]
    rw [List.cons_append, marks, marks, separates_append_space apart, ih later, List.cons_append]

/-- A space behind a text in which all quotes are paired, or before a text without quotes, separates the
    tokens of the two. -/
theorem tokenize_append (apart : a.count '"' % 2 = 0 ∨ '"' ∉ b) :
    tokenize (a ++ ' ' :: b) = tokenize a ++ tokenize b := by
  have marked : marks [] (a ++ ' ' :: b) = marks [] a ++ (' ', true) :: marks [] b :=
    marks_append_space apart
  rw [tokenize_eq_runs, tokenize_eq_runs, tokenize_eq_runs, runs, marked, markedRuns_append]
  rfl

end

end IssueTracker
