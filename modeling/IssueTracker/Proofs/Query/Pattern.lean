import IssueTracker.Proofs.Query.Token

/-!
# Tokens as matches of a pattern

A token is one or more of: a run of characters that are neither blanks nor quotes, and two quotes with
anything but quotes between them (`tokenPattern`).  A pattern is matched as usual: an alternative is
tried before those behind it, a repetition is tried once more before it ends, and where the rest of the
pattern fails, the next possibility is taken (`Pattern.rests`).  The matches of the pattern in a text, from left
to right (`Pattern.findAll`), are the tokens of the text (`findAll_tokenPattern`).
-/

namespace IssueTracker

/-- A regular expression, where repetition is greedy. -/
inductive Pattern
  | empty
  | one (allowed : Char → Bool)
  | seq (first second : Pattern)
  | either (first second : Pattern)
  | many1 (body : Pattern)

namespace Pattern

/-- What can be left of a text behind one or more steps, of which each leaves less.  More steps are preferred. -/
def repeatedly (step : List Char → List (List Char)) (cs : List Char) : List (List Char) :=
  (step cs).flatMap fun rest =>
    if rest.length < cs.length then repeatedly step rest ++ [rest] else [rest]
termination_by cs.length

/-- What can be left of a text behind a match of the pattern at its start, preferred matches first. -/
def rests : Pattern → List Char → List (List Char)
  | empty, cs => [cs]
  | one _, [] => []
  | one allowed, c :: cs => if allowed c then [cs] else []
  | seq first second, cs => (first.rests cs).flatMap second.rests
  | either first second, cs => first.rests cs ++ second.rests cs
  | many1 body, cs => repeatedly body.rests cs

/-- Any number of matches, and none only where there is no other way. -/
def many (body : Pattern) : Pattern := either (many1 body) empty

/-- The matches of a pattern in a text that are not empty, from left to right, each behind the one before. -/
def findAll (pattern : Pattern) : List Char → List (List Char)
  | [] => []
  | c :: cs =>
    match (pattern.rests (c :: cs)).head? with
    | none => findAll pattern cs
    | some rest =>
      if rest.length < cs.length + 1 then
        (c :: cs).take (cs.length + 1 - rest.length) :: findAll pattern rest
      else findAll pattern cs
termination_by cs => cs.length

theorem rests_one (allowed : Char → Bool) (c : Char) (cs : List Char) :
    (one allowed).rests (c :: cs) = if allowed c then [cs] else [] := rfl

theorem rests_seq (first second : Pattern) (cs : List Char) :
    (seq first second).rests cs = (first.rests cs).flatMap second.rests := rfl

theorem rests_either (first second : Pattern) (cs : List Char) :
    (either first second).rests cs = first.rests cs ++ second.rests cs := rfl

theorem rests_many (body : Pattern) (cs : List Char) :
    (many body).rests cs = repeatedly body.rests cs ++ [cs] := rfl

/-! ## The preferred match -/

section
variable {step : List Char → List (List Char)} {cs rest : List Char}

theorem repeatedly_eq (step : List Char → List (List Char)) (cs : List Char) :
    repeatedly step cs = (step cs).flatMap fun rest =>
      if rest.length < cs.length then repeatedly step rest ++ [rest] else [rest] := by
  rw [repeatedly]

theorem repeatedly_nil (stuck : step cs = []) : repeatedly step cs = [] := by
  rw [repeatedly_eq, stuck, List.flatMap_nil]

/-- The preferred step is repeated as long as there is one. -/
theorem head?_repeatedly (first : (step cs).head? = some rest) (shorter : rest.length < cs.length) :
    (repeatedly step cs).head? = some ((repeatedly step rest).head?.getD rest) := by
  obtain ⟨others, steps⟩ := List.head?_eq_some_iff.mp first
  rw [repeatedly_eq, steps, List.flatMap_cons, if_pos shorter, List.append_assoc, List.head?_append,
    List.singleton_append, List.head?_cons, Option.or_some]

end

section
variable {allowed : Char → Bool} {c : Char} {cs : List Char}

/-- Characters are repeated as long as they are allowed. -/
theorem head?_repeatedly_one (here : allowed c = true) :
    (repeatedly (one allowed).rests (c :: cs)).head? = some (cs.dropWhile allowed) := by
  have first (c : Char) (cs : List Char) (here : allowed c = true) :
      ((one allowed).rests (c :: cs)).head? = some cs := by
    rw [rests_one, if_pos here, List.head?_cons]
  induction cs generalizing c with
  | nil =>
    rw [head?_repeatedly (first c [] here) (by simp), repeatedly_nil rfl]
    rfl
  | cons d cs ih =>
    rw [head?_repeatedly (first c (d :: cs) here) (by simp)]
    by_cases next : allowed d = true
    · rw [ih next, List.dropWhile_cons_of_pos next, Option.getD_some]
    · rw [repeatedly_nil (by rw [rests_one, if_neg next]), List.dropWhile_cons_of_neg next]
      rfl

theorem rests_many_nil : (many (one allowed)).rests [] = [[]] := by
  rw [rests_many, repeatedly_nil rfl, List.nil_append]

theorem rests_many_cons (here : allowed c = true) :
    (many (one allowed)).rests (c :: cs) = (many (one allowed)).rests cs ++ [c :: cs] := by
  have shorter : cs.length < (c :: cs).length := Nat.lt_succ_self cs.length
  rw [rests_many, rests_many, repeatedly_eq, rests_one, if_pos here, List.flatMap_singleton, if_pos shorter]

theorem rests_many_stop (stop : allowed c = false) : (many (one allowed)).rests (c :: cs) = [c :: cs] := by
  rw [rests_many, repeatedly_nil (by simp [rests_one, stop]), List.nil_append]

end

end Pattern

open Pattern

/-- Anything up to the next quote, and the quote. -/
def closing : Pattern := seq (many (one (· != '"'))) (one (· == '"'))

/-- A part of a token: characters of a word, or a pair of quotes. -/
def tokenPart : Pattern := either (many1 (one isWordChar)) (seq (one (· == '"')) closing)

/-- The pattern of a token. -/
def tokenPattern : Pattern := many1 tokenPart

/-! ## Parts of tokens -/

section
variable {c : Char} {cs inner : List Char}

/-- Of the ways to read on only those that stop before a quote get behind it. -/
theorem rests_closing_cons (other : c ≠ '"') : closing.rests (c :: cs) = closing.rests cs := by
  have stuck : (one (· == '"')).rests (c :: cs) = [] := if_neg (by simpa using other)
  rw [closing, rests_seq, rests_seq, rests_many_cons (by simpa using other), List.flatMap_append, List.flatMap_singleton,
    stuck, List.append_nil]

theorem rests_closing (unquoted : '"' ∉ inner) (rest : List Char) :
    closing.rests (inner ++ '"' :: rest) = [rest] := by
  induction inner with
  | nil =>
    rw [List.nil_append, closing, rests_seq, rests_many_stop (by decide), List.flatMap_singleton]
    rfl
  | cons c inner ih =>
    rw [List.mem_cons, not_or] at unquoted
    rw [List.cons_append, rests_closing_cons (Ne.symm unquoted.1), ih unquoted.2]

theorem rests_unclosed (unquoted : '"' ∉ cs) : closing.rests cs = [] := by
  induction cs with
  | nil =>
    rw [closing, rests_seq, rests_many_nil, List.flatMap_singleton]
    rfl
  | cons c cs ih =>
    rw [List.mem_cons, not_or] at unquoted
    rw [rests_closing_cons (Ne.symm unquoted.1), ih unquoted.2]

/-- A quote starts a pair, or nothing. -/
theorem rests_tokenPart_quote : tokenPart.rests ('"' :: cs) = closing.rests cs := by
  have noWord : (many1 (one isWordChar)).rests ('"' :: cs) = [] := repeatedly_nil rfl
  have pair : (seq (one (· == '"')) closing).rests ('"' :: cs) = closing.rests cs := List.flatMap_singleton ..
  rw [tokenPart, rests_either, noWord, pair, List.nil_append]

/-- Any other character starts a word, or nothing. -/
theorem rests_tokenPart_other (other : c ≠ '"') :
    tokenPart.rests (c :: cs) = (many1 (one isWordChar)).rests (c :: cs) := by
  have noPair : (seq (one (· == '"')) closing).rests (c :: cs) = [] := by
    rw [rests_seq, rests_one, if_neg (by simpa using other), List.flatMap_nil]
  rw [tokenPart, rests_either, noPair, List.append_nil]

end

/-! ## Matches and tokens -/

/-- A text with which no word goes on: one that was read before ends, and reading starts anew behind the first
    character. -/
def Ends (cs : List Char) : Prop :=
  ∀ word, tokensFrom false word cs = consWord word (tokenize cs.tail)

/-- The preferred match of a pattern takes a whole run from the start of a text. -/
structure Takes (pattern : Pattern) (cs taken rest : List Char) : Prop where
  found : (pattern.rests cs).head? = some rest
  split : cs = taken ++ rest
  filled : taken ≠ []
  whole : Whole taken

/-- A part of a token starts with every character but a blank and a quote that no other follows. -/
theorem tokenPart_cases (cs : List Char) :
    (tokenPart.rests cs = [] ∧ Ends cs) ∨ ∃ taken rest, Takes tokenPart cs taken rest := by
  rcases cs with _ | ⟨c, cs⟩
  · have noWord : (many1 (one isWordChar)).rests [] = [] := repeatedly_nil rfl
    exact Or.inl ⟨congrArg (· ++ []) noWord, fun word => rfl⟩
  by_cases quote : c = '"'
  · subst quote
    by_cases closed : '"' ∈ cs
    · obtain ⟨inner, rest, rfl, unquoted⟩ := List.eq_append_cons_of_mem closed
      refine Or.inr ⟨'"' :: (inner ++ ['"']), rest, ?_, by simp, by simp, .quoted unquoted .nil⟩
      rw [rests_tokenPart_quote, rests_closing unquoted, List.head?_cons]
    · refine Or.inl ⟨rests_tokenPart_quote.trans (rests_unclosed closed), fun word => ?_⟩
      rw [tokensFrom, if_pos rfl, if_neg (by decide), if_neg (by simpa using closed)]
      rfl
  · cases blank : Text.isBlank c with
    | true =>
      refine Or.inl ⟨?_, fun word => ?_⟩
      · rw [rests_tokenPart_other quote]
        exact repeatedly_nil (by simp [rests_one, isWordChar, blank])
      · rw [tokensFrom, if_neg quote, if_pos (by simp [blank])]
        rfl
    | false =>
      have here : isWordChar c = true := by simp [isWordChar, quote, blank]
      refine Or.inr ⟨c :: cs.takeWhile isWordChar, cs.dropWhile isWordChar, ?_, ?_, by simp, ?_⟩
      · rw [rests_tokenPart_other quote]
        exact head?_repeatedly_one here
      · rw [List.cons_append, List.takeWhile_append_dropWhile]
      · exact .plain (by simpa using quote) blank (whole_of_all List.all_takeWhile)

theorem Takes.length_eq {pattern : Pattern} {cs taken rest : List Char} (takes : Takes pattern cs taken rest) :
    cs.length = taken.length + rest.length ∧ rest.length < cs.length := by
  have := List.length_pos_iff.mpr takes.filled
  rw [takes.split, List.length_append]
  omega

/-- Parts of a token are taken up to a place where none starts. -/
theorem tokenPattern_cases (cs : List Char) :
    (tokenPattern.rests cs = [] ∧ Ends cs) ∨
      ∃ taken rest, Takes tokenPattern cs taken rest ∧ Ends rest := by
  induction size : cs.length using Nat.strongRecOn generalizing cs with
  | ind _ ih =>
    rcases tokenPart_cases cs with ⟨stuck, ends⟩ | ⟨taken, rest, takes⟩
    · exact Or.inl ⟨repeatedly_nil stuck, ends⟩
    · have shorter : rest.length < cs.length := takes.length_eq.2
      have preferred : (tokenPattern.rests cs).head? = some ((tokenPattern.rests rest).head?.getD rest) :=
        head?_repeatedly takes.found shorter
      rcases ih rest.length (size ▸ shorter) rest rfl with ⟨stuck, ends⟩ | ⟨more, behind, next, ends⟩
      · rw [stuck] at preferred
        exact Or.inr ⟨taken, rest, { takes with found := preferred }, ends⟩
      · rw [next.found] at preferred
        refine Or.inr ⟨taken ++ more, behind, ⟨preferred, ?_, ?_, takes.whole.append next.whole⟩, ends⟩
        · rw [takes.split, next.split, List.append_assoc]
        · exact List.append_ne_nil_of_left_ne_nil takes.filled more

/-- The tokens of a text are the matches of the pattern. -/
theorem findAll_tokenPattern (raw : List Char) : tokenPattern.findAll raw = tokenize raw := by
  induction size : raw.length using Nat.strongRecOn generalizing raw with
  | ind _ ih =>
    rcases raw with _ | ⟨c, cs⟩
    · rw [findAll]
      rfl
    rw [findAll]
    rcases tokenPattern_cases (c :: cs) with ⟨stuck, ends⟩ | ⟨taken, rest, takes, ends⟩
    · have later := ih cs.length (by simp [← size]) cs rfl
      have skipped : tokenize (c :: cs) = tokenize cs := ends []
      rw [stuck, skipped]
      exact later
    · obtain ⟨long, shorter⟩ := takes.length_eq
      have first : tokenize (c :: cs) = taken :: tokenize rest.tail := by
        rw [takes.split, tokenize, tokensFrom_whole takes.whole, ends]
        simp [consWord, takes.filled]
      have behind : tokenize rest = tokenize rest.tail := ends []
      have matched : (c :: cs).take (cs.length + 1 - rest.length) = taken := by
        rw [← List.length_cons, long, Nat.add_sub_cancel, takes.split, List.take_left]
      have later := ih rest.length (size ▸ shorter) rest rfl
      rw [takes.found, first, ← behind, ← later]
      exact (if_pos shorter).trans (congrArg (· :: _) matched)

/-- The tokens of a text are the matches of the pattern from left to right, and they are its longest runs of
    characters that are neither blanks outside of pairs of quotes nor a quote without a partner.  So joined by
    spaces they are found again, and a space behind a text in which all quotes have partners separates its
    tokens from those of the rest. -/
theorem tokenize_pairs (raw : List Char) :
    tokenize raw = tokenPattern.findAll raw ∧
      tokenize raw = runs raw ∧
      tokenize ([' '].intercalate (tokenize raw)) = tokenize raw ∧
      ∀ a b : List Char, a.count '"' % 2 = 0 → tokenize (a ++ ' ' :: b) = tokenize a ++ tokenize b :=
  ⟨(findAll_tokenPattern raw).symm, tokenize_eq_runs raw,
    tokenize_intercalate fun _ member => whole_of_mem_tokenize member,
    fun _ _ paired => tokenize_append (Or.inl paired)⟩

/-- A pair of quotes in a word, a space, and a quote without a partner. -/
theorem tokenize_pairs_stray :
    "a\"b c\"".toList.count '"' % 2 = 0 ∧
      tokenize "a\"b c\" d\"e".toList = ["a\"b c\"".toList, "d".toList, "e".toList] := by
  have paired : "a\"b c\"".toList.count '"' % 2 = 0 := by decide
  refine ⟨paired, ((tokenize_pairs []).2.2.2 "a\"b c\"".toList "d\"e".toList paired).trans ?_⟩
  decide

end IssueTracker
