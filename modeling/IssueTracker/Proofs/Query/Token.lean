import IssueTracker.Proofs.Query.Pairing

/-!
# Tokens that stand by themselves

A token in which every quote has its partner is read as it is, whatever follows after a blank
(`tokenize_whole_append`); so tokens that are joined by spaces are told apart again
(`tokenize_intercalate`).  The tokens of any text are of this kind (`whole_of_mem_tokenize`), and
each of them is the only token of itself.
-/

namespace IssueTracker

/-- A run of characters that are neither blank nor quotes, and of pairs of quotes with anything but
    quotes between them. -/
inductive Whole : List Char → Prop
  | nil : Whole []
  | plain {c : Char} {rest : List Char} (notQuote : c ≠ '"') (notBlank : Text.isBlank c = false)
      (whole : Whole rest) : Whole (c :: rest)
  | quoted {inner rest : List Char} (unquoted : '"' ∉ inner) (whole : Whole rest) :
      Whole ('"' :: (inner ++ '"' :: rest))

theorem Whole.append {cs ds : List Char} (left : Whole cs) (right : Whole ds) : Whole (cs ++ ds) := by
  induction left with
  | nil => exact right
  | plain notQuote notBlank _ ih => exact .plain notQuote notBlank ih
  | @quoted inner rest unquoted _ ih =>
    rw [List.cons_append, List.append_assoc, List.cons_append]
    exact .quoted unquoted ih

/-- A character that goes on with a word outside of quotes. -/
def isWordChar (c : Char) : Bool := c != '"' && !Text.isBlank c

theorem whole_of_all {cs : List Char} (plain : cs.all isWordChar = true) : Whole cs := by
  induction cs with
  | nil => exact .nil
  | cons c rest ih =>
    rw [List.all_cons, Bool.and_eq_true, isWordChar] at plain
    exact .plain (by simpa using (Bool.and_eq_true_iff.mp plain.1).1)
      (by simpa using (Bool.and_eq_true_iff.mp plain.1).2) (ih plain.2)

/-- The code points that letters of a name are among. -/
theorem isNameChar_range {c : Char} (letter : isNameChar c = true) : 0x41 ≤ c.toNat ∧ c.toNat ≤ 0x7A := by
  rcases Bool.or_eq_true_iff.mp letter with alpha | underscore
  · rcases Bool.or_eq_true_iff.mp alpha with upper | lower
    · have bounds : 0x41 ≤ c.toNat ∧ c.toNat ≤ 0x5A := of_decide_eq_true upper
      omega
    · obtain ⟨above, below⟩ := Bool.and_eq_true_iff.mp lower
      have least : 0x61 ≤ c.toNat := of_decide_eq_true above
      have most : c.toNat ≤ 0x7A := of_decide_eq_true below
      omega
  · rw [eq_of_beq underscore]
    decide

/-- The letters of a name are characters of a word. -/
theorem isWordChar_of_isNameChar {c : Char} (letter : isNameChar c = true) : isWordChar c = true := by
  have range := isNameChar_range letter
  have unquoted : c ≠ '"' := by
    rintro rfl
    exact absurd range.1 (by decide)
  have notBlank : Text.isBlank c = false := by
    simp only [Text.isBlank, Text.blankCodes, List.contains_eq_mem, decide_eq_false_iff_not, List.mem_cons,
      List.not_mem_nil, or_false]
    omega
  simp [isWordChar, unquoted, notBlank]

theorem whole_of_letters {cs : List Char} (letters : cs.all isNameChar = true) : Whole cs :=
  whole_of_all (List.all_eq_true.mpr fun c member =>
    isWordChar_of_isNameChar (List.all_eq_true.mp letters c member))

/-- Between quotes everything up to the closing one belongs to the word. -/
theorem tokensFrom_quoted {inner : List Char} (unquoted : '"' ∉ inner) (word rest : List Char) :
    tokensFrom true word (inner ++ '"' :: rest) =
      tokensFrom false ('"' :: (inner.reverse ++ word)) rest := by
  induction inner generalizing word with
  | nil => simp [tokensFrom]
  | cons c inner ih =>
    rw [List.mem_cons, not_or] at unquoted
    rw [List.cons_append, tokensFrom, if_neg (Ne.symm unquoted.1)]
    simp [ih unquoted.2]

/-- A whole run belongs to the word before it. -/
theorem tokensFrom_whole {cs : List Char} (whole : Whole cs) (word rest : List Char) :
    tokensFrom false word (cs ++ rest) = tokensFrom false (cs.reverse ++ word) rest := by
  induction whole generalizing word with
  | nil => rfl
  | @plain c cs notQuote notBlank whole ih =>
    rw [List.cons_append, tokensFrom, if_neg notQuote]
    simp [notBlank, ih]
  | @quoted inner cs unquoted whole ih =>
    rw [List.cons_append, tokensFrom, if_pos rfl, List.append_assoc, List.cons_append]
    simp [tokensFrom_quoted unquoted, ih]

theorem tokenize_whole {token : Token} (whole : Whole token) (filled : token ≠ []) :
    tokenize token = [token] := by
  have run := tokensFrom_whole whole [] []
  rw [List.append_nil, List.append_nil] at run
  simp [tokenize, run, tokensFrom, consWord, filled]

/-- Blanks behind a word end it. -/
theorem tokensFrom_blanks {blanks : List Char} (blank : ∀ c ∈ blanks, Text.isBlank c = true)
    (word : List Char) : tokensFrom false word blanks = consWord word [] := by
  induction blanks generalizing word with
  | nil => rfl
  | cons c blanks ih =>
    have first := blank c List.mem_cons_self
    have noQuote : c ≠ '"' := by
      rintro rfl
      exact absurd first (by decide)
    rw [tokensFrom, if_neg noQuote, ih fun d member => blank d (List.mem_cons_of_mem _ member)]
    simp [first, consWord]

theorem tokenize_whole_blanks {token blanks : List Char} (whole : Whole token) (filled : token ≠ [])
    (blank : ∀ c ∈ blanks, Text.isBlank c = true) : tokenize (token ++ blanks) = [token] := by
  rw [tokenize, tokensFrom_whole whole, tokensFrom_blanks blank]
  simp [consWord, filled]

/-- A whole token before a space is the first one. -/
theorem tokenize_whole_append {token : Token} (whole : Whole token) (filled : token ≠ [])
    (rest : List Char) : tokenize (token ++ ' ' :: rest) = token :: tokenize rest := by
  have run := tokensFrom_whole whole [] (' ' :: rest)
  have blank : Text.isBlank ' ' = true := by decide
  rw [List.append_nil, tokensFrom, if_neg (by decide)] at run
  simp [tokenize, run, blank, consWord, filled]

theorem tokenize_intercalate {tokens : List Token}
    (whole : ∀ token ∈ tokens, Whole token ∧ token ≠ []) :
    tokenize ([' '].intercalate tokens) = tokens := by
  induction tokens with
  | nil => rfl
  | cons token others ih =>
    have first := whole token List.mem_cons_self
    have rest := ih fun other member => whole other (List.mem_cons_of_mem _ member)
    cases others with
    | nil => simpa using tokenize_whole first.1 first.2
    | cons second others =>
      rw [List.intercalate_cons_cons, List.append_assoc, List.singleton_append,
        tokenize_whole_append first.1 first.2, rest]

/-! ## The tokens of a text -/

/-- Where a whole word ends, it is a token, unless it is empty. -/
theorem whole_of_mem_consWord {word : List Char} {tokens : List Token} {token : Token}
    (whole : Whole word.reverse) (others : token ∈ tokens → Whole token ∧ token ≠ [])
    (member : token ∈ consWord word tokens) : Whole token ∧ token ≠ [] := by
  rw [consWord] at member
  split at member
  · exact others member
  · rename_i filled
    rcases List.mem_cons.mp member with rfl | later
    · exact ⟨whole, by simpa using filled⟩
    · exact others later

/-- A word up to a place in a text.  Outside of quotes it is whole; inside, it is a whole one, the opening
    quote and what stands behind it. -/
inductive IsReadTo : Bool → List Char → Prop
  | outside {cs : List Char} (whole : Whole cs) : IsReadTo false cs
  | inside {before inner : List Char} (whole : Whole before) (unquoted : '"' ∉ inner) :
      IsReadTo true (before ++ '"' :: inner)

namespace IsReadTo
variable {quoted : Bool} {cs : List Char}

theorem whole (part : IsReadTo false cs) : Whole cs := by
  cases part with
  | outside whole => exact whole

theorem opens (part : IsReadTo false cs) : IsReadTo true (cs ++ ['"']) :=
  .inside part.whole List.not_mem_nil

theorem closes (part : IsReadTo true cs) : IsReadTo false (cs ++ ['"']) := by
  cases part with
  | inside whole unquoted =>
    rw [List.append_assoc, List.cons_append]
    exact .outside (whole.append (.quoted unquoted .nil))

/-- A character goes on with the word when it is no quote, and outside of quotes no blank. -/
theorem continues {c : Char} (part : IsReadTo quoted cs) (notQuote : c ≠ '"')
    (notBlank : quoted = false → Text.isBlank c = false) : IsReadTo quoted (cs ++ [c]) := by
  cases part with
  | outside whole => exact .outside (whole.append (.plain notQuote (notBlank rfl) .nil))
  | inside whole unquoted =>
    rw [List.append_assoc, List.cons_append]
    exact .inside whole (by simp [unquoted, notQuote.symm])

end IsReadTo

/-- Behind a word up to a place, inside of quotes only where they are closed, all tokens are whole. -/
private theorem whole_of_mem_tokensFrom {token : Token} {quoted : Bool} {word cs : List Char}
    (part : IsReadTo quoted word.reverse) (closed : quoted → '"' ∈ cs)
    (member : token ∈ tokensFrom quoted word cs) : Whole token ∧ token ≠ [] := by
  fun_induction tokensFrom quoted word cs with
  | case1 quoted word =>
    cases quoted with
    | true => cases closed rfl
    | false => exact whole_of_mem_consWord part.whole (by simp) member
  | case2 word rest ih =>
    refine ih ?_ (by simp) member
    rw [List.reverse_cons]
    exact part.closes
  | case3 quoted word rest outside toCome ih =>
    obtain rfl : quoted = false := eq_false_of_ne_true outside
    refine ih ?_ (fun _ => by simpa using toCome) member
    rw [List.reverse_cons]
    exact part.opens
  | case4 quoted word rest outside _ ih =>
    obtain rfl : quoted = false := eq_false_of_ne_true outside
    exact whole_of_mem_consWord part.whole (ih (.outside .nil) (by simp)) member
  | case5 quoted word c rest _ blank ih =>
    obtain rfl : quoted = false := by simpa using (Bool.and_eq_true_iff.mp blank).1
    exact whole_of_mem_consWord part.whole (ih (.outside .nil) (by simp)) member
  | case6 quoted word c rest notQuote notBlank ih =>
    refine ih ?_ (fun inside => by simpa [Ne.symm notQuote] using closed inside) member
    rw [List.reverse_cons]
    exact part.continues notQuote fun outside => by simpa [outside] using notBlank

/-- The tokens of a text are whole and not empty. -/
theorem whole_of_mem_tokenize {raw : List Char} {token : Token} (member : token ∈ tokenize raw) :
    Whole token ∧ token ≠ [] := by
  have start : IsReadTo false ([] : List Char).reverse := .outside .nil
  exact whole_of_mem_tokensFrom start (by simp) member

/-- A token of a text is the only token of itself. -/
theorem tokenize_of_mem_tokenize {raw : List Char} {token : Token} (member : token ∈ tokenize raw) :
    tokenize token = [token] :=
  tokenize_whole (whole_of_mem_tokenize member).1 (whole_of_mem_tokenize member).2

end IssueTracker
