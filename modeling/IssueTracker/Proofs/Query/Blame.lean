import IssueTracker.Proofs.Query.Expression
import IssueTracker.Proofs.Query.Lexeme
import IssueTracker.Proofs.Query.Rejection
import IssueTracker.Proofs.Text.Lower

/-!
# What the token of an error is

An error in a query is that of the first token that cannot be read behind those before it, whatever follows
(`readTokens_eq_error`).  Most errors carry a piece of that token as it was typed (`QueryError.Quotes`).  Those
about a value put their token together anew, from the name of the field and the value without its quotes
(`QueryError.Respells`), and those about a sort order carry a part of it in lower case (`QueryError.Lowers`).
-/

namespace IssueTracker

/-! ## Names and values -/

/-- A token that is read off a name before a colon. -/
structure Named (token : Token) (name value : List Char) : Prop where
  written : token = name ++ ':' :: value
  filled : name ≠ []
  letters : ∀ c ∈ name, isNameChar c = true

/-- A name, in any case, is that of a field, or the short name of the labels. -/
def Spells (name : List Char) (field : String) : Prop :=
  String.ofList (name.map Char.toLower) = field ∨
    String.ofList (name.map Char.toLower) = "label" ∧ field = "labels"

theorem named_of_splitField? {token : Token} {name value : List Char}
    (split : splitField? token = some (name, value)) : Named token name value := by
  rw [splitField?] at split
  split at split
  · cases split
  · rename_i after notEmpty
    cases split
    refine ⟨?_, notEmpty, ?_⟩
    · rw [← after, List.takeWhile_append_dropWhile]
    · intro c member
      exact List.all_eq_true.mp List.all_takeWhile c member
  · cases split

/-- What a name before a colon can stand for: filters and sort orders by a name that spells their field. -/
inductive Lexeme.FromName (name value : List Char) : Lexeme → Prop
  | sort (spells : Spells name "sort") : FromName name value (.sort (unquote value))
  | limit : FromName name value (.limit (unquote value))
  | filter {field : FilterField} (spells : Spells name field.name) :
    FromName name value (.filter field (unquote value))
  | date (field : DateField) : FromName name value (.date field (unquote value))
  | unknown : FromName name value (.unknown name)

theorem fromName_fieldLexeme (name value : List Char) : (fieldLexeme name value).FromName name value := by
  rw [fieldLexeme]
  have spells {field : String} (same : (if String.ofList (name.map Char.toLower) = "label" then "labels"
      else String.ofList (name.map Char.toLower)) = field) : Spells name field := by
    by_cases isShort : String.ofList (name.map Char.toLower) = "label"
    · rw [if_pos isShort] at same
      exact Or.inr ⟨isShort, same.symm⟩
    · rw [if_neg isShort] at same
      exact Or.inl same
  by_cases isSort : (if String.ofList (name.map Char.toLower) = "label" then "labels"
      else String.ofList (name.map Char.toLower)) = "sort"
  · rw [if_pos isSort]
    exact .sort (spells isSort)
  · rw [if_neg isSort]
    by_cases isLimit : (if String.ofList (name.map Char.toLower) = "label" then "labels"
        else String.ofList (name.map Char.toLower)) = "limit"
    · rw [if_pos isLimit]
      exact .limit
    · rw [if_neg isLimit]
      split
      · rename_i field found
        have same := List.find?_some found
        exact .filter (spells (eq_of_beq same).symm)
      · split
        · exact .date _
        · exact .unknown

/-- A lexeme of a field is read off a name. -/
theorem Lexeme.exists_named {token : Token} {lexeme : Lexeme} (is : Lexeme.ofToken token = lexeme)
    (isField : lexeme.isField = true) :
    ∃ name value, Named token name value ∧ lexeme.FromName name value := by
  subst is
  rw [ofToken] at isField ⊢
  split_ifs at isField ⊢ with isNot isAnd isOr quoted
  · cases isField
  · cases isField
  · cases isField
  · cases isField
  · split at isField
    · rename_i name value split
      exact ⟨name, value, named_of_splitField? split, fromName_fieldLexeme name value⟩
    · cases isField

/-! ## What errors carry -/

namespace QueryError

/-- The error carries the token that it is about, or the name before the colon in it, as it was typed. -/
inductive Quotes (token : Token) : QueryError → Prop
  | negation : Quotes token (.invalidNegation (String.ofList token))
  | limit : Quotes token (.invalidLimit (String.ofList token))
  | date (fault : BoundFault) : Quotes token (.invalidDate (String.ofList token) fault)
  | conflict (field : String) : Quotes token (.conflictingNegation field (String.ofList token))
  | unknown {name value : List Char} (named : Named token name value) :
    Quotes token (.unknownField (String.ofList name))

/-- The error carries the name of the field in its own spelling, a colon, and the value without quotes. -/
inductive Respells (token : Token) : QueryError → Prop
  | intro {name value : List Char} {field : String} (allowed : List String) (named : Named token name value)
      (spells : Spells name field) :
    Respells token (.invalidValue field (String.ofList (unquote value)) allowed)

/-- The error carries the key of a sort order or its direction in lower case. -/
inductive Lowers (token : Token) : QueryError → Prop
  | key {name value : List Char} (named : Named token name value) (spells : Spells name "sort")
      (filled : (unquote value).takeWhile (· != ':') ≠ []) :
    Lowers token (.unknownField (String.ofList (Text.lowerChars ((unquote value).takeWhile (· != ':')))))
  | direction {name value : List Char} (named : Named token name value) (spells : Spells name "sort")
      (filled : ((unquote value).dropWhile (· != ':')).drop 1 ≠ []) :
    Lowers token (.invalidSort (String.ofList (Text.lowerChars (((unquote value).dropWhile (· != ':')).drop 1))))

end QueryError

theorem filterValues_eq_error {field : FilterField} {value : List Char} {e : QueryError}
    (fails : filterValues field value = .error e) :
    ∃ allowed, e = .invalidValue field.name (String.ofList value) allowed := by
  rw [filterValues] at fails
  generalize (if field = .labels then Text.pieces (· == ',') value else [value]) = parts at fails
  split at fails
  · dsimp only at fails
    split at fails
    · cases fails
    · cases fails
      exact ⟨_, rfl⟩
  · dsimp only at fails
    split at fails
    · cases fails
      exact ⟨_, rfl⟩
    · cases fails

theorem readLimit_eq_error {value token : List Char} {e : QueryError}
    (fails : readLimit value token = .error (.query e)) : e = .invalidLimit (String.ofList token) := by
  rw [readLimit] at fails
  generalize (if value.getLast? = some '\n' then value.dropLast else value) = digits at fails
  split at fails
  · cases fails
    rfl
  · obtain ⟨_, _, absurd⟩ := mapError_eq_error.mp fails
    cases absurd

theorem readSort_eq_error {value : List Char} {e : QueryError} (fails : readSort value = .error e) :
    (∃ allowed, e = .invalidValue "sort" (String.ofList value) allowed) ∨
    (value.takeWhile (· != ':') ≠ [] ∧
      e = .unknownField (String.ofList (Text.lowerChars (value.takeWhile (· != ':'))))) ∨
    ((value.dropWhile (· != ':')).drop 1 ≠ [] ∧
      e = .invalidSort (String.ofList (Text.lowerChars ((value.dropWhile (· != ':')).drop 1)))) := by
  have filled {cs : List Char} (notEmpty : String.ofList (Text.lowerChars cs) ≠ "") : cs ≠ [] := by
    rintro rfl
    exact notEmpty rfl
  rw [readSort] at fails
  by_cases noKey : String.ofList (Text.lowerChars (value.takeWhile (· != ':'))) = ""
  · rw [if_pos noKey] at fails
    cases fails
    exact Or.inl ⟨_, rfl⟩
  · rw [if_neg noKey] at fails
    split at fails
    · cases fails
      exact Or.inr (Or.inl ⟨filled noKey, rfl⟩)
    · split_ifs at fails with ascending descending
      cases fails
      exact Or.inr (Or.inr ⟨filled (not_or.mp ascending).1, rfl⟩)

/-- What the error of a token carries. -/
theorem Draft.Fails.carries {d : Draft} {token : Token} {e : QueryError} (fails : d.Fails token (.query e)) :
    e.Quotes token ∨ e.Respells token ∨ e.Lowers token := by
  cases fails with
  | negated is pending => exact Or.inl .negation
  | filterConflict is disagrees => exact Or.inl (.conflict _)
  | dateConflict is disagrees => exact Or.inl (.conflict _)
  | limit is free fails =>
    rw [readLimit_eq_error fails]
    exact Or.inl .limit
  | date is agrees fails =>
    obtain ⟨fault, rfl⟩ := Bound.read_eq_error fails
    exact Or.inl (.date fault)
  | unknown is =>
    obtain ⟨name, value, named, fromName⟩ := Lexeme.exists_named is rfl
    cases fromName
    exact Or.inl (.unknown named)
  | filter is agrees fails =>
    obtain ⟨allowed, rfl⟩ := filterValues_eq_error fails
    obtain ⟨name, value, named, fromName⟩ := Lexeme.exists_named is rfl
    cases fromName with
    | filter spells => exact Or.inr (Or.inl (.intro allowed named spells))
  | sort is free fails =>
    obtain ⟨name, value, named, fromName⟩ := Lexeme.exists_named is rfl
    cases fromName with
    | sort spells =>
      rcases readSort_eq_error fails with ⟨allowed, rfl⟩ | ⟨filled, rfl⟩ | ⟨filled, rfl⟩
      · exact Or.inr (Or.inl (.intro allowed named spells))
      · exact Or.inr (Or.inr (.key named spells filled))
      · exact Or.inr (Or.inr (.direction named spells filled))

/-! ## Pieces of the token -/

theorem Named.unquote_eq {token : Token} {name value : List Char} (named : Named token name value) :
    unquote token = name ++ ':' :: unquote value := by
  have noQuote : '"' ∉ name := fun member => absurd (named.letters _ member) (by decide)
  rw [named.written, unquote_append, unquote_eq_self noQuote]
  rfl

/-- An error that quotes the token carries a piece of it that is not empty. -/
theorem QueryError.Quotes.piece {token : Token} {e : QueryError} (quotes : e.Quotes token) (filled : token ≠ []) :
    e.token ≠ "" ∧ e.token.toList <:+: token := by
  have whole : String.ofList token ≠ "" ∧ (String.ofList token).toList <:+: token := by
    rw [String.toList_ofList]
    exact ⟨by simpa using filled, List.infix_rfl⟩
  cases quotes with
  | negation => exact whole
  | limit => exact whole
  | date fault => exact whole
  | conflict field => exact whole
  | unknown named =>
    rename_i name value
    refine ⟨by simpa [QueryError.token] using named.filled, ?_⟩
    rw [QueryError.token, String.toList_ofList, named.written]
    exact (List.prefix_append name _).isInfix

/-- A field has at least as many letters as the name that spells it. -/
theorem Spells.length_le {name : List Char} {field : String} (spells : Spells name field) :
    name.length ≤ field.toList.length := by
  rcases spells with rfl | ⟨isShort, rfl⟩
  · simp
  · have length := congrArg (fun s : String => s.toList.length) isShort
    simp only [String.toList_ofList, List.length_map] at length
    rw [length]
    decide

theorem toLower_ne_quote {c : Char} (letter : isNameChar c = true) : c.toLower ≠ '"' := by
  have all : ∀ n < 128, isNameChar (Char.ofNat n) = true → (Char.ofNat n).toLower ≠ '"' := by decide
  have range := isNameChar_range letter
  simpa using all c.toNat (by omega) (by simpa using letter)

/-- No quote is in the name of a field that is spelled with letters. -/
theorem Spells.quote_notMem {name : List Char} {field : String} (spells : Spells name field)
    (letters : ∀ c ∈ name, isNameChar c = true) : '"' ∉ field.toList := by
  rcases spells with rfl | ⟨_, rfl⟩
  · rw [String.toList_ofList]
    intro member
    obtain ⟨c, inName, isQuote⟩ := List.mem_map.mp member
    exact toLower_ne_quote (letters c inName) isQuote
  · decide

/-- An error that puts its token together anew carries a piece of the token just when only quotes are missing,
    all of them at its end. -/
theorem QueryError.Respells.piece_iff {token : Token} {e : QueryError} (respells : e.Respells token) :
    e.token.toList <:+: token ↔ ∃ quotes, (∀ c ∈ quotes, c = '"') ∧ token = e.token.toList ++ quotes := by
  constructor
  · rintro ⟨before, after, split⟩
    obtain ⟨allowed, named, spells⟩ := respells
    rename_i name value field
    have carried : (QueryError.invalidValue field (String.ofList (unquote value)) allowed).token.toList =
        field.toList ++ ':' :: unquote value := by
      simp [QueryError.token]
    rw [carried] at split ⊢
    -- Without the quotes the token has no more letters than what is carried, so only quotes are around that.
    have unquoted : unquote before ++ (field.toList ++ ':' :: unquote value) ++ unquote after =
        name ++ ':' :: unquote value := by
      have tail : unquote (':' :: unquote value) = ':' :: unquote value := by
        rw [← List.singleton_append, unquote_append, unquote_unquote]
        rfl
      rw [← named.unquote_eq, ← split, unquote_append, unquote_append, unquote_append, tail,
        unquote_eq_self (spells.quote_notMem named.letters)]
    have longer := spells.length_le
    have lengths := congrArg List.length unquoted
    simp only [List.length_append, List.length_cons] at lengths
    have noneBefore : unquote before = [] := List.eq_nil_of_length_eq_zero (by omega)
    have noneAfter : unquote after = [] := List.eq_nil_of_length_eq_zero (by omega)
    -- The token starts with a letter.
    have atStart : before = [] := by
      cases before with
      | nil => rfl
      | cons c rest =>
        obtain ⟨letter, letters, isName⟩ := List.exists_cons_of_ne_nil named.filled
        have isQuote := unquote_eq_nil noneBefore c List.mem_cons_self
        have isLetter := named.letters letter (isName ▸ List.mem_cons_self)
        rw [named.written, isName] at split
        have same : c = letter := (List.cons.inj split).1
        rw [← same, isQuote] at isLetter
        exact absurd isLetter (by decide)
    refine ⟨after, unquote_eq_nil noneAfter, ?_⟩
    rw [← split, atStart, List.nil_append]
  · rintro ⟨quotes, _, split⟩
    rw [split]
    exact (List.prefix_append _ quotes).isInfix

/-- An error about a sort order carries a piece of a token that has no quotes and is in lower case. -/
theorem QueryError.Lowers.piece {token : Token} {e : QueryError} (lowers : e.Lowers token) (plain : '"' ∉ token)
    (fixed : ∀ c ∈ token, Text.lowerChar c = [c]) : e.token.toList <:+: token := by
  have ofValue {name value part : List Char} (named : Named token name value) (within : part <:+: unquote value) :
      (String.ofList (Text.lowerChars part)).toList <:+: token := by
    have inToken : value <:+: token := by
      rw [named.written]
      exact ((List.suffix_cons ':' value).trans (List.suffix_append name _)).isInfix
    have noQuote : '"' ∉ value := fun member => plain (inToken.subset member)
    rw [unquote_eq_self noQuote] at within
    have same : Text.lowerChars part = part :=
      Text.lowerAfter_of_fixed (fun c member => fixed c (inToken.subset (within.subset member))) false
    rw [String.toList_ofList, same]
    exact within.trans inToken
  cases lowers with
  | key named spells filled => exact ofValue named (List.takeWhile_prefix _).isInfix
  | direction named spells filled =>
    exact ofValue named ((List.drop_suffix 1 _).trans (List.dropWhile_suffix _)).isInfix

/-- The error of a token is not empty where it lowers a part of it. -/
theorem QueryError.Lowers.token_ne {token : Token} {e : QueryError} (lowers : e.Lowers token) : e.token ≠ "" := by
  have filled {part : List Char} (filled : part ≠ []) : String.ofList (Text.lowerChars part) ≠ "" := by
    intro isEmpty
    have none : Text.lowerAfter false part = [] := String.ofList_eq_empty_iff.mp isEmpty
    exact filled (Text.lowerAfter_eq_nil.mp none)
  cases lowers with
  | key named spells isFilled => exact filled isFilled
  | direction named spells isFilled => exact filled isFilled

theorem QueryError.Respells.token_ne {token : Token} {e : QueryError} (respells : e.Respells token) :
    e.token ≠ "" := by
  obtain ⟨allowed, named, spells⟩ := respells
  intro isEmpty
  have chars := congrArg String.toList isEmpty
  simp [QueryError.token] at chars

/-! ## The first token that fails -/

/-- Reading stops at a token: it goes on as far as that, and not past it. -/
structure StopsAt (tokens : List Token) (i : Nat) (token : Token) : Prop where
  there : tokens[i]? = some token
  reads : ∀ j ≤ i, ∃ d, readTokens (tokens.take j) = .ok d
  stops : ∃ r, readTokens (tokens.take (i + 1)) = .error r

/-- What is read can be read up to any place. -/
theorem readTokens_take {tokens : List Token} {d : Draft} (reads : readTokens tokens = .ok d) (i : Nat) :
    ∃ d, readTokens (tokens.take i) = .ok d := by
  rw [← List.take_append_drop i tokens, readTokens, List.foldlM_append] at reads
  obtain ⟨d, first, _⟩ := bind_eq_ok.mp reads
  exact ⟨d, first⟩

theorem stopsAt_of_fails {before after : List Token} {token : Token} {d : Draft} {r : Rejection}
    (reads : readTokens before = .ok d) (fails : d.step token = .error r) :
    StopsAt (before ++ token :: after) before.length token where
  there := by simp
  reads := by
    intro j below
    rw [List.take_append_of_le_length below]
    exact readTokens_take reads j
  stops := by
    refine ⟨r, readTokens_eq_error.mpr ⟨before, token, [], d, ?_, reads, fails⟩⟩
    rw [List.take_append, List.take_of_length_le (by omega)]
    simp

/-- A query fails at the first token that cannot be read, or at its end because of a `NOT` there. -/
theorem parseQuery_stops {raw : String} {e : QueryError} (fails : parseQuery raw = .error (.query e)) :
    (∃ i token d, StopsAt (tokenize raw.toList) i token ∧ readTokens ((tokenize raw.toList).take i) = .ok d ∧
      d.step token = .error (.query e)) ∨
    ∃ d, readTokens (tokenize raw.toList) = .ok d ∧ d.pending.isSome ∧ e = .invalidNegation "" := by
  rcases parseQuery_eq_error.mp fails with stops | ⟨d, reads, pending, same⟩
  · obtain ⟨before, token, after, d, split, reads, stops⟩ := readTokens_eq_error.mp stops
    refine Or.inl ⟨before.length, token, d, ?_, ?_, stops⟩
    · rw [split]
      exact stopsAt_of_fails reads stops
    · rw [split, List.take_left]
      exact reads
  · cases same
    exact Or.inr ⟨d, reads, pending, rfl⟩

/-- A query whose tokens begin with those up to one that cannot be read is rejected for the same reason. -/
theorem parseQuery_of_stops {other : String} {tokens : List Token} {i : Nat} {token : Token} {d : Draft}
    {e : QueryError} (there : tokens[i]? = some token) (reads : readTokens (tokens.take i) = .ok d)
    (stops : d.step token = .error (.query e)) (begins : tokens.take (i + 1) <+: tokenize other.toList) :
    parseQuery other = .error (.query e) := by
  obtain ⟨following, split⟩ := begins
  apply parseQuery_eq_error.mpr
  apply Or.inl
  apply readTokens_eq_error.mpr
  refine ⟨tokens.take i, token, following, d, ?_, reads, stops⟩
  rw [← split, List.take_add_one, there]
  simp

/-- An error in a query is that of the first token that cannot be read, whatever follows, and what it carries is
    not empty.  That is a piece of the token; but about the value of a condition it is put together from the
    field and the value, which is a piece just when only quotes at the end are missing, and about a sort order it
    is a part of the token in lower case.  When all tokens can be read, a `NOT` is left at the end. -/
theorem error_token {raw : String} {e : QueryError} (fails : parseQuery raw = .error (.query e)) :
    (∃ i token, StopsAt (tokenize raw.toList) i token ∧
      (∃ d, readTokens ((tokenize raw.toList).take i) = .ok d ∧ d.Fails token (.query e)) ∧
      (∀ other : String, (tokenize raw.toList).take (i + 1) <+: tokenize other.toList →
        parseQuery other = .error (.query e)) ∧
      e.token ≠ "" ∧
      (e.Quotes token ∧ e.token.toList <:+: token ∨
        e.Respells token ∧ (e.token.toList <:+: token ↔
          ∃ quotes, (∀ c ∈ quotes, c = '"') ∧ token = e.token.toList ++ quotes) ∨
        e.Lowers token ∧ ('"' ∉ token → (∀ c ∈ token, Text.lowerChar c = [c]) → e.token.toList <:+: token))) ∨
    (∀ i, ∃ d, readTokens ((tokenize raw.toList).take i) = .ok d) ∧
      (∃ d, readTokens (tokenize raw.toList) = .ok d ∧ d.pending.isSome) ∧ e = .invalidNegation "" := by
  rcases parseQuery_stops fails with ⟨i, token, d, stopsAt, reads, stops⟩ | ⟨d, reads, pending, rfl⟩
  · refine Or.inl ⟨i, token, stopsAt, ⟨d, reads, Draft.fails_of_step stops⟩, ?_, ?_⟩
    · intro other begins
      exact parseQuery_of_stops stopsAt.there reads stops begins
    · have filled : token ≠ [] := (whole_of_mem_tokenize (List.mem_of_getElem? stopsAt.there)).2
      rcases (Draft.fails_of_step stops).carries with quotes | respells | lowers
      · exact ⟨(quotes.piece filled).1, Or.inl ⟨quotes, (quotes.piece filled).2⟩⟩
      · exact ⟨respells.token_ne, Or.inr (Or.inl ⟨respells, respells.piece_iff⟩)⟩
      · exact ⟨lowers.token_ne, Or.inr (Or.inr ⟨lowers, lowers.piece⟩)⟩
  · exact Or.inr ⟨readTokens_take reads, ⟨d, reads, pending⟩, rfl⟩

/-- The direction of a sort order is carried in lower case, whatever follows. -/
theorem error_token_direction :
    parseQuery "bug sort:id:UP" = .error (.query (.invalidSort "up")) ∧
    parseQuery "bug sort:id:UP limit:x NOT" = .error (.query (.invalidSort "up")) := by
  have fails : parseQuery "bug sort:id:UP" = .error (.query (.invalidSort "up")) := by decide +kernel
  refine ⟨fails, ?_⟩
  rcases error_token fails with ⟨i, token, stopsAt, _, follows, _⟩ | ⟨_, _, other⟩
  · apply follows
    exact (List.take_prefix _ _).trans (by decide +kernel)
  · cases other

/-- The token of an error need not be a piece of the query: the short name of the labels is carried as the long
    one. -/
theorem not_isInfix_label : ¬ ∀ (raw : String) (e : QueryError), parseQuery raw = .error (.query e) →
    e = .invalidNegation "" ∨ ∃ token ∈ tokenize raw.toList, e.token.toList <:+: token := by
  intro claim
  have fails : parseQuery "label:" = .error (.query (.invalidValue "labels" "" [])) := by decide +kernel
  rcases claim _ _ fails with other | ⟨token, member, piece⟩
  · cases other
  · have tokens : tokenize "label:".toList = ["label:".toList] := by decide +kernel
    rw [tokens, List.mem_singleton] at member
    have shorter := piece.length_le
    rw [member] at shorter
    exact absurd shorter (by decide)

end IssueTracker
