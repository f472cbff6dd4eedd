import IssueTracker.Proofs.Query.Token
import IssueTracker.Proofs.Query.WellFormed

/-!
# Writing queries

A well-formed query is written with one token for each value, in quotes, and `NOT` before each token
of a negated condition.  Reading gives the query back (`parseQuery_write`), so that the parsed
queries are exactly the well-formed ones (`exists_parseQuery_iff`).
-/

namespace IssueTracker

/-! ## Writing -/

/-- A token with a field and a value in quotes. -/
def quotedToken (name : String) (value : List Char) : Token :=
  name.toList ++ ':' :: '"' :: (value ++ ['"'])

/-- A token, after a `NOT` when it is negated. -/
def signedToken (negated : Bool) (token : Token) : List Token :=
  if negated then ["NOT".toList, token] else [token]

/-- The tokens that write a condition on a field, one for each value. -/
def Condition.tokens (c : Condition FilterField String) : List Token :=
  c.values.flatMap fun v => signedToken c.negated (quotedToken c.field.name v.toList)

/-- The tokens that write a condition on a time, one for each bound. -/
def Condition.timeTokens (c : Condition DateField Bound) : List Token :=
  c.values.flatMap fun b => signedToken c.negated (quotedToken c.field.name b.chars)

/-- The value that writes an order. -/
def SortOrder.chars (o : SortOrder) : List Char := o.key.name.toList ++ ':' :: o.direction.toList

namespace Query

/-- The tokens that write a query. -/
def tokens (q : Query) : List Token :=
  (if q.text = "" then [] else ['"' :: (q.text.toList ++ ['"'])]) ++
    q.filters.flatMap Condition.tokens ++ q.bounds.flatMap Condition.timeTokens ++
    (if q.connective = .or then ["OR".toList] else []) ++
    (q.sort.map fun order => "sort".toList ++ ':' :: order.chars).toList ++
    (q.limit.map fun n => "limit".toList ++ ':' :: Nat.toDigits 10 n.toNat).toList

/-- A text that writes a query. -/
def write (q : Query) : String := String.ofList ([' '].intercalate q.tokens)

end Query

/-! ## Lexemes of written tokens -/

/-- A token with a name before a colon stands for what the name says. -/
theorem ofToken_named {name value : List Char} (letters : name.all isNameChar = true)
    (filled : name ≠ []) : Lexeme.ofToken (name ++ ':' :: value) = fieldLexeme name value := by
  rw [List.all_eq_true] at letters
  have colon : ':' ∈ (name ++ ':' :: value).map Char.toUpper := by
    rw [List.mem_map]
    exact ⟨':', by simp, rfl⟩
  -- The words `NOT`, `AND` and `OR` have no colon in them, in any case.
  have noWord (word : List Char) (plain : ':' ∉ word) :
      (name ++ ':' :: value).map Char.toUpper ≠ word := fun same => plain (same ▸ colon)
  have noQuote : ((name ++ ':' :: value).head? == some '"') = false := by
    obtain ⟨first, rest, rfl⟩ := List.exists_cons_of_ne_nil filled
    have letter := letters first List.mem_cons_self
    have other : first ≠ '"' := by
      rintro rfl
      exact absurd letter (by decide)
    simpa using other
  have stop : isNameChar ':' = false := by decide
  have split : splitField? (name ++ ':' :: value) = some (name, value) := by
    have before : (name ++ ':' :: value).takeWhile isNameChar = name := by
      rw [List.takeWhile_append_of_pos letters, List.takeWhile_cons_of_neg (by simp [stop]),
        List.append_nil]
    have after : (name ++ ':' :: value).dropWhile isNameChar = ':' :: value := by
      rw [List.dropWhile_append_of_pos letters, List.dropWhile_cons_of_neg (by simp [stop])]
    simp only [splitField?, before, after]
  simp only [Lexeme.ofToken, noWord _ (by decide : ':' ∉ "NOT".toList),
    noWord _ (by decide : ':' ∉ "AND".toList), noWord _ (by decide : ':' ∉ "OR".toList), noQuote, split]
  simp

theorem unquote_quoted {value : List Char} (plain : '"' ∉ value) :
    unquote ('"' :: (value ++ ['"'])) = value := by
  rw [unquote, List.filter_cons_of_neg (by decide), List.filter_append,
    List.filter_cons_of_neg (by decide), List.filter_nil, List.append_nil]
  exact unquote_eq_self plain

theorem FilterField.letters_name {field : FilterField} (known : field ∈ FilterField.all) :
    field.name.toList.all isNameChar = true := by
  have all : ∀ f ∈ FilterField.all, f.name.toList.all isNameChar = true := by decide
  exact all field known

theorem DateField.letters_name {field : DateField} (known : field ∈ DateField.all) :
    field.name.toList.all isNameChar = true := by
  have all : ∀ f ∈ DateField.all, f.name.toList.all isNameChar = true := by decide
  exact all field known

theorem SortKey.letters_name {key : SortKey} (known : key ∈ SortKey.all) :
    key.name.toList.all isNameChar = true := by
  have all : ∀ k ∈ SortKey.all, k.name.toList.all isNameChar = true := by decide
  exact all key known

theorem ofToken_filterToken {field : FilterField} (known : field ∈ FilterField.all)
    {value : List Char} (plain : '"' ∉ value) :
    Lexeme.ofToken (quotedToken field.name value) = .filter field value := by
  have filled : field.name.toList ≠ [] := by
    cases field <;> first | decide | simp [FilterField.all] at known
  rw [quotedToken, ofToken_named (FilterField.letters_name known) filled]
  cases field with
  | other name => simp [FilterField.all] at known
  | _ => exact congrArg (Lexeme.filter _) (unquote_quoted plain)

theorem ofToken_timeToken {field : DateField} (known : field ∈ DateField.all) {value : List Char}
    (plain : '"' ∉ value) : Lexeme.ofToken (quotedToken field.name value) = .date field value := by
  have filled : field.name.toList ≠ [] := by
    cases field <;> first | decide | simp [DateField.all] at known
  rw [quotedToken, ofToken_named (DateField.letters_name known) filled]
  cases field with
  | other name => simp [DateField.all] at known
  | _ => exact congrArg (Lexeme.date _) (unquote_quoted plain)

/-- A text in quotes stands for itself. -/
theorem ofToken_text {value : List Char} (plain : '"' ∉ value) (trimmed : Text.IsTrimmed value) :
    Lexeme.ofToken ('"' :: (value ++ ['"'])) = .text value := by
  have noWord (word : List Char) (unquoted : '"' ∉ word) :
      ('"' :: (value ++ ['"'])).map Char.toUpper ≠ word := by
    rintro rfl
    exact unquoted (by rw [List.map_cons]; exact List.mem_cons_self)
  simp only [Lexeme.ofToken, noWord _ (by decide : '"' ∉ "NOT".toList),
    noWord _ (by decide : '"' ∉ "AND".toList), noWord _ (by decide : '"' ∉ "OR".toList),
    unquote_quoted plain, Text.trim_eq_self trimmed]
  simp

/-! ## Orders and limits -/

/-- An order by a key of the query language is read back. -/
theorem reads_sort {order : SortOrder} (known : order.key ∈ SortKey.all) :
    Lexeme.ofToken ("sort".toList ++ ':' :: order.chars) = .sort order.chars ∧
      readSort order.chars = .ok order := by
  obtain ⟨key, descending⟩ := order
  have names : ∀ key ∈ SortKey.all, key.name.toList.all Text.isPlainLower = true ∧
      key.name ≠ "" ∧ SortKey.ofName? key.name = some key := by decide
  have directions : ∀ descending : Bool, (if descending then "desc" else "asc").toList.all
      (fun c => isNameChar c && Text.isPlainLower c) = true := by decide
  obtain ⟨lower, filled, found⟩ := names key known
  have letters := SortKey.letters_name known
  rw [List.all_eq_true] at lower letters
  have direction : ∀ c ∈ (SortOrder.direction ⟨key, descending⟩).toList,
      isNameChar c = true ∧ Text.isPlainLower c = true := by
    simpa [SortOrder.direction] using directions descending
  have plain : '"' ∉ SortOrder.chars ⟨key, descending⟩ := by
    simp only [SortOrder.chars, List.mem_append, List.mem_cons, not_or]
    refine ⟨fun member => ?_, by decide, fun member => ?_⟩
    · exact absurd (letters _ member) (by decide)
    · exact absurd (direction _ member).1 (by decide)
  have noColon : ∀ c ∈ key.name.toList, (c != ':') = true := by
    intro c member
    have letter := letters c member
    rw [bne_iff_ne]
    rintro rfl
    exact absurd letter (by decide)
  constructor
  · rw [ofToken_named (by decide) (by decide)]
    exact congrArg Lexeme.sort (unquote_eq_self plain)
  · have before : (SortOrder.chars ⟨key, descending⟩).takeWhile (· != ':') = key.name.toList := by
      rw [SortOrder.chars, List.takeWhile_append_of_pos noColon,
        List.takeWhile_cons_of_neg (by simp), List.append_nil]
    have after : (SortOrder.chars ⟨key, descending⟩).dropWhile (· != ':') =
        ':' :: (SortOrder.direction ⟨key, descending⟩).toList := by
      rw [SortOrder.chars, List.dropWhile_append_of_pos noColon,
        List.dropWhile_cons_of_neg (by simp)]
    simp only [readSort, before, after, List.drop_succ_cons, List.drop_zero,
      Text.lowerChars_eq_self lower,
      Text.lowerChars_eq_self fun c member => (direction c member).2, String.ofList_toList, filled, found]
    cases descending <;> rfl

theorem quote_notMem_toDigits (n : Nat) : '"' ∉ Nat.toDigits 10 n := fun member =>
  absurd (Text.all_isDecimal_toDigits n _ member) (by decide)

/-- A limit that is short enough is read back. -/
theorem reads_limit {n : Nat} (short : n < 10 ^ Text.numeralLimit) (token : List Char) :
    Lexeme.ofToken ("limit".toList ++ ':' :: Nat.toDigits 10 n) = .limit (Nat.toDigits 10 n) ∧
      readLimit (Nat.toDigits 10 n) token = .ok n := by
  have decimal := Text.all_isDecimal_toDigits n
  constructor
  · rw [ofToken_named (by decide) (by decide)]
    exact congrArg Lexeme.limit (unquote_eq_self (quote_notMem_toDigits n))
  · have filled : (Nat.toDigits 10 n).isEmpty = false := by
      simp [Nat.toDigits_ne_nil]
    have digits : (Nat.toDigits 10 n).all Text.isDecimal = true := List.all_eq_true.mpr decimal
    rw [readLimit, if_neg (Text.getLast?_ne_lineEnd decimal)]
    simp only [filled, digits, Text.readNumeral_toDigits short]
    rfl

/-! ## Reading conditions -/

section
variable {φ ν : Type} [DecidableEq φ]

/-- When each value of a condition is read from its token into the conditions of a draft, their
    tokens in a row add the condition. -/
theorem foldlM_values (put : List (Condition φ ν) → Draft) (merge : List ν → List ν → List ν)
    {field : φ} {negated : Bool} {token : ν → Token} {values : List ν}
    (reads : ∀ v ∈ values, ∀ conditions, conflicts field negated conditions = false →
      (signedToken negated (token v)).foldlM Draft.step (put conditions) =
        .ok (put (addCondition merge field negated [v] conditions)))
    (joins : ∀ early v late, values = early ++ v :: late → merge early [v] = early ++ [v])
    {before : List (Condition φ ν)} (absent : ∀ c ∈ before, c.field ≠ field) (filled : values ≠ []) :
    (values.flatMap fun v => signedToken negated (token v)).foldlM Draft.step (put before) =
      .ok (put (before ++ [⟨field, values, negated⟩])) := by
  induction values using List.reverseRecOn with
  | nil => exact absurd rfl filled
  | append_singleton early v ih =>
    have last := reads v (by simp)
    rw [List.flatMap_append, List.flatMap_singleton, List.foldlM_append]
    by_cases first : early = []
    -- The first value makes a condition of its own, as there is none on the field.
    · have fresh : conflicts field negated before = false :=
        conflicts_eq_false.mpr fun c member same => absurd same (absent c member)
      have added : addCondition merge field negated [v] before = before ++ [⟨field, [v], negated⟩] := by
        rw [← List.append_nil before, addCondition_append (by simpa using absent), addCondition,
          joins [] v [] (by simp [first])]
        simp
      rw [first]
      exact (last before fresh).trans (by rw [added]; rfl)
    -- A later one joins the condition that those before it made.
    · have agrees : conflicts field negated (before ++ [⟨field, early, negated⟩]) = false := by
        refine conflicts_eq_false.mpr fun c member same => ?_
        rcases List.mem_append.mp member with old | single
        · exact absurd same (absent c old)
        · rw [List.mem_singleton.mp single]
      have earlier := ih (fun w member => reads w (List.mem_append_left _ member))
        (fun start w rest split => joins start w (rest ++ [v]) (by simp [split])) first
      rw [earlier]
      refine (last _ agrees).trans ?_
      rw [addCondition_append absent, addCondition, if_pos rfl, joins early v [] rfl]

omit [DecidableEq φ] in
/-- When each condition is read from its tokens after the conditions of other fields, all of them
    are read in a row. -/
theorem foldlM_conditions (put : List (Condition φ ν) → Draft)
    {tokens : Condition φ ν → List Token} {conditions : List (Condition φ ν)}
    (distinct : (conditions.map (·.field)).Nodup)
    (reads : ∀ c ∈ conditions, ∀ before : List (Condition φ ν), (∀ d ∈ before, d.field ≠ c.field) →
      (tokens c).foldlM Draft.step (put before) = .ok (put (before ++ [c]))) :
    (conditions.flatMap tokens).foldlM Draft.step (put []) = .ok (put conditions) := by
  induction conditions using List.reverseRecOn with
  | nil => rfl
  | append_singleton early c ih =>
    rw [List.map_append, List.nodup_append] at distinct
    have absent : ∀ d ∈ early, d.field ≠ c.field := fun d member =>
      distinct.2.2 d.field (List.mem_map_of_mem member) c.field (by simp)
    rw [List.flatMap_append, List.flatMap_singleton, List.foldlM_append,
      ih distinct.1 fun d member => reads d (List.mem_append_left _ member)]
    exact reads c (by simp) early absent

end

/-! ## Reading the query back -/

private theorem toNat_lt_pow {n : Int} {k : Nat} (positive : 0 ≤ n) (less : n < 10 ^ k) :
    n.toNat < 10 ^ k := by
  rw [Int.toNat_lt positive]
  exact_mod_cast less

section
variable {d : Draft} {token : Token} {negated : Bool}

/-- A `NOT` before a token is pending when the token is read. -/
theorem foldlM_signedToken (free : d.pending = none) :
    (signedToken negated token).foldlM Draft.step d =
      Draft.step { d with pending := if negated then some true else none } token := by
  cases negated with
  | false =>
    have same : { d with pending := none } = d := by rw [← free]
    simp [signedToken, same]
  | true =>
    have no : Lexeme.ofToken "NOT".toList = .not := rfl
    have first := (Draft.Reads.not (d := d) no).step_eq
    rw [free] at first
    simp only [signedToken, if_true, List.foldlM_cons, first, List.foldlM_nil, bind_pure]
    rfl

/-- A filter token is read into a draft without `NOT`, after one when it is negated. -/
theorem foldlM_signedFilter {field : FilterField} {value : List Char} {values : List String}
    (free : d.pending = none) (is : Lexeme.ofToken token = .filter field value)
    (agrees : conflicts field negated d.filters = false)
    (reads : filterValues field value = .ok values) :
    (signedToken negated token).foldlM Draft.step d =
      .ok { d with
        filters := addCondition (List.foldl addNew) field negated values d.filters
        pending := none } := by
  rw [foldlM_signedToken free]
  cases negated with
  | false => exact (Draft.Reads.filter (d := { d with pending := none }) is agrees reads).step_eq
  | true => exact (Draft.Reads.filter (d := { d with pending := some true }) is agrees reads).step_eq

theorem foldlM_signedDate {field : DateField} {value : List Char} {bound : Bound}
    (free : d.pending = none) (is : Lexeme.ofToken token = .date field value)
    (agrees : conflicts field negated d.bounds = false)
    (reads : Bound.read (String.ofList value) (String.ofList token) = .ok bound) :
    (signedToken negated token).foldlM Draft.step d =
      .ok { d with
        bounds := addCondition (· ++ ·) field negated [bound] d.bounds
        pending := none } := by
  rw [foldlM_signedToken free]
  cases negated with
  | false => exact (Draft.Reads.date (d := { d with pending := none }) is agrees reads).step_eq
  | true => exact (Draft.Reads.date (d := { d with pending := some true }) is agrees reads).step_eq

theorem foldlM_filterTokens (free : d.pending = none) {c : Condition FilterField String}
    (proper : c.IsProper) (absent : ∀ e ∈ d.filters, e.field ≠ c.field) :
    c.tokens.foldlM Draft.step d = .ok { d with filters := d.filters ++ [c] } := by
  refine foldlM_values (fun conditions => { d with filters := conditions })
    (List.foldl addNew) ?_ ?_ absent proper.filled
  · intro v member conditions agrees
    have allowed := proper.allowed v member
    have is := ofToken_filterToken proper.known allowed.unquoted
    have run := foldlM_signedFilter (d := { d with filters := conditions }) free is agrees
      (filterValues_of_allows allowed)
    rw [run, ← free]
  · intro early v late split
    have new : v ∉ early := by
      have distinct := proper.distinct
      rw [split, List.nodup_append] at distinct
      exact fun member => distinct.2.2 v member v List.mem_cons_self rfl
    rw [List.foldl_cons, List.foldl_nil, addNew, if_neg new]

theorem foldlM_timeTokens (free : d.pending = none) {c : Condition DateField Bound}
    (proper : c.IsProperTime) (absent : ∀ e ∈ d.bounds, e.field ≠ c.field) :
    c.timeTokens.foldlM Draft.step d = .ok { d with bounds := d.bounds ++ [c] } := by
  refine foldlM_values (fun conditions => { d with bounds := conditions })
    (· ++ ·) ?_ (fun _ _ _ _ => rfl) absent proper.filled
  intro b member conditions agrees
  have allowed := proper.allowed b member
  have is := ofToken_timeToken proper.known allowed.quote_notMem
  have run := foldlM_signedDate (d := { d with bounds := conditions }) free is agrees
    (allowed.read_chars _)
  rw [run, ← free]

/-- The pieces of a text that is written as one token. -/
def textPieces (text : String) : List (List Char) := if text = "" then [] else [text.toList]

theorem intercalate_textPieces (text : String) :
    " ".intercalate ((textPieces text).map String.ofList) = text := by
  by_cases empty : text = "" <;> simp [textPieces, empty]

theorem foldlM_textToken {text : String} (unquoted : '"' ∉ text.toList)
    (trimmed : Text.strip text = text) :
    (if text = "" then [] else ['"' :: (text.toList ++ ['"'])]).foldlM Draft.step {} =
      .ok { text := textPieces text } := by
  by_cases empty : text = ""
  · simp only [textPieces, if_pos empty]
    rfl
  · have filled : text.toList ≠ [] := by simpa using empty
    have is := ofToken_text unquoted (Text.strip_eq_self_iff.mp trimmed)
    have step := (Draft.Reads.text (d := {}) is rfl).step_eq
    simp only [textPieces, if_neg empty, List.foldlM_cons, step]
    simp [filled]

/-- An `OR` is read from its token; an `AND` needs none. -/
theorem foldlM_connectiveToken (free : d.pending = none) (unset : d.connective = none)
    (connective : Connective) :
    (if connective = .or then ["OR".toList] else []).foldlM Draft.step d =
      .ok { d with connective := if connective = .or then some .or else none } := by
  by_cases isOr : connective = .or
  · have is : Lexeme.ofToken "OR".toList = .connective .or := rfl
    have step := (Draft.Reads.connective (d := d) is free).step_eq
    simp only [unset, Option.any_none, Bool.false_eq_true, if_false] at step
    simp only [if_pos isOr, List.foldlM_cons, step]
    rfl
  · simp only [if_neg isOr, ← unset]
    rfl

theorem foldlM_sortToken (free : d.pending = none) (unset : d.sort = none) {sort : Option SortOrder}
    (known : ∀ order, sort = some order → order.key ∈ SortKey.all) :
    (sort.map fun order => "sort".toList ++ ':' :: order.chars).toList.foldlM Draft.step d =
      .ok { d with sort := sort } := by
  cases sort with
  | none => exact congrArg Except.ok (by rw [← unset])
  | some order =>
    obtain ⟨is, reads⟩ := reads_sort (known order rfl)
    exact congrArg (· >>= pure) (Draft.Reads.sort (d := d) is free reads).step_eq

theorem foldlM_limitToken (free : d.pending = none) (unset : d.limit = none) {limit : Option Int}
    (short : ∀ n, limit = some n → 0 ≤ n ∧ n < 10 ^ Text.numeralLimit) :
    (limit.map fun n => "limit".toList ++ ':' :: Nat.toDigits 10 n.toNat).toList.foldlM Draft.step d =
      .ok { d with limit := limit.map Int.toNat } := by
  cases limit with
  | none => exact congrArg Except.ok (by rw [Option.map_none, ← unset])
  | some n =>
    obtain ⟨positive, less⟩ := short n rfl
    obtain ⟨is, reads⟩ := reads_limit (toNat_lt_pow positive less)
      ("limit".toList ++ ':' :: Nat.toDigits 10 n.toNat)
    exact congrArg (· >>= pure) (Draft.Reads.limit (d := d) is free reads).step_eq

end

/-- A token with a value in quotes is whole, and so is a `NOT` before it. -/
theorem whole_signedToken {name : String} {value : List Char} {negated : Bool} {token : Token}
    (letters : name.toList.all isNameChar = true) (unquoted : '"' ∉ value)
    (member : token ∈ signedToken negated (quotedToken name value)) : Whole token ∧ token ≠ [] := by
  have whole : Whole (quotedToken name value) :=
    .append (whole_of_letters letters) (.plain (by decide) (by decide) (.quoted unquoted .nil))
  have filled : quotedToken name value ≠ [] := by simp [quotedToken]
  rw [signedToken] at member
  split at member
  · rcases List.mem_cons.mp member with rfl | last
    · exact ⟨whole_of_letters (by decide), by decide⟩
    · exact List.mem_singleton.mp last ▸ ⟨whole, filled⟩
  · exact List.mem_singleton.mp member ▸ ⟨whole, filled⟩

namespace Query.WellFormed
variable {q : Query}

/-- The tokens of a well-formed query are read as the query. -/
theorem readTokens_tokens (wellFormed : q.WellFormed) :
    ∃ d, readTokens q.tokens = .ok d ∧ d.pending = none ∧ d.query = q := by
  obtain ⟨text, filters, bounds, connective, sort, limit⟩ := q
  obtain ⟨unquoted, trimmed, filterFields, filtersProper, boundFields, boundsProper, sortKnown,
    limitShort⟩ := wellFormed
  -- Each group of tokens is read into the draft that the groups before it leave.
  have readText := foldlM_textToken unquoted trimmed
  have readFilters : (filters.flatMap Condition.tokens).foldlM Draft.step
      { text := textPieces text } = .ok { text := textPieces text, filters } :=
    foldlM_conditions (fun conditions => { text := textPieces text, filters := conditions })
      filterFields fun c member before absent => foldlM_filterTokens rfl (filtersProper c member) absent
  have readBounds : (bounds.flatMap Condition.timeTokens).foldlM Draft.step
      { text := textPieces text, filters } = .ok { text := textPieces text, filters, bounds } :=
    foldlM_conditions (fun conditions => { text := textPieces text, filters, bounds := conditions })
      boundFields fun c member before absent => foldlM_timeTokens rfl (boundsProper c member) absent
  have readJoin := foldlM_connectiveToken (d := { text := textPieces text, filters, bounds })
    rfl rfl connective
  generalize joined : (if connective = .or then some Connective.or else none) = join at readJoin
  have readSort := foldlM_sortToken
    (d := { text := textPieces text, filters, bounds, connective := join }) rfl rfl sortKnown
  have readLimit := foldlM_limitToken
    (d := { text := textPieces text, filters, bounds, connective := join, sort }) rfl rfl limitShort
  refine ⟨{ text := textPieces text, filters, bounds, connective := join, sort,
            limit := limit.map Int.toNat }, ?_, rfl, ?_⟩
  · simp only [readTokens, tokens, List.foldlM_append, readText, bind, Except.bind, readFilters,
      readBounds, readJoin, readSort, readLimit]
  · have sameJoin : join.getD .and = connective := by
      rw [← joined]
      cases connective <;> rfl
    have sameLimit : (limit.map Int.toNat).map Int.ofNat = limit := by
      cases limit with
      | none => rfl
      | some n => exact congrArg some (Int.toNat_of_nonneg (limitShort n rfl).1)
    simp only [Draft.query, intercalate_textPieces, sameJoin, sameLimit]

/-- The tokens of a well-formed query are told apart when they are joined by spaces. -/
theorem tokenize_tokens (wellFormed : q.WellFormed) :
    tokenize ([' '].intercalate q.tokens) = q.tokens := by
  refine tokenize_intercalate fun token member => ?_
  simp only [tokens, List.mem_append] at member
  rcases member with ((((text | filter) | time) | join) | sort) | limit
  · split at text
    · cases text
    · rw [List.mem_singleton.mp text]
      exact ⟨.quoted wellFormed.textUnquoted .nil, List.cons_ne_nil _ _⟩
  · obtain ⟨c, isFilter, inside⟩ := List.mem_flatMap.mp filter
    obtain ⟨v, isValue, inside⟩ := List.mem_flatMap.mp inside
    have proper := wellFormed.filters c isFilter
    exact whole_signedToken (FilterField.letters_name proper.known) (proper.allowed v isValue).unquoted inside
  · obtain ⟨c, isTime, inside⟩ := List.mem_flatMap.mp time
    obtain ⟨b, isBound, inside⟩ := List.mem_flatMap.mp inside
    have proper := wellFormed.bounds c isTime
    exact whole_signedToken (DateField.letters_name proper.known) (proper.allowed b isBound).quote_notMem inside
  · split at join
    · rw [List.mem_singleton.mp join]
      exact ⟨whole_of_letters (by decide), by decide⟩
    · cases join
  · obtain ⟨order, isSort, rfl⟩ := Option.map_eq_some_iff.mp (Option.mem_toList.mp sort)
    have direction : order.direction.toList.all isNameChar = true := by
      rw [SortOrder.direction]
      split <;> decide
    have value : Whole order.chars := .append
      (whole_of_letters (SortKey.letters_name (wellFormed.sort order isSort)))
      (.plain (by decide) (by decide) (whole_of_letters direction))
    exact ⟨.append (whole_of_letters (by decide)) (.plain (by decide) (by decide) value), by simp⟩
  · obtain ⟨n, _, rfl⟩ := Option.map_eq_some_iff.mp (Option.mem_toList.mp limit)
    refine ⟨.append (whole_of_letters (by decide)) (.plain (by decide) (by decide) ?_), by simp⟩
    refine whole_of_all (List.all_eq_true.mpr fun c member => ?_)
    obtain ⟨k, single, rfl⟩ := Text.exists_digit_of_mem_toDigits member
    have all : ∀ k < 10, isWordChar (Nat.digitChar k) = true := by decide
    exact all k single

/-- A well-formed query is read back from what is written of it. -/
theorem parseQuery_write (wellFormed : q.WellFormed) : parseQuery q.write = .ok q := by
  rw [parseQuery_eq_ok, write, String.toList_ofList, wellFormed.tokenize_tokens]
  exact wellFormed.readTokens_tokens

end Query.WellFormed

/-- The parsed queries are exactly the well-formed ones. -/
theorem exists_parseQuery_iff (q : Query) : (∃ raw, parseQuery raw = .ok q) ↔ q.WellFormed := by
  constructor
  · rintro ⟨raw, parsed⟩
    exact wellFormed_of_parseQuery parsed
  · exact fun wellFormed => ⟨q.write, wellFormed.parseQuery_write⟩

end IssueTracker
