import IssueTracker.Proofs.Query.Permutation

/-!
# Limits of queries

The last limit among the tokens of a query is the one that holds (`limit_of_readTokens`), so a query is
made unlimited by one more token, `limit:0` (`parseQuery_append_unlimited`).  A limit has no part in
which issues satisfy a query and in how they are ordered: it cuts off what is ordered without it
(`Query.execute_eq_ok`).
-/

namespace IssueTracker

/-! ## The limits among tokens -/

/-- The number that a token gives for a limit, if it is one: that of the digits in it. -/
def limitOf? (token : Token) : Option Nat :=
  match Lexeme.ofToken token with
  | .limit value => some (Text.digitsValue (value.filter Text.isDecimal))
  | _ => none

/-- The limits among tokens, in order. -/
def limits (tokens : List Token) : List Nat := tokens.filterMap limitOf?

theorem readLimit_eq_ok {value token : List Char} {n : Nat} (reads : readLimit value token = .ok n) :
    Text.digitsValue (value.filter Text.isDecimal) = n := by
  simp only [readLimit] at reads
  generalize isDigits : (if value.getLast? = some '\n' then value.dropLast else value) = digits at reads
  split at reads
  · cases reads
  · rename_i proper
    rw [not_or, not_not] at proper
    have kept : digits.filter Text.isDecimal = digits :=
      List.filter_eq_self.mpr (List.all_eq_true.mp proper.2)
    have same : value.filter Text.isDecimal = digits := by
      by_cases ended : value.getLast? = some '\n'
      · rw [if_pos ended] at isDigits
        have split : value = digits ++ ['\n'] := by
          rw [← isDigits]
          exact (List.dropLast_append_getLast? '\n' ended).symm
        have noDigit : Text.isDecimal '\n' = false := by decide
        rw [split, List.filter_append, kept, List.filter_cons_of_neg (by simp [noDigit]),
          List.filter_nil, List.append_nil]
      · rw [if_neg ended] at isDigits
        rw [isDigits, kept]
    rw [same]
    have numeral := mapError_eq_ok.mp reads
    rw [Text.readNumeral] at numeral
    split at numeral
    · cases numeral
    · exact Except.ok.inj numeral

theorem limits_concat (tokens : List Token) (token : Token) :
    limits (tokens ++ [token]) = limits tokens ++ (limitOf? token).toList := by
  cases is : limitOf? token <;> simp [limits, is]

theorem limit_of_readTokens {tokens : List Token} {d : Draft} (read : readTokens tokens = .ok d) :
    d.limit = (limits tokens).getLast? := by
  refine readTokens_induction (motive := fun tokens d => d.limit = (limits tokens).getLast?) rfl ?_ read
  intro tokens d token d' before reads
  rw [limits_concat]
  have kept (other : limitOf? token = none) :
      d.limit = (limits tokens ++ (limitOf? token).toList).getLast? := by
    rw [other, before, Option.toList_none, List.append_nil]
  -- A draft takes over each limit that is read; no other token touches it.
  cases reads with
  | @limit value n is free reads =>
    have number : limitOf? token = some n := by simp only [limitOf?, is, readLimit_eq_ok reads]
    rw [number, Option.toList_some, List.getLast?_concat]
  | not is => exact kept (by simp only [limitOf?, is])
  | connective is => exact kept (by simp only [limitOf?, is])
  | sort is => exact kept (by simp only [limitOf?, is])
  | filter is => exact kept (by simp only [limitOf?, is])
  | date is => exact kept (by simp only [limitOf?, is])
  | text is => exact kept (by simp only [limitOf?, is])

/-- What a query is read as with a limit of zero behind it. -/
theorem parseQuery_append_unlimited {raw : String} {q : Query} (parsed : parseQuery raw = .ok q) :
    parseQuery (raw ++ " limit:0") = .ok { q with limit := some 0 } := by
  obtain ⟨d, read, free, rfl⟩ := parseQuery_eq_ok.mp parsed
  refine parseQuery_eq_ok.mpr ⟨{ d with limit := some 0 }, ?_, free, rfl⟩
  have tokens : tokenize (raw ++ " limit:0").toList = tokenize raw.toList ++ ["limit:0".toList] := by
    have last : tokenize "limit:0".toList = ["limit:0".toList] := by decide
    rw [String.toList_append, ← last]
    exact tokenize_append (Or.inr (by decide))
  have is : Lexeme.ofToken "limit:0".toList = .limit ['0'] := by decide
  rw [tokens, readTokens_concat, read]
  exact (Draft.Reads.limit is free rfl).step_eq

/-! ## Cutting off -/

section
variable {α : Type}

/-- A limit that is no negative number cuts off what is behind so many members, unless it is zero. -/
theorem cutOff_natCast (limit : Nat) (members : List α) :
    cutOff (some (limit : Int)) members = if limit = 0 then members else members.take limit := by
  by_cases zero : limit = 0
  · simp [cutOff, zero]
  · simp [cutOff, zero, Nat.pos_of_ne_zero zero]

theorem length_cutOff (limit : Nat) (members : List α) :
    (if limit = 0 then members else members.take limit).length =
      if limit = 0 then members.length else min members.length limit := by
  by_cases zero : limit = 0
  · simp [zero]
  · simp [zero, Nat.min_comm]

end

/-! ## Running -/

namespace Query
variable {q : Query} {now : Moment} {issues : List Issue}

theorem of_select_eq_ok {selected : List Issue} (run : q.select now issues = .ok selected) :
    selected = issues.filter fun i => q.accepts i now = .ok true := by
  induction issues generalizing selected with
  | nil =>
    cases run
    rfl
  | cons i issues ih =>
    obtain ⟨accepted, first, run⟩ := bind_eq_ok.mp run
    obtain ⟨others, rest, run⟩ := bind_eq_ok.mp run
    cases run
    rw [ih rest]
    cases accepted <;> simp [first]

theorem select_withLimit (q : Query) (limit : Option Int) (now : Moment) (issues : List Issue) :
    { q with limit := limit }.select now issues = q.select now issues := by
  induction issues with
  | nil => rfl
  | cons i issues ih =>
    rw [select, select, ih]
    rfl

/-- Issues with values and those without are the issues of the list. -/
private theorem perm_present_missing {α β : Type} (valued : List (Option α × β)) :
    ((valued.filterMap fun (value, x) => value.map (·, x)).map Prod.snd ++
      valued.filterMap fun (value, x) => if value.isNone then some x else none).Perm
      (valued.map Prod.snd) := by
  induction valued with
  | nil => exact .nil
  | cons first valued ih =>
    obtain ⟨value, x⟩ := first
    cases value with
    | none => simpa using List.perm_middle.trans (ih.cons x)
    | some a => simpa using ih

theorem perm_sortByValue (descending : Bool) (valued : List (SortValue × Issue)) :
    (sortByValue descending valued).Perm valued := List.mergeSort_perm _ _

theorem perm_of_sortIssues {order : SortOrder} {sorted : List Issue}
    (sorts : sortIssues issues order = .ok sorted) : sorted.Perm issues := by
  rw [sortIssues] at sorts
  split at sorts
  · cases sorts
  · obtain ⟨valued, values, sorts⟩ := bind_eq_ok.mp sorts
    have each : List.Forall₂ (fun i pair => i = Prod.snd pair) (sortById issues) valued := by
      refine (mapM_eq_ok.mp values).imp fun i pair is => ?_
      obtain ⟨value, _, is⟩ := bind_eq_ok.mp is
      cases is
      rfl
    have same : sortById issues = valued.map Prod.snd := by
      simpa using map_eq_map_of_forall₂ (f := id) each
    dsimp only at sorts
    split at sorts
    · cases sorts
    · cases sorts
      refine (((perm_sortByValue _ _).map Prod.snd).append_right _).trans ?_
      refine (perm_present_missing valued).trans ?_
      rw [← same]
      exact perm_sortById issues

theorem perm_of_arrange {arranged : List Issue} (arranges : q.arrange issues = .ok arranged) :
    arranged.Perm issues := by
  rw [arrange] at arranges
  split at arranges
  · cases arranges
    exact perm_sortById issues
  · exact perm_of_sortIssues arranges

/-- A query is run on issues by selecting those that satisfy it, ordering them and cutting them off. -/
theorem execute_eq_ok {r : SearchResult} : q.execute issues now = .ok r ↔
    ∃ selected arranged, q.select now issues = .ok selected ∧ q.arrange selected = .ok arranged ∧
      r = ⟨cutOff q.limit arranged, selected.length⟩ := by
  constructor
  · intro run
    obtain ⟨selected, selects, run⟩ := bind_eq_ok.mp run
    obtain ⟨arranged, arranges, run⟩ := bind_eq_ok.mp run
    cases run
    exact ⟨selected, arranged, selects, arranges, rfl⟩
  · rintro ⟨selected, arranged, selects, arranges, rfl⟩
    exact bind_eq_ok.mpr ⟨selected, selects, bind_eq_ok.mpr ⟨arranged, arranges, rfl⟩⟩

end Query

end IssueTracker
