import IssueTracker.Query.Execution
import IssueTracker.Proofs.Query.Age
import IssueTracker.Proofs.Query.Lexeme
import IssueTracker.Proofs.Query.Reading
import IssueTracker.Proofs.Query.Values

/-!
# The meaning of a query, read off its tokens

Each field that some token names is one part of a query, and so is the free text.  A part is tried
on an issue by itself, inverted when an odd number of `NOT`s stands before the tokens of its field,
and the last connective joins the outcomes (`Meaning`).  A query that was parsed is satisfied by
exactly the issues of which this holds (`accepts_parseQuery`).
-/

namespace IssueTracker

/-! ## Parts -/

/-- A part of a query. -/
inductive Part
  | field (field : FilterField)
  | time (field : DateField)
  | text
deriving DecidableEq

/-- The values that a token lists for a field: those between commas for the labels, of which empty
    ones count for nothing, and the whole value for any other.  Blanks around a value are not part
    of it. -/
def listedValues (field : FilterField) (value : List Char) : List String :=
  if field = .labels then
    (((Text.pieces (· == ',') value).map Text.trim).filter (!·.isEmpty)).map String.ofList
  else [String.ofList (Text.trim value)]

/-- An issue has a value in a field: a label by being one of its labels, type, status and priority
    in any case, an assignee and a branch exactly.  What is missing reads as empty. -/
def Issue.Has (i : Issue) (field : FilterField) (value : String) : Prop :=
  match field with
  | .labels => some value ∈ i.labels.getD []
  | .type => Text.lower (i.type.getD "") = Text.lower value
  | .status => Text.lower (i.status.getD "") = Text.lower value
  | .priority => Text.lower (i.priority.getD "") = Text.lower value
  | .assignee => i.assignee.getD "" = value
  | .branch => i.branch.getD "" = value
  | .other _ => False

/-- A time of an issue, if it has one. -/
def Issue.time? (i : Issue) : DateField → Option Moment
  | .created => i.createdAt
  | .updated => i.updatedAt
  | .closed => i.closedAt
  | .other _ => none

/-- The free text of a query: its pieces, joined by one space. -/
def freeText (tokens : List Token) : String := " ".intercalate ((freeTexts tokens).map String.ofList)

namespace Part

/-- A part that the tokens write. -/
def Written (tokens : List Token) : Part → Prop
  | field f => ∃ n value, Occurs tokens n (.filter f value)
  | time f => ∃ n value, Occurs tokens n (.date f value)
  | text => freeText tokens ≠ ""

/-- A part whose tokens have an odd number of `NOT`s before them. -/
def Negated (tokens : List Token) : Part → Prop
  | field f => ∃ n value, Occurs tokens n (.filter f value) ∧ n % 2 = 1
  | time f => ∃ n value, Occurs tokens n (.date f value) ∧ n % 2 = 1
  | text => False

/-- What a part asks of an issue before it is inverted: one of the values that are listed for the
    field, all of the bounds that are given for it, or the free text in the title or the
    description, in any case. -/
def Asks (tokens : List Token) (i : Issue) (now : Moment) : Part → Prop
  | field f => ∃ n value, Occurs tokens n (.filter f value) ∧ ∃ v ∈ listedValues f value, i.Has f v
  | time f => ∀ n value bound, Occurs tokens n (.date f value) → Bound.Writes value bound →
      bound.holds (i.time? f) now = .ok true
  | text => Text.lowerChars (freeText tokens).toList <:+:
      Text.lowerChars (i.title.getD "None" ++ "\n" ++ i.description.getD "").toList

/-- A part holds of an issue. -/
def Holds (tokens : List Token) (i : Issue) (now : Moment) (part : Part) : Prop :=
  part.Asks tokens i now ↔ ¬part.Negated tokens

end Part

/-- The meaning of tokens: all parts hold, or after a last `OR` at least one of them, unless there
    is none. -/
def Meaning (tokens : List Token) (i : Issue) (now : Moment) : Prop :=
  match (connectives tokens).getLast?.getD .and with
  | .and => ∀ part : Part, part.Written tokens → part.Holds tokens i now
  | .or => (∃ part : Part, part.Written tokens) →
      ∃ part : Part, part.Written tokens ∧ part.Holds tokens i now

/-- An issue that can be searched: its labels are a list, and its times have no offset or are
    missing. -/
def Issue.isSearchable (i : Issue) : Bool :=
  i.labels.isSome && i.createdAt.all Moment.isNaive && i.updatedAt.all Moment.isNaive &&
    i.closedAt.all Moment.isNaive

/-- Whether the times of an issue have no offset or are missing. -/
def Issue.hasNaiveTimes (i : Issue) : Bool :=
  i.createdAt.all Moment.isNaive && i.updatedAt.all Moment.isNaive && i.closedAt.all Moment.isNaive

theorem Issue.isSearchable_iff {i : Issue} : i.isSearchable ↔ i.labels.isSome ∧ i.hasNaiveTimes := by
  simp [isSearchable, hasNaiveTimes, and_assoc]

theorem Issue.time?_all_isNaive {i : Issue} (times : i.hasNaiveTimes) (field : DateField) :
    (i.time? field).all Moment.isNaive := by
  simp only [hasNaiveTimes, Bool.and_eq_true] at times
  obtain ⟨⟨created, updated⟩, closed⟩ := times
  cases field with
  | created => exact created
  | updated => exact updated
  | closed => exact closed
  | other name => rfl

/-- Whether the ages among the bounds are numerals that may be read. -/
def hasShortAges (tokens : List Token) : Bool :=
  tokens.all fun token =>
    match Lexeme.ofToken token with
    | .date _ value =>
      (ageParts? (splitComparison value).2).all fun (digits, _) => digits.length ≤ Text.numeralLimit
    | _ => true

/-! ## Conditions on fields -/

/-- The values that are read from a token match an issue as those that it lists. -/
theorem exists_has_filterValues {field : FilterField} {value : List Char} {values : List String}
    (reads : filterValues field value = .ok values) (i : Issue) :
    (∃ v ∈ values, i.Has field v) ↔ ∃ v ∈ listedValues field value, i.Has field v := by
  rw [filterValues] at reads
  cases vocabulary : field.vocabulary? with
  | some words =>
    simp only [vocabulary] at reads
    split at reads
    · rename_i member
      cases reads
      have lowered := lower_of_mem_vocabulary vocabulary (List.contains_iff_mem.mp member)
      rw [Text.lower, String.toList_ofList] at lowered
      cases field <;> cases vocabulary <;>
        simp [listedValues, Issue.Has, Text.lower, lowered]
    · cases reads
  | none =>
    simp only [vocabulary] at reads
    by_cases labels : field = .labels
    · simp only [labels, if_true] at reads
      split at reads
      · cases reads
      · cases reads
        simp [listedValues, labels]
    · simp only [labels, if_false] at reads
      split at reads
      · cases reads
      · rename_i present
        cases reads
        have filled : ¬(Text.trim value).isEmpty := by
          intro empty
          simp [empty] at present
        simp [listedValues, labels, filled]

/-- A field of a searchable issue is compared with all values at once. -/
theorem hasValue_eq_ok {i : Issue} (searchable : i.isSearchable) {field : FilterField}
    (known : field ∈ FilterField.all) (values : List String) :
    ∃ found, i.hasValue field values = .ok found ∧ (found = true ↔ ∃ v ∈ values, i.Has field v) := by
  have same (text : Option String) :
      Issue.sameWord text values = true ↔
        ∃ v ∈ values, Text.lower (text.getD "") = Text.lower v := by
    simp [Issue.sameWord, Issue.textOrEmpty]
  cases field with
  | labels =>
    simp only [Issue.isSearchable, Bool.and_eq_true, Option.isSome_iff_exists] at searchable
    obtain ⟨labels, isList⟩ := searchable.1.1.1
    refine ⟨values.any fun value => labels.contains (some value), ?_, ?_⟩
    · simp only [Issue.hasValue, isList]
    · simp [Issue.Has, isList]
  | type => exact ⟨_, rfl, same i.type⟩
  | status => exact ⟨_, rfl, same i.status⟩
  | priority => exact ⟨_, rfl, same i.priority⟩
  | assignee => exact ⟨_, rfl, by simp [Issue.Has, Issue.textOrEmpty]⟩
  | branch => exact ⟨_, rfl, by simp [Issue.Has, Issue.textOrEmpty]⟩
  | other name => simp [FilterField.all] at known

/-! ## Bounds -/

/-- A bound whose age, if it has one, is a numeral that may be read. -/
def Bound.IsShort (bound : Bound) : Prop :=
  ∀ token, bound.target = .age token →
    ∃ digits unit, ageParts? token.toList = some (digits, unit) ∧ digits.length ≤ Text.numeralLimit

/-- The point in time that a bound means has no offset, when the present has none. -/
theorem Bound.boundary_eq_ok {bound : Bound} (short : bound.IsShort) {now : Moment}
    (naive : now.isNaive) : ∃ m, bound.boundary now = .ok m ∧ m.isNaive := by
  obtain ⟨comparison, target⟩ := bound
  cases target with
  | day date => exact ⟨.atMidnight date, rfl, rfl⟩
  | age token =>
    obtain ⟨digits, unit, parts, length⟩ := short token rfl
    refine ⟨_, boundary_age parts length comparison now, ?_⟩
    cases earlier : now.minusDays? (Text.digitsValue digits * unit.days) with
    | none => rfl
    | some m => exact ((Moment.minusDays?_eq_some_iff naive).mp earlier).1

/-- A time without offset is compared with a bound. -/
theorem Bound.holds_eq_ok {bound : Bound} (short : bound.IsShort) {now : Moment}
    (naive : now.isNaive) {time : Option Moment} (plain : time.all Moment.isNaive) :
    ∃ result, bound.holds time now = .ok result := by
  cases time with
  | none => exact ⟨false, rfl⟩
  | some time =>
    -- Comparing fails only where one of the two times has an offset.
    obtain ⟨m, boundary, mNaive⟩ := boundary_eq_ok short naive
    have compared : time.compare m = .ok (compare time.instant m.instant) := by
      simp only [Option.all_some] at plain
      simp [Moment.compare, plain, mNaive]
    obtain ⟨comparison, target⟩ := bound
    simp only [holds, boundary]
    cases comparison <;> cases target <;> exact ⟨_, by simp [compared, bind, Except.bind]; rfl⟩

/-- All bounds are tried, up to the first that fails. -/
theorem Bound.allHold_eq_ok {bounds : List Bound} {time : Option Moment} {now : Moment}
    (each : ∀ b ∈ bounds, ∃ result, b.holds time now = .ok result) :
    ∃ all, allHold time now bounds = .ok all ∧
      (all = true ↔ ∀ b ∈ bounds, b.holds time now = .ok true) := by
  induction bounds with
  | nil => exact ⟨true, rfl, by simp⟩
  | cons b bounds ih =>
    obtain ⟨result, holds⟩ := each b List.mem_cons_self
    obtain ⟨rest, run, meaning⟩ := ih fun b member => each b (List.mem_cons_of_mem _ member)
    cases result with
    | false => exact ⟨false, by simp [allHold, holds, bind, Except.bind], by simp [holds]⟩
    | true => exact ⟨rest, by simp [allHold, holds, run, bind, Except.bind], by simp [holds, meaning]⟩

/-! ## Outcomes -/

theorem signed_eq_true {negated result : Bool} {Negated Asks : Prop} (sign : negated = true ↔ Negated)
    (base : result = true ↔ Asks) : Query.signed negated result = true ↔ (Asks ↔ ¬Negated) := by
  rw [← sign, ← base]
  cases negated <;> cases result <;> simp [Query.signed]

/-- A gathered condition is negated when some value of its field is written after an odd number of
    `NOT`s. -/
theorem Gathers.negated_iff {φ ν : Type} {written : Nat → φ → List ν → Prop}
    {conditions : List (Condition φ ν)} (h : Gathers written conditions) {c : Condition φ ν}
    (member : c ∈ conditions) : c.negated = true ↔ ∃ n vs, written n c.field vs ∧ n % 2 = 1 := by
  constructor
  · intro negated
    obtain ⟨n, vs, there⟩ := h.sound c member
    have parity := h.parity c member n vs there
    exact ⟨n, vs, there, by simpa [negated] using parity⟩
  · rintro ⟨n, vs, there, odd⟩
    simpa [odd] using h.parity c member n vs there

section
variable {tokens : List Token} {d : Draft} {i : Issue} {now : Moment}

open Classical in
/-- The outcomes of the conditions on fields are those of the parts that the tokens write. -/
theorem Draft.Holds.filterOutcomes_eq (h : d.Holds tokens) (searchable : i.isSearchable)
    (now : Moment) :
    Query.filterOutcomes i d.filters =
      .ok (d.filters.map fun c => decide ((Part.field c.field).Holds tokens i now)) := by
  refine mapM_eq_ok_map fun c member => ?_
  obtain ⟨n, vs, value, stands, reads⟩ := h.filters.sound c member
  have known : c.field ∈ FilterField.all := by
    obtain ⟨_, token, _, _, is, _⟩ := stands
    exact (is ▸ Lexeme.proper_ofToken token).1
  obtain ⟨found, run, base⟩ := hasValue_eq_ok searchable known c.values
  -- All tokens of the field agree on the parity of their `NOT`s, so any of them gives the sign.
  have sign : c.negated = true ↔ (Part.field c.field).Negated tokens := by
    rw [h.filters.negated_iff member]
    constructor
    · rintro ⟨n, vs, ⟨value, stands, _⟩, odd⟩
      exact ⟨n, value, stands, odd⟩
    · rintro ⟨n, value, stands, odd⟩
      obtain ⟨vs, reads⟩ := h.filtersRead n c.field value stands
      exact ⟨n, vs, ⟨value, stands, reads⟩, odd⟩
  have asks : found = true ↔ (Part.field c.field).Asks tokens i now := by
    rw [base]
    constructor
    · rintro ⟨v, inside, has⟩
      obtain ⟨n, vs, ⟨value, stands, reads⟩, inside⟩ := (h.filters.values c member v).mp inside
      exact ⟨n, value, stands, (exists_has_filterValues reads i).mp ⟨v, inside, has⟩⟩
    · rintro ⟨n, value, stands, listed⟩
      obtain ⟨vs, reads⟩ := h.filtersRead n c.field value stands
      obtain ⟨v, inside, has⟩ := (exists_has_filterValues reads i).mpr listed
      exact ⟨v, (h.filters.values c member v).mpr ⟨n, vs, ⟨value, stands, reads⟩, inside⟩, has⟩
  have outcome : Query.signed c.negated found = decide ((Part.field c.field).Holds tokens i now) := by
    rw [Bool.eq_iff_iff, decide_eq_true_iff]
    exact signed_eq_true sign asks
  rw [run, ← outcome]
  rfl

theorem time?_isNaive (searchable : i.isSearchable) (field : DateField) :
    (i.time? field).all Moment.isNaive :=
  Issue.time?_all_isNaive (Issue.isSearchable_iff.mp searchable).2 field

theorem time_eq_ok {field : DateField} (known : field ∈ DateField.all) :
    i.time field = .ok (i.time? field) := by
  cases field <;> first | rfl | simp [DateField.all] at known

/-- The ages that tokens write are short. -/
theorem isShort_of_hasShortAges (short : hasShortAges tokens) {n : Nat} {field : DateField}
    {value : List Char} (stands : Occurs tokens n (.date field value)) {bound : Bound}
    (writes : Bound.Writes value bound) : bound.IsShort := by
  obtain ⟨before, token, after, rfl, is, _⟩ := stands
  obtain ⟨t, reads⟩ := writes
  have each := List.all_eq_true.mp short token (by simp)
  simp only [is] at each
  intro age target
  rcases Bound.read_eq_ok.mp reads with ⟨isAge, rfl⟩ | ⟨_, _, date, _, rfl⟩
  · rw [String.toList_ofList] at isAge target
    cases target
    obtain ⟨⟨digits, unit⟩, parts⟩ := Option.isSome_iff_exists.mp isAge
    rw [parts] at each
    exact ⟨digits, unit, by rw [String.toList_ofList]; exact parts, of_decide_eq_true each⟩
  · cases target

open Classical in
/-- The outcomes of the conditions on times are those of the parts that the tokens write. -/
theorem Draft.Holds.boundOutcomes_eq (h : d.Holds tokens) (searchable : i.isSearchable)
    (naive : now.isNaive) (short : hasShortAges tokens) :
    Query.boundOutcomes i now d.bounds =
      .ok (d.bounds.map fun c => decide ((Part.time c.field).Holds tokens i now)) := by
  refine mapM_eq_ok_map fun c member => ?_
  obtain ⟨n, bs, value, bound, stands, writes, rfl⟩ := h.bounds.sound c member
  have known : c.field ∈ DateField.all := by
    obtain ⟨_, token, _, _, is, _⟩ := stands
    exact (is ▸ Lexeme.proper_ofToken token).1
  have shortBounds : ∀ b ∈ c.values, b.IsShort := by
    intro b inside
    obtain ⟨n, bs, ⟨value, bound, stands, writes, rfl⟩, inside⟩ := (h.bounds.values c member b).mp inside
    exact List.mem_singleton.mp inside ▸ isShort_of_hasShortAges short stands writes
  obtain ⟨all, run, base⟩ := Bound.allHold_eq_ok fun b inside =>
    Bound.holds_eq_ok (shortBounds b inside) naive (time?_isNaive searchable c.field)
  have sign : c.negated = true ↔ (Part.time c.field).Negated tokens := by
    rw [h.bounds.negated_iff member]
    constructor
    · rintro ⟨n, bs, ⟨value, bound, stands, _⟩, odd⟩
      exact ⟨n, value, stands, odd⟩
    · rintro ⟨n, value, stands, odd⟩
      obtain ⟨bound, writes⟩ := h.boundsRead n c.field value stands
      exact ⟨n, [bound], ⟨value, bound, stands, writes, rfl⟩, odd⟩
  have asks : all = true ↔ (Part.time c.field).Asks tokens i now := by
    rw [base]
    constructor
    · intro every n value b stands writes
      exact every b ((h.bounds.values c member b).mpr
        ⟨n, [b], ⟨value, b, stands, writes, rfl⟩, List.mem_singleton_self b⟩)
    · intro every b inside
      obtain ⟨n, bs, ⟨value, bound, stands, writes, rfl⟩, inside⟩ :=
        (h.bounds.values c member b).mp inside
      exact List.mem_singleton.mp inside ▸ every n value bound stands writes
  have outcome : Query.signed c.negated all = decide ((Part.time c.field).Holds tokens i now) := by
    rw [Bool.eq_iff_iff, decide_eq_true_iff]
    exact signed_eq_true sign asks
  simp only [time_eq_ok known]
  rw [← outcome]
  exact bind_eq_ok.mpr ⟨_, rfl, bind_eq_ok.mpr ⟨all, run, rfl⟩⟩

/-! ## All parts -/

/-- The parts of the query of a draft. -/
def Draft.parts (d : Draft) : List Part :=
  d.filters.map (fun c => Part.field c.field) ++ d.bounds.map (fun c => Part.time c.field) ++
    if d.query.text = "" then [] else [.text]

theorem Draft.Holds.text_eq (h : d.Holds tokens) : d.query.text = freeText tokens := by
  rw [freeText, ← h.text]
  rfl

/-- The parts of a draft are those that its tokens write. -/
theorem Draft.Holds.mem_parts (h : d.Holds tokens) (part : Part) :
    part ∈ d.parts ↔ part.Written tokens := by
  cases part with
  | field f =>
    have written : (∃ c ∈ d.filters, c.field = f) ↔ (Part.field f).Written tokens := by
      constructor
      · rintro ⟨c, member, rfl⟩
        obtain ⟨n, vs, value, stands, _⟩ := h.filters.sound c member
        exact ⟨n, value, stands⟩
      · rintro ⟨n, value, stands⟩
        obtain ⟨vs, reads⟩ := h.filtersRead n f value stands
        exact h.filters.complete n f vs ⟨value, stands, reads⟩
    rw [← written]
    simp [Draft.parts]
  | time f =>
    have written : (∃ c ∈ d.bounds, c.field = f) ↔ (Part.time f).Written tokens := by
      constructor
      · rintro ⟨c, member, rfl⟩
        obtain ⟨n, bs, value, bound, stands, _⟩ := h.bounds.sound c member
        exact ⟨n, value, stands⟩
      · rintro ⟨n, value, stands⟩
        obtain ⟨bound, writes⟩ := h.boundsRead n f value stands
        exact h.bounds.complete n f [bound] ⟨value, bound, stands, writes, rfl⟩
    rw [← written]
    simp [Draft.parts]
  | text => simp [Draft.parts, h.text_eq, Part.Written]

theorem combine_and_map {α : Type} (p : α → Bool) (xs : List α) :
    Query.combine .and (xs.map p) = true ↔ ∀ x ∈ xs, p x = true := by
  cases xs <;> simp [Query.combine]

theorem combine_or_map {α : Type} (p : α → Bool) (xs : List α) :
    Query.combine .or (xs.map p) = true ↔ ((∃ x, x ∈ xs) → ∃ x ∈ xs, p x = true) := by
  cases xs with
  | nil => simp [Query.combine]
  | cons x xs =>
    have some : ∃ y, y ∈ x :: xs := ⟨x, List.mem_cons_self⟩
    simp only [some, true_implies]
    simp [Query.combine]

open Classical in
/-- The outcomes of a draft's query are those of the parts that its tokens write. -/
theorem Draft.Holds.outcomes_eq (h : d.Holds tokens) (searchable : i.isSearchable)
    (naive : now.isNaive) (short : hasShortAges tokens) :
    d.query.outcomes i now = .ok (d.parts.map fun part => decide (part.Holds tokens i now)) := by
  have mentions : i.mentions d.query.text = decide (Part.text.Holds tokens i now) := by
    rw [Bool.eq_iff_iff, decide_eq_true_iff]
    rw [Issue.mentions, Text.holds_iff, h.text_eq]
    simp [Part.Holds, Part.Negated, Part.Asks, Issue.searchText, Issue.textOrEmpty]
  refine bind_eq_ok.mpr ⟨_, h.filterOutcomes_eq searchable now, bind_eq_ok.mpr ⟨_,
    h.boundOutcomes_eq searchable naive short, ?_⟩⟩
  by_cases empty : d.query.text = ""
  · simp [Draft.parts, empty, Function.comp_def]
    rfl
  · simp [Draft.parts, empty, mentions, Function.comp_def]
    rfl

end

/-- A parsed query is tried on a searchable issue without failing, and is satisfied exactly when the
    meaning that is read off its tokens holds of the issue. -/
theorem accepts_parseQuery {raw : String} {q : Query} (parsed : parseQuery raw = .ok q)
    {i : Issue} (searchable : i.isSearchable) {now : Moment} (naive : now.isNaive)
    (short : hasShortAges (tokenize raw.toList)) :
    ∃ accepted, q.accepts i now = .ok accepted ∧
      (accepted = true ↔ Meaning (tokenize raw.toList) i now) := by
  obtain ⟨d, read, free, rfl⟩ := parseQuery_eq_ok.mp parsed
  have h := readTokens_holds read
  refine ⟨_, bind_eq_ok.mpr ⟨_, h.outcomes_eq searchable naive short, rfl⟩, ?_⟩
  have connective : d.query.connective = (connectives (tokenize raw.toList)).getLast?.getD .and := by
    rw [← h.connective]
    rfl
  rw [Meaning, ← connective]
  cases d.query.connective with
  | and => simp only [combine_and_map, decide_eq_true_iff, h.mem_parts]
  | or => simp only [combine_or_map, decide_eq_true_iff, h.mem_parts]

/-- A bug without the labels that are ruled out is tried on a query with a cancelled `NOT`, an odd
    one before quoted labels, an age, an `OR` and a phrase. -/
theorem accepts_parseQuery_ruledOutLabels :
    ∃ q, parseQuery "NOT NOT type:Bug NOT label:\"a, b\" updated:<7d OR \"login  error\"" = .ok q ∧
      ({ title := some "Crash", type := some "bug", labels := .ofNames ["c"] } : Issue).isSearchable ∧
      Moment.earliest.isNaive ∧
      hasShortAges (tokenize
        "NOT NOT type:Bug NOT label:\"a, b\" updated:<7d OR \"login  error\"".toList) ∧
      ∃ accepted,
        q.accepts { title := some "Crash", type := some "bug", labels := .ofNames ["c"] } .earliest =
          .ok accepted ∧
        (accepted = true ↔ Meaning
          (tokenize "NOT NOT type:Bug NOT label:\"a, b\" updated:<7d OR \"login  error\"".toList)
          { title := some "Crash", type := some "bug", labels := .ofNames ["c"] } .earliest) :=
  ⟨_, rfl, by decide, by decide, by decide +kernel,
    accepts_parseQuery rfl (by decide) (by decide) (by decide +kernel)⟩

end IssueTracker
