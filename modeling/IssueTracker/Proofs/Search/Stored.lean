import IssueTracker.Proofs.Query.Writing
import IssueTracker.Proofs.Search
import IssueTracker.Proofs.Store.History

/-!
# Searching what was stored

After every history the issues are listed by id and can be searched (`History.exists_holds`).  Their
assignees, branches and labels are stored without blanks around them, and a query reads a value in
quotes as it is.  So the issues that have a value are found by it, unless it has quotes in it or is a
label with a comma (`History.run_search_value`).
-/

namespace IssueTracker

instance (i : Issue) (field : FilterField) (value : String) : Decidable (i.Has field value) :=
  match field with
  | .labels => inferInstanceAs (Decidable (some value ∈ i.labels.getD []))
  | .type => inferInstanceAs (Decidable (Text.lower (i.type.getD "") = Text.lower value))
  | .status => inferInstanceAs (Decidable (Text.lower (i.status.getD "") = Text.lower value))
  | .priority => inferInstanceAs (Decidable (Text.lower (i.priority.getD "") = Text.lower value))
  | .assignee => inferInstanceAs (Decidable (i.assignee.getD "" = value))
  | .branch => inferInstanceAs (Decidable (i.branch.getD "" = value))
  | .other _ => inferInstanceAs (Decidable False)

/-! ## Queries of one condition -/

section
variable {raw : String} {field : FilterField} {values : List String} {negated : Bool}

/-- A token with values of a field writes the condition that the field has one of them. -/
theorem parseQuery_token {token value : List Char} (single : tokenize raw.toList = [token])
    (is : Lexeme.ofToken token = .filter field value) (reads : filterValues field value = .ok values) :
    parseQuery raw = .ok { filters := [⟨field, distinct values, false⟩] } := by
  let d : Draft := { filters := [⟨field, distinct values, false⟩] }
  have step : Draft.step {} token = .ok d := (Draft.Reads.filter is rfl reads).step_eq
  refine parseQuery_eq_ok.mpr ⟨d, ?_, rfl, rfl⟩
  rw [single, readTokens, List.foldlM_cons, step]
  rfl

/-- A token for a field is read just when its values are. -/
theorem parseQuery_token_eq_ok {token value : List Char} (single : tokenize raw.toList = [token])
    (is : Lexeme.ofToken token = .filter field value) {q : Query} :
    parseQuery raw = .ok q ↔ ∃ values, filterValues field value = .ok values ∧
      q = { filters := [⟨field, distinct values, false⟩] } := by
  constructor
  · intro parsed
    obtain ⟨d, read, _⟩ := parseQuery_eq_ok.mp parsed
    rw [single, readTokens, List.foldlM_cons] at read
    obtain ⟨_, step, _⟩ := bind_eq_ok.mp read
    obtain ⟨values, reads⟩ : ∃ values, filterValues field value = .ok values := by
      cases Draft.reads_of_step step with
      | filter same _ reads =>
        cases is.symm.trans same
        exact ⟨_, reads⟩
      | _ same => cases is.symm.trans same
    rw [parseQuery_token single is reads] at parsed
    cases parsed
    exact ⟨values, reads, rfl⟩
  · rintro ⟨values, reads, rfl⟩
    exact parseQuery_token single is reads

/-- A field with a value in quotes is one token. -/
theorem tokenize_quotedValue {value : String} (known : field ∈ FilterField.all)
    (unquoted : '"' ∉ value.toList) : tokenize (field.name ++ ":\"" ++ value ++ "\"").toList =
      [quotedToken field.name value.toList] := by
  have token : (field.name ++ ":\"" ++ value ++ "\"").toList = quotedToken field.name value.toList := by
    simp [quotedToken, String.toList_append]
  have member : quotedToken field.name value.toList ∈
      signedToken false (quotedToken field.name value.toList) := List.mem_singleton.mpr rfl
  obtain ⟨whole, filled⟩ := whole_signedToken (FilterField.letters_name known) unquoted member
  rw [token, tokenize_whole whole filled]

/-- A value in quotes is read as it is, where the field allows it. -/
theorem parseQuery_value {value : String} (known : field ∈ FilterField.all)
    (allows : field.Allows value) : parseQuery (field.name ++ ":\"" ++ value ++ "\"") =
      .ok { filters := [⟨field, [value], false⟩] } :=
  parseQuery_token (tokenize_quotedValue known allows.unquoted)
    (ofToken_filterToken known allows.unquoted) (filterValues_of_allows allows)

theorem accepts_condition {i : Issue} {found : Bool} (compares : i.hasValue field values = .ok found)
    (limit : Option Int) (now : Moment) :
    ({ filters := [⟨field, values, negated⟩], limit } : Query).accepts i now =
      .ok (found != negated) := by
  simp only [Query.accepts, Query.outcomes, Query.filterOutcomes, Query.boundOutcomes, List.mapM_cons,
    List.mapM_nil, compares]
  simp [bind, Except.bind, pure, Except.pure, Query.combine, Query.signed]

end

/-! ## Issues that were stored -/

/-- The issues of a database that are listed smallest id first, all of them proper and searchable. -/
structure Database.Holds (db : Database) (issues : List Issue) (ids : List Int) : Prop where
  listed : db.list none = .ok issues
  numbered : issues.map (·.id) = ids.map some
  ascending : ids.Pairwise (· < ·)
  proper : ∀ i ∈ issues, i.IsProper
  searchable : ∀ i ∈ issues, i.isSearchable

namespace Database.Holds
variable {db : Database} {issues : List Issue} {ids : List Int}

theorem inOrder (holds : db.Holds issues ids) :
    issues.Pairwise fun a b => a.id.getD 0 ≤ b.id.getD 0 := by
  have less : (issues.map (·.id)).Pairwise fun a b => a.getD 0 ≤ b.getD 0 := by
    rw [holds.numbered, List.pairwise_map]
    exact holds.ascending.imp Int.le_of_lt
  rwa [List.pairwise_map] at less

/-- Behind a limit of zero, a condition answers the issues that satisfy it, smallest id first. -/
theorem search_condition (holds : db.Holds issues ids) {raw : String} {field : FilterField}
    {values : List String} {negated : Bool} (known : field ∈ FilterField.all)
    (parsed : parseQuery raw = .ok { filters := [⟨field, values, negated⟩] }) (now : Moment)
    (defaultLimit : Int) :
    let found := issues.filter fun i => (values.any fun v => i.Has field v) != negated
    Search.run db (raw ++ " limit:0") now defaultLimit = .ok ⟨found, found.length⟩ := by
  refine Search.run_eq_filter (parseQuery_append_unlimited parsed) rfl rfl holds.listed holds.inOrder ?_
  intro i member
  obtain ⟨found, compares, means⟩ := hasValue_eq_ok (holds.searchable i member) known values
  have same : found = values.any fun v => i.Has field v := by
    rw [Bool.eq_iff_iff, means]
    simp
  rw [accepts_condition compares, same]

end Database.Holds

theorem isTrimmed_of_has {i : Issue} (proper : i.IsProper) {field : FilterField}
    (isText : field ∈ [FilterField.assignee, .branch, .labels]) {value : String}
    (has : i.Has field value) : Text.strip value = value := by
  simp only [List.mem_cons, List.not_mem_nil, or_false] at isText
  rcases isText with rfl | rfl | rfl
  · obtain ⟨assignee, is, trimmed⟩ := proper.assignee
    have same : assignee = value := by simpa [Issue.Has, is] using has
    exact same ▸ trimmed
  · obtain ⟨branch, is, trimmed⟩ := proper.branch
    have same : branch = value := by simpa [Issue.Has, is] using has
    exact same ▸ trimmed
  · obtain ⟨names, is, _, proper⟩ := proper.labels
    have member : value ∈ names := by simpa [Issue.Has, is, LabelList.ofNames] using has
    exact (proper value member).trimmed

namespace History

theorem exists_holds (steps : List Step) : ∃ issues ids, (run steps).database.Holds issues ids := by
  obtain ⟨s, isReady, sound, _⟩ := run_induction (motive := fun _ _ _ => True) trivial
    (fun _ _ _ _ _ _ _ _ _ => trivial) (fun _ _ _ _ _ => trivial) steps
  have each : ∀ r ∈ s.records, ∃ i, s.issueOf r = .ok i ∧
      (some r.id = i.id ∧ i.IsProper ∧ i.isSearchable) := by
    intro r member
    obtain ⟨created, updated, closed, times⟩ := sound.times r member
    refine ⟨_, times.issueOf s, rfl, r.isProper_issue (sound.proper r member) times sound.labels, ?_⟩
    have naive : (closed.map Moment.wholeSecond).all Moment.isNaive := by
      have before : closed.all Moment.isNaive := times.closedNaive
      cases closed with
      | none => rfl
      | some m => exact before
    -- Stored times have no offset, and that of closing is read to the whole second.
    refine Issue.isSearchable_iff.mpr ⟨rfl, ?_⟩
    simp only [Issue.hasNaiveTimes, Bool.and_eq_true]
    exact ⟨⟨times.createdNaive, times.updatedNaive⟩, naive⟩
  obtain ⟨issues, listed, related⟩ := Database.list_related each
  have ids : s.records.map (fun r => some r.id) = issues.map (·.id) :=
    map_eq_map_of_forall₂ (related.imp fun _ _ holds => holds.1)
  refine ⟨issues, s.records.map (·.id), isReady ▸ listed, ?_, sound.ascending, ?_, ?_⟩
  · rw [← ids, List.map_map]
    rfl
  · intro i member
    obtain ⟨_, _, holds⟩ := exists_of_mem_right related member
    exact holds.2.1
  · intro i member
    obtain ⟨_, _, holds⟩ := exists_of_mem_right related member
    exact holds.2.2

/-- After every history, the search for an assignee, a branch or a label that some issue has, in quotes
    and with a limit of zero, answers all issues that have it, smallest id first, whatever the value
    looks like: it may not have quotes in it nor, for a label, commas. -/
theorem run_search_value (steps : List Step) :
    ∃ (issues : List Issue) (ids : List Int), (run steps).database.list none = .ok issues ∧
      issues.map (·.id) = ids.map some ∧ ids.Pairwise (· < ·) ∧
      ∀ field ∈ [FilterField.assignee, .branch, .labels], ∀ i ∈ issues, ∀ value, i.Has field value →
        value ≠ "" → '"' ∉ value.toList → (field = .labels → ',' ∉ value.toList) →
        ∀ now defaultLimit,
          let found := issues.filter fun i => i.Has field value
          Search.run (run steps).database (field.name ++ ":\"" ++ value ++ "\" limit:0") now
            defaultLimit = .ok ⟨found, found.length⟩ := by
  obtain ⟨issues, ids, holds⟩ := exists_holds steps
  refine ⟨issues, ids, holds.listed, holds.numbered, holds.ascending, ?_⟩
  intro field isText i member value has filled unquoted single now defaultLimit
  have trimmed := isTrimmed_of_has (holds.proper i member) isText has
  have known : field ∈ FilterField.all ∧ field.vocabulary? = none := by
    simp only [List.mem_cons, List.not_mem_nil, or_false] at isText
    rcases isText with rfl | rfl | rfl <;> decide
  -- A query strips the value that it reads, which changes nothing as it was stripped when stored.
  have allows : field.Allows value := by
    refine ⟨filled, trimmed, unquoted, ?_, single⟩
    intro words vocabulary
    cases known.2.symm.trans vocabulary
  have answers := holds.search_condition known.1 (parseQuery_value known.1 allows) now defaultLimit
  have ending : "\" limit:0" = "\"" ++ " limit:0" := rfl
  rw [ending, ← String.append_assoc]
  simpa using answers

/-- An assignee that looks like a query is found. -/
theorem run_search_value_keywords :
    let db := (run [
      ⟨.create { title := some "Crash", assignee := some " NOT\nlimit: 1 " }, .earliest, rfl⟩,
      ⟨.create { title := some "Freeze" }, .earliest, rfl⟩]).database
    ∃ i, i.id = some 1 ∧ Search.run db "assignee:\"NOT\nlimit: 1\" limit:0" .earliest 50 =
      .ok ⟨[i], 1⟩ := by
  intro db
  obtain ⟨issues, ids, listed, _, _, answers⟩ := run_search_value [
    ⟨.create { title := some "Crash", assignee := some " NOT\nlimit: 1 " }, .earliest, rfl⟩,
    ⟨.create { title := some "Freeze" }, .earliest, rfl⟩]
  have assigned := answers .assignee (by decide)
  cases listed
  exact ⟨_, rfl, assigned _ List.mem_cons_self "NOT\nlimit: 1" (by decide +kernel) (by decide) (by decide)
    (by decide) .earliest 50⟩

end History

end IssueTracker
