import IssueTracker.Proofs.Command.Session
import IssueTracker.Proofs.Search.Stored

/-!
# Listing and searching by status

Issues can be listed by status, and they can be searched for it.  A status in any case is read the same in
both, also with blanks behind it (`parseQuery_status`), and stored statuses are words of the vocabulary.
So the two agree after every history, and so do the list without a status and the empty query, and what
the list command shows without options and the query that rules out `done` and `closed`
(`History.list_eq_search`).  A status with blanks before it can be listed but not searched for
(`History.search_blankBeforeStatus`).
-/

namespace IssueTracker

/-! ## Statuses in a query -/

/-- An accepted status is one word: there are neither quotes nor blanks in it. -/
theorem isWordChar_of_check {s word : String} (checks : Vocabulary.status.check (some s) = .ok word) :
    ∀ c ∈ Text.trim s.toList, isWordChar c = true := by
  obtain ⟨lowered, isStatus⟩ := Vocabulary.check_eq_ok.mp checks
  have chars : Text.lowerChars (Text.trim s.toList) = word.toList := by
    rw [← lowered]
    simp [Text.lower, Text.strip]
  have plain : ∀ w ∈ statuses, w.toList.all isWordChar = true := by decide
  have all := List.all_eq_true.mp (plain word isStatus)
  intro c member
  by_contra other
  -- Lowering leaves blanks and quotes as they are, so the word would have this one.
  have kept : c ∈ word.toList := by
    rw [← chars]
    by_cases blank : Text.isBlank c
    · exact Text.mem_lowerChars_of_isBlank member blank
    · have quote : c = '"' := by simpa [isWordChar, blank] using other
      subst quote
      exact Text.mem_lowerAfter member (by decide) (Text.lowerChar_ascii '"' (by decide)) false
  exact other (all c kept)

/-- An accepted status that starts with no blank is read in a query. -/
theorem parseQuery_status {s word : String} (checks : Vocabulary.status.check (some s) = .ok word)
    (first : ∀ c, s.toList.head? = some c → Text.isBlank c = false) :
    parseQuery ("status:" ++ s) = .ok { filters := [⟨.status, [word], false⟩] } := by
  obtain ⟨lowered, isStatus⟩ := Vocabulary.check_eq_ok.mp checks
  have plain := isWordChar_of_check checks
  have unquoted : '"' ∉ Text.trim s.toList := fun member => absurd (plain _ member) (by decide)
  have whole : Whole ("status".toList ++ ':' :: Text.trim s.toList) :=
    .append (whole_of_letters (by decide))
      (.plain (by decide) (by decide) (whole_of_all (List.all_eq_true.mpr plain)))
  -- Blanks behind the status end the token and are dropped, as the status is stripped for listing.
  have single : tokenize ("status:" ++ s).toList = ["status".toList ++ ':' :: Text.trim s.toList] := by
    obtain ⟨blanks, split, blank⟩ := Text.exists_eq_trim_append first
    have text : ("status:" ++ s).toList = "status".toList ++ ':' :: Text.trim s.toList ++ blanks := by
      rw [String.toList_append]
      simpa using split
    rw [text, tokenize_whole_blanks whole (by simp) blank]
  have is : Lexeme.ofToken ("status".toList ++ ':' :: Text.trim s.toList) =
      .filter .status (Text.trim s.toList) := by
    rw [ofToken_named (by decide) (by decide)]
    exact congrArg (Lexeme.filter _) (unquote_eq_self unquoted)
  have reads : filterValues .status (Text.trim s.toList) = .ok [word] := by
    have read : String.ofList (Text.lowerChars (Text.trim (Text.trim s.toList))) = word := by
      rw [← lowered]
      simp [Text.lower, Text.strip]
    have known : statuses.contains word = true := List.contains_iff_mem.mpr isStatus
    simp only [filterValues, FilterField.vocabulary?, read, known, if_true]
  exact parseQuery_token single is reads

/-! ## Listing -/

theorem Database.list_some_eq_ok {db : Database} {issues : List Issue} (listed : db.list none = .ok issues)
    {s word : String} (checks : Vocabulary.status.check (some s) = .ok word) :
    db.list (some s) = .ok (issues.filter (·.status == some word)) := by
  have filled : s ≠ "" := by
    rintro rfl
    obtain ⟨rfl, isStatus⟩ := Vocabulary.check_eq_ok.mp checks
    exact absurd isStatus (by decide)
  obtain ⟨store, isReady, reads⟩ := Search.list_none_eq_ok.mp listed
  refine bind_eq_ok.mpr ⟨store, isReady, bind_eq_ok.mpr ⟨issues, reads, ?_⟩⟩
  split
  · rename_i same
    cases same
  · rename_i same
    exact absurd (Option.some.inj same) filled
  · rename_i status same
    cases same
    exact bind_eq_ok.mpr ⟨word, checks, rfl⟩

namespace Run
variable {s : Session} {db : Database}

/-- Shows issues in a format. -/
def showIssues (issues : List Issue) (format : Format) : Run Unit :=
  match format with
  | .json => printJson (.array (issues.map Issue.document))
  | .other _ => checkFormat format
  | .table =>
    if issues.isEmpty then print "No issues found." else writeShown (issueTable issues).lines

theorem database_run {path : Path}
    (there : s.workspace.tree.find? s.workspace.here path = some (.database db)) :
    (database path).run s = (.ok db, s) := by
  have entry : (entryAt? path).run s = (.ok (some (.database db)), s) := by
    rw [entryAt?, run_bind_ok workspace_run, there]
    rfl
  rw [database, run_bind_ok entry]
  rfl

/-- The list command shows the issues that it finds, those of a status or all or those that are not done
    or closed. -/
theorem list_run {paths : ProjectPaths} {status : Option String} {all : Bool} {format : Format}
    {found : List Issue}
    (there : s.workspace.tree.find? s.workspace.here paths.database = some (.database db))
    (listed : db.list status = .ok found) :
    (list paths status all format).run s = (showIssues
      (if status.getD "" = "" && !all then found.filter fun i => !isClosing (i.status.getD "") else found)
      format).run s := by
  have answers : (stored isAboutValue (db.list status)).run s = (.ok found, s) := by
    rw [listed]
    rfl
  rw [list, run_bind_ok (database_run there), run_bind_ok answers]
  cases format <;> rfl

end Run

/-! ## Agreement -/

theorem has_status_iff {i : Issue} (proper : i.IsProper) {word : String} (known : word ∈ statuses) :
    i.Has .status word ↔ i.status = some word := by
  obtain ⟨status, isStatus, is, _⟩ := proper.status
  have lowered {w : String} (member : w ∈ statuses) : Text.lower w = w :=
    lower_of_mem_vocabulary (rfl : FilterField.status.vocabulary? = some statuses) member
  simp [Issue.Has, is, lowered isStatus, lowered known]

namespace Database.Holds
variable {db : Database} {issues : List Issue} {ids : List Int}

theorem search_status (holds : db.Holds issues ids) {s word : String}
    (checks : Vocabulary.status.check (some s) = .ok word)
    (first : ∀ c, s.toList.head? = some c → Text.isBlank c = false) (now : Moment) (defaultLimit : Int) :
    let found := issues.filter (·.status == some word)
    Search.run db ("status:" ++ s ++ " limit:0") now defaultLimit = .ok ⟨found, found.length⟩ := by
  have known := (Vocabulary.check_eq_ok.mp checks).2
  have answers := holds.search_condition (by decide) (parseQuery_status checks first) now defaultLimit
  have same : (issues.filter fun i => ([word].any fun v => i.Has .status v) != false) =
      issues.filter (·.status == some word) := by
    refine List.filter_congr fun i member => ?_
    rw [Bool.eq_iff_iff]
    simp [has_status_iff (holds.proper i member) known]
  rw [same] at answers
  exact answers

theorem search_empty (holds : db.Holds issues ids) (now : Moment) {defaultLimit : Int}
    (absent : defaultLimit ≤ 0) : Search.run db "" now defaultLimit = .ok ⟨issues, issues.length⟩ := by
  have unlimited : (Search.withDefaultLimit {} defaultLimit).limit.getD 0 = 0 := by
    rw [Search.withDefaultLimit, if_neg fun limits => absurd limits.2 (Int.not_lt.mpr absent)]
    rfl
  have parsed : parseQuery "" = .ok {} := rfl
  have accepted : ∀ i ∈ issues, ({} : Query).accepts i now = .ok true := fun _ _ => rfl
  have answers := Search.run_eq_filter parsed rfl unlimited holds.listed holds.inOrder accepted
  simpa using answers

theorem search_unfinished (holds : db.Holds issues ids) (now : Moment) (defaultLimit : Int) :
    let active := issues.filter fun i => !isClosing (i.status.getD "")
    Search.run db "NOT status:done NOT status:closed limit:0" now defaultLimit =
      .ok ⟨active, active.length⟩ := by
  have parsed : parseQuery "NOT status:done NOT status:closed" =
      .ok { filters := [⟨.status, ["done", "closed"], true⟩] } := rfl
  have answers := holds.search_condition (by decide) parsed now defaultLimit
  have same : (issues.filter fun i => (["done", "closed"].any fun v => i.Has .status v) != true) =
      issues.filter fun i => !isClosing (i.status.getD "") := by
    refine List.filter_congr fun i member => ?_
    obtain ⟨status, _, is, _⟩ := (holds.proper i member).status
    have has {w : String} (known : w ∈ statuses) : i.Has .status w ↔ status = w := by
      rw [has_status_iff (holds.proper i member) known, is, Option.some.injEq]
    rw [Bool.eq_iff_iff]
    simp [has (by decide : "done" ∈ statuses), has (by decide : "closed" ∈ statuses), is, isClosing]
  rw [same] at answers
  exact answers

end Database.Holds

namespace History

/-- After every history, a status that is accepted and starts with no blank is searched for with the same
    outcome as it is listed; so are all issues with the empty query, and with the query that rules
    out `done` and `closed` those that the list command shows without options. -/
theorem list_eq_search [Json.Nesting] (steps : List Step) :
    let db := (run steps).database
    ∃ issues active, db.list none = .ok issues ∧
      (∀ s word, Vocabulary.status.check (some s) = .ok word →
        (∀ c, s.toList.head? = some c → Text.isBlank c = false) →
        ∃ found, db.list (some s) = .ok found ∧ ∀ now defaultLimit,
          Search.run db ("status:" ++ s ++ " limit:0") now defaultLimit = .ok ⟨found, found.length⟩) ∧
      (∀ now defaultLimit, defaultLimit ≤ 0 →
        Search.run db "" now defaultLimit = .ok ⟨issues, issues.length⟩) ∧
      (∀ now defaultLimit, Search.run db "NOT status:done NOT status:closed limit:0" now defaultLimit =
        .ok ⟨active, active.length⟩) ∧
      ∀ asked root format session, session.workspace.isDirectory root →
        session.workspace.tree.find? session.workspace.here (ProjectPaths.ofRoot root).database =
          some (.database db) →
        (Run.command asked (some root) (.list none false format)).run session =
          (Run.showIssues active format).run session := by
  intro db
  obtain ⟨issues, ids, holds⟩ := exists_holds steps
  refine ⟨issues, _, holds.listed, ?_, ?_, holds.search_unfinished, ?_⟩
  · intro s word checks first
    exact ⟨_, Database.list_some_eq_ok holds.listed checks, holds.search_status checks first⟩
  · intro now defaultLimit absent
    exact holds.search_empty now absent
  · intro asked root format session there stored
    rw [Run.command, Run.run_bind_ok (Run.projectPaths_run there), Run.list_run stored holds.listed]
    rfl

/-- One issue is open and one closed, and a status is given in capitals with a tab behind it. -/
theorem list_eq_search_capitals :
    let db := (run [
      ⟨.create { title := some "Crash" }, .earliest, rfl⟩,
      ⟨.create { title := some "Freeze" }, .earliest, rfl⟩, ⟨.close 2, .earliest, rfl⟩]).database
    let session : Session := {
      workspace := {
        tree := ⟨[([".issuemap"], .directory), ([".issuemap", "issues.db"], .database db)]⟩
        here := [], clock := .earliest, user := "" }
      input := [] }
    ∃ found active, db.list (some "OPEN\t") = .ok found ∧ found.map (·.id) = [some 1] ∧
      Search.run db "status:OPEN\t limit:0" .earliest 50 = .ok ⟨found, found.length⟩ ∧
      (∃ all, Search.run db "" .earliest 0 = .ok all ∧ all.total = 2) ∧
      Search.run db "NOT status:done NOT status:closed limit:0" .earliest 50 =
        .ok ⟨active, active.length⟩ ∧
      (Run.command none (some ⟨1, [".issuemap"]⟩) (.list none false .json)).run session =
        (Run.showIssues active .json).run session := by
  intro db session
  obtain ⟨issues, active, listed, byStatus, everything, unfinished, shows⟩ := list_eq_search [
    ⟨.create { title := some "Crash" }, .earliest, rfl⟩,
    ⟨.create { title := some "Freeze" }, .earliest, rfl⟩, ⟨.close 2, .earliest, rfl⟩]
  have first : ∀ c, "OPEN\t".toList.head? = some c → Text.isBlank c = false := by
    rintro c ⟨⟩
    decide
  obtain ⟨found, lists, answers⟩ := byStatus "OPEN\t" "open" (by decide +kernel) first
  refine ⟨found, active, lists, ?_, answers .earliest 50, ⟨_, everything .earliest 0 (by decide), ?_⟩,
    unfinished .earliest 50, shows none _ .json session (by decide +kernel) (by decide +kernel)⟩
  · cases lists
    decide +kernel
  · cases listed
    rfl

/-- A status with a blank before it can be listed, but the blank ends the condition of a query. -/
theorem search_blankBeforeStatus :
    let db := (run [⟨.create { title := some "Crash" }, .earliest, rfl⟩]).database
    (∃ found, db.list (some " open") = .ok found ∧ found.map (·.id) = [some 1]) ∧
      ∀ now defaultLimit, Search.run db "status: open limit:0" now defaultLimit =
        .error (.rejected (.query (.invalidValue "status" "" statuses))) := by
  intro db
  refine ⟨⟨_, rfl, ?_⟩, fun now defaultLimit => rfl⟩
  decide +kernel

end History

end IssueTracker
