import Mathlib.Data.Int.Interval
import IssueTracker.Proofs.Command.Reached
import IssueTracker.Proofs.Report.Document
import IssueTracker.Proofs.Search
import IssueTracker.Proofs.Settings.RoundTrip

/-!
# Output for programs

What a command prints in JSON is one document and a line end, which is read as the value that the command is
to show (`output_json`); only a search that is saved prints more.  This holds in every tree that calls of the
program reach, for there the ids of issues are numbers that can be read back.
-/

namespace IssueTracker

open Json (IsReadAs)

/-! ## Numbers of issues -/

/-- There are no more different ids than the database can hold. -/
theorem length_le_of_fits {ids : List Int} (distinct : ids.Nodup) (fits : ∀ id ∈ ids, fitsId id) :
    ids.length ≤ 2 ^ 64 := by
  have within : ids.toFinset ⊆ Finset.Icc (-9223372036854775808) 9223372036854775807 := by
    intro id member
    exact Finset.mem_Icc.mpr (fitsId_iff.mp (fits id (List.mem_toFinset.mp member)))
  have size := Finset.card_le_card within
  rw [List.toFinset_card_of_nodup distinct, Int.card_Icc] at size
  omega

theorem cutOff_sublist {α : Type} (limit : Option Int) (members : List α) :
    (cutOff limit members).Sublist members := by
  cases limit with
  | none => exact .refl members
  | some limit =>
    rw [cutOff]
    split
    · exact .refl members
    · split <;> exact List.take_sublist _ members

namespace Store.IsConsistent
variable {s : Store}

theorem fitsId_issueOf (consistent : s.IsConsistent) {r : Record} (member : r ∈ s.records) {i : Issue}
    (reads : s.issueOf r = .ok i) : i.FitsId := by
  intro id given
  rw [(issueOf_eq_ok reads).1] at given
  rw [← Option.some.inj given]
  exact consistent.fits r.id (List.mem_map_of_mem member)

theorem fits_issues (consistent : s.IsConsistent) {issues : List Issue} (reads : s.issues = .ok issues) :
    (∀ i ∈ issues, i.FitsId) ∧ issues.length ≤ 2 ^ 64 := by
  have each := mapM_eq_ok.mp reads
  constructor
  · intro i member
    obtain ⟨r, there, is⟩ := exists_of_mem_right each member
    exact consistent.fitsId_issueOf there is
  · have distinct : s.ids.Nodup := consistent.ascending.imp fun less => ne_of_lt less
    have most := length_le_of_fits distinct consistent.fits
    rwa [ids, List.length_map, each.length_eq] at most

end Store.IsConsistent

namespace Database.IsConsistent
variable {db : Database} (consistent : db.IsConsistent)
include consistent

theorem fits_list {status : Option String} {found : List Issue} (listed : db.list status = .ok found) :
    ∀ i ∈ found, i.FitsId := by
  obtain ⟨s, isReady, listed⟩ := bind_eq_ok.mp listed
  obtain ⟨issues, reads, listed⟩ := bind_eq_ok.mp listed
  obtain ⟨fits, _⟩ := (consistent s (issueStore_eq_ok.mp isReady)).fits_issues reads
  split at listed
  · cases listed
    exact fits
  · cases listed
    exact fits
  · obtain ⟨word, _, listed⟩ := bind_eq_ok.mp listed
    cases listed
    exact fun i member => fits i (List.mem_filter.mp member).1

theorem fits_get {id : Int} {i : Issue} (there : db.get id = .ok i) : i.FitsId := by
  obtain ⟨s, isReady, finds⟩ := get_eq_ok.mp there
  rw [Store.find?] at finds
  split at finds
  · obtain ⟨r, found, is⟩ := optionMapM_eq_ok_some.mp finds
    exact (consistent s isReady).fitsId_issueOf (List.mem_of_find?_eq_some found) is
  · cases finds

theorem fits_execute {q : Query} {now : Moment} {limit : Int} {r : SearchResult}
    (runs : Search.execute db q now limit = .ok r) :
    (∀ i ∈ r.issues, i.FitsId) ∧ r.total ≤ 2 ^ 64 ∧ r.count ≤ 2 ^ 64 := by
  obtain ⟨issues, listed, runs⟩ := Search.execute_eq_ok.mp runs
  obtain ⟨s, isReady, reads⟩ := Search.list_none_eq_ok.mp listed
  obtain ⟨fits, most⟩ := (consistent s (issueStore_eq_ok.mp isReady)).fits_issues reads
  obtain ⟨selected, arranged, selects, arranges, rfl⟩ := Search.execute_withDefaultLimit.mp runs
  have accepted := Query.of_select_eq_ok selects
  have perm := Query.perm_of_arrange arranges
  have some := cutOff_sublist (Search.withDefaultLimit q limit).limit arranged
  have total : selected.length ≤ issues.length := accepted ▸ List.length_filter_le _ issues
  have count : (cutOff (Search.withDefaultLimit q limit).limit arranged).length ≤ selected.length :=
    some.length_le.trans perm.length_eq.le
  refine ⟨fun i member => ?_, total.trans most, count.trans (total.trans most)⟩
  exact fits i (mem_of_mem_select selects (perm.mem_iff.mp (some.subset member)))

end Database.IsConsistent

/-! ## Answers -/

/-- A value that a command is to show is read back as it is, where the tables hold together and its texts
    consist of characters. -/
theorem Workspace.Answers.isReadAs [Json.Nesting] {w : Workspace} (consistent : w.tree.IsConsistent)
    {project : Option Path} {wanted : Command} {answer : Json}
    (answers : w.Answers project wanted answer) (plain : answer.IsPlain) {room : Nat} :
    IsReadAs (room + 4) answer answer := by
  have sound (path : Path) := w.isConsistent_database consistent path
  cases answers with
  | @list root status all format found listed =>
    have fits := (sound _).fits_list listed
    refine isReadAs_issues fun i member => fits i ?_
    rw [listing] at member
    split at member
    · exact (List.mem_filter.mp member).1
    · exact member
  | labels used => exact Json.isReadAs_strings _
  | inspect there => exact Issue.isReadAs_document ((sound _).fits_get there)
  | search parsed isLimit runs =>
    obtain ⟨fits, total, count⟩ := (sound _).fits_execute runs
    exact SearchResult.isReadAs_document _ fits total count
  | explain parsed => exact (wellFormed_of_parseQuery parsed).isReadAs_document
  | runSearch saved parsed isLimit runs =>
    obtain ⟨fits, total, count⟩ := (sound _).fits_execute runs
    exact SearchResult.isReadAs_document _ fits total count
  | listSearches saved =>
    obtain ⟨settings, loads, saved⟩ := bind_eq_ok.mp saved
    cases saved
    exact Json.isReadAs_texts (Settings.isStorable_of_load (mapError_eq_ok.mp loads)).saved
      (Json.isPlain_texts.mp plain)

/-- The format of an issue alone is not checked: in one that is not known it is shown as in a table. -/
theorem Workspace.run_inspect_other [Json.Nesting] {w : Workspace} {arguments table : List String}
    {line tableLine : CommandLine} {id : Int} {name : String} (reads : CommandLine.read arguments = .ok line)
    (readsTable : CommandLine.read table = .ok tableLine)
    (same : tableLine.directory = line.directory ∧ tableLine.plain = line.plain)
    (wants : Command.read line.name line.arguments = .ok (.inspect id (.other name)))
    (wantsTable : Command.read tableLine.name tableLine.arguments = .ok (.inspect id .table))
    (input : List Char) : w.run input arguments = w.run input table := by
  have alike : Run.commandLine arguments = Run.commandLine table := by
    rw [Run.commandLine, Run.commandLine, reads, readsTable]
    dsimp only
    rw [wants, wantsTable, same.1, same.2]
    rfl
  rw [Workspace.run, Workspace.run, alike]

/-- In every tree that calls of the program reach, a command that is to show an answer in JSON and exits with
    code 0 prints the value that it is to show and a line end.  What is printed is read as exactly that value.
    Only a search that is saved says so behind it.  With a format that is neither JSON nor that of a table a
    command that shows an answer exits with code 1; an issue alone is shown in any format. -/
theorem output_json [Json.Nesting] {w : Workspace} {arguments : List String} {line : CommandLine}
    {wanted : Command} (reached : w.tree.Reached) (reads : CommandLine.read arguments = .ok line)
    (wants : Command.read line.name line.arguments = .ok wanted) (input : List Char) :
    (wanted.format? = some .json → (w.run input arguments).1 = .exit 0 → ∃ answer said,
      w.Answers (line.directory.or (w.find none)) wanted answer ∧
      (w.run input arguments).2.output = answer.chars 0 ++ '\n' :: said ∧
      Json.read (answer.chars 0 ++ ['\n']) = .ok answer ∧ (wanted.saveAs = "" → said = [])) ∧
    ∀ name, wanted.format? = some (.other name) → (∀ id, wanted ≠ .inspect id (.other name)) →
      (w.run input arguments).1.code = 1 := by
  let start : Session := { workspace := w, input }
  have shows {format : Format} (isFormat : wanted.format? = some format) :=
    Run.Meets.outcome (Run.commandLine_meets (s := start) reads wants Run.refuses (Run.command_shows isFormat))
  constructor
  · intro isJson exits
    rcases shows isJson with ⟨_, shown⟩ | refused
    · obtain ⟨answer, said, answers, plain, output, unnamed⟩ := shown.json isJson
      have back : IsReadAs Json.Nesting.limit answer answer := by
        obtain ⟨room, isLimit⟩ := Json.exists_limit
        rw [isLimit]
        exact answers.isReadAs reached.isConsistent plain
      exact ⟨answer, said, answers, output, Json.read_chars_append back (.of_cons (by decide) []) rfl, unnamed⟩
    · have code := refused.code
      rw [exits] at code
      simp [Ending.code] at code
  · intro name isOther notInspect
    rcases shows isOther with ⟨_, shown⟩ | refused
    · obtain ⟨id, isInspect⟩ := shown.known name isOther
      exact absurd isInspect (notInspect id)
    · rcases refused.code with one | ⟨_, known⟩
      · exact one
      · exact absurd isOther (known name)

/-! ## A project with one issue -/

private def nothingYet : Workspace where
  tree := {}
  here := []
  clock := .earliest
  user := ""

private def started : Workspace := (nothingYet.run [] ["init"]).2.workspace

private def oneIssue : Workspace := (started.run [] ["create", "say \"hi\""]).2.workspace

private theorem reached_oneIssue : oneIssue.tree.Reached := by
  have call {w w' : Workspace} (arguments : List String) (is : w' = (w.run [] arguments).2.workspace)
      (before : w.tree.Reached) : w'.tree.Reached := is ▸ .call before [] arguments
  have empty : nothingYet.tree.Reached := .start fun _ _ => List.not_mem_nil
  have initialized : started.tree.Reached := call ["init"] (by rw [started]) empty
  exact call ["create", "say \"hi\""] (by rw [oneIssue]) initialized

/-- A listing of an issue with quotes in its title is read back, and in a format that is not known it fails. -/
theorem output_json_quotes :
    oneIssue.tree.Reached ∧
    CommandLine.read ["list", "--format", "json"] = .ok { name := "list", arguments := ["--format", "json"] } ∧
    Command.read "list" ["--format", "json"] = .ok (.list none false .json) ∧
    (∃ answer, oneIssue.Answers (some ⟨1, [".issuemap"]⟩) (.list none false .json) answer ∧
      (oneIssue.run [] ["list", "--format", "json"]).2.output = answer.chars 0 ++ ['\n'] ∧
      Json.read (oneIssue.run [] ["list", "--format", "json"]).2.output = .ok answer) ∧
    (oneIssue.run [] ["list", "--format", "xml"]).1.code = 1 := by
  have reads (format : String) : CommandLine.read ["list", "--format", format] =
      .ok { name := "list", arguments := ["--format", format] } := by
    rfl
  have json : Command.read "list" ["--format", "json"] = .ok (.list none false .json) := by decide
  have xml : Command.read "list" ["--format", "xml"] = .ok (.list none false (.other "xml")) := by decide
  have ⟨found, exits⟩ : oneIssue.find none = some ⟨1, [".issuemap"]⟩ ∧
      (oneIssue.run [] ["list", "--format", "json"]).1 = .exit 0 := by
    decide +kernel
  obtain ⟨answer, said, answers, output, back, unnamed⟩ :=
    (output_json reached_oneIssue (reads "json") json []).1 rfl exits
  rw [unnamed rfl] at output
  rw [Option.none_or, found] at answers
  refine ⟨reached_oneIssue, reads "json", json, ⟨answer, answers, output, output ▸ back⟩, ?_⟩
  exact (output_json reached_oneIssue (reads "xml") xml []).2 "xml" rfl nofun

/-- Where a search is saved, what is printed in JSON cannot be read; and with a format that is not known an
    issue is shown as without one. -/
theorem output_json_savedSearch :
    oneIssue.tree.Reached ∧
    Command.read "search" ["type:task", "--format", "json", "--save", "tasks"] =
      .ok (.search "type:task" { format := .json } (some "tasks")) ∧
    (oneIssue.run [] ["search", "type:task", "--format", "json", "--save", "tasks"]).1 = .exit 0 ∧
    (∀ value, Json.read (oneIssue.run [] ["search", "type:task", "--format", "json", "--save", "tasks"]).2.output ≠
      .ok value) ∧
    Command.read "show" ["1", "--format", "xml"] = .ok (.inspect 1 (.other "xml")) ∧
    oneIssue.run [] ["show", "1", "--format", "xml"] = oneIssue.run [] ["show", "1"] := by
  have ⟨saves, fails⟩ :
      (oneIssue.run [] ["search", "type:task", "--format", "json", "--save", "tasks"]).1 = .exit 0 ∧
      (Json.read (oneIssue.run [] ["search", "type:task", "--format", "json", "--save", "tasks"]).2.output
        ).toOption.isNone := by
    decide +kernel
  have inspects : Command.read "show" ["1", "--format", "xml"] = .ok (.inspect 1 (.other "xml")) := by decide
  have shows : Command.read "show" ["1"] = .ok (.inspect 1 .table) := by decide
  have reads : CommandLine.read ["show", "1", "--format", "xml"] =
      .ok { name := "show", arguments := ["1", "--format", "xml"] } := rfl
  have readsTable : CommandLine.read ["show", "1"] = .ok { name := "show", arguments := ["1"] } := rfl
  refine ⟨reached_oneIssue, by decide, saves, fun value reads => ?_, inspects, ?_⟩
  · rw [reads] at fails
    cases fails
  · exact Workspace.run_inspect_other reads readsTable ⟨rfl, rfl⟩ inspects shows []

end IssueTracker
