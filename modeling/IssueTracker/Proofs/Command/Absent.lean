import Mathlib.Data.Nat.Digits.Defs
import IssueTracker.Proofs.Command.Unsupported
import IssueTracker.Proofs.Json.Number
import IssueTracker.Proofs.Project
import IssueTracker.Proofs.Store.Lookup

/-!
# Issues that are not there

An id that no issue has is looked up before anything is changed.  One that the database can hold is not
found, which the commands report; any other is refused by the database itself, and that is a fault of
every command about one issue (`absent_reported`).
-/

namespace IssueTracker

/-! ## Operations -/

/-- Why there is no issue with an id: none has it, or none can. -/
def absence (id : Int) : StoreError := if fitsId id then .issueNotFound id else .hugeId

namespace Database
variable {s : Store} {id : Int} {now : Moment}

theorem get_absent (absent : id ∉ s.ids) : (ready s).get id = .error (absence id) := by
  have finds : (ready s).find? id = if fitsId id then .ok none else .error .hugeId :=
    Store.find?_of_absent (Store.notMem_ids_iff.mp absent)
  rw [get, finds, absence]
  split <;> rfl

theorem update_absent (absent : id ∉ s.ids) (c : Changes) :
    (ready s).update id c now = .error (absence id) :=
  bind_eq_error.mpr (Or.inl (get_absent absent))

theorem setStatus_absent (absent : id ∉ s.ids) {status : Option String}
    (valid : Text.lower (Text.strip (status.getD "")) ∈ statuses) :
    (ready s).setStatus id status now = .error (absence id) := by
  refine bind_eq_error.mpr (Or.inr ⟨_, Vocabulary.check_eq_ok.mpr ⟨rfl, valid⟩, ?_⟩)
  exact bind_eq_error.mpr (Or.inl (get_absent absent))

theorem remove_absent (absent : id ∉ s.ids) :
    (ready s).remove id = if fitsId id then .ok (false, ready s) else .error .hugeId := by
  have isNone : (s.record? id).isSome = false := by rw [Store.notMem_ids_iff.mp absent]; rfl
  by_cases fits : fitsId id
  · rw [if_pos fits]
    exact remove_eq_ok.mpr ⟨s, s, rfl, Store.delete_eq_ok.mpr ⟨fits, isNone, rfl⟩, rfl⟩
  · rw [if_neg fits]
    refine bind_eq_error.mpr (Or.inr ⟨s, rfl, bind_eq_error.mpr (Or.inl ?_)⟩)
    simp [Store.delete, fits]

theorem delete_absent (absent : id ∉ s.ids) : (ready s).delete id = .error (absence id) := by
  rw [delete, remove_absent absent, absence]
  split <;> rfl

end Database

/-! ## Requests -/

/-- A request about the issue with an id; a status that is asked for is one of the vocabulary. -/
inductive Request.AsksFor (id : Int) : Request → Prop
  | get : AsksFor id (.get id)
  | update (c : Changes) : AsksFor id (.update id c)
  | setStatus {status : Option String} (valid : Text.lower (Text.strip (status.getD "")) ∈ statuses) :
      AsksFor id (.setStatus id status)
  | close : AsksFor id (.close id)
  | reopen : AsksFor id (.reopen id)
  | delete : AsksFor id (.delete id)

namespace Project
variable {p : Project} {file : String} {s : Store} {id : Int}

theorem changeIssue_error {e : StoreError} : p.changeIssue file id (.error e) = (.error (.store e), p) := rfl

/-- Such a request fails and changes nothing. -/
theorem handle_absent [Json.Nesting] (isReady : p.database file = .ready s) (absent : id ∉ s.ids)
    {request : Request} (asks : request.AsksFor id) : p.handle file request = (.error (.store (absence id)), p) := by
  cases asks with
  | get =>
    rw [handle, isReady]
    simp only [Database.get_absent absent]
    rfl
  | update c => rw [handle, isReady, Database.update_absent absent, changeIssue_error]
  | setStatus valid => rw [handle, isReady, Database.setStatus_absent absent valid, changeIssue_error]
  | close =>
    rw [handle, isReady, Database.close, Database.setStatus_absent absent (by decide), changeIssue_error]
  | reopen =>
    rw [handle, isReady, Database.reopen, Database.setStatus_absent absent (by decide), changeIssue_error]
  | delete =>
    rw [handle, isReady, Database.remove_absent absent, absence]
    by_cases fits : fitsId id
    · -- Nothing was deleted, and the store is kept as it was before this is answered.
      rw [if_pos fits, if_pos fits, change]
      simp only [setDatabase_eq_self isReady]
      rfl
    · rw [if_neg fits, if_neg fits]
      rfl

end Project

/-! ## Commands -/

/-- A command about the issue with an id; a deletion is confirmed. -/
inductive Command.AsksFor (id : Int) : Command → Prop
  | inspect (format : Format) : AsksFor id (.inspect id format)
  | edit (c : Changes) : AsksFor id (.edit id c)
  | setStatus {status : String} (valid : Text.lower (Text.strip status) ∈ statuses) :
      AsksFor id (.setStatus id status)
  | close : AsksFor id (.close id)
  | reopen : AsksFor id (.reopen id)
  | delete : AsksFor id (.delete id true)

namespace Run
variable {s : Session} {root : Path} {wanted : Command} {store : Store} {id : Int}

/-- The commands that also report refused values report of an absent issue what the others do. -/
theorem refused_absence : refused isAboutEither s (absence id) = refused isAboutId s (absence id) := by
  rw [absence]
  split <;> rfl

theorem command_absent [Json.Nesting] {asked : Option Path} (there : s.workspace.isDirectory root)
    (isReady : s.workspace.database (ProjectPaths.ofRoot root).database = .ready store)
    (absent : id ∉ store.ids) (asks : wanted.AsksFor id) :
    (command asked (some root) wanted).run s =
      (.error (refused isAboutId s (absence id)).1, (refused isAboutId s (absence id)).2) := by
  cases asks with
  | inspect format =>
    rw [command, run_bind_ok (projectPaths_run there), inspect, run_bind_ok database_eq, isReady]
    exact stored_error (Database.get_absent absent) _
  | edit c =>
    rw [command, run_bind_ok (projectPaths_run there), ← refused_absence]
    exact run_bind_error (change_error isReady (Database.update_absent absent c))
  | setStatus valid =>
    rw [command, run_bind_ok (projectPaths_run there), ← refused_absence]
    exact run_bind_error (change_error isReady (Database.setStatus_absent absent valid))
  | close =>
    rw [command, run_bind_ok (projectPaths_run there)]
    exact run_bind_error (change_error isReady (Database.setStatus_absent absent (by decide)))
  | reopen =>
    rw [command, run_bind_ok (projectPaths_run there)]
    exact run_bind_error (change_error isReady (Database.setStatus_absent absent (by decide)))
  | delete =>
    rw [command, run_bind_ok (projectPaths_run there), delete]
    simp only [Bool.not_true, Bool.false_eq_true, if_false]
    rw [run_bind_ok database_eq, isReady]
    exact stored_error (Database.delete_absent absent) _

end Run

/-! ## Messages -/

theorem message_issueNotFound (id : Int) :
    (StoreError.issueNotFound id).message = "Issue " ++ toString id ++ " not found" := rfl

/-- The line that reports it. -/
theorem line_issueNotFound (id : Int) : "Error: " ++ (StoreError.issueNotFound id).message ++ "\n" =
    "Error: Issue " ++ toString id ++ " not found\n" := by
  rw [message_issueNotFound, ← String.toList_inj]
  simp only [String.toList_append, List.append_assoc]
  rfl

/-- The characters of messages about ids. -/
def issueNotFoundChars : List Char := "Issue not found-0123456789".toList

theorem mem_issueNotFound {id : Int} {c : Char} (member : c ∈ (StoreError.issueNotFound id).message.toList) :
    c ∈ issueNotFoundChars := by
  have fixed : ("Issue ".toList ++ " not found".toList).all issueNotFoundChars.contains = true := by decide
  rw [List.all_append, Bool.and_eq_true_iff, List.all_eq_true, List.all_eq_true] at fixed
  rw [message_issueNotFound, String.toList_append, String.toList_append, Json.toList_integer,
    List.mem_append, List.mem_append, List.mem_append] at member
  rcases member with (about | sign | digit) | rest
  · exact List.contains_iff_mem.mp (fixed.1 c about)
  · rw [Json.signText] at sign
    split at sign
    · rw [List.mem_singleton.mp sign]
      decide
    · cases sign
  · obtain ⟨k, single, rfl⟩ := Text.exists_digit_of_mem_toDigits digit
    have each : ∀ k < 10, Nat.digitChar k ∈ issueNotFoundChars := by decide
    exact each k single
  · exact List.contains_iff_mem.mp (fixed.2 c rest)

theorem isPlain_issueNotFound (id : Int) : Terminal.IsPlain (StoreError.issueNotFound id).message.toList := by
  refine Terminal.isPlain_of_notMem ?_ ?_ ?_
  · exact fun member => absurd (mem_issueNotFound member) (by decide)
  · exact fun member => absurd (mem_issueNotFound (List.dropLast_subset _ member)) (by decide)
  · have printed : issueNotFoundChars.any Terminal.isStripped = false := by decide
    rw [List.any_eq_false] at printed ⊢
    exact fun c member => printed c (mem_issueNotFound member)

/-- The message about an id that the database can hold takes one line. -/
theorem length_issueNotFound {id : Int} (fits : fitsId id) :
    ("Error: " ++ (StoreError.issueNotFound id).message).length ≤ 44 := by
  have digits : (Nat.toDigits 10 id.natAbs).length ≤ 19 := by
    refine Nat.toDigits_length 10 id.natAbs 19 (by decide) ?_
    simp only [fitsId, Bool.and_eq_true, decide_eq_true_eq] at fits
    omega
  have number : (toString id).length ≤ 20 := by
    rw [← String.length_toList, Json.toList_integer, List.length_append, Json.signText]
    split
    · rw [List.length_singleton]
      omega
    · rw [List.length_nil]
      omega
  rw [message_issueNotFound, String.length_append, String.length_append, String.length_append]
  have fixed : "Error: ".length = 7 ∧ "Issue ".length = 6 ∧ " not found".length = 10 := by decide
  omega

theorem Session.printing_issueNotFound {id : Int} (fits : fitsId id) (s : Session) :
    s.printing ("Error: " ++ (StoreError.issueNotFound id).message).toList =
      s.writing ("Error: Issue " ++ toString id ++ " not found\n").toList := by
  have oneLine : ({ columns := Terminal.screenColumns } : Terminal.Arrangement).layOut
      ("Error: " ++ (StoreError.issueNotFound id).message).toList =
      [("Error: " ++ (StoreError.issueNotFound id).message).toList] := by
    have short := length_issueNotFound fits
    refine Terminal.Arrangement.layOut_short ?_ ?_ ?_
    · rw [String.length_toList, Terminal.screenColumns]
      omega
    all_goals
      rw [String.toList_append, List.mem_append, not_or]
      exact ⟨by decide, fun member => absurd (mem_issueNotFound member) (by decide)⟩
  rw [Session.printing, oneLine, Session.writing, ← line_issueNotFound, String.toList_append]
  simp

/-- An id that no issue has: whatever the size and sign, every request about the issue fails and changes
    nothing, and so does every command.  If the database can hold the id, the issue is not found, and the
    command says so and exits with code 1.  If not, the command prints nothing and ends with the fault of
    the database. -/
theorem absent_reported [Json.Nesting] {s : Store} {id : Int} (absent : id ∉ s.ids) :
    (∀ (p : Project) (file : String) (request : Request), p.database file = .ready s → request.AsksFor id →
      p.handle file request = (.error (.store (if fitsId id then .issueNotFound id else .hugeId)), p)) ∧
    ∀ (w : Workspace) (arguments : List String) (root : Path) (wanted : Command) (input : List Char),
      CarriesOut w arguments root wanted → w.database (ProjectPaths.ofRoot root).database = .ready s →
      wanted.AsksFor id →
      w.run input arguments =
        if fitsId id then
          (.exit 1, { workspace := w, input, output := s!"Error: Issue {id} not found\n".toList })
        else (.fault (.failure (.store .hugeId)), { workspace := w, input }) := by
  constructor
  · intro p file request isReady asks
    exact Project.handle_absent isReady absent asks
  · intro w arguments root wanted input carries isReady asks
    have ends : w.run input arguments = Run.refused Run.isAboutId { workspace := w, input } (absence id) := by
      obtain ⟨asked, carriesOut⟩ := Run.commandLine_run (s := { workspace := w, input }) carries
      rw [Workspace.run, carriesOut,
        Run.command_absent (s := { workspace := w, input }) carries.there isReady absent asks]
    rw [ends, absence]
    by_cases fits : fitsId id
    · rw [if_pos fits, if_pos fits, Run.refused]
      have shows := Terminal.shown_error_isPlain (isPlain_issueNotFound id)
      simp only [Run.isAboutId, if_true, Run.failed, shows, Session.printing_issueNotFound fits]
      rfl
    · rw [if_neg fits, if_neg fits]
      rfl

/-- The sixth and the eighth issue, of which one has a label. -/
private def aroundSeventh : Store where
  records :=
    [⟨6, "Crash", "", "bug", "open", "high", "", "", "2024-03-01T12:00:00", "2024-03-01T12:00:00", none⟩,
      ⟨8, "Menu", "", "task", "done", "low", "ada", "", "2024-03-02T12:00:00", "2024-03-02T12:00:00",
        some "2024-03-02T12:00:00"⟩]
  labels := [⟨1, "ui"⟩]
  attachments := [⟨8, 1⟩]
  lastRecord := 8
  lastLabel := 1

private def projectAroundSeventh : Workspace where
  tree := ⟨[([".issuemap"], .directory), ([".issuemap", "issues.db"], .database (.ready aroundSeventh))]⟩
  here := []
  clock := .earliest
  user := ""

/-- Between two other issues the seventh is not found: a change of it fails, moving it to a status is reported,
    and the other issues stay. -/
theorem absent_reported_seventh :
    let p : Project := { databases := [("issues.db", .ready aroundSeventh)], clock := .earliest }
    let w := projectAroundSeventh
    7 ∉ aroundSeventh.ids ∧ aroundSeventh.ids = [6, 8] ∧ p.database "issues.db" = .ready aroundSeventh ∧
      p.handle "issues.db" (.update 7 { title := some "Crash" }) = (.error (.store (.issueNotFound 7)), p) ∧
      CarriesOut w ["status", "7", " Done"] ⟨1, [".issuemap"]⟩ (.setStatus 7 " Done") ∧
      w.database (ProjectPaths.ofRoot ⟨1, [".issuemap"]⟩).database = .ready aroundSeventh ∧
      w.run [] ["status", "7", " Done"] =
        (.exit 1, { workspace := w, input := [],
                    output := ("Error: Issue " ++ "7" ++ " not found\n").toList }) := by
  intro p w
  have absent : 7 ∉ aroundSeventh.ids := by decide
  have isReady : p.database "issues.db" = .ready aroundSeventh := by decide +kernel
  have carries : CarriesOut w ["status", "7", " Done"] ⟨1, [".issuemap"]⟩ (.setStatus 7 " Done") :=
    .of_missing { name := "status", arguments := ["7", " Done"] } (by decide +kernel) (by decide +kernel) rfl
      (by decide +kernel) (by decide +kernel) (by decide +kernel)
  have keeps : w.database (ProjectPaths.ofRoot ⟨1, [".issuemap"]⟩).database = .ready aroundSeventh := by
    decide +kernel
  have valid : Text.lower (Text.strip " Done") ∈ statuses := by decide
  obtain ⟨requests, commands⟩ := absent_reported absent
  exact ⟨absent, rfl, isReady, requests p "issues.db" _ isReady (.update _), carries, keeps,
    commands _ _ _ _ [] carries keeps (.setStatus valid)⟩

/-- An id of one more than the database can hold is not reported: the database refuses it. -/
theorem absent_beyondIds :
    let id : Int := 9223372036854775808
    let p := Project.fresh .missing .earliest
    id ∉ Store.ids {} ∧ p.database "issues.db" = .ready {} ∧
      p.handle "issues.db" (.get id) = (.error (.store .hugeId), p) ∧
      (p.handle "issues.db" (.get id)).1 ≠ .error (.store (.issueNotFound id)) ∧
      CarriesOut emptyProject ["show", "9223372036854775808"] ⟨1, [".issuemap"]⟩ (.inspect id .table) ∧
      emptyProject.run [] ["show", "9223372036854775808"] =
        (.fault (.failure (.store .hugeId)), { workspace := emptyProject, input := [] }) := by
  intro id p
  have absent : id ∉ Store.ids {} := by simp [Store.ids]
  have fails : p.handle "issues.db" (.get id) = (.error (.store .hugeId), p) :=
    Project.handle_absent rfl absent .get
  have carries : CarriesOut emptyProject ["show", "9223372036854775808"] ⟨1, [".issuemap"]⟩
      (.inspect id .table) :=
    carriesOut_emptyProject { name := "show", arguments := ["9223372036854775808"] }
      (by decide +kernel) (by decide +kernel) rfl
  refine ⟨absent, rfl, fails, ?_, carries, ?_⟩
  · rw [fails]
    intro same
    cases same
  · let start : Session := { workspace := emptyProject, input := [] }
    obtain ⟨asked, carriesOut⟩ := Run.commandLine_run (s := start) carries
    have ends : (Run.command asked (some ⟨1, [".issuemap"]⟩) (.inspect id .table)).run start =
        (.error (.fault (.failure (.store .hugeId))), start) :=
      Run.command_absent carries.there database_emptyProject absent (.inspect _)
    rw [Workspace.run, carriesOut, ends]

end IssueTracker
