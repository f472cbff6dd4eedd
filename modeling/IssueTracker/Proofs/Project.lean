import IssueTracker.Project
import IssueTracker.Proofs.Settings.SavedSearch
import IssueTracker.Proofs.Store.Readable

/-!
# Requests that fail

A change is kept before its answer is read, so a request could fail after it has changed the project.
None changes a database: what a change leaves can be read (`Project.IsReadable`), so every failure comes
before the change (`Project.handle_isAtomic`).  But settings that cannot be written as a whole are cut
off.  Hence the requests that fail otherwise can be left out of a run: the others are answered as before
(`Project.run_succeeding`).
-/

namespace IssueTracker

/-- A failure behind which the settings file is cut off. -/
def Failure.cutsOff : Failure → Bool
  | .saved (.unencodable _) => true
  | _ => false

namespace Project

/-- All databases of the project can be read. -/
def IsReadable (p : Project) : Prop := ∀ file ∈ p.databases, file.2.IsReadable

/-- An outcome of a request: a failure has changed nothing, unless it cuts the settings file off, and
    what is there afterwards can be read. -/
structure IsAtomic {α : Type} (p : Project) (outcome : Except Failure α × Project) : Prop where
  readable : outcome.2.IsReadable
  unchanged : ∀ failure, outcome.1 = .error failure → failure.cutsOff = false → outcome.2 = p

variable {p : Project} {file : String}

theorem isReadable_database (readable : p.IsReadable) (file : String) :
    (p.database file).IsReadable := by
  rw [database]
  cases named : fileName? file with
  | none =>
    rintro s ⟨⟩
  | some name =>
    intro s isReady
    cases found : p.databases.find? (·.1 == name) with
    | none => simp [found] at isReady
    | some member =>
      have stored : member.2 = .ready s := by simpa [found] using isReady
      exact readable member (List.mem_of_find?_eq_some found) s stored

theorem isReadable_setDatabase (readable : p.IsReadable) {db : Database} (after : db.IsReadable) :
    (p.setDatabase file db).IsReadable := by
  rw [setDatabase]
  cases named : fileName? file with
  | none => exact readable
  | some name =>
    intro member inside
    rcases Json.mem_setMember inside with rfl | old
    · exact after
    · exact readable member old

/-- Keeping a store that is there already changes nothing. -/
theorem setDatabase_eq_self {s : Store} (isReady : p.database file = .ready s) :
    p.setDatabase file (.ready s) = p := by
  rw [setDatabase]
  rw [database] at isReady
  cases named : fileName? file with
  | none => rfl
  | some name =>
    rw [named] at isReady
    have found : p.databases.find? (·.1 == name) = some (name, .ready s) := by
      cases finds : p.databases.find? (·.1 == name) with
      | none => simp [finds] at isReady
      | some member =>
        have same : member.1 = name := by simpa using List.find?_some finds
        have stored : member.2 = .ready s := by simpa [finds] using isReady
        rw [← same, ← stored]
    simp only [Json.setMember_of_find?_eq_some found]

/-! ## One request -/

section
variable {α : Type}

/-- What only reads changes nothing. -/
theorem isAtomic_read (readable : p.IsReadable) (reply : Except Failure α) : p.IsAtomic (reply, p) :=
  ⟨readable, fun _ _ _ => rfl⟩

theorem isAtomic_ok {p' : Project} (readable : p'.IsReadable) (reply : α) :
    p.IsAtomic (.ok reply, p') :=
  ⟨readable, fun _ failed _ => by cases failed⟩

/-- A change of a database is atomic if it leaves a readable one, and an answer that fails comes of a
    change that has left the project as it was. -/
theorem isAtomic_change (readable : p.IsReadable) {changed : Except StoreError (α × Database)}
    {reply : α → Database → Except StoreError Reply}
    (after : ∀ made db, changed = .ok (made, db) → db.IsReadable ∧
      ((∃ answer, reply made db = .ok answer) ∨ p.setDatabase file db = p)) :
    p.IsAtomic (p.change file changed reply) := by
  cases changes : changed with
  | error error => exact isAtomic_read readable _
  | ok made =>
    obtain ⟨made, db⟩ := made
    obtain ⟨readableAfter, answers⟩ := after made db changes
    refine ⟨isReadable_setDatabase readable readableAfter, fun failure fails _ => ?_⟩
    rcases answers with ⟨answer, replies⟩ | same
    · rw [change] at fails
      dsimp only at fails
      rw [replies] at fails
      cases fails
    · exact same

theorem isAtomic_changeIssue (readable : p.IsReadable) {id : Int} {changed : Except StoreError Database}
    (after : ∀ db, changed = .ok db → db.IsReadable ∧ ∃ i, db.get id = .ok i) :
    p.IsAtomic (p.changeIssue file id changed) := by
  refine isAtomic_change readable fun _ db changes => ?_
  obtain ⟨db', changes, same⟩ := map_eq_ok.mp changes
  cases same
  obtain ⟨readableAfter, i, finds⟩ := after db changes
  exact ⟨readableAfter, Or.inl ⟨.issue i, bind_eq_ok.mpr ⟨i, finds, rfl⟩⟩⟩

theorem isAtomic_changeSettings (readable : p.IsReadable) (changed : Except SavedError Written) :
    p.IsAtomic (p.changeSettings changed) := by
  cases changed with
  | error error => exact isAtomic_read readable _
  | ok written =>
    refine ⟨readable, fun failure fails whole => ?_⟩
    cases faulty : written.fault with
    | none => simp [changeSettings, SettingsFile.change, Written.outcome, faulty, Except.map,
        Except.mapError] at fails
    | some fault =>
      simp only [changeSettings, SettingsFile.change, Written.outcome, faulty, Except.map,
        Except.mapError, Except.error.injEq] at fails
      cases fails
      cases whole

end

/-- Every request either succeeds or changes nothing. -/
theorem handle_isAtomic [Json.Nesting] (readable : p.IsReadable) (file : String) (request : Request) :
    p.IsAtomic (p.handle file request) := by
  have before := isReadable_database readable file
  cases request with
  | createTables =>
    refine isAtomic_change readable fun _ db changes => ?_
    obtain ⟨_, creates, same⟩ := map_eq_ok.mp changes
    cases same
    exact ⟨Database.isReadable_createTables before creates, Or.inl ⟨.done, rfl⟩⟩
  | setClock now =>
    refine isAtomic_ok ?_ Reply.done
    exact readable
  | create issue =>
    refine isAtomic_change readable fun id db creates => ?_
    obtain ⟨after, i, finds⟩ := Database.create_readable before creates
    exact ⟨after, Or.inl ⟨.issue i, bind_eq_ok.mpr ⟨i, finds, rfl⟩⟩⟩
  | update id changes =>
    exact isAtomic_changeIssue readable fun _ updates => Database.update_readable before updates
  | setStatus id status =>
    exact isAtomic_changeIssue readable fun _ sets => Database.setStatus_readable before sets
  | close id =>
    exact isAtomic_changeIssue readable fun _ closes => Database.setStatus_readable before closes
  | reopen id =>
    exact isAtomic_changeIssue readable fun _ opens => Database.setStatus_readable before opens
  | delete id =>
    refine isAtomic_change readable fun found db removes => ?_
    obtain ⟨after, unchanged⟩ := Database.remove_readable before removes
    refine ⟨after, ?_⟩
    cases found with
    | true => exact Or.inl ⟨.done, rfl⟩
    | false =>
      -- The one failure behind a change: nothing was deleted, and what is kept was there before.
      obtain ⟨s, isReady, rfl⟩ := unchanged rfl
      exact Or.inr (setDatabase_eq_self isReady)
  | insert issue =>
    refine isAtomic_change readable fun id _ inserts => ?_
    exact ⟨(Database.insert_readable before inserts).1, Or.inl ⟨.id id, rfl⟩⟩
  | assign id fields labels =>
    refine isAtomic_change readable fun _ _ changes => ?_
    obtain ⟨_, assigns, same⟩ := map_eq_ok.mp changes
    cases same
    exact ⟨Database.assign_readable before assigns, Or.inl ⟨.done, rfl⟩⟩
  | assignStatus id status =>
    refine isAtomic_change readable fun previous _ assigns => ?_
    exact ⟨(Database.assignStatus_readable before assigns).1, Or.inl ⟨.text previous, rfl⟩⟩
  | remove id =>
    refine isAtomic_change readable fun found _ removes => ?_
    exact ⟨(Database.remove_readable before removes).1, Or.inl ⟨.found found, rfl⟩⟩
  | saveSearch name raw => exact isAtomic_changeSettings readable _
  | deleteSearch name => exact isAtomic_changeSettings readable _
  | writeSettings content =>
    refine isAtomic_ok ?_ Reply.done
    exact readable
  | get | list | labels | find | search | execute | loadSearch | savedSearches | runSaved | settings
    | readSettings => exact isAtomic_read readable _

/-! ## Calls on the saved searches -/

end Project

/-- A request that makes a call on the saved searches. -/
inductive Request.IsCall : Request → SavedSearch.Call → Prop
  | save (name : Option AnyText) (raw : AnyText) :
    IsCall (.saveSearch name raw) (.save (name.getD "") raw)
  | delete (name : AnyText) : IsCall (.deleteSearch name) (.delete name)

/-- A request that brings no half of a surrogate pair into the settings. -/
def Request.IsPlain [Json.Nesting] : Request → Prop
  | .saveSearch name raw => (name.getD "").IsPlain ∧ raw.IsPlain
  | .writeSettings content => ∀ s, Settings.load (.content content) = .ok s → s.IsPlain
  | _ => True

namespace Project
variable {p : Project} {file : String} {request : Request} {call : SavedSearch.Call}

section
variable [Json.Nesting]

theorem handle_call (p : Project) (file : String) (calls : request.IsCall call) :
    p.handle file request = p.changeSettings (call.perform p.settings) := by
  cases calls <;> rfl

theorem isPlain_call (calls : request.IsCall call) (plain : request.IsPlain) : call.IsPlain := by
  cases calls with
  | save name raw => exact plain
  | delete name => trivial

/-- The settings of the project, if they are accepted, have no halves of surrogate pairs. -/
def HasPlainSettings (p : Project) : Prop := ∀ s, Settings.load p.settings = .ok s → s.IsPlain

/-- A call brings no halves into settings that have none, and so does not cut them off. -/
theorem changeSettings_isPlain (plain : p.HasPlainSettings) (callPlain : call.IsPlain) :
    (p.changeSettings (call.perform p.settings)).2.HasPlainSettings ∧
      ∀ failure, (p.changeSettings (call.perform p.settings)).1 = .error failure →
        failure.cutsOff = false := by
  have refused {e : SavedError} (refuses : call.perform p.settings = .error e)
      (other : ∀ fault, e ≠ .unencodable fault) :
      (p.changeSettings (call.perform p.settings)).2.HasPlainSettings ∧
        ∀ failure, (p.changeSettings (call.perform p.settings)).1 = .error failure →
          failure.cutsOff = false := by
    rw [refuses]
    refine ⟨plain, ?_⟩
    rintro _ ⟨⟩
    cases e with
    | unencodable fault => exact absurd rfl (other fault)
    | nameRequired | notFound | settings => rfl
  cases accepted : Settings.load p.settings with
  | error e =>
    obtain ⟨_, refuses, other⟩ := SavedSearch.perform_error accepted call
    exact refused refuses other
  | ok s =>
    cases SavedSearch.ends accepted call with
    | refused refuses other => exact refused refuses other
    | @written settings s' _ _ ends accepted' _ isPlain =>
      have done : p.changeSettings (call.perform p.settings) = (.ok .done, { p with settings }) := by
        rw [changeSettings, ends]
        rfl
      rw [done]
      refine ⟨fun s'' accepted'' => ?_, by simp⟩
      obtain rfl : s'' = s' := Except.ok.inj (accepted''.symm.trans accepted')
      exact isPlain
    | cut broken => exact absurd (SavedSearch.isPlain_after (plain s accepted) callPlain) broken

end

/-! ## Other requests -/

section
variable {α : Type}

/-- Of a failure in a step that only reads the settings, nothing is cut off. -/
theorem cutsOff_of_saved {x : Except SavedError α} (reads : ∀ fault, x ≠ .error (.unencodable fault))
    {failure : Failure} (fails : x.mapError .saved = .error failure) : failure.cutsOff = false := by
  obtain ⟨e, isError, rfl⟩ := mapError_eq_error.mp fails
  cases e with
  | unencodable fault => exact absurd isError (reads fault)
  | nameRequired | notFound | settings => rfl

theorem cutsOff_of_store {x : Except StoreError α} {failure : Failure}
    (fails : x.mapError .store = .error failure) : failure.cutsOff = false := by
  obtain ⟨e, _, rfl⟩ := mapError_eq_error.mp fails
  rfl

end

theorem settings_ne_unencodable [Json.Nesting] (file : SettingsFile) (fault : EncodeFault) :
    SavedSearch.settings file ≠ .error (.unencodable fault) := by
  rw [SavedSearch.settings]
  cases Settings.load file <;> simp [Except.mapError]

theorem load_ne_unencodable [Json.Nesting] (file : SettingsFile) (name : AnyText) (fault : EncodeFault) :
    SavedSearch.load file name ≠ .error (.unencodable fault) := by
  intro fails
  rcases bind_eq_error.mp fails with reading | ⟨s, _, finding⟩
  · exact settings_ne_unencodable file fault reading
  · split at finding <;> cases finding

theorem list_ne_unencodable [Json.Nesting] (file : SettingsFile) (fault : EncodeFault) :
    SavedSearch.list file ≠ .error (.unencodable fault) := fun fails =>
  settings_ne_unencodable file fault (bind_ok_eq_error.mp fails)

theorem cutsOff_execute {db : Database} {q : Query} {now : Moment} {limit : Int} {failure : Failure}
    (fails : Search.execute db q now limit = .error failure) : failure.cutsOff = false := by
  rcases bind_eq_error.mp fails with opening | ⟨store, _, fails⟩
  · exact cutsOff_of_store opening
  · rcases bind_eq_error.mp fails with reading | ⟨issues, _, matching⟩
    · exact cutsOff_of_store reading
    · obtain ⟨e, _, rfl⟩ := mapError_eq_error.mp matching
      rfl

theorem cutsOff_search {db : Database} {raw : String} {now : Moment} {limit : Int} {failure : Failure}
    (fails : Search.run db raw now limit = .error failure) : failure.cutsOff = false := by
  rcases bind_eq_error.mp fails with reading | ⟨q, _, running⟩
  · obtain ⟨e, _, rfl⟩ := mapError_eq_error.mp reading
    rfl
  · exact cutsOff_execute running

theorem cutsOff_runSaved [Json.Nesting] {db : Database} {file : SettingsFile} {name : AnyText} {now : Moment}
    {limit : Int} {failure : Failure} (fails : Search.runSaved db file name now limit = .error failure) :
    failure.cutsOff = false := by
  rcases bind_eq_error.mp fails with loading | ⟨raw, _, running⟩
  · exact cutsOff_of_saved (load_ne_unencodable file name) loading
  · split at running
    · exact cutsOff_search (bind_ok_eq_error.mp running)
    · cases running
      rfl

/-- An outcome of a request that leaves the settings file as it is. -/
structure LeavesSettings {α : Type} (p : Project) (outcome : Except Failure α × Project) : Prop where
  settings : outcome.2.settings = p.settings
  whole : ∀ failure, outcome.1 = .error failure → failure.cutsOff = false

theorem leavesSettings_change {α : Type} (changed : Except StoreError (α × Database))
    (reply : α → Database → Except StoreError Reply) : p.LeavesSettings (p.change file changed reply) := by
  cases changed with
  | error error =>
    refine ⟨rfl, ?_⟩
    rintro _ ⟨⟩
    rfl
  | ok made =>
    refine ⟨?_, fun failure fails => cutsOff_of_store fails⟩
    simp only [change, setDatabase]
    split <;> rfl

theorem leavesSettings_changeIssue (id : Int) (changed : Except StoreError Database) :
    p.LeavesSettings (p.changeIssue file id changed) :=
  leavesSettings_change _ _

theorem leavesSettings_read {α : Type} {reply : Except Failure α}
    (whole : ∀ failure, reply = .error failure → failure.cutsOff = false) : p.LeavesSettings (reply, p) :=
  ⟨rfl, whole⟩

/-- A request that neither writes the settings nor makes a call on the saved searches leaves the settings
    file as it is. -/
theorem handle_leavesSettings [Json.Nesting] (p : Project) (file : String)
    (noCall : ∀ call, ¬ request.IsCall call) (noWriting : ∀ content, request ≠ .writeSettings content) :
    p.LeavesSettings (p.handle file request) := by
  cases request with
  | createTables | create | delete | insert | assign | assignStatus | remove =>
    exact leavesSettings_change _ _
  | update | setStatus | close | reopen => exact leavesSettings_changeIssue _ _
  | setClock now => exact ⟨rfl, fun failure fails => by cases fails⟩
  | writeSettings content => exact absurd rfl (noWriting content)
  | saveSearch name raw => exact absurd (.save name raw) (noCall _)
  | deleteSearch name => exact absurd (.delete name) (noCall _)
  | get | list | labels | find =>
    exact leavesSettings_read fun failure fails => cutsOff_of_store (bind_ok_eq_error.mp fails)
  | search => exact leavesSettings_read fun failure fails => cutsOff_search (bind_ok_eq_error.mp fails)
  | execute => exact leavesSettings_read fun failure fails => cutsOff_execute (bind_ok_eq_error.mp fails)
  | loadSearch name =>
    exact leavesSettings_read fun failure fails =>
      cutsOff_of_saved (load_ne_unencodable p.settings name) (bind_ok_eq_error.mp fails)
  | savedSearches =>
    exact leavesSettings_read fun failure fails =>
      cutsOff_of_saved (list_ne_unencodable p.settings) (bind_ok_eq_error.mp fails)
  | runSaved => exact leavesSettings_read fun failure fails => cutsOff_runSaved (bind_ok_eq_error.mp fails)
  | settings =>
    refine leavesSettings_read fun failure fails => ?_
    obtain ⟨e, _, rfl⟩ := mapError_eq_error.mp (bind_ok_eq_error.mp fails)
    rfl
  | readSettings =>
    refine leavesSettings_read fun failure fails => ?_
    have reads := bind_ok_eq_error.mp fails
    rw [settingsText] at reads
    split at reads
    · cases reads
    · cases reads
      rfl
    · split at reads
      · cases reads
      · cases reads
        rfl

/-- Without halves in the settings and in the request there are none afterwards, and nothing is cut off. -/
theorem handle_isPlain [Json.Nesting] (plain : p.HasPlainSettings) (file : String)
    (requestPlain : request.IsPlain) : (p.handle file request).2.HasPlainSettings ∧
      ∀ failure, (p.handle file request).1 = .error failure → failure.cutsOff = false := by
  by_cases isCall : ∃ call, request.IsCall call
  · obtain ⟨call, calls⟩ := isCall
    rw [handle_call p file calls]
    exact changeSettings_isPlain plain (isPlain_call calls requestPlain)
  · by_cases isWriting : ∃ content, request = .writeSettings content
    · obtain ⟨content, rfl⟩ := isWriting
      exact ⟨requestPlain, fun failure fails => by cases fails⟩
    · obtain ⟨same, failures⟩ :=
        handle_leavesSettings p file (not_exists.mp isCall) (not_exists.mp isWriting)
      exact ⟨fun s accepted => plain s (same ▸ accepted), failures⟩

/-! ## Runs -/

/-- Whether a reply is a success or a failure behind which the settings file is cut off. -/
def hasEffect : Except Failure Reply → Bool
  | .ok _ => true
  | .error failure => failure.cutsOff

section
variable [Json.Nesting]

theorem isReadable_run (readable : p.IsReadable) (requests : List (String × Request)) :
    (p.run requests).2.IsReadable := by
  induction requests generalizing p with
  | nil => exact readable
  | cons first later ih => exact ih (handle_isAtomic readable first.1 first.2).readable

theorem run_cons (p : Project) (file : String) (request : Request)
    (later : List (String × Request)) : p.run ((file, request) :: later) =
      ((p.handle file request).1 :: ((p.handle file request).2.run later).1,
        ((p.handle file request).2.run later).2) := rfl

/-- The requests of a run with the replies that are wanted. -/
def answered (wanted : Except Failure Reply → Bool) (p : Project) (requests : List (String × Request)) :
    List (String × Request) :=
  ((requests.zip (p.run requests).1).filter fun request => wanted request.2).map Prod.fst

/-- Requests can be left out of a run that fail and cut nothing off: the others are answered as before. -/
theorem run_answered {wanted : Except Failure Reply → Bool} (readable : p.IsReadable)
    (requests : List (String × Request))
    (unwanted : ∀ reply ∈ (p.run requests).1, wanted reply = false →
      ∃ failure, reply = .error failure ∧ failure.cutsOff = false) :
    p.run (p.answered wanted requests) = ((p.run requests).1.filter wanted, (p.run requests).2) := by
  induction requests generalizing p with
  | nil => rfl
  | cons first later ih =>
    obtain ⟨file, request⟩ := first
    have atomic := handle_isAtomic readable file request
    rw [run_cons] at unwanted ⊢
    obtain ⟨one, others⟩ := List.forall_mem_cons.mp unwanted
    have rest := ih atomic.readable others
    cases isWanted : wanted (p.handle file request).1 with
    | true =>
      have kept : p.answered wanted ((file, request) :: later) =
          (file, request) :: (p.handle file request).2.answered wanted later := by
        simp [answered, run_cons, isWanted]
      rw [kept, run_cons, rest, List.filter_cons_of_pos isWanted]
    | false =>
      obtain ⟨failure, fails, whole⟩ := one isWanted
      have same := atomic.unchanged failure fails whole
      have dropped : p.answered wanted ((file, request) :: later) = p.answered wanted later := by
        simp [answered, run_cons, isWanted, same]
      rw [same] at rest
      rw [dropped, rest, same, List.filter_cons_of_neg (by simp [isWanted])]

/-- Without halves in the settings and in the requests no request of a run cuts the settings off. -/
theorem run_isPlain (plain : p.HasPlainSettings) (requests : List (String × Request))
    (requestsPlain : ∀ request ∈ requests, request.2.IsPlain) :
    ∀ failure, .error failure ∈ (p.run requests).1 → failure.cutsOff = false := by
  induction requests generalizing p with
  | nil => simp [run]
  | cons first later ih =>
    obtain ⟨firstPlain, laterPlain⟩ := List.forall_mem_cons.mp requestsPlain
    obtain ⟨plain', failures⟩ := handle_isPlain plain first.1 firstPlain
    intro failure member
    rw [run_cons] at member
    rcases List.mem_cons.mp member with fails | member
    · exact failures failure fails.symm
    · exact ih plain' laterPlain failure member

end

/-- A project with one database, whose tables are there. -/
def fresh (settings : SettingsFile) (clock : Moment) : Project :=
  { databases := [("issues.db", .ready {})], settings, clock }

theorem isReadable_fresh (settings : SettingsFile) (clock : Moment) :
    (fresh settings clock).IsReadable := by
  intro member inside
  obtain rfl := List.mem_singleton.mp inside
  rintro s ⟨⟩
  exact fun r absurd => nomatch absurd

/-- Whatever was asked of a project before, and whatever is asked of it now: without the requests that
    fail, but for those that cut the settings file off, the others are answered as before, and the project
    is the same afterwards.  So it is without all that fail where none cuts the file off, as where there
    are no halves of surrogate pairs in the settings and the requests. -/
theorem run_succeeding [Json.Nesting] (settings : SettingsFile) (clock : Moment)
    (before requests : List (String × Request)) :
    let p := ((fresh settings clock).run before).2
    p.run (p.answered hasEffect requests) =
      ((p.run requests).1.filter hasEffect, (p.run requests).2) ∧
    ((∀ failure, .error failure ∈ (p.run requests).1 → failure.cutsOff = false) →
      p.run (p.answered (·.isOk) requests) = ((p.run requests).1.filter (·.isOk), (p.run requests).2)) ∧
    (p.HasPlainSettings → (∀ request ∈ requests, request.2.IsPlain) →
      ∀ failure, .error failure ∈ (p.run requests).1 → failure.cutsOff = false) := by
  intro p
  have readable : p.IsReadable := isReadable_run (isReadable_fresh settings clock) before
  refine ⟨run_answered readable requests ?_, fun whole => run_answered readable requests ?_,
    fun plain requestsPlain => run_isPlain plain requests requestsPlain⟩
  · intro reply _ unwanted
    cases reply with
    | ok answer => cases unwanted
    | error failure => exact ⟨failure, rfl, unwanted⟩
  · intro reply member unwanted
    cases reply with
    | ok answer => cases unwanted
    | error failure => exact ⟨failure, rfl, whole failure member⟩

/-- A search that is refused is left out before one that is saved. -/
theorem run_succeeding_refused :
    let p := fresh .missing .earliest
    let requests : List (String × Request) := [("issues.db", .saveSearch (some " ") "type:bug"),
      ("issues.db", .saveSearch (some "q") "type:bug"), ("issues.db", .loadSearch "q")]
    p.HasPlainSettings ∧ (∀ request ∈ requests, request.2.IsPlain) ∧
      p.run (p.answered (·.isOk) requests) = ((p.run requests).1.filter (·.isOk), (p.run requests).2) := by
  intro p requests
  have plain : p.HasPlainSettings := by
    rintro s ⟨⟩
    exact ⟨.string (AnyText.isPlain_plain applicationName), by simp⟩
  have requestsPlain : ∀ request ∈ requests, request.2.IsPlain := by
    simp [requests, Request.IsPlain, AnyText.isPlain_plain]
  obtain ⟨_, succeeding, whole⟩ := run_succeeding .missing .earliest [] requests
  exact ⟨plain, requestsPlain, succeeding (whole plain requestsPlain)⟩

/-- The text that a reply answers, if it does. -/
private def textOf? : Except Failure Reply → Option (Option AnyText)
  | .ok (.text text) => some text
  | _ => none

/-- A search that is not saved because of the project's name is no longer without effect: the text of the
    settings file is another one. -/
theorem not_run_succeeding_half : ¬ ∀ (settings : SettingsFile) (clock : Moment)
    (requests : List (String × Request)),
    let p := fresh settings clock
    p.run (p.answered (·.isOk) requests) =
      ((p.run requests).1.filter (·.isOk), (p.run requests).2) := by
  intro claim
  have same := claim (.content (Text.encodeUtf8 "\x7b\"name\": \"\\ud800\"\x7d".toList)) .earliest
    [("issues.db", .saveSearch (some "q") "type:bug"), ("issues.db", .readSettings)]
  have texts := congrArg (fun outcome => outcome.1.map textOf?) same
  revert texts
  decide +kernel

end Project

end IssueTracker
