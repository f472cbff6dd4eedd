import Mathlib.Data.List.Find
import Mathlib.Data.List.Induction
import IssueTracker.Proofs.Settings.RoundTrip
import IssueTracker.Search
import IssueTracker.Settings.SavedSearch

/-!
# Searches that are kept

A search is saved under its name without the blanks around it, but loaded and deleted under the name
as it is.  So the last successful call that changes a name decides what is loaded under it
(`run_decides`), and nothing that is saved is ever found under a name with blanks around it
(`load_untrimmed`).  A call that is refused changes nothing, but one that fails while it writes cuts the
settings file off, and no search is loaded from it any more.
-/

namespace IssueTracker.SavedSearch

/-! ## Calls -/

/-- A call that changes the saved searches, with what a caller hands it. -/
inductive Call
  | save (name raw : AnyText)
  | delete (name : AnyText)
deriving DecidableEq

namespace Call

/-- The name that a caller hands over. -/
def name : Call → AnyText
  | save name _ => name
  | delete name => name

/-- The name whose search is changed. -/
def key : Call → AnyText
  | save name _ => name.strip
  | delete name => name

/-- What is loaded under the changed name afterwards. -/
def outcome : Call → Except SavedError AnyText
  | save _ raw => .ok raw
  | delete name => .error (.notFound name)

/-- Makes a call and answers what is written. -/
def perform [Json.Nesting] (file : SettingsFile) : Call → Except SavedError Written
  | save name raw => SavedSearch.save file (some name) raw
  | delete name => SavedSearch.delete file name

/-- The saved searches after a call that is not refused. -/
def change (saved : List (AnyText × AnyText)) : Call → List (AnyText × AnyText)
  | save name raw => Json.setMember name.strip raw saved
  | delete name => saved.filter (·.1 != name)

/-- A call that brings in no half of a surrogate pair. -/
def IsPlain : Call → Prop
  | save name raw => name.IsPlain ∧ raw.IsPlain
  | delete _ => True

end Call

/-- Settings with the saved searches that a call leaves. -/
def after (call : Call) (s : Settings) : Settings :=
  { s with savedSearches := call.change s.savedSearches }

/-- A settings file and the calls that succeeded in changing it, the last one first. -/
structure Trail where
  file : SettingsFile
  done : List Call := []
  /-- Whether a call failed while it wrote. -/
  cut : Bool := false

/-- One more call. -/
def Trail.step [Json.Nesting] (t : Trail) (call : Call) : Trail :=
  match t.file.change (call.perform t.file) with
  | (.ok (), file) => { t with file, done := call :: t.done }
  | (.error (.unencodable _), file) => { t with file, cut := true }
  | (.error _, file) => { t with file }

/-- What a list of calls makes of a settings file. -/
def run [Json.Nesting] (file : SettingsFile) (calls : List Call) : Trail := calls.foldl Trail.step { file }

/-- The last successful call that changed the search of a name. -/
def Trail.lastChange (t : Trail) (name : AnyText) : Option Call := t.done.find? (·.key == name)

/-- The last successful call that was made with exactly this name. -/
def Trail.lastNamed (t : Trail) (name : AnyText) : Option Call := t.done.find? (·.name == name)

/-- A settings file that is no JSON. -/
def IsCutOff [Json.Nesting] (file : SettingsFile) : Prop :=
  ∃ e, Settings.IsSyntaxError e ∧ Settings.load file = .error e

/-! ## What a call changes -/

section
variable {s : Settings} {t : Trail} {name raw : AnyText} {call : Call}

/-- What is loaded when this is found under a name. -/
def answer (name : AnyText) : Option AnyText → Except SavedError AnyText
  | some raw => .ok raw
  | none => .error (.notFound name)

/-- A call changes what is found under its key, and nothing else. -/
theorem answer_change (saved : List (AnyText × AnyText)) (call : Call) (sought : AnyText) :
    answer sought (find? sought (call.change saved)) =
      if call.key = sought then call.outcome else answer sought (find? sought saved) := by
  cases call with
  | save name raw =>
    have found : find? sought (Json.setMember name.strip raw saved) = _ := Json.find?_setMember sought
    rw [Call.change, found, Call.key]
    split <;> rfl
  | delete name =>
    have found : find? sought (saved.filter (·.1 != name)) = _ := Json.find?_filter sought
    rw [Call.change, found, Call.key]
    split
    · rename_i same
      exact same ▸ rfl
    · rfl

theorem nodup_change {saved : List (AnyText × AnyText)} (distinct : (saved.map Prod.fst).Nodup)
    (call : Call) : ((call.change saved).map Prod.fst).Nodup := by
  cases call with
  | save name raw => exact Json.nodup_setMember distinct _ _
  | delete name => exact distinct.sublist (List.filter_sublist.map _)

/-- A call without halves brings none into settings that have none. -/
theorem isPlain_after (plain : s.IsPlain) (callPlain : call.IsPlain) : (after call s).IsPlain := by
  refine ⟨plain.name, ?_⟩
  cases call with
  | save name raw =>
    intro pair member
    rcases Json.mem_setMember member with rfl | member
    · exact ⟨AnyText.isPlain_strip.mpr callPlain.1, callPlain.2⟩
    · exact plain.saved pair member
  | delete name => exact fun pair member => plain.saved pair (List.mem_of_mem_filter member)

/-- No search is saved under a name with blanks around it. -/
theorem outcome_of_untrimmed {call : Call} (untrimmed : name.strip ≠ name) (is : call.key = name) :
    call.outcome ≠ .ok raw := by
  cases call with
  | save given raw =>
    refine absurd ?_ untrimmed
    rw [← is]
    exact AnyText.strip_strip given
  | delete name => exact fun same => by cases same

/-- For a name without blanks around it that is never written otherwise, the last successful call that
    was made with the name is the last one that changed it. -/
theorem lastChange_of_lastNamed (trimmed : name.strip = name)
    (only : ∀ call ∈ t.done, call.key = name → call.name = name) :
    t.lastChange name = t.lastNamed name := by
  refine List.find?_congr ?_
  intro call member
  rw [Bool.eq_iff_iff, beq_iff_eq, beq_iff_eq]
  refine ⟨only call member, ?_⟩
  cases call with
  | save given raw =>
    rintro rfl
    exact trimmed
  | delete given => exact id

/-- A name without blanks around it was changed when a call was made with it. -/
theorem exists_lastChange (trimmed : name.strip = name)
    (last : t.lastNamed name = some (.save name raw)) : ∃ call, t.lastChange name = some call := by
  rw [← Option.isSome_iff_exists, Trail.lastChange, List.find?_isSome]
  exact ⟨.save name raw, List.mem_of_find?_eq_some last, by simp [Call.key, trimmed]⟩

end

/-! ## One call -/

section
variable [Json.Nesting] {file : SettingsFile} {s : Settings} {name raw : AnyText} {call : Call}

theorem settings_eq (accepted : Settings.load file = .ok s) : settings file = .ok s := by
  rw [settings, accepted]
  rfl

theorem settings_error {e : SettingsError} (fails : Settings.load file = .error e) :
    settings file = .error (.settings e) := by
  rw [settings, fails]
  rfl

theorem load_eq (accepted : Settings.load file = .ok s) (name : AnyText) :
    load file name = answer name (find? name s.savedSearches) := by
  rw [load, settings_eq accepted]
  rfl

/-- A call is refused, or writes the settings that it leaves. -/
theorem perform_cases (accepted : Settings.load file = .ok s) (call : Call) :
    call.perform file = .ok (after call s).save ∨
      ∃ e, call.perform file = .error e ∧ ∀ fault, e ≠ .unencodable fault := by
  cases call with
  | save name raw =>
    rw [Call.perform, save]
    simp only [Option.getD_some]
    by_cases empty : name.strip = ""
    · exact Or.inr ⟨.nameRequired, if_pos empty, by simp⟩
    · rw [if_neg empty, settings_eq accepted]
      exact Or.inl rfl
  | delete name =>
    rw [Call.perform, delete, settings_eq accepted]
    cases found : find? name s.savedSearches with
    | none => exact Or.inr ⟨.notFound name, by simp only [bind, Except.bind, found], by simp⟩
    | some raw => exact Or.inl (by simp only [bind, Except.bind, found]; rfl)

theorem isStorable_after (storable : s.IsStorable) (call : Call) : (after call s).IsStorable :=
  ⟨storable.name, storable.limit, nodup_change storable.saved call⟩

/-- How a call ends: it is refused and changes nothing, or it leaves settings that are accepted again, or,
    when these cannot be encoded, it cuts the file off. -/
inductive Ends (file : SettingsFile) (s : Settings) (call : Call) : Prop
  | refused {e : SavedError} (refuses : call.perform file = .error e) (other : ∀ fault, e ≠ .unencodable fault)
      (ends : file.change (call.perform file) = (.error e, file))
  | written {file' : SettingsFile} {s' : Settings} (plain : (after call s).IsPlain)
      (performs : call.perform file = .ok (after call s).save)
      (ends : file.change (call.perform file) = (.ok (), file')) (accepted : Settings.load file' = .ok s')
      (left : s'.savedSearches = call.change s.savedSearches) (isPlain : s'.IsPlain)
  | cut {file' : SettingsFile} {fault : EncodeFault} (broken : ¬ (after call s).IsPlain)
      (performs : call.perform file = .ok (after call s).save)
      (ends : file.change (call.perform file) = (.error (.unencodable fault), file')) (isCut : IsCutOff file')

theorem ends (accepted : Settings.load file = .ok s) (call : Call) : Ends file s call := by
  have storable := isStorable_after (Settings.isStorable_of_load accepted) call
  rcases perform_cases accepted call with performs | ⟨e, refuses, other⟩
  · by_cases plain : (after call s).IsPlain
    · obtain ⟨name, namePlain, reads⟩ := storable.name.exists_isReadAs plain.name
      refine .written plain performs ?_ (Settings.load_save storable plain reads) rfl ⟨namePlain, plain.saved⟩
      rw [performs, SettingsFile.change, Written.outcome, (Settings.fault_save storable).mpr plain]
    · obtain ⟨fault, isFault⟩ :=
        Option.ne_none_iff_exists'.mp ((Settings.fault_save storable).not.mpr plain)
      have ends : file.change (call.perform file) =
          (.error (.unencodable fault), .ofWritten (after call s).save) := by
        rw [performs, SettingsFile.change, Written.outcome, isFault]
      exact .cut plain performs ends (Settings.load_save_broken storable plain)
  · exact .refused refuses other (by rw [refuses, SettingsFile.change])

/-- A call on settings that are not accepted is refused. -/
theorem perform_error {e : SettingsError} (fails : Settings.load file = .error e) (call : Call) :
    ∃ refusal, call.perform file = .error refusal ∧ ∀ fault, refusal ≠ .unencodable fault := by
  cases call with
  | save name raw =>
    rw [Call.perform, save]
    simp only [Option.getD_some]
    by_cases empty : name.strip = ""
    · exact ⟨.nameRequired, if_pos empty, by simp⟩
    · rw [if_neg empty, settings_error fails]
      exact ⟨_, rfl, by simp⟩
  | delete name =>
    rw [Call.perform, delete, settings_error fails]
    exact ⟨_, rfl, by simp⟩

/-- The deletion of a search that can be loaded is not refused. -/
theorem perform_delete (accepted : Settings.load file = .ok s) (loads : load file name = .ok raw) :
    (Call.delete name).perform file = .ok (after (.delete name) s).save := by
  rw [load_eq accepted] at loads
  cases found : find? name s.savedSearches with
  | none =>
    rw [found] at loads
    cases loads
  | some query =>
    rw [Call.perform, delete, settings_eq accepted]
    simp only [bind, Except.bind, found]
    rfl

/-- It succeeds, and the search is not found any more, where what is left can be written. -/
theorem delete_ok (accepted : Settings.load file = .ok s) (loads : load file name = .ok raw)
    (left : (after (.delete name) s).IsPlain) :
    ∃ file', file.change (delete file name) = (.ok (), file') ∧ load file' name = .error (.notFound name) := by
  cases ends accepted (.delete name) with
  | refused refuses => exact absurd ((perform_delete accepted loads).symm.trans refuses) (by simp)
  | @written file' _ _ _ ends accepted' changed =>
    refine ⟨file', ends, ?_⟩
    rw [load_eq accepted', changed, answer_change]
    exact if_pos rfl
  | cut broken => exact absurd left broken

/-- Otherwise it cuts the file off. -/
theorem delete_cutsOff (accepted : Settings.load file = .ok s) (loads : load file name = .ok raw)
    (broken : ¬ (after (.delete name) s).IsPlain) :
    ∃ fault file', file.change (delete file name) = (.error (.unencodable fault), file') ∧ IsCutOff file' := by
  cases ends accepted (.delete name) with
  | refused refuses => exact absurd ((perform_delete accepted loads).symm.trans refuses) (by simp)
  | written left => exact absurd left broken
  | @cut file' fault _ _ ends isCut => exact ⟨fault, file', ends, isCut⟩

/-- What is loaded from settings without halves is without halves. -/
theorem isPlain_of_load (accepted : Settings.load file = .ok s) (plain : s.IsPlain)
    (loads : load file name = .ok raw) : raw.IsPlain := by
  rw [load_eq accepted] at loads
  cases found : find? name s.savedSearches with
  | none =>
    rw [found] at loads
    cases loads
  | some query =>
    rw [found] at loads
    cases loads
    obtain ⟨pair, isFirst, rfl⟩ := Option.map_eq_some_iff.mp found
    exact (plain.saved pair (List.mem_of_find?_eq_some isFirst)).2

theorem runSaved_of_load {text : String} (loads : load file name = .ok (text : AnyText)) (db : Database)
    (now : Moment) (defaultLimit : Int) : Search.runSaved db file name now defaultLimit =
      (Search.run db text now defaultLimit).map ((text : AnyText), ·) := by
  rw [Search.runSaved, loads]
  rfl

/-! ## Runs -/

variable {start : SettingsFile} {t : Trail}

/-- A call that is refused leaves all as it is. -/
theorem Trail.step_refused {e : SavedError} (other : ∀ fault, e ≠ .unencodable fault)
    (ends : t.file.change (call.perform t.file) = (.error e, t.file)) : t.step call = t := by
  rw [Trail.step, ends]
  cases e with
  | unencodable fault => exact absurd rfl (other fault)
  | nameRequired | notFound | settings => rfl

/-- What calls keep: the settings stay accepted, and the last call that changed a name decides what is
    loaded, until one fails while it writes. -/
inductive Trail.Keeps (start : SettingsFile) (t : Trail) : Prop
  | accepted {s : Settings} (whole : t.cut = false) (accepted : Settings.load t.file = .ok s)
      (isPlain : t.done ≠ [] → s.IsPlain)
      (loads : ∀ name, load t.file name = ((t.lastChange name).map Call.outcome).getD (load start name))
  | cutOff (isCut : t.cut = true) (isCutOff : IsCutOff t.file)

theorem Trail.Keeps.step (keeps : t.Keeps start) (call : Call) : (t.step call).Keeps start := by
  cases keeps with
  | @accepted s whole accepted isPlain loads =>
    cases ends accepted call with
    | refused _ other ends =>
      rw [Trail.step_refused other ends]
      exact .accepted whole accepted isPlain loads
    | @written file' s' _ _ ends accepted' left isPlain' =>
      have next : t.step call = { t with file := file', done := call :: t.done } := by
        rw [Trail.step, ends]
      rw [next]
      refine .accepted whole accepted' (fun _ => isPlain') fun name => ?_
      -- The call is the latest change of its key, and of other names the one before it still is.
      rw [load_eq accepted', left, answer_change, ← load_eq accepted, loads name]
      by_cases same : call.key = name <;> simp [same, Trail.lastChange]
    | @cut file' fault _ _ ends isCut =>
      have next : t.step call = { t with file := file', cut := true } := by
        rw [Trail.step, ends]
      rw [next]
      exact .cutOff rfl isCut
  | cutOff isCut isCutOff =>
    have ⟨_, _, fails⟩ := isCutOff
    obtain ⟨e, refuses, other⟩ := perform_error fails call
    rw [Trail.step_refused other (by rw [refuses, SettingsFile.change])]
    exact .cutOff isCut isCutOff

theorem run_concat (file : SettingsFile) (calls : List Call) (call : Call) :
    run file (calls ++ [call]) = (run file calls).step call := by
  simp [run]

theorem keeps_run (accepted : Settings.load file = .ok s) (calls : List Call) :
    (run file calls).Keeps file := by
  induction calls using List.reverseRecOn with
  | nil => exact .accepted rfl accepted (fun some => absurd rfl some) fun _ => rfl
  | append_singleton calls call ih =>
    rw [run_concat]
    exact ih.step call

/-- A call cuts the file off just when it is not refused and the settings that it leaves have halves. -/
theorem cut_step_iff (whole : t.cut = false) (accepted : Settings.load t.file = .ok s) (call : Call) :
    (t.step call).cut = true ↔
      call.perform t.file = .ok (after call s).save ∧ ¬ (after call s).IsPlain := by
  cases ends accepted call with
  | refused refuses other ends =>
    rw [Trail.step_refused other ends, whole, refuses]
    simp
  | written plain _ ends =>
    have same : (t.step call).cut = false := by
      rw [Trail.step, ends]
      exact whole
    rw [same]
    simp [plain]
  | cut broken performs ends =>
    have isCut : (t.step call).cut = true := by
      rw [Trail.step, ends]
    exact ⟨fun _ => ⟨performs, broken⟩, fun _ => isCut⟩

/-- Where there are no halves in the settings and in the calls, no call fails while it writes. -/
theorem cut_run_of_isPlain (accepted : Settings.load file = .ok s) (plain : s.IsPlain) (calls : List Call)
    (callsPlain : ∀ call ∈ calls, call.IsPlain) : (run file calls).cut = false := by
  have kept : (run file calls).cut = false ∧
      ∃ s', Settings.load (run file calls).file = .ok s' ∧ s'.IsPlain := by
    induction calls using List.reverseRecOn with
    | nil => exact ⟨rfl, s, accepted, plain⟩
    | append_singleton calls call ih =>
      obtain ⟨before, last⟩ := List.forall_mem_append.mp callsPlain
      obtain ⟨whole, s', accepted', plain'⟩ := ih before
      have left := isPlain_after plain' (List.forall_mem_singleton.mp last)
      have notCut : (run file (calls ++ [call])).cut = false := by
        rw [run_concat, ← Bool.not_eq_true, cut_step_iff whole accepted' call]
        exact fun both => both.2 left
      refine ⟨notCut, ?_⟩
      rw [run_concat] at notCut ⊢
      cases ends accepted' call with
      | refused _ other ends =>
        rw [Trail.step_refused other ends]
        exact ⟨s', accepted', plain'⟩
      | written _ _ ends accepted'' _ isPlain =>
        refine ⟨_, ?_, isPlain⟩
        rw [Trail.step, ends]
        exact accepted''
      | cut broken => exact absurd left broken
  exact kept.1

end

/-- What becomes of a name when calls lead from a settings file to another and none fails while it
    writes. -/
structure Trail.Decides [Json.Nesting] (t : Trail) (start : SettingsFile) (name : AnyText) : Prop where
  /-- The last successful call that changed the name decides what is loaded under it. -/
  loads : load t.file name = ((t.lastChange name).map Call.outcome).getD (load start name)
  /-- A search that is loaded is also run; only from the start can one have halves. -/
  runs : ∀ raw, load t.file name = .ok raw → (t.done = [] → raw.IsPlain) →
    ∃ text : String, raw = text ∧ ∀ db now defaultLimit,
      Search.runSaved db t.file name now defaultLimit =
        (Search.run db text now defaultLimit).map (raw, ·)
  /-- A search that is loaded can be deleted, and is not found any more.  Only at the start can halves
      be left that cannot be written. -/
  deletes : ∀ s, Settings.load t.file = .ok s → ∀ raw, load t.file name = .ok raw →
    (t.done = [] → (after (.delete name) s).IsPlain) →
    ∃ file, t.file.change (delete t.file name) = (.ok (), file) ∧ load file name = .error (.notFound name)
  /-- Where they are, the deletion cuts the file off. -/
  cutsOff : ∀ s, Settings.load t.file = .ok s → ∀ raw, load t.file name = .ok raw →
    ¬ (after (.delete name) s).IsPlain →
    ∃ fault file, t.file.change (delete t.file name) = (.error (.unencodable fault), file) ∧ IsCutOff file
  /-- A name without blanks around it, saved with these words, loads them just when no other spelling
      of it was saved later with other words. -/
  respelled : name.strip = name → ∀ raw, t.lastNamed name = some (.save name raw) →
    (load t.file name = .ok raw ↔ ∃ given, t.lastChange name = some (.save given raw))
  /-- So it does where there is no other spelling. -/
  spelled : name.strip = name → (∀ call ∈ t.done, call.key = name → call.name = name) →
    ∀ raw, t.lastNamed name = some (.save name raw) → load t.file name = .ok raw
  /-- Nothing that was saved is found under a name with blanks around it. -/
  untrimmed : name.strip ≠ name → ∀ raw, load t.file name = .ok raw → load start name = .ok raw

theorem decides_of_keeps [Json.Nesting] {start : SettingsFile} {t : Trail} (keeps : t.Keeps start)
    (whole : t.cut = false) (name : AnyText) : t.Decides start name := by
  cases keeps with
  | cutOff isCut => exact absurd isCut (by simp [whole])
  | @accepted s _ accepted isPlain loads =>
    have current {s' : Settings} (accepted' : Settings.load t.file = .ok s') : s' = s :=
      Except.ok.inj (accepted'.symm.trans accepted)
    constructor
    case loads => exact loads name
    case runs =>
      intro raw loaded rawPlain
      have plain : raw.IsPlain := by
        by_cases none : t.done = []
        · exact rawPlain none
        · exact isPlain_of_load accepted (isPlain none) loaded
      obtain ⟨text, rfl⟩ := plain
      exact ⟨text, rfl, runSaved_of_load loaded⟩
    case deletes =>
      intro s' accepted' raw loaded leftPlain
      obtain rfl := current accepted'
      refine delete_ok accepted loaded ?_
      by_cases none : t.done = []
      · exact leftPlain none
      · exact isPlain_after (isPlain none) trivial
    case cutsOff =>
      intro s' accepted' raw loaded broken
      exact delete_cutsOff accepted' loaded broken
    case respelled =>
      intro trimmed raw last
      obtain ⟨call, change⟩ := exists_lastChange trimmed last
      rw [loads name, change]
      cases call with
      | save given other => simp [Call.outcome]
      | delete given => simp [Call.outcome]
    case spelled =>
      intro trimmed only raw last
      rw [loads name, lastChange_of_lastNamed trimmed only, last]
      rfl
    case untrimmed =>
      intro untrimmed raw loaded
      rw [loads name] at loaded
      cases last : t.lastChange name with
      | none =>
        rw [last] at loaded
        exact loaded
      -- Then the last change was a deletion, and nothing would have been loaded.
      | some call =>
        have is : call.key = name := by simpa using List.find?_some last
        rw [last] at loaded
        exact absurd loaded (outcome_of_untrimmed untrimmed is)

/-- From any settings file that is accepted, and whatever the calls, the last success with the name as
    it is kept decides, as long as no call fails while it writes.  After one that does, no search is
    loaded any more.  A call fails so just when it is not refused and would leave halves of surrogate
    pairs, which never happens where neither the settings nor the calls have any. -/
theorem run_decides [Json.Nesting] {file : SettingsFile} {s : Settings} (accepted : Settings.load file = .ok s)
    (calls : List Call) (name : AnyText) :
    let t := run file calls
    (t.cut = false → t.Decides file name) ∧
    (t.cut = true → ∃ e, Settings.IsSyntaxError e ∧ load t.file name = .error (.settings e)) ∧
    (∀ s' call, t.cut = false → Settings.load t.file = .ok s' → ((t.step call).cut = true ↔
      call.perform t.file = .ok (after call s').save ∧ ¬ (after call s').IsPlain)) ∧
    (s.IsPlain → (∀ call ∈ calls, call.IsPlain) → t.cut = false) := by
  intro t
  have keeps := keeps_run accepted calls
  refine ⟨fun whole => decides_of_keeps keeps whole name, ?_, ?_, ?_⟩
  · intro isCut
    cases keeps with
    | accepted whole => exact absurd isCut (by simp [t, whole])
    | cutOff _ isCutOff =>
      obtain ⟨e, isSyntax, fails⟩ := isCutOff
      refine ⟨e, isSyntax, ?_⟩
      rw [load, settings_error fails]
      rfl
  · exact fun s' call whole accepted' => cut_step_iff whole accepted' call
  · exact fun plain callsPlain => cut_run_of_isPlain accepted plain calls callsPlain

/-- A search that was saved with blanks around its name is found without them only. -/
theorem run_decides_untrimmed :
    Settings.load .missing = .ok {} ∧
      load (run .missing [.save " q " "status:open"]).file "q" = .ok ("status:open" : AnyText) := by
  have accepted : Settings.load .missing = .ok {} := rfl
  exact ⟨accepted, ((run_decides accepted [.save " q " "status:open"] "q").1 rfl).loads⟩

/-- It is not found under the name that it was saved with. -/
theorem load_untrimmed :
    (run .missing [.save " q " "status:open"]).lastNamed " q " = some (.save " q " "status:open") ∧
      load (run .missing [.save " q " "status:open"]).file " q " = .error (.notFound " q ") := by
  have accepted : Settings.load .missing = .ok {} := rfl
  have keeps := keeps_run accepted [.save " q " "status:open"]
  exact ⟨rfl, (decides_of_keeps keeps rfl " q ").loads⟩

end IssueTracker.SavedSearch
