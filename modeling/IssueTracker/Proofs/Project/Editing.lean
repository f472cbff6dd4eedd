import IssueTracker.Proofs.Project
import IssueTracker.Proofs.Settings.SavedSearch

/-!
# Editing the saved searches of a project

Saving and deleting a search read the settings file, change one entry and write the whole file again.  What
was coerced when the file was read is read back unchanged, so that only this entry differs
(`SavedSearch.load_after`); a call that is refused writes nothing.  Where the settings cannot be encoded, the
file is cut off (`Project.edit_searches`).
-/

namespace IssueTracker

namespace SavedSearch
variable {file : SettingsFile} {s : Settings} {saved : List (AnyText × AnyText)} {call : Call}

namespace Call

/-- The query that a call leaves under its key, if any. -/
def query? : Call → Option AnyText
  | save _ raw => some raw
  | delete _ => none

/-- A call that succeeds on these searches: it saves under a name that is not blank, or deletes one that is
    there. -/
def IsPossible (saved : List (AnyText × AnyText)) : Call → Prop
  | save name _ => name.strip ≠ ""
  | delete name => name ∈ saved.map Prod.fst

/-- Why any other call fails. -/
def refusal : Call → SavedError
  | save _ _ => .nameRequired
  | delete name => .notFound name

/-- What a call makes of the saved searches: one entry differs, and the others stay in their order.  An
    entry that is overwritten keeps its place, and a new one comes last. -/
structure Edits (call : Call) (before after : List (AnyText × AnyText)) : Prop where
  found : find? call.key after = call.query?
  others : after.filter (·.1 != call.key) = before.filter (·.1 != call.key)
  overwritten : call.query?.isSome → call.key ∈ before.map Prod.fst →
    after.map Prod.fst = before.map Prod.fst
  new : call.query?.isSome → call.key ∉ before.map Prod.fst →
    after.map Prod.fst = before.map Prod.fst ++ [call.key]

theorem edits_change (saved : List (AnyText × AnyText)) (call : Call) : call.Edits saved (call.change saved) := by
  cases call with
  | save name raw =>
    have places : (Json.setMember name.strip raw saved).map Prod.fst = _ := Json.map_fst_setMember
    refine ⟨?_, Json.filter_setMember, fun _ there => ?_, fun _ absent => ?_⟩
    · have found : find? name.strip (Json.setMember name.strip raw saved) = _ :=
        Json.find?_setMember _
      rw [if_pos rfl] at found
      exact found
    · exact places.trans (if_pos there)
    · exact places.trans (if_neg absent)
  | delete name =>
    refine ⟨?_, ?_, fun given => by simp [query?] at given, fun given => by simp [query?] at given⟩
    · have found : find? name (saved.filter (·.1 != name)) = _ := Json.find?_filter name
      rw [if_pos rfl] at found
      exact found
    · rw [change, key, List.filter_filter]
      simp

end Call

theorem find?_eq_none_iff {name : AnyText} : find? name saved = none ↔ name ∉ saved.map Prod.fst := by
  rw [find?, Option.map_eq_none_iff, List.find?_eq_none]
  constructor
  · intro none there
    obtain ⟨member, inside, same⟩ := List.mem_map.mp there
    exact none member inside (by simpa using same)
  · intro absent member inside same
    exact absent (List.mem_map.mpr ⟨member, inside, by simpa using same⟩)

/-- A call writes the settings with its search changed, or is refused. -/
theorem perform_eq [Json.Nesting] (accepted : Settings.load file = .ok s) (call : Call) :
    (call.IsPossible s.savedSearches →
      call.perform file = .ok (after call s).save) ∧
    (¬ call.IsPossible s.savedSearches → call.perform file = .error call.refusal) := by
  cases call with
  | save name raw =>
    constructor
    · intro filled
      rw [Call.perform, save, settings_eq accepted]
      simp only [Option.getD_some]
      rw [if_neg filled]
      rfl
    · intro blank
      rw [Call.perform, save]
      simp only [Option.getD_some]
      rw [if_pos (not_not.mp blank)]
      rfl
  | delete name =>
    constructor
    · intro there
      have found : find? name s.savedSearches ≠ none := fun absent => find?_eq_none_iff.mp absent there
      obtain ⟨raw, found⟩ := Option.ne_none_iff_exists'.mp found
      rw [Call.perform, delete, settings_eq accepted]
      simp only [bind, Except.bind, found]
      rfl
    · intro absent
      rw [Call.perform, delete, settings_eq accepted]
      simp only [bind, Except.bind, find?_eq_none_iff.mpr absent]
      rfl

/-- Settings with a text for their name are read back as they were, but for the search that was changed. -/
theorem load_after [Json.Nesting] (accepted : Settings.load file = .ok s) {title : AnyText}
    (isText : s.name = .string title) (call : Call) (plain : (after call s).IsPlain) :
    Settings.load (.ofWritten (after call s).save) = .ok (after call s) := by
  have reads : Json.IsReadAs (Json.Nesting.limit - 1) s.name s.name := by
    have namePlain : s.name.IsPlain := plain.name
    rw [isText] at namePlain ⊢
    cases namePlain with
    | string isPlain =>
      obtain ⟨title, rfl⟩ := isPlain
      exact Json.isReadAs_string title
  exact Settings.load_save (isStorable_after (Settings.isStorable_of_load accepted) call) plain reads

end SavedSearch

namespace Project
variable {p : Project} {request : Request} {call : SavedSearch.Call}

theorem changeSettings_ok {written : Written} (whole : written.fault = none) :
    p.changeSettings (.ok written) =
      (.ok .done, { p with settings := .content (Text.encodeUtf8 written.chars) }) := by
  rw [changeSettings, SettingsFile.change, Written.outcome, whole]
  rfl

theorem changeSettings_cut {written : Written} {fault : EncodeFault} (cut : written.fault = some fault) :
    p.changeSettings (.ok written) = (.error (.saved (.unencodable fault)),
      { p with settings := .content (Text.encodeUtf8 written.chars) }) := by
  rw [changeSettings, SettingsFile.change, Written.outcome, cut]
  rfl

/-- A search is saved or deleted in any settings file whose name is a text: the project keeps its databases
    and clock, and the settings their name, limit, colours and all other searches, in order.  A call that
    fails, on whatever there is in the place of the file, changes nothing, unless the settings that it would
    leave cannot be encoded: then the file is cut off, and the project keeps all else. -/
theorem edit_searches [Json.Nesting] (p : Project) (file : String) (calls : request.IsCall call) :
    (∀ failure p', p.handle file request = (.error failure, p') → failure.cutsOff = false → p' = p) ∧
    ∀ s : Settings, Settings.load p.settings = .ok s →
      (¬ call.IsPossible s.savedSearches → p.handle file request = (.error (.saved call.refusal), p)) ∧
      (call.IsPossible s.savedSearches → ¬ (SavedSearch.after call s).IsPlain → ∃ fault content,
        p.handle file request =
          (.error (.saved (.unencodable fault)), { p with settings := .content content }) ∧
        SavedSearch.IsCutOff (.content content)) ∧
      ∀ title : AnyText, s.name = .string title → call.IsPossible s.savedSearches →
        (SavedSearch.after call s).IsPlain → ∃ content saved,
          p.handle file request = (.ok .done, { p with settings := .content content }) ∧
          Settings.load (.content content) = .ok { s with savedSearches := saved } ∧
          call.Edits s.savedSearches saved := by
  rw [handle_call p file calls]
  refine ⟨?_, fun s accepted => ?_⟩
  · intro failure p' fails whole
    cases performs : call.perform p.settings with
    | ok written =>
      rw [performs] at fails
      cases isFault : written.fault with
      | none =>
        rw [changeSettings_ok isFault] at fails
        cases fails
      | some fault =>
        rw [changeSettings_cut isFault] at fails
        cases fails
        cases whole
    | error error =>
      rw [performs] at fails
      cases fails
      rfl
  · obtain ⟨writes, refuses⟩ := SavedSearch.perform_eq accepted call
    have storable := SavedSearch.isStorable_after (Settings.isStorable_of_load accepted) call
    refine ⟨?_, ?_, ?_⟩
    · intro impossible
      rw [refuses impossible]
      rfl
    · intro possible broken
      obtain ⟨fault, isFault⟩ :=
        Option.ne_none_iff_exists'.mp ((Settings.fault_save storable).not.mpr broken)
      rw [writes possible]
      exact ⟨fault, _, changeSettings_cut isFault, Settings.load_save_broken storable broken⟩
    · intro title isText possible plain
      rw [writes possible]
      exact ⟨_, _, changeSettings_ok ((Settings.fault_save storable).mpr plain),
        SavedSearch.load_after accepted isText call plain, call.edits_change s.savedSearches⟩

private def handwritten : Bytes := Text.encodeUtf8
  "\x7b\"saved_searches\": \x7b\"mine\": 5, \"old\": \"\", \"mine\": true\x7d, \"default_limit\": \" 7\"\x7d".toList

/-- A file that was written by hand, with a limit in a text, a number and a truth value for queries and no
    name: the search that is overwritten stays the first. -/
theorem edit_searches_handwritten :
    let p : Project := { settings := .content handwritten, clock := .earliest }
    ∃ s content saved, Settings.load p.settings = .ok s ∧ s.name = .string "issuemap" ∧
      s.defaultLimit = 7 ∧ s.savedSearches = [(.plain "mine", .plain "True"), (.plain "old", .plain "")] ∧
      p.handle "issues.db" (.saveSearch (some " mine ") "type:bug") =
        (.ok .done, { p with settings := .content content }) ∧
      Settings.load (.content content) = .ok { s with savedSearches := saved } ∧
      saved.map Prod.fst = [.plain "mine", .plain "old"] ∧
      SavedSearch.find? "mine" saved = some (.plain "type:bug") := by
  intro p
  have reads : (Settings.load p.settings).toOption.map
      (fun s => (s.name.asString?, s.defaultLimit, s.savedSearches)) =
        some (some "issuemap", 7, [(.plain "mine", .plain "True"), (.plain "old", .plain "")]) := by
    decide +kernel
  obtain ⟨s, accepted, view⟩ := Option.map_eq_some_iff.mp reads
  obtain ⟨isName, isLimit, isSaved⟩ : s.name.asString? = some "issuemap" ∧ s.defaultLimit = 7 ∧
      s.savedSearches = [(.plain "mine", .plain "True"), (.plain "old", .plain "")] := by simpa using view
  have isText : s.name = .string "issuemap" := by
    cases named : s.name with
    | string text =>
      cases text with
      | plain text =>
        rw [named] at isName
        cases isName
        rfl
      | broken => simp [named, Json.asString?, AnyText.plain?] at isName
    | null | bool | integer | float | array | object => simp [named, Json.asString?] at isName
  have accepted := toOption_eq_some.mp accepted
  have possible : (SavedSearch.Call.save " mine " "type:bug").IsPossible s.savedSearches := by
    intro blank
    revert blank
    decide
  have before : s.IsPlain := by
    refine ⟨isText ▸ .string (AnyText.isPlain_plain _), ?_⟩
    simp [isSaved, AnyText.isPlain_plain]
  have plain : (SavedSearch.after (.save " mine " "type:bug") s).IsPlain :=
    SavedSearch.isPlain_after before ⟨AnyText.isPlain_plain _, AnyText.isPlain_plain _⟩
  obtain ⟨content, saved, handles, loads, edits⟩ :=
    ((edit_searches p "issues.db" (.save (some " mine ") "type:bug")).2 s accepted).2.2 _ isText possible plain
  have edits : (SavedSearch.Call.save " mine " "type:bug").Edits s.savedSearches saved := edits
  have key : (SavedSearch.Call.save " mine " "type:bug").key = "mine" := by decide
  have places := edits.overwritten rfl (by rw [key, isSaved]; decide)
  have found := edits.found
  rw [key] at found
  refine ⟨s, content, saved, accepted, isText, isLimit, isSaved, handles, loads, ?_, found⟩
  rw [places, isSaved]
  rfl

private def halfNamed : Bytes := Text.encodeUtf8 "\x7b\"name\": \"\\ud800\"\x7d".toList

/-- The text that settings have for their name, if it is one. -/
private def titleOf? (s : Settings) : Option AnyText :=
  match s.name with
  | .string title => some title
  | _ => none

/-- What a request leaves of a settings file that it cuts off. -/
private def leftOf? : Except Failure Reply × Project → Option SettingsFile
  | (.error (.saved (.unencodable _)), p) => some p.settings
  | _ => none

/-- A file whose name is one half of a surrogate pair: a search that is not saved leaves another file. -/
theorem not_edit_searches_half :
    let p : Project := { settings := .content halfNamed, clock := .earliest }
    (∃ s title, Settings.load p.settings = .ok s ∧ s.name = .string title) ∧
      ∃ fault p', p.handle "issues.db" (.saveSearch (some "q") "type:bug") =
        (.error (.saved (.unencodable fault)), p') ∧ p'.settings ≠ p.settings := by
  intro p
  have reads : ((Settings.load p.settings).toOption.bind titleOf?).isSome := by decide +kernel
  have fails : (leftOf? (p.handle "issues.db" (.saveSearch (some "q") "type:bug"))).any
      (· ≠ p.settings) := by
    decide +kernel
  constructor
  · obtain ⟨title, read⟩ := Option.isSome_iff_exists.mp reads
    obtain ⟨s, accepted, isTitle⟩ := Option.bind_eq_some_iff.mp read
    refine ⟨s, title, toOption_eq_some.mp accepted, ?_⟩
    rw [titleOf?] at isTitle
    split at isTitle
    · rename_i named
      rw [named, Option.some.inj isTitle]
    · cases isTitle
  · generalize p.handle "issues.db" (.saveSearch (some "q") "type:bug") = outcome at fails ⊢
    obtain ⟨_, p'⟩ := outcome
    rw [leftOf?.eq_def] at fails
    split at fails
    · rename_i fault _ same
      cases same
      exact ⟨fault, p', rfl, by simpa using fails⟩
    · cases fails

end Project

end IssueTracker
