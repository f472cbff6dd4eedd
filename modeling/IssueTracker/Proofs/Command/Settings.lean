import IssueTracker.Proofs.Command.Session
import IssueTracker.Proofs.Settings.Fault

/-!
# Commands in a project whose settings are damaged

Unless colours are refused, a command line reads the settings of the project before its command.  A
fault of the file is reported with exit code 1.  A number of too many digits, containers too far inside
one another and a limit without end are no faults: every such command line ends with an error that is not
reported (`damaged_settings_reported`).
-/

namespace IssueTracker

/-- A command line that does not refuse colours, in a workspace whose project, kept in a directory,
    has a settings file with this content. -/
structure LooksAtSettings (w : Workspace) (arguments : List String) (root : Path) (content : Bytes) :
    Prop where
  line : ∃ line, CommandLine.read arguments = .ok line ∧ line.plain = false ∧
    line.directory.or (w.find none) = some root
  there : w.isDirectory root
  file : w.tree.find? w.here (ProjectPaths.ofRoot root).settings = some (.file content)

namespace Run

variable {s s' : Session} {path root : Path} {content : Bytes} {arguments : List String}

theorem settings_fault [Json.Nesting]
    (there : s.workspace.tree.find? s.workspace.here path = some (.file content))
    {fault : SettingsFault} (fails : Settings.load (.content content) = .error (.fault fault))
    (plain : '[' ∉ path.text.toList) : (settings path).run s = (.error (.exit 1), s.printing
      ("Error: ".toList ++ Terminal.shownText (fault.message path.text).toList)) := by
  rw [settings, run_bind_ok (settingsFile_run there), fails]
  exact failWith_run (Terminal.shown_error_plain (fault.opening_notMem_message plain))

theorem settings_error [Json.Nesting]
    (there : s.workspace.tree.find? s.workspace.here path = some (.file content))
    {e : SettingsError} (fails : Settings.load (.content content) = .error e)
    (other : ∀ fault, e ≠ .fault fault) :
    (settings path).run s = (.error (.fault (.failure (.saved (.settings e)))), s) := by
  rw [settings, run_bind_ok (settingsFile_run there), fails]
  cases e with
  | fault fault => exact absurd rfl (other fault)
  | isDirectory | undecodable | longNumber | tooDeep | infiniteLimit => rfl

/-- What reading the settings ends with, the command line ends with, whatever its command. -/
theorem commandLine_settings [Json.Nesting] (looks : LooksAtSettings s.workspace arguments root content)
    {e : Ending} (ends : (settings (ProjectPaths.ofRoot root).settings).run s = (.error e, s')) :
    (commandLine arguments).run s = (.error e, s') := by
  obtain ⟨line, reads, coloured, found⟩ := looks.line
  rw [commandLine, reads]
  refine run_bind_error ?_
  have wanted : (s.workspace.isDirectory root && !line.plain) = true := by
    rw [looks.there, coloured]
    rfl
  rw [project, run_bind_ok workspace_run, found]
  dsimp only
  rw [if_pos wanted]
  exact run_bind_error ends

end Run

/-- A settings file that can be decoded is read as settings, with the limit that its value stands for,
    or its fault is reported, unless reading stops at a whole number of too many digits, in a run of so
    many, or too far inside containers, as behind so many opening brackets, or the limit has no end.  A
    command line that looks at it reports a fault, and ends with an error that is not reported in the
    other cases. -/
theorem damaged_settings_reported [Json.Nesting] {content : Bytes} {chars : List Char}
    (decodes : Text.decodeUtf8 content = .ok chars) :
    let text := Text.unifyLineEnds chars
    (Settings.IsReported (Settings.load (.content content)) ↔
      (∀ numeral, Json.read text ≠ .error (.longNumber numeral)) ∧
      (∀ overflow, Json.read text ≠ .error (.tooDeep overflow)) ∧ ¬ Settings.HasInfiniteLimit text) ∧
    (∀ numeral, Json.read text = .error (.longNumber numeral) → Json.HasLongRun text) ∧
    (∀ overflow, Json.read text = .error (.tooDeep overflow) → Json.IsDeep text) ∧
    (∀ rest, text = List.replicate (Json.Nesting.limit + 1) '[' ++ rest →
      Json.read text = .error (.tooDeep (.container .array))) ∧
    (∀ s, Settings.load (.content content) = .ok s → ∃ members,
      Json.read text = .ok (.object members) ∧
      Settings.savedOf ((Json.member? "saved_searches" members).getD .null) = .ok s.savedSearches ∧
      Settings.limitOf ((Json.member? "default_limit" members).getD
        (.integer ({} : Settings).defaultLimit)) = .ok (s.defaultLimit : Int)) ∧
    ∀ w arguments root input, LooksAtSettings w arguments root content →
      (∀ fault, Settings.load (.content content) = .error (.fault fault) →
        '[' ∉ (ProjectPaths.ofRoot root).settings.text.toList →
        w.run input arguments = (.exit 1, Session.printing { workspace := w, input }
          ("Error: ".toList ++ Terminal.shownText
            (fault.message (ProjectPaths.ofRoot root).settings.text).toList))) ∧
      ∀ e, Settings.load (.content content) = .error e → (∀ fault, e ≠ .fault fault) →
        w.run input arguments = (.fault (.failure (.saved (.settings e))), { workspace := w, input }) := by
  intro text
  have loads := Settings.load_content decodes
  refine ⟨?_, fun numeral stops => Json.hasLongRun_of_read stops,
    fun overflow stops => Json.isDeep_of_read stops, ?_, fun s reads => ?_, ?_⟩
  · rw [loads]
    exact Settings.isReported_ofText_iff
  · intro rest same
    rw [same]
    exact Json.read_nested rest
  · exact Settings.ofText_eq_ok (loads ▸ reads)
  · intro w arguments root input looks
    let start : Session := { workspace := w, input }
    refine ⟨fun fault fails plain => ?_, fun e fails other => ?_⟩
    · have ends := Run.settings_fault (s := start) looks.file fails plain
      rw [Workspace.run, Run.commandLine_settings (s := start) looks ends]
    · have ends := Run.settings_error (s := start) looks.file fails other
      rw [Workspace.run, Run.commandLine_settings (s := start) looks ends]

/-- A settings file that holds an array is reported. -/
theorem damaged_settings_reported_array :
    let content := Text.encodeUtf8 "[]".toList
    let w : Workspace := {
      tree := ⟨[([".issuemap"], .directory), ([".issuemap", "config.json"], .file content)]⟩
      here := [], clock := .earliest, user := "" }
    Text.decodeUtf8 content = .ok "[]".toList ∧ Settings.IsReported (Settings.load (.content content)) ∧
      w.run [] ["labels"] = (.exit 1, Session.printing { workspace := w, input := [] }
        ("Error: ".toList ++ Terminal.shownText (SettingsFault.notAnObject.message
          "/.issuemap/config.json").toList)) := by
  intro content w
  have decodes := Text.decodeUtf8_encodeUtf8 "[]".toList
  have reads : Json.read (Text.unifyLineEnds "[]".toList) = .ok (.array []) := rfl
  have fails : Settings.load (.content content) = .error (.fault .notAnObject) := by
    rw [Settings.load_content decodes, Settings.ofText, reads]
    rfl
  have looks : LooksAtSettings w ["labels"] ⟨1, [".issuemap"]⟩ content := by
    refine ⟨⟨{ name := "labels", arguments := [] }, ?_, rfl, ?_⟩, ?_, ?_⟩
    · decide +kernel
    · decide +kernel
    · decide +kernel
    · decide +kernel
  obtain ⟨reported, _, _, _, _, commands⟩ := damaged_settings_reported decodes
  refine ⟨decodes, reported.mpr ⟨?_, ?_, ?_⟩, ?_⟩
  · intro numeral stops
    cases reads.symm.trans stops
  · intro overflow stops
    cases reads.symm.trans stops
  · rintro ⟨members, negative, isObject, _⟩
    cases reads.symm.trans isObject
  · exact (commands w ["labels"] _ [] looks).1 .notAnObject fails (by decide +kernel)

/-- A limit without end is not reported. -/
theorem not_isReported_infiniteLimit :
    let content := Text.encodeUtf8 "\x7b\"default_limit\": Infinity\x7d".toList
    (∃ chars, Text.decodeUtf8 content = .ok chars) ∧
      ¬ Settings.IsReported (Settings.load (.content content)) := by
  intro content
  have decodes := Text.decodeUtf8_encodeUtf8 "\x7b\"default_limit\": Infinity\x7d".toList
  refine ⟨⟨_, decodes⟩, ?_⟩
  rw [Settings.load_content decodes]
  decide +kernel

end IssueTracker
