import IssueTracker.Proofs.Command.Session
import IssueTracker.Proofs.Query.Rejection
import IssueTracker.Proofs.Query.Writing

/-!
# Commands on a text that writes no query

A search, its explanation and saving it read the query before anything else.  An error in the query is
reported behind `Invalid query` with exit code 2, whatever brackets its message has.  A limit of more
digits than a numeral may have is no such error: the command ends with a fault, and nothing is printed
(`rejection_reported`).
-/

namespace IssueTracker

namespace Run

/-- How a command ends in a session when no query can be read from its text, and the session after it:
    an error in the query is reported. -/
def rejected (s : Session) : Rejection → Except Ending Unit × Session
  | .query e => (.error (.exit 2), s.printing ("Error: Invalid query: ".toList ++
      Terminal.shownText (Terminal.escape e.message.toList)))
  | .longLimit numeral => (.error (.fault (.failure (.rejected (.longLimit numeral)))), s)

variable {s : Session} {raw : String} {r : Rejection}

theorem isShownAsIs_invalidQuery : Terminal.IsShownAsIs (' ' :: "Invalid query: ".toList) where
  noOpening := by decide
  last := by decide
  shown cs := by
    simp [Terminal.shownPiece, Terminal.withoutBracketEscapes, Terminal.withEmoji,
      Terminal.withEmoji_colon_space, Terminal.isStripped]

theorem query_rejected (fails : parseQuery raw = .error r) (rest : Query → Run Unit) :
    (query "Invalid query: " raw >>= rest).run s = rejected s r := by
  cases r with
  | query e =>
    refine run_bind_error ?_
    rw [query, fails]
    exact failWith_run (Terminal.shown_error isShownAsIs_invalidQuery)
  | longLimit numeral =>
    refine run_bind_error ?_
    rw [query, fails]
    rfl

/-- A command that reads a query from a text before anything else can end it: a search or its
    explanation in a format that there is, and saving a search in a project. -/
inductive ReadsQuery (s : Session) (root : Option Path) (raw : String) : Command → Prop
  | search {options : SearchOptions} {saveAs : Option String}
      (known : ∀ name, options.format ≠ .other name) : ReadsQuery s root raw (.search raw options saveAs)
  | explain {format : Format} (known : ∀ name, format ≠ .other name) :
      ReadsQuery s root raw (.explain raw format)
  | saveSearch {path : Path} {name : String} (found : root = some path)
      (there : s.workspace.isDirectory path) : ReadsQuery s root raw (.saveSearch name raw)

theorem command_rejected [Json.Nesting] {asked root : Option Path} {wanted : Command}
    (reads : ReadsQuery s root raw wanted) (fails : parseQuery raw = .error r) :
    (command asked root wanted).run s = rejected s r := by
  cases reads with
  | search known => rw [command, run_bind_ok (checkFormat_run known), query_rejected fails]
  | explain known => rw [command, run_bind_ok (checkFormat_run known), query_rejected fails]
  | saveSearch found there =>
    rw [found, command, run_bind_ok (projectPaths_run there), saveSearch, query_rejected fails]

end Run

/-- A text writes a query or has an error in it, unless reading stops at a limit of more digits than a
    numeral may have.  The commands that read a query report its errors, and end with a fault there. -/
theorem rejection_reported [Json.Nesting] (raw : String) :
    (((∃ q, parseQuery raw = .ok q) ∨ ∃ e, parseQuery raw = .error (.query e)) ↔
      ∀ numeral, ¬StopAtLongLimit (tokenize raw.toList) numeral) ∧
    ∀ (s : Session) (asked root : Option Path) (wanted : Command), Run.ReadsQuery s root raw wanted →
      ∀ r, parseQuery raw = .error r → (Run.command asked root wanted).run s = Run.rejected s r := by
  refine ⟨?_, fun s asked root wanted reads r fails => Run.command_rejected reads fails⟩
  simp only [← parseQuery_eq_longLimit]
  cases parseQuery raw with
  | ok q => simp
  | error r => cases r <;> simp

/-- A type that reads like a closing tag is reported. -/
theorem rejection_reported_closingTag :
    ∃ e, parseQuery "type:[/]" = .error (.query e) ∧
      (Run.command none none (.search "type:[/]" {} none)).run
          { workspace := { here := [], clock := .earliest, user := "" }, input := [] } =
        Run.rejected { workspace := { here := [], clock := .earliest, user := "" }, input := [] }
          (.query e) :=
  ⟨_, rfl, (rejection_reported "type:[/]").2 _ _ _ _ (.search (by simp)) _ rfl⟩

/-- A limit of 4301 digits writes no query, and there is no error in the query. -/
theorem parseQuery_longLimit :
    ¬((∃ q, parseQuery (String.ofList ("limit:".toList ++ List.replicate 4301 '9')) = .ok q) ∨
      ∃ e, parseQuery (String.ofList ("limit:".toList ++ List.replicate 4301 '9')) =
        .error (.query e)) := by
  have nines : ∀ c ∈ List.replicate 4301 '9', c = '9' := fun c => List.eq_of_mem_replicate
  have long : Text.numeralLimit < (List.replicate 4301 '9').length := by
    rw [List.length_replicate]
    decide
  generalize List.replicate 4301 '9' = digits at nines long
  have decimal : ∀ c ∈ digits, Text.isDecimal c := fun c member => by
    rw [nines c member]
    decide
  have unquoted : '"' ∉ digits := fun member => absurd (nines _ member) (by decide)
  have whole : Whole ("limit:".toList ++ digits) := by
    refine .append (whole_of_all (by decide)) (whole_of_all (List.all_eq_true.mpr fun c member => ?_))
    rw [nines c member]
    decide
  have named : Lexeme.ofToken ("limit".toList ++ ':' :: digits) = fieldLexeme "limit".toList digits :=
    ofToken_named (by decide) (by decide)
  have is : Lexeme.ofToken ("limit:".toList ++ digits) = .limit digits :=
    named.trans (congrArg Lexeme.limit (unquote_eq_self unquoted))
  have stops : StopAtLongLimit (tokenize ("limit:".toList ++ digits)) ⟨digits.length⟩ := by
    rw [tokenize_whole whole (by simp)]
    exact ⟨[], _, [], digits, rfl, readable_nil, rfl, ⟨digits, is, Or.inl rfl, decimal⟩, long, rfl⟩
  have fails := parseQuery_eq_longLimit.mpr
    (show StopAtLongLimit (tokenize (String.ofList ("limit:".toList ++ digits)).toList) _ by
      rwa [String.toList_ofList])
  rintro (⟨q, parsed⟩ | ⟨e, failed⟩)
  · cases fails.symm.trans parsed
  · cases fails.symm.trans failed

end IssueTracker
