import IssueTracker.Proofs.Query.Writing
import IssueTracker.Proofs.Text.Lower
import IssueTracker.Query.Match

/-!
# Phrases

A phrase in quotes is looked for in the title and the description with both of them in lower case.  It is
found where it stands in one of them, unless a capital sigma of the phrase is at the end of a word in the
phrase only or in the text only: its lower-case form is another one there (`accepts_phrase`).
-/

namespace IssueTracker

section
variable {phrase : String} {i : Issue}

/-- A phrase in quotes asks for the phrase. -/
theorem parseQuery_phrase (unquoted : '"' ∉ phrase.toList) (filled : phrase ≠ "")
    (trimmed : Text.strip phrase = phrase) :
    parseQuery ("\"" ++ phrase ++ "\"") = .ok { text := phrase } := by
  have wellFormed : Query.WellFormed { text := phrase } := {
    textUnquoted := unquoted
    textTrimmed := trimmed
    filterFields := List.nodup_nil
    filters := by simp
    boundFields := List.nodup_nil
    bounds := by simp
    sort := by simp
    limit := by simp }
  have written : ({ text := phrase } : Query).write = "\"" ++ phrase ++ "\"" := by
    rw [← String.toList_inj]
    simp [Query.write, Query.tokens, filled]
  exact written ▸ wellFormed.parseQuery_write

/-- Such a query is tried on every issue without failing. -/
theorem accepts_text (filled : phrase ≠ "") (i : Issue) (now : Moment) :
    ({ text := phrase } : Query).accepts i now = .ok (i.mentions phrase) := by
  have outcomes : ({ text := phrase } : Query).outcomes i now = .ok [i.mentions phrase] := by
    simp only [Query.outcomes, if_neg filled]
    rfl
  rw [Query.accepts, outcomes]
  simp [bind, Except.bind, pure, Except.pure, Query.combine]

/-- A line end stands between words. -/
theorem lineEnd_apart : Text.isCaseIgnorable '\n' = false ∧ Text.isCased '\n' = false := by
  decide +kernel

/-- A phrase is mentioned where it stands in the title or the description with its sigmas kept. -/
theorem Issue.mentions_of_keepsSigmas {text : String} {before after : List Char}
    (inside : i.title = some text ∨ i.description = some text)
    (split : text.toList = before ++ phrase.toList ++ after)
    (keeps : Text.KeepsSigmas before phrase.toList after) : i.mentions phrase := by
  obtain ⟨stops, uncased⟩ := lineEnd_apart
  rw [Issue.mentions, Text.holds_iff]
  rcases inside with is | is
  · have whole : i.searchText.toList =
        before ++ phrase.toList ++ (after ++ '\n' :: (Issue.textOrEmpty i.description).toList) := by
      simp [Issue.searchText, is, split]
    exact whole ▸ Text.lowerChars_isInfix (keeps.append_right stops uncased)
  · have whole : i.searchText.toList =
        (i.title.getD "None").toList ++ '\n' :: before ++ phrase.toList ++ after := by
      simp [Issue.searchText, Issue.textOrEmpty, is, split]
    exact whole ▸ Text.lowerChars_isInfix (keeps.append_left stops uncased)

/-- A phrase in quotes is satisfied by the issues that hold it in any case.  An issue with the phrase in
    its title or description is one of them when the phrase has no capital sigma, or each of its sigmas
    ends a word there exactly where it does in the phrase. -/
theorem accepts_phrase (filled : phrase ≠ "") (unquoted : '"' ∉ phrase.toList)
    (trimmed : Text.strip phrase = phrase) :
    ∃ q, parseQuery ("\"" ++ phrase ++ "\"") = .ok q ∧ ∀ i now,
      (∃ accepted, q.accepts i now = .ok accepted ∧
        (accepted = true ↔ Text.lowerChars phrase.toList <:+: Text.lowerChars i.searchText.toList)) ∧
      ∀ text, i.title = some text ∨ i.description = some text →
        ('Σ' ∉ phrase.toList → phrase.toList <:+: text.toList → q.accepts i now = .ok true) ∧
        ∀ before after, text.toList = before ++ phrase.toList ++ after →
          Text.KeepsSigmas before phrase.toList after → q.accepts i now = .ok true := by
  refine ⟨_, parseQuery_phrase unquoted filled trimmed, fun i now => ?_⟩
  rw [accepts_text filled]
  refine ⟨⟨_, rfl, Text.holds_iff⟩, fun text inside => ⟨fun none part => ?_, fun before after split keeps => ?_⟩⟩
  · obtain ⟨before, after, split⟩ := part
    exact congrArg _ (Issue.mentions_of_keepsSigmas inside split.symm (Text.keepsSigmas_of_notMem none))
  · exact congrArg _ (Issue.mentions_of_keepsSigmas inside split keeps)

end

/-- A phrase with a sigma at its end is found where its last word is one of the title. -/
theorem accepts_phrase_wordEnd :
    "ΟΔΟΣ" ≠ "" ∧ '"' ∉ "ΟΔΟΣ".toList ∧ Text.strip "ΟΔΟΣ" = "ΟΔΟΣ" ∧
      ∃ q, parseQuery ("\"" ++ "ΟΔΟΣ" ++ "\"") = .ok q ∧
        q.accepts { title := some "ΟΔΟΣ 5" } .earliest = .ok true := by
  have filled : "ΟΔΟΣ" ≠ "" := by decide
  have unquoted : '"' ∉ "ΟΔΟΣ".toList := by decide
  have trimmed : Text.strip "ΟΔΟΣ" = "ΟΔΟΣ" := by decide +kernel
  obtain ⟨q, parsed, accepts⟩ := accepts_phrase filled unquoted trimmed
  have found := (accepts { title := some "ΟΔΟΣ 5" } .earliest).2 "ΟΔΟΣ 5" (Or.inl rfl)
  refine ⟨filled, unquoted, trimmed, q, parsed, found.2 [] " 5".toList (by decide) ?_⟩
  have alone : Text.KeepsSigmas [] "ΟΔΟΣ".toList [] := fun first last _ => by simp
  exact alone.append_right (by decide +kernel) (by decide +kernel)

/-- The phrase `ΑΣ` is in the title `ΑΣΑ` and is not found there: its sigma ends a word, that of the title
    does not. -/
theorem accepts_phrase_withinWord :
    ∃ q, parseQuery "\"ΑΣ\"" = .ok q ∧ "ΑΣ".toList <:+: "ΑΣΑ".toList ∧
      ∀ now, q.accepts { title := some "ΑΣΑ" } now = .ok false := by
  have parsed : parseQuery ("\"" ++ "ΑΣ" ++ "\"") = .ok { text := "ΑΣ" } :=
    parseQuery_phrase (by decide) (by decide) (by decide +kernel)
  refine ⟨_, parsed, ?_, fun now => ?_⟩
  · exact ⟨[], ['Α'], by decide⟩
  · rw [accepts_text (by decide)]
    exact congrArg _ (by decide +kernel)

end IssueTracker
