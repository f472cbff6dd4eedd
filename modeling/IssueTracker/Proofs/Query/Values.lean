import IssueTracker.Query.Reader
import IssueTracker.Proofs.Text.Lower
import IssueTracker.Proofs.Text.Trim

/-!
# Values of fields

The values that a token may give a field are those that are read for it
(`allows_of_filterValues`), and each of them is read back by itself (`filterValues_of_allows`).
-/

namespace IssueTracker

/-- A value of a field: not empty, without blanks around it or quotes in it, a word of the field's
    vocabulary if it has one, and without commas if it is a label. -/
structure FilterField.Allows (field : FilterField) (value : String) : Prop where
  notEmpty : value ≠ ""
  trimmed : Text.strip value = value
  unquoted : '"' ∉ value.toList
  word : ∀ words, field.vocabulary? = some words → value ∈ words
  single : field = .labels → ',' ∉ value.toList

/-! ## Pieces -/

theorem mem_pieces {p : Char → Bool} {cs piece : List Char} (member : piece ∈ Text.pieces p cs) :
    ∀ c ∈ piece, c ∈ cs ∧ p c = false := by
  induction cs generalizing piece with
  | nil =>
    rw [Text.pieces, List.mem_singleton] at member
    simp [member]
  | cons c rest ih =>
    rw [Text.pieces] at member
    split at member
    · rcases List.mem_cons.mp member with rfl | later
      · simp
      · intro x inside
        exact ⟨List.mem_cons_of_mem _ (ih later x inside).1, (ih later x inside).2⟩
    · rename_i keeps
      split at member
      · rw [List.mem_singleton] at member
        simp [member, keeps]
      · rename_i first others split
        rcases List.mem_cons.mp member with rfl | later
        · intro x inside
          rcases List.mem_cons.mp inside with rfl | inside
          · simpa using keeps
          · have old := ih (split ▸ List.mem_cons_self) x inside
            exact ⟨List.mem_cons_of_mem _ old.1, old.2⟩
        · intro x inside
          have old := ih (split ▸ List.mem_cons_of_mem _ later) x inside
          exact ⟨List.mem_cons_of_mem _ old.1, old.2⟩

theorem pieces_eq_singleton {p : Char → Bool} {cs : List Char} (single : ∀ c ∈ cs, p c = false) :
    Text.pieces p cs = [cs] := by
  induction cs with
  | nil => rfl
  | cons c cs ih =>
    have first := single c List.mem_cons_self
    have rest := ih fun d member => single d (List.mem_cons_of_mem _ member)
    simp [Text.pieces, first, rest]

/-! ## Vocabularies -/

/-- The words of the vocabularies are in lower case. -/
theorem lower_of_mem_vocabulary {field : FilterField} {words : List String}
    (vocabulary : field.vocabulary? = some words) {word : String} (member : word ∈ words) :
    Text.lower word = word := by
  have plain : ∀ w ∈ issueTypes ++ statuses ++ priorities, w.toList.all Text.isPlainLower = true := by
    decide
  have isWord : word ∈ issueTypes ++ statuses ++ priorities := by
    cases field <;> cases vocabulary <;> simp [member]
  exact Text.lower_eq_self (List.all_eq_true.mp (plain word isWord))

theorem allows_of_mem_vocabulary {field : FilterField} {words : List String}
    (vocabulary : field.vocabulary? = some words) {word : String} (member : word ∈ words) :
    field.Allows word := by
  have plain : ∀ w ∈ issueTypes ++ statuses ++ priorities,
      w ≠ "" ∧ Text.strip w = w ∧ '"' ∉ w.toList := by decide +kernel
  have isWord : word ∈ issueTypes ++ statuses ++ priorities := by
    cases field <;> cases vocabulary <;> simp [member]
  obtain ⟨notEmpty, trimmed, unquoted⟩ := plain word isWord
  refine ⟨notEmpty, trimmed, unquoted, ?_, ?_⟩
  · intro others same
    cases vocabulary.symm.trans same
    exact member
  · rintro rfl
    cases vocabulary

/-- The parts of a value are of its characters, and those for labels have no comma. -/
theorem mem_filterPart {field : FilterField} {value part : List Char}
    (isPart : part ∈ if field = .labels then Text.pieces (· == ',') value else [value]) :
    ∀ c ∈ part, c ∈ value ∧ (field = .labels → c ≠ ',') := by
  intro c member
  by_cases labels : field = .labels
  · rw [if_pos labels] at isPart
    obtain ⟨inside, noComma⟩ := mem_pieces isPart c member
    exact ⟨inside, fun _ => by simpa using noComma⟩
  · rw [if_neg labels] at isPart
    rw [List.mem_singleton.mp isPart] at member
    exact ⟨member, fun same => absurd same labels⟩

/-- The values that are read for a field are some, and values of the field. -/
theorem allows_of_filterValues {field : FilterField} {value : List Char} {values : List String}
    (unquoted : '"' ∉ value) (reads : filterValues field value = .ok values) :
    values ≠ [] ∧ ∀ v ∈ values, field.Allows v := by
  rw [filterValues] at reads
  cases vocabulary : field.vocabulary? with
  | some words =>
    simp only [vocabulary] at reads
    split at reads
    · rename_i member
      cases reads
      simpa using allows_of_mem_vocabulary vocabulary (List.contains_iff_mem.mp member)
    · cases reads
  | none =>
    simp only [vocabulary] at reads
    split at reads
    · cases reads
    · rename_i whole filled
      cases reads
      refine ⟨fun empty => filled (List.map_eq_nil_iff.mp empty), ?_⟩
      intro v member
      obtain ⟨trimmed, isFilled, rfl⟩ := List.mem_map.mp member
      obtain ⟨isTrimmed, notEmpty⟩ := List.mem_filter.mp isFilled
      obtain ⟨piece, isPiece, rfl⟩ := List.mem_map.mp isTrimmed
      have part := mem_filterPart isPiece
      refine ⟨?_, ?_, ?_, ?_, ?_⟩
      · intro empty
        rw [← String.toList_inj, String.toList_ofList] at empty
        simp [empty] at notEmpty
      · simp [Text.strip]
      · rw [String.toList_ofList]
        exact fun member => unquoted (part _ (Text.mem_of_mem_trim member)).1
      · simp [vocabulary]
      · intro labels
        rw [String.toList_ofList]
        exact fun member => (part _ (Text.mem_of_mem_trim member)).2 labels rfl

/-- A value of a field is read back. -/
theorem filterValues_of_allows {field : FilterField} {value : String} (allows : field.Allows value) :
    filterValues field value.toList = .ok [value] := by
  have trimmed : Text.trim value.toList = value.toList :=
    Text.trim_eq_self (Text.strip_eq_self_iff.mp allows.trimmed)
  rw [filterValues]
  cases vocabulary : field.vocabulary? with
  | some words =>
    have member := allows.word words vocabulary
    have lowered : String.ofList (Text.lowerChars value.toList) = value :=
      lower_of_mem_vocabulary vocabulary member
    simp [trimmed, lowered, member]
  | none =>
    have single : (if field = .labels then Text.pieces (· == ',') value.toList
        else [value.toList]) = [value.toList] := by
      by_cases labels : field = .labels
      · rw [if_pos labels]
        refine pieces_eq_singleton fun c member => ?_
        have other : c ≠ ',' := fun same => allows.single labels (same ▸ member)
        simpa using other
      · rw [if_neg labels]
    have filled : value.toList ≠ [] := by simpa using allows.notEmpty
    simp [single, trimmed, filled]

end IssueTracker
