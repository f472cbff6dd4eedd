import IssueTracker.Proofs.Search.Stored
import IssueTracker.Proofs.Store.Lookup
import IssueTracker.Proofs.Text.Numeral

/-!
# Labels in lists, texts and queries

Labels come as a list, as one text, and as a value in a query.  A text has the labels of the list of its
parts, and a query that quotes it asks for these in the same order, or is rejected when there are none
(`labels_agree`).  So labels are searched as they were given.
-/

namespace IssueTracker

/-! ## Texts -/

/-- The parts of a text between its commas and line ends. -/
def labelParts (text : String) : List String :=
  (text.toList.splitOnP fun c => c == ',' || c == '\n').map String.ofList

/-- A line end separates labels as a comma does. -/
theorem pieces_commas (cs : List Char) :
    Text.pieces (· == ',') (cs.map fun c => if c = '\n' then ',' else c) =
      Text.pieces (fun c => c == ',' || c == '\n') cs := by
  induction cs with
  | nil => rfl
  | cons c rest ih =>
    rw [List.map_cons, Text.pieces, Text.pieces, ih]
    by_cases lineEnd : c = '\n'
    · simp [lineEnd]
    · simp [lineEnd]

theorem splitLabels_eq (text : String) :
    splitLabels text = labelNames ((labelParts text).map String.toList) := by
  have parts : (labelParts text).map String.toList =
      text.toList.splitOnP fun c => c == ',' || c == '\n' := by
    simp [labelParts, Function.comp_def]
  rw [splitLabels, pieces_commas, Text.pieces_eq_splitOnP, parts]

/-- A text of labels on one line is cut at its commas. -/
theorem splitLabels_of_oneLine {text : String} (oneLine : '\n' ∉ text.toList) :
    splitLabels text = labelNames (Text.pieces (· == ',') text.toList) := by
  have same : ∀ c ∈ text.toList, (if c = '\n' then ',' else c) = c := by
    intro c member
    refine if_neg ?_
    rintro rfl
    exact oneLine member
  rw [splitLabels, List.map_congr_left same, List.map_id']

/-! ## Queries -/

/-- The values that are read for the labels are those that a token lists, when there are some. -/
theorem filterValues_labels_eq_ok {value : List Char} {values : List String} :
    filterValues .labels value = .ok values ↔ values ≠ [] ∧ values = listedValues .labels value := by
  rw [filterValues]
  simp only [FilterField.vocabulary?, if_true, listedValues]
  split
  · rename_i none
    simp [none]
  · rename_i filled
    constructor
    · rintro ⟨rfl⟩
      exact ⟨fun empty => filled (List.map_eq_nil_iff.mp empty), rfl⟩
    · rintro ⟨_, rfl⟩
      rfl

/-- The distinct values that a token lists for the labels are the names between its commas. -/
theorem distinct_listedValues (value : List Char) :
    distinct (listedValues .labels value) = labelNames (Text.pieces (· == ',') value) := by
  rw [labelNames_eq_distinct, listedValues, if_pos rfl]

/-- A query for a text of labels in quotes asks for the names between the commas of the text. -/
theorem parseQuery_labels {text : String} (unquoted : '"' ∉ text.toList) {q : Query} :
    parseQuery ("labels:\"" ++ text ++ "\"") = .ok q ↔
      labelNames (Text.pieces (· == ',') text.toList) ≠ [] ∧
        q = { filters := [⟨.labels, labelNames (Text.pieces (· == ',') text.toList), false⟩] } := by
  have known : FilterField.labels ∈ FilterField.all := by decide
  have written : "labels:\"" = FilterField.labels.name ++ ":\"" := by decide
  rw [written, parseQuery_token_eq_ok (tokenize_quotedValue known unquoted)
    (ofToken_filterToken known unquoted), ← distinct_listedValues]
  constructor
  · rintro ⟨values, reads, rfl⟩
    obtain ⟨filled, rfl⟩ := filterValues_labels_eq_ok.mp reads
    exact ⟨mt distinct_eq_nil.mp filled, rfl⟩
  · rintro ⟨filled, rfl⟩
    exact ⟨_, filterValues_labels_eq_ok.mpr ⟨mt distinct_eq_nil.mpr filled, rfl⟩, rfl⟩

/-! ## Agreement -/

/-- Labels are read alike in a text, in a list and in a query.  A text has the labels of the list of its
    parts.  A list of which no label is missing comes down to the names in it, each where it occurs first,
    and these stay as they are.  A query for a text on one line, in quotes, is read just when the text has
    labels, and asks for these in their order. -/
theorem labels_agree :
    (∀ text : String, normalizeLabels (.ofNames (labelParts text)) = some (splitLabels text)) ∧
      (∀ labels : LabelList, none ∉ labels.getD [] → ∃ names, normalizeLabels labels = some names ∧
        KeepsFirst labels.entries names ∧ normalizeLabels (.ofNames names) = some names) ∧
      ∀ text : String, '"' ∉ text.toList → '\n' ∉ text.toList → ∀ q : Query,
        parseQuery ("labels:\"" ++ text ++ "\"") = .ok q ↔
          splitLabels text ≠ [] ∧ q = { filters := [⟨.labels, splitLabels text, false⟩] } := by
  refine ⟨fun text => ?_, fun labels whole => ?_, fun text unquoted oneLine q => ?_⟩
  · rw [normalizeLabels_ofNames, splitLabels_eq]
  · have keeps := keepsFirst_labelNames labels.entries
    refine ⟨_, by rw [normalizeLabels_eq, if_neg whole], keeps, ?_⟩
    rw [normalizeLabels_ofNames, keeps.labelNames_eq]
  · rw [splitLabels_of_oneLine oneLine]
    exact parseQuery_labels unquoted

/-- Labels that are repeated, with other blanks around them, count once. -/
theorem labels_agree_repeated :
    none ∉ (LabelList.ofNames ["ui\n", "", " Ui", "\tui"]).getD [] ∧
      normalizeLabels (.ofNames ["ui\n", "", " Ui", "\tui"]) = some ["ui", "Ui"] ∧
      KeepsFirst ["ui\n", "", " Ui", "\tui"] ["ui", "Ui"] ∧
      '"' ∉ "ui ,, Ui,\tui".toList ∧ '\n' ∉ "ui ,, Ui,\tui".toList ∧
      parseQuery "labels:\"ui ,, Ui,\tui\"" = .ok { filters := [⟨.labels, ["ui", "Ui"], false⟩] } := by
  obtain ⟨_, lists, queries⟩ := labels_agree
  have whole : none ∉ (LabelList.ofNames ["ui\n", "", " Ui", "\tui"]).getD [] := by decide
  have unquoted : '"' ∉ "ui ,, Ui,\tui".toList := by decide
  have oneLine : '\n' ∉ "ui ,, Ui,\tui".toList := by decide
  obtain ⟨names, normal, keeps, _⟩ := lists _ whole
  have given : normalizeLabels (.ofNames ["ui\n", "", " Ui", "\tui"]) = some ["ui", "Ui"] := by
    decide +kernel
  cases normal.symm.trans given
  have written : splitLabels "ui ,, Ui,\tui" = ["ui", "Ui"] := by decide +kernel
  refine ⟨whole, given, keeps, unquoted, oneLine, ?_⟩
  exact (queries "ui ,, Ui,\tui" unquoted oneLine _).mpr ⟨by simp [written], by rw [written]⟩

end IssueTracker
