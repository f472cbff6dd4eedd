import IssueTracker.Proofs.Store.Lookup

/-!
# Updating an issue

Changes that pass their checks assign each column at most one value, so a column has the value it was given
or keeps its own (`Record.read_assign_given`).  What an update makes of an issue follows
(`Changes.Makes`), and that it makes nothing of any other (`Store.update_makes`).
-/

namespace IssueTracker

/-! ## Columns -/

/-- The value of a column in a record. -/
def Store.Column.read : Column → Record → String
  | title, r => r.title
  | description, r => r.description
  | type, r => r.type
  | priority, r => r.priority
  | assignee, r => r.assignee
  | branch, r => r.branch

theorem Store.Column.read_write (column other : Column) (value : Option String) (r : Record) :
    other.read (column.write value r) = if other = column then value.getD "" else other.read r := by
  cases column <;> cases other <;> rfl

/-- The time of change is no column that can be changed. -/
theorem Store.Column.read_stamp (column : Column) (r : Record) (updatedAt : String) :
    column.read { r with updatedAt } = column.read r := by
  cases column <;> rfl

namespace Record
variable {assignments given : List Store.Assignment} {column : Store.Column} {value : Option String}

theorem read_assign_of_notMem (absent : column ∉ assignments.map Prod.fst) (r : Record) :
    column.read (r.assign assignments) = column.read r := by
  induction assignments generalizing r with
  | nil => rfl
  | cons first later ih =>
    rw [List.map_cons, List.mem_cons, not_or] at absent
    have rest := ih absent.2 (first.1.write first.2 r)
    rw [Store.Column.read_write, if_neg absent.1] at rest
    exact rest

theorem read_assign_of_mem (once : (assignments.map Prod.fst).Nodup)
    (member : (column, value) ∈ assignments) (r : Record) :
    column.read (r.assign assignments) = value.getD "" := by
  induction assignments generalizing r with
  | nil => cases member
  | cons first later ih =>
    obtain ⟨absent, once⟩ := List.nodup_cons.mp once
    rcases List.mem_cons.mp member with rfl | inside
    · have kept := read_assign_of_notMem absent (column.write value r)
      rw [Store.Column.read_write, if_pos rfl] at kept
      exact kept
    · exact ih once inside _

/-- When those columns are assigned that are given a value, each has this value or the one it had. -/
theorem read_assign_given (once : (given.map Prod.fst).Nodup) (member : (column, value) ∈ given)
    (r : Record) : column.read (r.assign (given.filter (·.2.isSome))) = value.getD (column.read r) := by
  cases value with
  | some text =>
    have fewer : ((given.filter (·.2.isSome)).map Prod.fst).Sublist (given.map Prod.fst) :=
      List.filter_sublist.map Prod.fst
    exact read_assign_of_mem (fewer.nodup once) (List.mem_filter.mpr ⟨member, rfl⟩) r
  | none =>
    refine read_assign_of_notMem ?_ r
    intro assigned
    obtain ⟨other, kept, same⟩ := List.mem_map.mp assigned
    obtain ⟨inside, present⟩ := List.mem_filter.mp kept
    -- The column is given once, and then nothing.
    have isNone := List.inj_on_of_nodup_map once inside member same
    simp [isNone] at present

end Record

/-! ## Checks -/

/-- A word as the vocabularies list it. -/
def normalWord (text : String) : String := Text.lower (Text.strip text)

namespace Changes

/-- The values that changes give the columns. -/
def values (c : Changes) : List Store.Assignment :=
  [(.title, c.title.map Text.strip), (.description, c.description), (.type, c.type.map normalWord),
   (.priority, c.priority.map normalWord), (.assignee, c.assignee.map Text.strip),
   (.branch, c.branch.map Text.strip)]

/-- Texts that an issue can be given: a title that is not blank, and words of the vocabularies. -/
structure HasAcceptedTexts (c : Changes) : Prop where
  title : ∀ title ∈ c.title, Text.strip title ≠ ""
  type : ∀ type ∈ c.type, normalWord type ∈ issueTypes
  priority : ∀ priority ∈ c.priority, normalWord priority ∈ priorities

/-- Changes that can be made: no label is missing either. -/
structure IsAccepted (c : Changes) : Prop extends c.HasAcceptedTexts where
  labels : none ∉ c.labels.getD []

/-- What changes make of an issue at a moment: a value that is given takes the place of the old one, and
    all else stays. -/
structure Makes (c : Changes) (now : Moment) (i i' : Issue) : Prop where
  id : i'.id = i.id
  title : i'.title = (c.title.map Text.strip).or i.title
  description : i'.description = c.description.or i.description
  type : i'.type = (c.type.map normalWord).or i.type
  status : i'.status = i.status
  priority : i'.priority = (c.priority.map normalWord).or i.priority
  assignee : i'.assignee = (c.assignee.map Text.strip).or i.assignee
  branch : i'.branch = (c.branch.map Text.strip).or i.branch
  labels : c.labels ≠ none → i'.labels.Tidies c.labels.entries
  labelsStay : c.labels = none → i'.labels = i.labels
  createdAt : i'.createdAt = i.createdAt
  updatedAt : i'.updatedAt = some now.asRead
  closedAt : i'.closedAt = i.closedAt

variable {c : Changes} {assignments : List Store.Assignment}

theorem check_eq_ok :
    c.check = .ok assignments ↔ c.HasAcceptedTexts ∧ assignments = c.values.filter (·.2.isSome) := by
  have title {result : Option String} : c.title.mapM checkTitle = .ok result ↔
      c.title.map Text.strip = result ∧ ∀ title ∈ c.title, Text.strip title ≠ "" :=
    optionMapM_eq_ok checkTitle_eq_ok
  have word (vocabulary : Vocabulary) (given result : Option String) :
      given.mapM (fun text => vocabulary.check (some text)) = .ok result ↔
        given.map normalWord = result ∧ ∀ text ∈ given, normalWord text ∈ vocabulary.words := by
    refine optionMapM_eq_ok ?_
    intro text word
    rw [Vocabulary.check_eq_ok, normalWord, Option.getD_some]
  constructor
  · intro checks
    obtain ⟨_, titled, checks⟩ := bind_eq_ok.mp checks
    obtain ⟨_, typed, checks⟩ := bind_eq_ok.mp checks
    obtain ⟨_, prioritized, checks⟩ := bind_eq_ok.mp checks
    obtain ⟨rfl, filled⟩ := title.mp titled
    obtain ⟨rfl, isType⟩ := (word ..).mp typed
    obtain ⟨rfl, isPriority⟩ := (word ..).mp prioritized
    cases checks
    exact ⟨⟨filled, isType, isPriority⟩, rfl⟩
  · rintro ⟨accepted, rfl⟩
    refine bind_eq_ok.mpr ⟨_, title.mpr ⟨rfl, accepted.title⟩, ?_⟩
    refine bind_eq_ok.mpr ⟨_, (word ..).mpr ⟨rfl, accepted.type⟩, ?_⟩
    exact bind_eq_ok.mpr ⟨_, (word ..).mpr ⟨rfl, accepted.priority⟩, rfl⟩

theorem nodup_values (c : Changes) : (c.values.map Prod.fst).Nodup := by
  have columns : c.values.map Prod.fst = Store.Column.all := rfl
  rw [columns]
  decide

/-- A record with the values of changes, at a moment. -/
def record (c : Changes) (now : Moment) (r : Record) : Record :=
  { r.assign (c.values.filter (·.2.isSome)) with updatedAt := now.isoSeconds }

/-- Changes leave the id, the status and the other times alone. -/
theorem record_frame (c : Changes) (now : Moment) (r : Record) :
    (c.record now r).id = r.id ∧ (c.record now r).status = r.status ∧
      (c.record now r).createdAt = r.createdAt ∧ (c.record now r).closedAt = r.closedAt :=
  r.assign_frame (c.values.filter (·.2.isSome))

theorem read_record (column : Store.Column) {value : Option String} (member : (column, value) ∈ c.values)
    (now : Moment) (r : Record) :
    some (column.read (c.record now r)) = value.or (some (column.read r)) := by
  rw [record, column.read_stamp, Record.read_assign_given c.nodup_values member]
  cases value <;> rfl

/-- The changed record is read as what the changes make of the issue, as far as its labels are. -/
theorem makes_record {r : Record} {now : Moment} {labels labels' : List String}
    {created updated closed : Option Moment} (tidies : c.labels ≠ none → (LabelList.ofNames labels').Tidies c.labels.entries)
    (stay : c.labels = none → labels' = labels) :
    c.Makes now (r.issue labels created updated closed)
      ((c.record now r).issue labels' created now.asRead closed) where
  id := congrArg some (c.record_frame now r).1
  title := read_record .title (by simp [values]) now r
  description := read_record .description (by simp [values]) now r
  type := read_record .type (by simp [values]) now r
  status := congrArg some (c.record_frame now r).2.1
  priority := read_record .priority (by simp [values]) now r
  assignee := read_record .assignee (by simp [values]) now r
  branch := read_record .branch (by simp [values]) now r
  labels := tidies
  labelsStay := fun absent => congrArg LabelList.ofNames (stay absent)
  createdAt := rfl
  updatedAt := rfl
  closedAt := rfl

end Changes

/-! ## Stores -/

namespace Store
variable {s s' : Store} {id : Int} {assignments : List Assignment} {labels : LabelList} {now : Moment}

/-- Values can be assigned to an issue that is there, and labels of which none is missing. -/
theorem exists_update (fits : fitsId id) (there : (s.record? id).isSome)
    (given : ∀ a ∈ assignments, a.2.isSome) (whole : none ∉ labels.getD []) (now : Moment) :
    ∃ s', s.update id assignments labels now = .ok s' := by
  obtain ⟨r, found⟩ := Option.isSome_iff_exists.mp there
  have complete : missingColumn? assignments = none := by
    rw [missingColumn?, List.find?_eq_none]
    intro column _ missing
    have member : (column, none) ∈ assignments := by
      simpa using (Bool.and_eq_true_iff.mp missing).2
    simpa using given _ member
  simp only [update, fits, found, complete, Bool.not_true, Bool.false_eq_true, if_false]
  cases labels with
  | none => exact ⟨_, rfl⟩
  | some entries =>
    refine exists_setLabels whole ?_
    rw [record?_modify, found]
    · rfl
    · exact fun r => (r.assign_frame assignments).1

/-- What an update does to the records and the labels of the issues. -/
theorem update_effect (intact : s.IsIntact) (updates : s.update id assignments labels now = .ok s') :
    (∀ other, s'.record? other = (s.record? other).map fun r =>
      if r.id = id then { r.assign assignments with updatedAt := now.isoSeconds } else r) ∧
    (∀ other, other ≠ id ∨ labels = none → s'.labelsOf other = s.labelsOf other) ∧
    (labels ≠ none → (LabelList.ofNames (s'.labelsOf id)).Tidies labels.entries) := by
  obtain ⟨t, modified, set⟩ := update_eq_ok updates
  have records : ∀ other, t.record? other = (s.record? other).map fun r =>
      if r.id = id then { r.assign assignments with updatedAt := now.isoSeconds } else r := by
    intro other
    rw [modified]
    refine record?_modify ?_
    exact fun r => (r.assign_frame assignments).1
  have labelled : ∀ other, t.labelsOf other = s.labelsOf other := by
    intro other
    rw [modified]
    rfl
  rcases set with ⟨absent, rfl⟩ | ⟨present, set⟩
  · exact ⟨records, fun other _ => labelled other, fun given => absurd absent given⟩
  · have sound : t.HasSoundLabels := intact.labels.congr (by rw [modified, modify]) (by rw [modified, modify])
    have linked : t.IsLinked := by
      rw [modified]
      exact intact.linked
    obtain ⟨tidy, kept⟩ := labelsOf_setLabels sound linked set
    obtain ⟨sameRecords, _⟩ := setLabels_evolves set
    refine ⟨fun other => ?_, fun other stays => ?_, fun _ => tidy⟩
    · rw [record?, sameRecords, ← record?, records]
    · rcases stays with apart | absent
      · rw [kept other apart, labelled]
      · exact absurd absent present

/-- What changes make of the issue with an id, which is there; every other issue stays. -/
theorem update_makes (intact : s.IsIntact) {c : Changes}
    (updates : s.update id (c.values.filter (·.2.isSome)) c.labels now = .ok s') {i : Issue}
    (finds : s.find? id = .ok (some i)) :
    (∃ i', s'.find? id = .ok (some i') ∧ c.Makes now i i') ∧
      ∀ other, other ≠ id → s'.find? other = s.find? other := by
  obtain ⟨records, labelsStay, labelled⟩ := update_effect intact updates
  constructor
  · obtain ⟨fits, r, found, reads⟩ := find?_eq_ok_some.mp finds
    obtain ⟨created, _, closed, createdAt, _, closedAt, rfl⟩ := issueOf_eq_ok_iff.mp reads
    have isId := id_of_record? found
    obtain ⟨sameId, _, created', closed'⟩ := c.record_frame now r
    have found' : s'.record? id = some (c.record now r) := by
      rw [records, found, Option.map_some, if_pos isId]
      rfl
    have reads' : s'.issueOf (c.record now r) =
        .ok ((c.record now r).issue (s'.labelsOf id) created now.asRead closed) := by
      refine issueOf_eq_ok_iff.mpr ⟨created, now.asRead, closed, ?_, ?_, ?_, ?_⟩
      · rw [created', createdAt]
      · exact readTime_isoSeconds (some now)
      · rw [closed', closedAt]
      · rw [sameId, isId]
    refine ⟨_, find?_eq_ok_some.mpr ⟨fits, _, found', reads'⟩, ?_⟩
    rw [isId]
    exact Changes.makes_record labelled fun absent => labelsStay id (Or.inr absent)
  · intro other apart
    refine find?_congr ?_ (labelsStay other (Or.inl apart))
    rw [records]
    cases found : s.record? other with
    | none => rfl
    | some r => rw [Option.map_some, if_neg (id_of_record? found ▸ apart)]

end Store

end IssueTracker
