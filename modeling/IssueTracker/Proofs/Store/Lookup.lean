import IssueTracker.Proofs.Store.Attachment
import IssueTracker.Proofs.Store.History

/-!
# Looking up one issue

What is read under an id is decided by the record with the id and by the labels of the issue
(`Store.find?_congr`), so a change of one issue is followed through these two.  Times are read back to the
second, with an offset unless that is less than a second (`Moment.asRead`).
-/

namespace IssueTracker

/-! ## Times -/

/-- A moment as it is read back from its text to the second. -/
def Moment.asRead (m : Moment) : Moment := { m.wholeSecond with offset := m.offset.map UtcOffset.asRead }

theorem UtcOffset.asRead_asRead (o : UtcOffset) : o.asRead.asRead = o.asRead := by
  by_cases short : o.micros.natAbs < 1000000
  · rw [asRead, asRead, if_pos short]
    rfl
  · rw [asRead, asRead, if_neg short, if_neg short]

theorem Moment.asRead_asRead (m : Moment) : m.asRead.asRead = m.asRead := by
  obtain ⟨date, time, offset⟩ := m
  cases offset with
  | none => rfl
  | some o => simp [asRead, wholeSecond, TimeOfDay.wholeSecond, UtcOffset.asRead_asRead]

/-- Only an offset of less than a second is lost. -/
theorem Moment.asRead_eq_wholeSecond {m : Moment}
    (long : ∀ o, m.offset = some o → o.micros = 0 ∨ 1000000 ≤ o.micros.natAbs) :
    m.asRead = m.wholeSecond := by
  obtain ⟨date, time, offset⟩ := m
  cases offset with
  | none => rfl
  | some o =>
    have same : o.asRead = o := by
      by_cases short : o.micros.natAbs < 1000000
      · have zero : o.micros = 0 := by
          rcases long o rfl with zero | long
          · exact zero
          · omega
        obtain ⟨micros, valid⟩ := o
        cases zero
        rfl
      · exact if_neg short
    simp [asRead, wholeSecond, same]

namespace Store

/-- A time that was written is read back, and so is a missing one. -/
theorem readTime_isoSeconds (time : Option Moment) :
    readTime (time.map Moment.isoSeconds) = .ok (time.map Moment.asRead) := by
  cases time with
  | none => rfl
  | some m =>
    rw [Option.map_some, readTime, Moment.ofIso?_of_ofIso m.ofIso_isoSeconds_eq]
    rfl

/-! ## Records -/

theorem issueOf_eq_ok_iff {s : Store} {r : Record} {i : Issue} :
    s.issueOf r = .ok i ↔ ∃ created updated closed, readTime r.createdAt = .ok created ∧
      readTime r.updatedAt = .ok updated ∧ readTime r.closedAt = .ok closed ∧
      i = r.issue (s.labelsOf r.id) created updated closed := by
  constructor
  · intro reads
    obtain ⟨created, createdAt, reads⟩ := bind_eq_ok.mp reads
    obtain ⟨updated, updatedAt, reads⟩ := bind_eq_ok.mp reads
    obtain ⟨closed, closedAt, reads⟩ := bind_eq_ok.mp reads
    cases reads
    exact ⟨created, updated, closed, createdAt, updatedAt, closedAt, rfl⟩
  · rintro ⟨created, updated, closed, createdAt, updatedAt, closedAt, rfl⟩
    rw [issueOf, createdAt, updatedAt, closedAt]
    rfl

section
variable {s t : Store} {id other : Int} {r : Record} {i : Issue}

theorem id_of_record? (found : s.record? id = some r) : r.id = id := by
  simpa using List.find?_some found

/-- A change of the records with an id shows under this id. -/
theorem record?_modify {change : Record → Record} (keepsId : ∀ r, (change r).id = r.id) :
    (s.modify id change).record? other =
      (s.record? other).map fun r => if r.id = id then change r else r := by
  have same : ((fun r : Record => r.id == other) ∘ fun r => if r.id = id then change r else r) =
      fun r => r.id == other := by
    funext r
    by_cases there : r.id = id
    · simp [there, keepsId]
    · simp [there]
  rw [record?, modify, List.find?_map, same, record?]

/-- A record that is added last is found, unless there was one with its id. -/
theorem record?_append (absent : s.record? r.id = none)
    (added : t.records = s.records ++ [r]) :
    t.record? other = if other = r.id then some r else s.record? other := by
  rw [record?, added, List.find?_append, ← record?]
  by_cases same : other = r.id
  · subst same
    simp [absent]
  · simp [same, Ne.symm same]

/-! ## Issues -/

theorem find?_eq_ok_some : s.find? id = .ok (some i) ↔
    fitsId id ∧ ∃ r, s.record? id = some r ∧ s.issueOf r = .ok i := by
  by_cases fits : fitsId id
  · rw [find?, if_pos fits, optionMapM_eq_ok_some]
    simp [fits]
  · rw [find?, if_neg fits]
    simp [fits]

theorem find?_of_absent (absent : s.record? id = none) :
    s.find? id = if fitsId id then .ok none else .error .hugeId := by
  rw [find?, absent]
  rfl

/-- The record and the labels decide what is read. -/
theorem find?_congr (record : t.record? id = s.record? id) (labels : t.labelsOf id = s.labelsOf id) :
    t.find? id = s.find? id := by
  rw [find?, record, find?]
  cases found : s.record? id with
  | none => rfl
  | some r =>
    have same : t.issueOf r = s.issueOf r := by
      rw [issueOf, id_of_record? found, labels, ← id_of_record? found]
      rfl
    simp only [Option.mapM_some, same]

end

/-! ## Tidy labels -/

end Store

/-- Labels that are the given ones without the blanks around: none is empty, and they ascend. -/
def LabelList.Tidies (labels : LabelList) (given : List String) : Prop :=
  ∃ names : List String, labels = .ofNames names ∧ names.Pairwise (· < ·) ∧
    ∀ name, name ∈ names ↔ name ≠ "" ∧ ∃ text ∈ given, Text.strip text = name

/-- The entries of a list that are not missing. -/
def LabelList.entries (labels : LabelList) : List String := (labels.getD []).filterMap fun label => label

/-- Tidy labels stay as they are. -/
theorem LabelList.Tidies.again {labels more : LabelList} {given : List String} (first : labels.Tidies given)
    (second : more.Tidies labels.entries) : more = labels := by
  obtain ⟨names, rfl, ascends, is⟩ := first
  obtain ⟨names', rfl, ascends', is'⟩ := second
  have entries : (LabelList.ofNames names).entries = names := by simp [LabelList.entries, LabelList.ofNames]
  rw [entries] at is'
  have same : names' = names := by
    refine ascends'.eq_of_mem_iff ascends fun name => ?_
    rw [is']
    constructor
    · rintro ⟨_, text, member, rfl⟩
      obtain ⟨_, given, _, stripped⟩ := (is text).mp member
      rw [← stripped, Text.strip_strip, stripped]
      exact member
    · intro member
      obtain ⟨filled, given, _, stripped⟩ := (is name).mp member
      exact ⟨filled, name, member, by rw [← stripped, Text.strip_strip]⟩
  rw [same]

/-- Labels of which none is missing come down to their names. -/
theorem normalizeLabels_eq {labels : LabelList} :
    normalizeLabels labels =
      if none ∈ labels.getD [] then none else some (labelNames (labels.entries.map String.toList)) := by
  by_cases missing : none ∈ labels.getD []
  · rw [if_pos missing, Option.eq_none_iff_forall_not_mem]
    intro names normal
    obtain ⟨given, same, _⟩ := normalizeLabels_eq_some.mp normal
    simp [same] at missing
  · rw [if_neg missing, normalizeLabels_eq_some]
    refine ⟨labels.entries, ?_, rfl⟩
    have whole : ∀ entries : List (Option String), none ∉ entries →
        entries = (entries.filterMap fun label => label).map some := by
      intro entries
      induction entries with
      | nil => simp
      | cons entry entries ih =>
        intro absent
        cases entry with
        | none => simp at absent
        | some name => simpa using ih (by simpa using absent)
    exact whole _ missing

namespace Store

/-- What holds a store together, its attachments included. -/
structure IsIntact (s : Store) : Prop extends s.IsConsistent where
  linked : s.IsLinked

theorem isIntact_empty : ({} : Store).IsIntact := ⟨isConsistent_empty, isLinked_empty⟩

theorem Change.isIntact {s s' : Store} (change : s.Change s') (intact : s.IsIntact) : s'.IsIntact :=
  ⟨change.isConsistent intact.toIsConsistent, change.isLinked intact.linked⟩

/-- Labels of which none is missing can be given to an issue that is there. -/
theorem exists_setLabels {s : Store} {issue : Int} {labels : LabelList} (whole : none ∉ labels.getD [])
    (there : (s.record? issue).isSome) : ∃ s', s.setLabels issue labels = .ok s' := by
  have names : normalizeLabels labels = some (labelNames (labels.entries.map String.toList)) := by
    rw [normalizeLabels_eq, if_neg whole]
  exact ⟨_, setLabels_eq_ok.mpr ⟨_, names, Or.inr there, rfl⟩⟩

/-- An issue that is given labels has just these, and every other one has those that it had. -/
theorem labelsOf_setLabels {s s' : Store} {issue : Int} {labels : LabelList} (sound : s.HasSoundLabels)
    (linked : s.IsLinked) (set : s.setLabels issue labels = .ok s') :
    (LabelList.ofNames (s'.labelsOf issue)).Tidies labels.entries ∧
      ∀ other, other ≠ issue → s'.labelsOf other = s.labelsOf other := by
  obtain ⟨names, normal, _, rfl⟩ := setLabels_eq_ok.mp set
  rw [normalizeLabels_eq] at normal
  obtain ⟨_, named⟩ := Option.ite_none_left_eq_some.mp normal
  cases named
  have proper : ∀ name ∈ labelNames (labels.entries.map String.toList), IsName name :=
    fun name member => isName_of_mem_labelNames member
  refine ⟨⟨_, rfl, pairwise_labelsOf (sound.relabel issue proper) issue, fun name => ?_⟩, fun other apart => ?_⟩
  · rw [mem_labelsOf_relabel sound linked proper, if_pos rfl, mem_labelNames_iff]
  · exact labelsOf_relabel sound linked proper apart

end Store

end IssueTracker
