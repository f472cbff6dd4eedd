import Mathlib.Data.List.Sort
import IssueTracker.Proofs.Store.Consistency

/-!
# Reading issues and labels

Issues are read all at once or one by one, and the labels in use by themselves.  Each way joins
attachments and labels in a query of its own (`Store.rowsOf`).  Where the tables hold together, the rows
that fall to an issue are its labels, whatever other issues are asked for with it
(`Store.IsConsistent.rowsOf_issue`), and all three ways agree (`Store.IsConsistent.readsAgree`).
-/

namespace IssueTracker.Store

/-! ## Rows -/

/-- The attachments joined with the labels: an issue, and the name of a label that it has. -/
def labelRows (s : Store) : List (Int × String) :=
  s.attachments.flatMap fun a => (s.labels.filter (·.id == a.label)).map fun l => (a.issue, l.name)

/-- The rows of some issues, by name. -/
def rowsOf (s : Store) (issues : List Int) : List (Int × String) :=
  (s.labelRows.filter fun row => issues.contains row.1).mergeSort fun a b => decide (a.2 ≤ b.2)

section
variable {s : Store} {issue : Int} {name : String} {issues : List Int}

theorem mem_labelRows : (issue, name) ∈ s.labelRows ↔
    ∃ l ∈ s.labels, s.isAttached issue l.id ∧ l.name = name := by
  simp only [labelRows, List.mem_flatMap, List.mem_map, List.mem_filter, beq_iff_eq, isAttached,
    List.contains_iff_mem]
  constructor
  · rintro ⟨a, attached, l, ⟨inside, same⟩, row⟩
    cases row
    exact ⟨l, inside, same ▸ attached, rfl⟩
  · rintro ⟨l, inside, attached, rfl⟩
    exact ⟨⟨issue, l.id⟩, attached, l, ⟨inside, rfl⟩, rfl⟩

theorem mem_rowsOf : (issue, name) ∈ s.rowsOf issues ↔ (issue, name) ∈ s.labelRows ∧ issue ∈ issues := by
  rw [rowsOf, List.mem_mergeSort, List.mem_filter]
  simp

theorem mem_usedLabels : name ∈ s.usedLabels ↔ ∃ issue, (issue, name) ∈ s.labelRows := by
  simp only [mem_labelRows, isAttached, List.contains_iff_mem]
  simp only [usedLabels, sortNames, List.mem_mergeSort, List.mem_map, List.mem_filter, List.any_eq_true,
    beq_iff_eq]
  constructor
  · rintro ⟨l, ⟨inside, a, attached, same⟩, rfl⟩
    exact ⟨a.issue, l, inside, same ▸ attached, rfl⟩
  · rintro ⟨issue, l, inside, attached, rfl⟩
    exact ⟨l, ⟨inside, _, attached, rfl⟩, rfl⟩

theorem pairwise_usedLabels (sound : s.HasSoundLabels) : s.usedLabels.Pairwise (· < ·) :=
  pairwise_sortNames ((List.filter_sublist.map _).nodup sound.names)

/-- The listing of labels joins once more and drops repetitions. -/
theorem usedLabels_eq (sound : s.HasSoundLabels) :
    s.usedLabels = sortNames (distinct (s.labelRows.map Prod.snd)) := by
  refine (pairwise_usedLabels sound).eq_of_mem_iff (pairwise_sortNames (nodup_distinct _)) fun name => ?_
  rw [mem_usedLabels, sortNames, List.mem_mergeSort, mem_distinct, List.mem_map]
  constructor
  · rintro ⟨issue, row⟩
    exact ⟨(issue, name), row, rfl⟩
  · rintro ⟨⟨issue, _⟩, row, rfl⟩
    exact ⟨issue, row⟩

end

namespace IsConsistent
variable {s : Store} {issue : Int} {issues : List Int}

theorem nodup_labelRows (consistent : s.IsConsistent) : s.labelRows.Nodup := by
  have named {l m : Label} (inL : l ∈ s.labels) (inM : m ∈ s.labels) (same : l.name = m.name) : l = m :=
    List.inj_on_of_nodup_map consistent.labels.names inL inM same
  refine List.nodup_flatMap.mpr ⟨fun a _ => ?_, ?_⟩
  · refine List.Nodup.map_on ?_ ((List.Nodup.of_map _ consistent.labels.ids).filter _)
    intro l inL m inM same
    exact named (List.mem_filter.mp inL).1 (List.mem_filter.mp inM).1 (Prod.mk.inj same).2
  · refine consistent.once.imp fun {a b} differ => ?_
    -- Two attachments with a row in common are of one issue and of one label, by its name.
    rintro row inA inB
    obtain ⟨l, isL, rfl⟩ := List.mem_map.mp inA
    obtain ⟨m, isM, same⟩ := List.mem_map.mp inB
    obtain ⟨inL, ofA⟩ := List.mem_filter.mp isL
    obtain ⟨inM, ofB⟩ := List.mem_filter.mp isM
    obtain ⟨sameIssue, sameName⟩ := Prod.mk.inj same
    have label : a.label = b.label := by
      rw [← eq_of_beq ofA, ← eq_of_beq ofB, named inM inL sameName]
    obtain ⟨_, _⟩ := a
    cases sameIssue
    cases label
    exact differ rfl

/-- The rows that fall to an issue are its labels, whatever other issues they are asked for with. -/
theorem rowsOf_issue (consistent : s.IsConsistent) (asked : issue ∈ issues) :
    ((s.rowsOf issues).filter (·.1 == issue)).map Prod.snd = s.labelsOf issue := by
  have sorted : (s.rowsOf issues).Pairwise fun a b => a.2 ≤ b.2 := by
    have run : (s.rowsOf issues).Pairwise fun a b => decide (a.2 ≤ b.2) = true :=
      List.pairwise_mergeSort (fun a b c => by simpa using le_trans)
        (fun a b => by simpa using le_total a.2 b.2) _
    simpa using run
  have nodup : (s.rowsOf issues).Nodup :=
    (List.mergeSort_perm _ _).nodup_iff.mpr (consistent.nodup_labelRows.filter _)
  have ascending : (((s.rowsOf issues).filter (·.1 == issue)).map Prod.snd).Pairwise (· < ·) := by
    rw [List.pairwise_map]
    refine ((sorted.and nodup).filter _).imp_of_mem fun {a b} inA inB between => ?_
    have same : a.1 = b.1 := by
      rw [eq_of_beq (List.mem_filter.mp inA).2, eq_of_beq (List.mem_filter.mp inB).2]
    exact lt_of_le_of_ne between.1 fun names => between.2 (Prod.ext same names)
  -- Both lists ascend strictly, so it is enough that they have the same members.
  refine ascending.eq_of_mem_iff (pairwise_labelsOf consistent.labels issue) fun name => ?_
  rw [mem_labelsOf, ← mem_labelRows, List.mem_map]
  constructor
  · rintro ⟨⟨other, _⟩, row, rfl⟩
    obtain ⟨inside, same⟩ := List.mem_filter.mp row
    obtain rfl : other = issue := eq_of_beq same
    exact (mem_rowsOf.mp inside).1
  · intro row
    exact ⟨_, List.mem_filter.mpr ⟨mem_rowsOf.mpr ⟨row, asked⟩, by simp⟩, rfl⟩

end IsConsistent

/-! ## The ways to read -/

/-- An issue that is read has the id and the labels of its record. -/
theorem issueOf_eq_ok {s : Store} {r : Record} {i : Issue} (reads : s.issueOf r = .ok i) :
    i.id = some r.id ∧ i.labelNames = s.labelsOf r.id := by
  obtain ⟨_, _, reads⟩ := bind_eq_ok.mp reads
  obtain ⟨_, _, reads⟩ := bind_eq_ok.mp reads
  obtain ⟨_, _, reads⟩ := bind_eq_ok.mp reads
  cases reads
  exact ⟨rfl, by simp [Issue.labelNames, LabelList.ofNames]⟩

/-- The list of all issues, the issues by id and the labels in use agree.  The list ascends by id and has
    each issue once, as it is found by its id.  The labels of an issue are the rows that fall to it in the
    query for all issues, and those of the query for it alone.  The labels in use, each once and sorted, are
    those of all rows and those of the issues. -/
structure ReadsAgree (s : Store) (issues : List Issue) (used : List String) : Prop where
  ascending : s.ids.Pairwise (· < ·)
  listed : issues.map (·.id) = s.ids.map some
  found : s.ids.mapM (Database.ready s).find? = .ok (issues.map some)
  absent : ∀ id, fitsId id → id ∉ s.ids → (Database.ready s).find? id = .ok none
  joined : ∀ i ∈ issues, ∀ id, i.id = some id →
    i.labelNames = ((s.rowsOf s.ids).filter (·.1 == id)).map Prod.snd ∧
      i.labelNames = (s.rowsOf [id]).map Prod.snd
  query : used = sortNames (distinct (s.labelRows.map Prod.snd))
  sorted : used.Pairwise (· < ·)
  union : ∀ name, name ∈ used ↔ ∃ i ∈ issues, name ∈ i.labelNames

namespace IsConsistent
variable {s : Store}

theorem find?_eq_ok (consistent : s.IsConsistent) {r : Record} (member : r ∈ s.records) {i : Issue}
    (reads : s.issueOf r = .ok i) : (Database.ready s).find? r.id = .ok (some i) := by
  change s.find? r.id = .ok (some i)
  have distinct : (s.records.map (·.id)).Nodup := consistent.ascending.imp fun less => ne_of_lt less
  have there : s.record? r.id = some r := (record?_eq_some distinct).mpr ⟨member, rfl⟩
  rw [find?, if_pos (consistent.fits r.id (List.mem_map_of_mem member)), there]
  exact optionMapM_eq_ok_some.mpr ⟨r, rfl, reads⟩

theorem rowsOf_single (consistent : s.IsConsistent) (issue : Int) :
    (s.rowsOf [issue]).map Prod.snd = s.labelsOf issue := by
  have all : (s.rowsOf [issue]).filter (·.1 == issue) = s.rowsOf [issue] := by
    refine List.filter_eq_self.mpr fun row member => ?_
    simpa using (mem_rowsOf.mp member).2
  rw [← consistent.rowsOf_issue List.mem_cons_self, all]

/-- The labels in use are those of the issues that are there. -/
theorem mem_usedLabels_iff (consistent : s.IsConsistent) {name : String} :
    name ∈ s.usedLabels ↔ ∃ r ∈ s.records, name ∈ s.labelsOf r.id := by
  simp only [mem_usedLabels, mem_labelsOf, ← mem_labelRows]
  constructor
  -- A label is listed for some attachment, and that is of an issue that is there.
  · rintro ⟨issue, row⟩
    obtain ⟨l, _, attached, _⟩ := mem_labelRows.mp row
    obtain ⟨r, inside, rfl⟩ :=
      List.mem_map.mp (consistent.attached _ (List.contains_iff_mem.mp attached))
    exact ⟨r, inside, row⟩
  · rintro ⟨r, _, row⟩
    exact ⟨r.id, row⟩

theorem readsAgree (consistent : s.IsConsistent) (readable : s.IsReadable) :
    ∃ issues, s.issues = .ok issues ∧ s.ReadsAgree issues s.usedLabels := by
  have each : ∀ r ∈ s.records, ∃ i, s.issueOf r = .ok i ∧ (r ∈ s.records ∧ s.issueOf r = .ok i) := by
    intro r member
    obtain ⟨i, reads⟩ := s.issueOf_readable (readable r member)
    exact ⟨i, reads, member, reads⟩
  obtain ⟨issues, read, related⟩ := exists_mapM_eq_ok each
  have origin : ∀ i ∈ issues, ∃ r ∈ s.records, i.id = some r.id ∧ i.labelNames = s.labelsOf r.id := by
    intro i member
    obtain ⟨r, _, inside, reads⟩ := exists_of_mem_right related member
    exact ⟨r, inside, issueOf_eq_ok reads⟩
  have query := usedLabels_eq consistent.labels
  have sorted := pairwise_usedLabels consistent.labels
  refine ⟨issues, read, ⟨consistent.ascending, ?_, ?_, ?_, ?_, query, sorted, ?_⟩⟩
  · have same : List.Forall₂ (fun r i => some r.id = i.id) s.records issues := by
      refine related.imp fun r i reads => ?_
      rw [(issueOf_eq_ok reads.2).1]
    rw [← map_eq_map_of_forall₂ same, ids, List.map_map]
    rfl
  · refine mapM_eq_ok.mpr ?_
    rw [ids, List.forall₂_map_left_iff, List.forall₂_map_right_iff]
    exact related.imp fun _ _ reads => consistent.find?_eq_ok reads.1 reads.2
  · intro id fits outside
    change s.find? id = .ok none
    rw [find?, if_pos fits, notMem_ids_iff.mp outside]
    rfl
  · intro i member id is
    obtain ⟨r, inside, isId, names⟩ := origin i member
    cases isId.symm.trans is
    exact ⟨names.trans (consistent.rowsOf_issue (List.mem_map_of_mem inside)).symm,
      names.trans (consistent.rowsOf_single r.id).symm⟩
  · intro name
    rw [consistent.mem_usedLabels_iff]
    constructor
    · rintro ⟨r, inside, has⟩
      obtain ⟨i, member, reads⟩ := exists_of_mem_left related inside
      exact ⟨i, member, (issueOf_eq_ok reads.2).2 ▸ has⟩
    · rintro ⟨i, member, has⟩
      obtain ⟨r, inside, _, names⟩ := origin i member
      exact ⟨r, inside, names ▸ has⟩

end IsConsistent

end IssueTracker.Store
