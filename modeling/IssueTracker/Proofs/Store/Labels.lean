import Mathlib.Data.String.Basic
import IssueTracker.Store.Change
import IssueTracker.Proofs.Labels

/-!
# The labels of a store

No two labels share a name or an id, and none of the names is empty or has blanks around
it (`Store.HasSoundLabels`).  Attaching and detaching keep this, and touch neither the records nor their
ids; the labels of an issue are read in ascending order (`Store.pairwise_labelsOf`).
-/

namespace IssueTracker.Store

/-- What the table of labels keeps: names and ids are unique, names can name something, and
    no id is beyond the last one given. -/
structure HasSoundLabels (s : Store) : Prop where
  names : (s.labels.map (·.name)).Nodup
  ids : (s.labels.map (·.id)).Nodup
  proper : ∀ l ∈ s.labels, IsName l.name
  bound : ∀ l ∈ s.labels, l.id ≤ s.lastLabel

/-- Gives an issue the labels with these names and no others. -/
def relabel (s : Store) (issue : Int) (names : List String) : Store :=
  names.foldl (fun s name => s.attach issue name) (s.detachAll issue)

/-- Labels are set when none is missing, and the issue is there if there are any. -/
theorem setLabels_eq_ok {s s' : Store} {issue : Int} {labels : LabelList} :
    s.setLabels issue labels = .ok s' ↔ ∃ names, normalizeLabels labels = some names ∧
      (names = [] ∨ (s.record? issue).isSome) ∧ s.relabel issue names = s' := by
  rw [setLabels]
  cases read : normalizeLabels labels with
  | none => simp
  | some names =>
    by_cases stands : names = [] ∨ (s.record? issue).isSome
    · have test : (names.isEmpty || (s.record? issue).isSome) = true := by simpa using stands
      simp [test, stands, relabel]
    · have test : (names.isEmpty || (s.record? issue).isSome) = false := by
        simpa [not_or] using stands
      simp [test, stands]

/-- A label is attached to an issue, unless it is already. -/
theorem attach_cases (s : Store) (issue : Int) (name : String) :
    s.attach issue name = (s.ensureLabel name).2 ∨
      s.attach issue name = { (s.ensureLabel name).2 with
        attachments := (s.ensureLabel name).2.attachments ++ [⟨issue, (s.ensureLabel name).1⟩] } := by
  simp only [attach]
  split
  · exact Or.inl rfl
  · exact Or.inr rfl

/-! ## Records stay -/

section
variable (s : Store) (issue : Int)

theorem attach_records (name : String) :
    (s.attach issue name).records = s.records ∧ (s.attach issue name).lastRecord = s.lastRecord := by
  have ensured : (s.ensureLabel name).2.records = s.records ∧
      (s.ensureLabel name).2.lastRecord = s.lastRecord := by
    rw [ensureLabel]
    split <;> exact ⟨rfl, rfl⟩
  rcases s.attach_cases issue name with same | more
  · rw [same]; exact ensured
  · rw [more]; exact ensured

theorem relabel_records (names : List String) :
    (s.relabel issue names).records = s.records ∧
      (s.relabel issue names).lastRecord = s.lastRecord := by
  rw [relabel]
  generalize start : s.detachAll issue = t
  have same : t.records = s.records ∧ t.lastRecord = s.lastRecord := by
    subst start
    exact ⟨rfl, rfl⟩
  clear start
  induction names generalizing t with
  | nil => exact same
  | cons name names ih =>
    obtain ⟨records, last⟩ := t.attach_records issue name
    exact ih _ ⟨records.trans same.1, last.trans same.2⟩

end

/-! ## Labels stay sound -/

namespace HasSoundLabels
variable {s : Store}

/-- Only the labels and the last id given to one count. -/
theorem congr {t : Store} (sound : s.HasSoundLabels) (labels : t.labels = s.labels)
    (last : t.lastLabel = s.lastLabel) : t.HasSoundLabels := by
  refine ⟨?_, ?_, ?_, ?_⟩
  · rw [labels]; exact sound.names
  · rw [labels]; exact sound.ids
  · rw [labels]; exact sound.proper
  · rw [labels, last]; exact sound.bound

theorem ensureLabel (sound : s.HasSoundLabels) {name : String} (proper : IsName name) :
    (s.ensureLabel name).2.HasSoundLabels := by
  rw [Store.ensureLabel]
  cases found : s.labels.find? (·.name == name) with
  | some label => exact sound
  | none =>
    have newName : ∀ l ∈ s.labels, l.name ≠ name := by simpa using found
    have newId : ∀ l ∈ s.labels, l.id ≠ s.lastLabel + 1 := fun l member same =>
      absurd (sound.bound l member) (by omega)
    refine ⟨?_, ?_, ?_, ?_⟩
    · simpa [List.nodup_append, sound.names] using newName
    · simpa [List.nodup_append, sound.ids] using newId
    · simpa [or_imp, forall_and, proper] using sound.proper
    · intro l member
      rcases List.mem_append.mp member with old | fresh
      · exact Nat.le_succ_of_le (sound.bound l old)
      · rw [List.mem_singleton.mp fresh]

theorem attach (sound : s.HasSoundLabels) {name : String} (proper : IsName name) (issue : Int) :
    (s.attach issue name).HasSoundLabels := by
  have ensured := sound.ensureLabel proper
  rcases s.attach_cases issue name with same | more
  · rw [same]; exact ensured
  · rw [more]; exact ensured.congr rfl rfl

theorem relabel (sound : s.HasSoundLabels) (issue : Int) {names : List String}
    (proper : ∀ name ∈ names, IsName name) : (s.relabel issue names).HasSoundLabels := by
  have detached : (s.detachAll issue).HasSoundLabels := sound.congr rfl rfl
  rw [Store.relabel]
  generalize s.detachAll issue = t at detached
  induction names generalizing t with
  | nil => exact detached
  | cons name names ih =>
    exact ih (fun other member => proper other (List.mem_cons_of_mem _ member)) _
      (detached.attach (proper name List.mem_cons_self) issue)

end HasSoundLabels

/-! ## Reading labels -/

theorem pairwise_sortNames {names : List String} (distinct : names.Nodup) :
    (sortNames names).Pairwise (· < ·) := by
  have sorted : (sortNames names).Pairwise (· ≤ ·) := by
    have run : (sortNames names).Pairwise fun a b => decide (a ≤ b) = true :=
      List.pairwise_mergeSort (fun a b c => by simpa using le_trans)
        (fun a b => by simpa using le_total a b) names
    simpa using run
  have nodup : (sortNames names).Nodup := (List.mergeSort_perm names _).nodup_iff.mpr distinct
  exact (sorted.and nodup).imp fun ⟨le, ne⟩ => lt_of_le_of_ne le ne

theorem mem_labelsOf {s : Store} {issue : Int} {name : String} :
    name ∈ s.labelsOf issue ↔ ∃ l ∈ s.labels, s.isAttached issue l.id ∧ l.name = name := by
  simp [labelsOf, sortNames, and_assoc]

/-- The labels of an issue are read in ascending order, each once. -/
theorem pairwise_labelsOf {s : Store} (sound : s.HasSoundLabels) (issue : Int) :
    (s.labelsOf issue).Pairwise (· < ·) :=
  pairwise_sortNames ((List.filter_sublist.map _).nodup sound.names)

theorem isName_of_mem_labelsOf {s : Store} (sound : s.HasSoundLabels) {issue : Int}
    {name : String} (member : name ∈ s.labelsOf issue) : IsName name := by
  obtain ⟨l, inside, _, rfl⟩ := mem_labelsOf.mp member
  exact sound.proper l inside

end IssueTracker.Store
