import Mathlib.Data.List.Sort
import IssueTracker.Proofs.Store.Consistency

/-!
# Labels that issues share

Two issues that have a label of one name share its row.  Where every attachment is of a label that is
there (`Store.IsLinked`), a new row is attached to no issue yet, so giving an issue labels leaves those
of every other issue as they are (`Store.labelsOf_relabel`).
-/

namespace IssueTracker

namespace Store

/-- Every attachment is of a label that is there. -/
def IsLinked (s : Store) : Prop := ∀ a ∈ s.attachments, ∃ l ∈ s.labels, l.id = a.label

theorem isLinked_empty : ({} : Store).IsLinked := by simp [IsLinked]

section
variable {s t : Store} {issue other : Int} {name sought : String} {names : List String}

/-- More labels and fewer attachments link no less. -/
theorem IsLinked.mono (linked : s.IsLinked) (labels : s.labels ⊆ t.labels)
    (attachments : t.attachments ⊆ s.attachments) : t.IsLinked := by
  intro a member
  obtain ⟨l, inside, same⟩ := linked a (attachments member)
  exact ⟨l, labels inside, same⟩

theorem isAttached_iff {label : Nat} : s.isAttached issue label ↔ ⟨issue, label⟩ ∈ s.attachments :=
  List.contains_iff_mem

/-! ## One label -/

/-- The label of a name is there once it is ensured. -/
theorem exists_ensureLabel (s : Store) (name : String) :
    ∃ l ∈ (s.ensureLabel name).2.labels, l.id = (s.ensureLabel name).1 ∧ l.name = name := by
  rw [ensureLabel]
  split
  · rename_i label found
    exact ⟨label, List.mem_of_find?_eq_some found, rfl, by simpa using List.find?_some found⟩
  · exact ⟨_, List.mem_append_right _ List.mem_cons_self, rfl, rfl⟩

theorem IsLinked.attach (linked : s.IsLinked) (issue : Int) (name : String) :
    (s.attach issue name).IsLinked := by
  have ensured : (s.ensureLabel name).2.IsLinked := by
    refine linked.mono (s.subset_ensureLabel name) ?_
    rw [ensureLabel_attachments]
    exact List.Subset.refl _
  rcases s.attach_cases issue name with same | more
  · rw [same]
    exact ensured
  · rw [more]
    intro a member
    rcases List.mem_append.mp member with old | new
    · exact ensured a old
    · obtain ⟨l, inside, isLabel, _⟩ := s.exists_ensureLabel name
      rw [List.mem_singleton.mp new]
      exact ⟨l, inside, isLabel⟩

/-- Ensuring a label gives it to no issue. -/
theorem mem_labelsOf_ensureLabel (sound : s.HasSoundLabels) (linked : s.IsLinked) :
    sought ∈ (s.ensureLabel name).2.labelsOf other ↔ sought ∈ s.labelsOf other := by
  rw [ensureLabel]
  split
  · rfl
  · have unattached : ¬ s.isAttached other (s.lastLabel + 1) := by
      intro attached
      obtain ⟨l, inside, same⟩ := linked _ (isAttached_iff.mp attached)
      have bound := sound.bound l inside
      dsimp only at same
      omega
    rw [mem_labelsOf, mem_labelsOf]
    constructor
    · rintro ⟨l, inside, attached, named⟩
      rcases List.mem_append.mp inside with old | new
      · exact ⟨l, old, attached, named⟩
      · rw [List.mem_singleton.mp new] at attached
        exact absurd attached unattached
    · rintro ⟨l, inside, attached, named⟩
      exact ⟨l, List.mem_append_left _ inside, attached, named⟩

/-- Attaching a label gives it to the issue, and changes nothing else that issues have. -/
theorem mem_labelsOf_attach (sound : s.HasSoundLabels) (linked : s.IsLinked) (proper : IsName name) :
    sought ∈ (s.attach issue name).labelsOf other ↔
      sought ∈ s.labelsOf other ∨ other = issue ∧ sought = name := by
  have ensured : sought ∈ (s.ensureLabel name).2.labelsOf other ↔ sought ∈ s.labelsOf other :=
    mem_labelsOf_ensureLabel sound linked
  rw [← ensured]
  have ids := (sound.ensureLabel proper).ids
  obtain ⟨l, inside, isLabel, named⟩ := s.exists_ensureLabel name
  have only : ∀ m ∈ (s.ensureLabel name).2.labels, m.id = (s.ensureLabel name).1 → m = l :=
    fun m member same => List.inj_on_of_nodup_map ids member inside (same.trans isLabel.symm)
  simp only [attach]
  generalize s.ensureLabel name = made at inside isLabel only
  obtain ⟨label, t⟩ := made
  dsimp only at inside isLabel only ⊢
  split
  · rename_i attached
    refine ⟨Or.inl, ?_⟩
    rintro (has | ⟨rfl, rfl⟩)
    · exact has
    · exact mem_labelsOf.mpr ⟨l, inside, isLabel ▸ attached, named⟩
  · rw [mem_labelsOf, mem_labelsOf]
    simp only [isAttached_iff, List.mem_append, List.mem_singleton, Attachment.mk.injEq]
    constructor
    · rintro ⟨m, member, old | ⟨same, isNew⟩, is⟩
      · exact Or.inl ⟨m, member, old, is⟩
      · obtain rfl := only m member isNew
        exact Or.inr ⟨same, is.symm.trans named⟩
    · rintro (⟨m, member, old, is⟩ | ⟨same, is⟩)
      · exact ⟨m, member, Or.inl old, is⟩
      · exact ⟨l, inside, Or.inr ⟨same, isLabel⟩, named.trans is.symm⟩

/-! ## All labels of an issue -/

theorem mem_labelsOf_detachAll :
    sought ∈ (s.detachAll issue).labelsOf other ↔ sought ∈ s.labelsOf other ∧ other ≠ issue := by
  rw [mem_labelsOf, mem_labelsOf]
  simp only [isAttached_iff, detachAll, List.mem_filter, bne_iff_ne]
  constructor
  · rintro ⟨l, inside, ⟨attached, apart⟩, is⟩
    exact ⟨⟨l, inside, attached, is⟩, apart⟩
  · rintro ⟨⟨l, inside, attached, is⟩, apart⟩
    exact ⟨l, inside, ⟨attached, apart⟩, is⟩

theorem isLinked_detachAll (linked : s.IsLinked) (issue : Int) : (s.detachAll issue).IsLinked :=
  linked.mono (List.Subset.refl _) List.filter_sublist.subset

theorem IsLinked.relabel (linked : s.IsLinked) (issue : Int) (names : List String) :
    (s.relabel issue names).IsLinked :=
  relabel_induction (isLinked_detachAll linked issue) fun _ name _ before => before.attach issue name

theorem mem_labelsOf_relabel (sound : s.HasSoundLabels) (linked : s.IsLinked)
    (proper : ∀ name ∈ names, IsName name) :
    sought ∈ (s.relabel issue names).labelsOf other ↔
      if other = issue then sought ∈ names else sought ∈ s.labelsOf other := by
  have attached : ∀ t : Store, t.HasSoundLabels → t.IsLinked →
      (sought ∈ (names.foldl (fun s name => s.attach issue name) t).labelsOf other ↔
        sought ∈ t.labelsOf other ∨ other = issue ∧ sought ∈ names) := by
    induction names with
    | nil => simp
    | cons name names ih =>
      intro t sound linked
      have first := proper name List.mem_cons_self
      rw [List.foldl_cons, ih (fun later member => proper later (List.mem_cons_of_mem _ member)) _
        (sound.attach first issue) (linked.attach issue name), mem_labelsOf_attach sound linked first,
        List.mem_cons, and_or_left, or_assoc]
  have detached : (s.detachAll issue).HasSoundLabels := sound.congr rfl rfl
  rw [Store.relabel, attached _ detached (isLinked_detachAll linked issue), mem_labelsOf_detachAll]
  by_cases same : other = issue <;> simp [same]

/-- Giving an issue labels leaves those of the other issues as they are. -/
theorem labelsOf_relabel (sound : s.HasSoundLabels) (linked : s.IsLinked)
    (proper : ∀ name ∈ names, IsName name) (apart : other ≠ issue) :
    (s.relabel issue names).labelsOf other = s.labelsOf other := by
  refine (pairwise_labelsOf (sound.relabel issue proper) other).eq_of_mem_iff
    (pairwise_labelsOf sound other) fun sought => ?_
  rw [mem_labelsOf_relabel sound linked proper, if_neg apart]

end

/-! ## Changes -/

theorem Change.isLinked {s s' : Store} (change : s.Change s') (linked : s.IsLinked) : s'.IsLinked := by
  have set {t : Store} {issue : Int} {labels : LabelList} (before : t.IsLinked)
      (set : t.setLabels issue labels = .ok s') : s'.IsLinked := by
    obtain ⟨names, _, _, rfl⟩ := setLabels_eq_ok.mp set
    exact before.relabel issue names
  cases change with
  | inserted inserts =>
    obtain ⟨_, _, _, _, _, _, _, _, _, labelled⟩ := insert_eq_ok.mp inserts
    refine set ?_ labelled
    exact linked
  | updated updates =>
    obtain ⟨t, modified, ⟨_, rfl⟩ | ⟨_, labelled⟩⟩ := update_eq_ok updates
    · rw [modified]
      exact linked
    · refine set ?_ labelled
      rw [modified]
      exact linked
  | moved moves =>
    obtain ⟨_, _, _, _, rfl⟩ := setStatus_eq_ok moves
    exact linked
  | @deleted _ found _ deletes =>
    obtain ⟨_, _, rfl⟩ := delete_eq_ok.mp deletes
    cases found with
    | false => exact linked
    | true => exact isLinked_detachAll linked _

end Store

end IssueTracker
