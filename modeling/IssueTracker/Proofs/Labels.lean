import Mathlib.Data.List.Induction
import Mathlib.Data.List.Sort
import IssueTracker.Labels
import IssueTracker.Proofs.Text.Trim

/-!
# Normal forms of label lists

A list of labels comes down to names that are trimmed and not empty (`mem_labelNames`), each once and in
the order in which they occur first (`keepsFirst_labelNames`).  Such names come down to themselves
(`KeepsFirst.labelNames_eq`).
-/

namespace IssueTracker

/-! ## New values -/

section
variable {α : Type} [DecidableEq α]

theorem mem_addNew {values : List α} {value x : α} :
    x ∈ addNew values value ↔ x ∈ values ∨ x = value := by
  rw [addNew]
  split
  · rename_i member
    constructor
    · exact Or.inl
    · rintro (inside | rfl)
      · exact inside
      · exact member
  · simp

theorem nodup_addNew {values : List α} (distinct : values.Nodup) (value : α) :
    (addNew values value).Nodup := by
  rw [addNew]
  split
  · exact distinct
  · rename_i absent
    refine List.nodup_append.mpr ⟨distinct, by simp, ?_⟩
    rintro x member y single rfl
    exact absent (List.mem_singleton.mp single ▸ member)

theorem mem_foldl_addNew {values more : List α} {x : α} :
    x ∈ more.foldl addNew values ↔ x ∈ values ∨ x ∈ more := by
  induction more generalizing values with
  | nil => simp
  | cons value more ih => rw [List.foldl_cons, ih, mem_addNew, List.mem_cons, or_assoc]

theorem nodup_foldl_addNew {values : List α} (distinct : values.Nodup) (more : List α) :
    (more.foldl addNew values).Nodup := by
  induction more generalizing values with
  | nil => exact distinct
  | cons value more ih => exact ih (nodup_addNew distinct value)

end

theorem mem_distinct {α : Type} [DecidableEq α] {values : List α} {x : α} :
    x ∈ distinct values ↔ x ∈ values := by
  simp [distinct, mem_foldl_addNew]

theorem distinct_eq_nil {α : Type} [DecidableEq α] {values : List α} :
    distinct values = [] ↔ values = [] := by
  simp only [List.eq_nil_iff_forall_not_mem, mem_distinct]

theorem nodup_distinct {α : Type} [DecidableEq α] (values : List α) : (distinct values).Nodup :=
  nodup_foldl_addNew List.nodup_nil values

/-! ## Label names -/

theorem addName_blank {text : List Char} (blank : Text.trim text = []) (names : List String) :
    addName names text = names := by
  simp [addName, blank]

theorem addName_filled {text : List Char} (filled : Text.trim text ≠ []) (names : List String) :
    addName names text = addNew names (String.ofList (Text.trim text)) := by
  have notEmpty : String.ofList (Text.trim text) ≠ "" := by simpa using filled
  simp only [addName, addNew, notEmpty, false_or]

/-- Adding names one after the other gives the distinct ones among all that are not empty. -/
theorem labelNames_eq_distinct (texts : List (List Char)) :
    labelNames texts = distinct (((texts.map Text.trim).filter (!·.isEmpty)).map String.ofList) := by
  have each (names : List String) : texts.foldl addName names =
      (((texts.map Text.trim).filter (!·.isEmpty)).map String.ofList).foldl addNew names := by
    induction texts generalizing names with
    | nil => rfl
    | cons text texts ih =>
      rw [List.foldl_cons, ih, List.map_cons]
      by_cases blank : Text.trim text = []
      · rw [addName_blank blank, List.filter_cons_of_neg (by simp [blank])]
      · rw [addName_filled blank, List.filter_cons_of_pos (by simp [blank]), List.map_cons,
          List.foldl_cons]
  exact each []

/-- The names among texts are those that are left of them without the blanks around. -/
theorem mem_labelNames {texts : List (List Char)} {name : String} :
    name ∈ labelNames texts ↔
      ∃ text ∈ texts, Text.trim text ≠ [] ∧ String.ofList (Text.trim text) = name := by
  simp only [labelNames_eq_distinct, mem_distinct, List.mem_map, List.mem_filter, Bool.not_eq_true',
    List.isEmpty_eq_false_iff]
  constructor
  · rintro ⟨_, ⟨⟨text, member, rfl⟩, filled⟩, same⟩
    exact ⟨text, member, filled, same⟩
  · rintro ⟨text, member, filled, same⟩
    exact ⟨_, ⟨⟨text, member, rfl⟩, filled⟩, same⟩

theorem isName_of_mem_labelNames {texts : List (List Char)} {name : String}
    (member : name ∈ labelNames texts) : IsName name := by
  obtain ⟨text, _, filled, rfl⟩ := mem_labelNames.mp member
  constructor
  · intro empty
    rw [← String.toList_inj, String.toList_ofList] at empty
    exact filled empty
  · simp [Text.strip]

theorem mem_labelNames_iff {given : List String} {name : String} :
    name ∈ labelNames (given.map String.toList) ↔ name ≠ "" ∧ ∃ text ∈ given, Text.strip text = name := by
  rw [mem_labelNames]
  constructor
  · rintro ⟨_, member, filled, rfl⟩
    obtain ⟨text, inside, rfl⟩ := List.mem_map.mp member
    refine ⟨?_, text, inside, rfl⟩
    intro empty
    rw [← String.toList_inj, String.toList_ofList] at empty
    exact filled empty
  · rintro ⟨filled, text, inside, rfl⟩
    refine ⟨_, List.mem_map_of_mem inside, ?_, rfl⟩
    intro empty
    exact filled (by rw [Text.strip, empty])

/-! ## First occurrences -/

/-- Names that are kept of texts: those that are left of them without the blanks around, the empty one
    apart, each once, and in the order in which they occur first. -/
structure KeepsFirst (texts names : List String) : Prop where
  mem_iff : ∀ name, name ∈ names ↔ name ≠ "" ∧ ∃ text ∈ texts, Text.strip text = name
  ordered : names.Pairwise fun a b =>
    (texts.map Text.strip).idxOf a < (texts.map Text.strip).idxOf b

/-- One more text leaves the names in the order in which they occur first. -/
theorem pairwise_addName {before names : List String} (text : String)
    (seen : ∀ name, name ∈ names ↔ name ≠ "" ∧ name ∈ before)
    (ordered : names.Pairwise fun a b => before.idxOf a < before.idxOf b) :
    (addName names text.toList).Pairwise fun a b =>
      (before ++ [Text.strip text]).idxOf a < (before ++ [Text.strip text]).idxOf b := by
  have place (name : String) (member : name ∈ names) :
      (before ++ [Text.strip text]).idxOf name = before.idxOf name :=
    List.idxOf_append_of_mem ((seen name).mp member).2
  have kept : names.Pairwise fun a b =>
      (before ++ [Text.strip text]).idxOf a < (before ++ [Text.strip text]).idxOf b := by
    refine ordered.imp_of_mem fun {a b} memberA memberB less => ?_
    rwa [place a memberA, place b memberB]
  rw [addName, ← Text.strip]
  split
  · exact kept
  · rename_i new
    obtain ⟨filled, absent⟩ := not_or.mp new
    refine List.pairwise_append.mpr ⟨kept, List.pairwise_singleton _ _, ?_⟩
    intro a member b single
    rw [List.mem_singleton.mp single]
    have unseen : Text.strip text ∉ before := fun inside => absent ((seen _).mpr ⟨filled, inside⟩)
    have first : before.idxOf a < before.length :=
      List.idxOf_lt_length_of_mem ((seen a).mp member).2
    rw [place a member, List.idxOf_append_of_notMem unseen]
    omega

/-- The names among texts keep the order in which they occur first. -/
theorem keepsFirst_labelNames (texts : List String) :
    KeepsFirst texts (labelNames (texts.map String.toList)) := by
  refine ⟨fun name => mem_labelNames_iff, ?_⟩
  -- Names are added at the end, so each step takes the last text off.
  induction texts using List.reverseRecOn with
  | nil => exact List.Pairwise.nil
  | append_singleton texts text ih =>
    have seen (name : String) : name ∈ labelNames (texts.map String.toList) ↔
        name ≠ "" ∧ name ∈ texts.map Text.strip := by
      rw [mem_labelNames_iff, List.mem_map]
    rw [List.map_append, List.map_append, labelNames, List.foldl_append, ← labelNames]
    exact pairwise_addName text seen ih

namespace KeepsFirst
variable {texts names others : List String}

theorem nodup (keeps : KeepsFirst texts names) : names.Nodup :=
  keeps.ordered.imp fun less same => absurd (same ▸ less) (lt_irrefl _)

/-- Texts determine the names that are kept of them. -/
theorem unique (keeps : KeepsFirst texts names) (keepsToo : KeepsFirst texts others) : names = others := by
  refine List.Perm.eq_of_pairwise (fun a b _ _ less more => absurd less more.asymm) keeps.ordered
    keepsToo.ordered ?_
  refine (List.perm_ext_iff_of_nodup keeps.nodup keepsToo.nodup).mpr fun name => ?_
  rw [keeps.mem_iff, keepsToo.mem_iff]

/-- What is kept of texts is kept of itself. -/
theorem self (keeps : KeepsFirst texts names) : KeepsFirst names names := by
  have trimmed : ∀ name ∈ names, Text.strip name = name := by
    intro name member
    obtain ⟨_, text, _, rfl⟩ := (keeps.mem_iff name).mp member
    exact Text.strip_strip text
  refine ⟨fun name => ⟨fun member => ?_, ?_⟩, ?_⟩
  · exact ⟨((keeps.mem_iff name).mp member).1, name, member, trimmed name member⟩
  · rintro ⟨_, text, member, rfl⟩
    rwa [trimmed text member]
  · rw [List.map_congr_left trimmed, List.map_id']
    refine List.pairwise_iff_getElem.mpr fun i j hi hj less => ?_
    rwa [keeps.nodup.idxOf_getElem, keeps.nodup.idxOf_getElem]

/-- The names that are kept of texts come down to themselves. -/
theorem labelNames_eq (keeps : KeepsFirst texts names) : labelNames (names.map String.toList) = names :=
  (keepsFirst_labelNames names).unique keeps.self

end KeepsFirst

/-! ## Lists of labels -/

/-- The labels of a list are read when none of them is missing. -/
theorem normalizeLabels_eq_some {labels : LabelList} {names : List String} :
    normalizeLabels labels = some names ↔
      ∃ given : List String, labels.getD [] = given.map some ∧ labelNames (given.map String.toList) = names := by
  have all : ∀ (entries : List (Option String)) (given : List String),
      entries.mapM (fun label => label) = some given ↔ entries = given.map some := by
    intro entries
    induction entries with
    | nil => simp
    | cons entry entries ih =>
      intro given
      cases entry with
      | none => cases given <;> simp
      | some name =>
        cases rest : entries.mapM (fun label => label) with
        | none =>
          have absent : ∀ later : List String, entries ≠ later.map some := fun later same => by
            simp [(ih later).mpr same] at rest
          cases given <;> simp [rest, absent]
        | some later =>
          cases given with
          | nil => simp [rest]
          | cons first given => simp [rest, ← ih]
  simp [normalizeLabels, all]

theorem normalizeLabels_ofNames (names : List String) :
    normalizeLabels (.ofNames names) = some (labelNames (names.map String.toList)) :=
  normalizeLabels_eq_some.mpr ⟨names, rfl, rfl⟩

end IssueTracker
