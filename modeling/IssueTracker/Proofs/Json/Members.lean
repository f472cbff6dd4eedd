import Mathlib.Data.List.Induction
import Mathlib.Data.List.Nodup
import IssueTracker.Json.Basic

/-!
# Members of objects

Setting a member keeps the names unique and the others as they are (`nodup_setMember`,
`find?_setMember`).  Where no name is repeated, every member has its last value already
(`lastValues_eq_self`).
-/

namespace IssueTracker.Json

variable {ν α : Type} [DecidableEq ν] {name : ν} {value : α} {members : List (ν × α)}

theorem setMember_of_absent (absent : name ∉ members.map Prod.fst) :
    setMember name value members = members ++ [(name, value)] := by
  induction members with
  | nil => rfl
  | cons first members ih =>
    obtain ⟨other, old⟩ := first
    simp only [List.map_cons, List.mem_cons, not_or] at absent
    rw [setMember, if_neg (Ne.symm absent.1), ih absent.2, List.cons_append]

/-- A member that is set stands where one of its name stood, or at the end. -/
theorem map_fst_setMember : (setMember name value members).map Prod.fst =
    if name ∈ members.map Prod.fst then members.map Prod.fst else members.map Prod.fst ++ [name] := by
  induction members with
  | nil => rfl
  | cons first members ih =>
    obtain ⟨other, old⟩ := first
    rw [setMember]
    by_cases same : other = name
    · simp [same]
    · rw [if_neg same, List.map_cons, ih]
      by_cases later : name ∈ members.map Prod.fst <;> simp [later, Ne.symm same]

theorem nodup_setMember (distinct : (members.map Prod.fst).Nodup) (name : ν) (value : α) :
    ((setMember name value members).map Prod.fst).Nodup := by
  rw [map_fst_setMember]
  split
  · exact distinct
  · rename_i absent
    refine List.nodup_append.mpr ⟨distinct, by simp, ?_⟩
    rintro other member _ single rfl
    exact absent (List.mem_singleton.mp single ▸ member)

theorem mem_setMember {member : ν × α} (inside : member ∈ setMember name value members) :
    member = (name, value) ∨ member ∈ members := by
  induction members with
  | nil => exact Or.inl (List.mem_singleton.mp inside)
  | cons first members ih =>
    obtain ⟨other, old⟩ := first
    rw [setMember] at inside
    split at inside
    · rcases List.mem_cons.mp inside with same | later
      · exact Or.inl same
      · exact Or.inr (List.mem_cons_of_mem _ later)
    · rcases List.mem_cons.mp inside with same | later
      · exact Or.inr (same ▸ List.mem_cons_self)
      · exact (ih later).imp_right (List.mem_cons_of_mem _)

/-- The members of other names stay, in their order. -/
theorem filter_setMember :
    (setMember name value members).filter (·.1 != name) = members.filter (·.1 != name) := by
  induction members with
  | nil => simp [setMember]
  | cons first members ih =>
    obtain ⟨other, old⟩ := first
    rw [setMember]
    by_cases same : other = name
    · simp [same]
    · rw [if_neg same, List.filter_cons_of_pos (by simpa using same), ih,
        List.filter_cons_of_pos (by simpa using same)]

/-- Setting the value that is found changes nothing. -/
theorem setMember_of_find?_eq_some (found : members.find? (·.1 == name) = some (name, value)) :
    setMember name value members = members := by
  induction members with
  | nil => cases found
  | cons first members ih =>
    obtain ⟨other, old⟩ := first
    by_cases same : other = name
    · have here : (other, old) = (name, value) := by simpa [same] using found
      rw [setMember, if_pos same, here]
    · rw [setMember, if_neg same, ih (by simpa [same] using found)]

/-- What is found under a name after a member was set. -/
theorem find?_setMember (sought : ν) :
    ((setMember name value members).find? (·.1 == sought)).map Prod.snd =
      if name = sought then some value else (members.find? (·.1 == sought)).map Prod.snd := by
  induction members with
  | nil => by_cases same : name = sought <;> simp [setMember, same]
  | cons first members ih =>
    obtain ⟨other, old⟩ := first
    rw [setMember]
    by_cases replaced : other = name
    · by_cases same : name = sought <;> simp [replaced, same]
    · rw [if_neg replaced]
      by_cases here : other = sought
      · have elsewhere : name ≠ sought := fun same => replaced (here.trans same.symm)
        simp [here, elsewhere]
      · simpa [here] using ih

/-- What is found under a name after the members of another one were removed. -/
theorem find?_filter (sought : ν) :
    ((members.filter (·.1 != name)).find? (·.1 == sought)).map Prod.snd =
      if name = sought then none else (members.find? (·.1 == sought)).map Prod.snd := by
  induction members with
  | nil => simp
  | cons first members ih =>
    obtain ⟨other, old⟩ := first
    by_cases removed : other = name
    · rw [List.filter_cons_of_neg (by simp [removed]), ih]
      by_cases same : name = sought <;> simp [removed, same]
    · rw [List.filter_cons_of_pos (by simpa using removed)]
      by_cases here : other = sought
      · have elsewhere : name ≠ sought := fun same => removed (here.trans same.symm)
        simp [here, elsewhere]
      · simpa [here] using ih

/-! ## Last values -/

theorem lastValues_concat (members : List (ν × α)) (member : ν × α) :
    lastValues (members ++ [member]) = setMember member.1 member.2 (lastValues members) := by
  simp [lastValues]

theorem nodup_lastValues (members : List (ν × α)) :
    ((lastValues members).map Prod.fst).Nodup := by
  induction members using List.reverseRecOn with
  | nil => simp [lastValues]
  | append_singleton members member ih =>
    rw [lastValues_concat]
    exact nodup_setMember ih member.1 member.2

theorem mem_lastValues {member : ν × α} (inside : member ∈ lastValues members) :
    member ∈ members := by
  induction members using List.reverseRecOn with
  | nil => exact inside
  | append_singleton members last ih =>
    rw [lastValues_concat] at inside
    rcases mem_setMember inside with same | earlier
    · exact List.mem_append_right _ (by rw [same]; simp)
    · exact List.mem_append_left _ (ih earlier)

/-- Where no name is repeated, the members stay as they are. -/
theorem lastValues_eq_self (distinct : (members.map Prod.fst).Nodup) : lastValues members = members := by
  induction members using List.reverseRecOn with
  | nil => rfl
  | append_singleton members member ih =>
    rw [List.map_append, List.nodup_append] at distinct
    have absent : member.1 ∉ members.map Prod.fst := fun inside =>
      distinct.2.2 member.1 inside member.1 (by simp) rfl
    rw [lastValues_concat, ih distinct.1, setMember_of_absent absent]

end IssueTracker.Json
