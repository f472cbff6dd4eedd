import IssueTracker.Query.Reader
import IssueTracker.Proofs.Labels

/-!
# Conditions gather what is written

The conditions of a draft are a finite map from fields to values and a polarity.  Whatever is
written for a field, in any number of tokens, ends in the one condition of that field
(`Gathers`), and adding to the conditions keeps this as long as the polarity agrees
(`Gathers.add`).
-/

namespace IssueTracker

/-! ## Adding to conditions -/

variable {φ ν : Type} [DecidableEq φ]

/-- An addition either makes a new condition at the end, when the field has none, or joins the
    values to the condition of the field. -/
theorem addCondition_cases (merge : List ν → List ν → List ν) (field : φ) (negated : Bool)
    (values : List ν) (conditions : List (Condition φ ν)) :
    ((∀ c ∈ conditions, c.field ≠ field) ∧
      addCondition merge field negated values conditions =
        conditions ++ [⟨field, merge [] values, negated⟩]) ∨
    ∃ before c after, conditions = before ++ c :: after ∧ c.field = field ∧
      addCondition merge field negated values conditions =
        before ++ { c with values := merge c.values values } :: after := by
  induction conditions with
  | nil => exact Or.inl ⟨by simp, rfl⟩
  | cons first others ih =>
    rw [addCondition]
    by_cases same : first.field = field
    · exact Or.inr ⟨[], first, others, rfl, same, if_pos same⟩
    · rw [if_neg same]
      rcases ih with ⟨absent, added⟩ | ⟨before, c, after, split, isField, added⟩
      · refine Or.inl ⟨?_, by rw [added, List.cons_append]⟩
        intro c member
        rcases List.mem_cons.mp member with rfl | later
        · exact same
        · exact absent c later
      · exact Or.inr ⟨first :: before, c, after, by rw [split, List.cons_append], isField,
          by rw [added, List.cons_append]⟩

/-- Conditions of other fields are passed over. -/
theorem addCondition_append {merge : List ν → List ν → List ν} {field : φ} {negated : Bool}
    {values : List ν} {before : List (Condition φ ν)} (absent : ∀ c ∈ before, c.field ≠ field)
    (after : List (Condition φ ν)) :
    addCondition merge field negated values (before ++ after) =
      before ++ addCondition merge field negated values after := by
  induction before with
  | nil => rfl
  | cons c before ih =>
    rw [List.cons_append, addCondition, if_neg (absent c List.mem_cons_self),
      ih fun d member => absent d (List.mem_cons_of_mem _ member)]
    rfl

/-- What holds of all conditions, and of what comes of the addition, holds of all conditions
    afterwards. -/
theorem forall_addCondition {P : Condition φ ν → Prop} {merge : List ν → List ν → List ν}
    {field : φ} {negated : Bool} {values : List ν} {conditions : List (Condition φ ν)}
    (all : ∀ c ∈ conditions, P c) (fresh : P ⟨field, merge [] values, negated⟩)
    (joined : ∀ c ∈ conditions, c.field = field → P { c with values := merge c.values values }) :
    ∀ c ∈ addCondition merge field negated values conditions, P c := by
  rcases addCondition_cases merge field negated values conditions with
    ⟨_, added⟩ | ⟨before, c, after, split, isField, added⟩
  · rw [added]
    simpa [or_imp, forall_and] using ⟨all, fresh⟩
  · have merged := joined c (by simp [split]) isField
    rw [split] at all
    rw [added]
    simp only [List.mem_append, List.mem_cons, or_imp, forall_and, forall_eq] at all ⊢
    exact ⟨all.1, merged, all.2.2⟩

theorem nodup_addCondition {merge : List ν → List ν → List ν} {field : φ} {negated : Bool}
    {values : List ν} {conditions : List (Condition φ ν)}
    (distinct : (conditions.map (·.field)).Nodup) :
    ((addCondition merge field negated values conditions).map (·.field)).Nodup := by
  rcases addCondition_cases merge field negated values conditions with
    ⟨absent, added⟩ | ⟨before, c, after, split, isField, added⟩
  · rw [added, List.map_append]
    refine List.nodup_append.mpr ⟨distinct, by simp, ?_⟩
    rintro f member g single rfl
    obtain ⟨c, inside, isField⟩ := List.mem_map.mp member
    exact absent c inside (isField.trans (List.mem_singleton.mp single))
  · rw [added]
    rw [split] at distinct
    simpa using distinct

/-! ## The conditions as a map -/

/-- The conditions hold exactly what is written for their fields: `written n field values` says
    that these values are written for a field after `n` negations. -/
structure Gathers (written : Nat → φ → List ν → Prop) (conditions : List (Condition φ ν)) :
    Prop where
  distinct : (conditions.map (·.field)).Nodup
  values : ∀ c ∈ conditions, ∀ v, v ∈ c.values ↔ ∃ n vs, written n c.field vs ∧ v ∈ vs
  parity : ∀ c ∈ conditions, ∀ n vs, written n c.field vs → c.negated = decide (n % 2 = 1)
  sound : ∀ c ∈ conditions, ∃ n vs, written n c.field vs
  complete : ∀ n field vs, written n field vs → ∃ c ∈ conditions, c.field = field

omit [DecidableEq φ] in
theorem Gathers.congr {written other : Nat → φ → List ν → Prop} {conditions : List (Condition φ ν)}
    (h : Gathers written conditions)
    (same : ∀ n field vs, written n field vs ↔ other n field vs) : Gathers other conditions := by
  have equal : written = other := funext fun n => funext fun field => funext fun vs =>
    propext (same n field vs)
  exact equal ▸ h

theorem conflicts_eq_false {field : φ} {negated : Bool} {conditions : List (Condition φ ν)} :
    conflicts field negated conditions = false ↔
      ∀ c ∈ conditions, c.field = field → c.negated = negated := by
  simp [conflicts]

/-- A condition after an addition is one of another field that was there, or the one of the field:
    it has the values that were there, if any, and the new ones. -/
theorem mem_addCondition {merge : List ν → List ν → List ν} {field : φ} {negated : Bool}
    {values : List ν} {conditions : List (Condition φ ν)}
    (distinct : (conditions.map (·.field)).Nodup) {c : Condition φ ν}
    (member : c ∈ addCondition merge field negated values conditions) :
    (c ∈ conditions ∧ c.field ≠ field) ∨
    (c = ⟨field, merge [] values, negated⟩ ∧ ∀ d ∈ conditions, d.field ≠ field) ∨
    ∃ d ∈ conditions, d.field = field ∧ c = { d with values := merge d.values values } := by
  rcases addCondition_cases merge field negated values conditions with
    ⟨absent, added⟩ | ⟨before, d, after, split, isField, added⟩
  · rw [added, List.mem_append, List.mem_singleton] at member
    rcases member with old | fresh
    · exact Or.inl ⟨old, absent c old⟩
    · exact Or.inr (Or.inl ⟨fresh, absent⟩)
  · rw [split, List.map_append, List.map_cons, List.nodup_append, List.nodup_cons] at distinct
    rw [added, List.mem_append, List.mem_cons] at member
    rcases member with early | rfl | late
    · refine Or.inl ⟨by simp [split, early], fun same => ?_⟩
      exact distinct.2.2 c.field (List.mem_map_of_mem early) d.field List.mem_cons_self
        (same.trans isField.symm)
    · exact Or.inr (Or.inr ⟨d, by simp [split], isField, rfl⟩)
    · refine Or.inl ⟨by simp [split, late], fun same => ?_⟩
      exact distinct.2.1.1 (isField.trans same.symm ▸ List.mem_map_of_mem late)

/-- The fields after an addition are those before and the new one. -/
theorem exists_field_addCondition {merge : List ν → List ν → List ν} {field : φ} {negated : Bool}
    {values : List ν} {conditions : List (Condition φ ν)} {f : φ} :
    (∃ c ∈ addCondition merge field negated values conditions, c.field = f) ↔
      (∃ c ∈ conditions, c.field = f) ∨ field = f := by
  rcases addCondition_cases merge field negated values conditions with
    ⟨_, added⟩ | ⟨before, d, after, split, isField, added⟩
  · simp [added, or_and_right, exists_or]
  · rw [added, split]
    simp only [List.mem_append, List.mem_cons, or_and_right, exists_or, exists_eq_left, isField]
    constructor
    · rintro (early | same | late)
      · exact Or.inl (Or.inl early)
      · exact Or.inr same
      · exact Or.inl (Or.inr (Or.inr late))
    · rintro ((early | same | late) | same)
      · exact Or.inl early
      · exact Or.inr (Or.inl same)
      · exact Or.inr (Or.inr late)
      · exact Or.inr (Or.inl same)

/-- Adding what is written to the conditions, in the polarity that the field has already. -/
theorem Gathers.add {written : Nat → φ → List ν → Prop} {conditions : List (Condition φ ν)}
    (h : Gathers written conditions) {merge : List ν → List ν → List ν}
    (mem_merge : ∀ old new v, v ∈ merge old new ↔ v ∈ old ∨ v ∈ new)
    {field : φ} {n : Nat} (values : List ν)
    (agrees : conflicts field (decide (n % 2 = 1)) conditions = false) :
    Gathers (fun k f vs => written k f vs ∨ (k = n ∧ f = field ∧ vs = values))
      (addCondition merge field (decide (n % 2 = 1)) values conditions) where
  distinct := nodup_addCondition h.distinct
  values := by
    intro c member v
    rcases mem_addCondition h.distinct member with
      ⟨old, other⟩ | ⟨rfl, absent⟩ | ⟨d, old, same, rfl⟩
    · simp [h.values c old, other]
    · have unwritten : ∀ k vs, ¬written k field vs := by
        intro k vs there
        obtain ⟨d, inside, isField⟩ := h.complete k field vs there
        exact absent d inside isField
      simp [mem_merge, unwritten]
    · simp [mem_merge, h.values d old, same, or_and_right, exists_or]
  parity := by
    intro c member k vs there
    have polarity := conflicts_eq_false.mp agrees
    rcases mem_addCondition h.distinct member with
      ⟨old, other⟩ | ⟨rfl, absent⟩ | ⟨d, old, same, rfl⟩
    · rcases there with before | ⟨_, isField, _⟩
      · exact h.parity c old k vs before
      · exact absurd isField other
    · rcases there with before | ⟨rfl, _, _⟩
      · obtain ⟨d, inside, isField⟩ := h.complete k field vs before
        exact absurd isField (absent d inside)
      · rfl
    · rcases there with before | ⟨rfl, _, _⟩
      · exact h.parity d old k vs before
      · exact polarity d old same
  sound := by
    intro c member
    rcases mem_addCondition h.distinct member with ⟨old, _⟩ | ⟨rfl, _⟩ | ⟨d, _, same, rfl⟩
    · obtain ⟨k, vs, there⟩ := h.sound c old
      exact ⟨k, vs, Or.inl there⟩
    · exact ⟨n, values, Or.inr ⟨rfl, rfl, rfl⟩⟩
    · exact ⟨n, values, Or.inr ⟨rfl, same, rfl⟩⟩
  complete := by
    rintro k f vs (before | ⟨_, rfl, _⟩)
    · exact exists_field_addCondition.mpr (Or.inl (h.complete k f vs before))
    · exact exists_field_addCondition.mpr (Or.inr rfl)

/-- Gathered conditions agree with a field after so many negations exactly when all that is written for
    the field stands after negations of the same parity. -/
theorem Gathers.conflicts_eq_false_iff {written : Nat → φ → List ν → Prop}
    {conditions : List (Condition φ ν)} (h : Gathers written conditions) {field : φ} {m : Nat} :
    conflicts field (decide (m % 2 = 1)) conditions = false ↔
      ∀ n, (∃ vs, written n field vs) → n % 2 = m % 2 := by
  rw [conflicts_eq_false]
  constructor
  · rintro agrees n ⟨vs, there⟩
    obtain ⟨c, member, isField⟩ := h.complete n field vs there
    have parity := h.parity c member n vs (isField ▸ there)
    rw [agrees c member isField, decide_eq_decide] at parity
    omega
  · intro agrees c member isField
    obtain ⟨n, vs, there⟩ := h.sound c member
    have same := agrees n ⟨vs, isField ▸ there⟩
    rw [h.parity c member n vs there, same]

end IssueTracker
