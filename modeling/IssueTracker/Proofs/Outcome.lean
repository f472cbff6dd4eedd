import Mathlib.Data.List.Forall2

/-!
# Outcomes

When a computation that may fail succeeds, so did each of its parts; when it fails, one of them did.
-/

namespace IssueTracker

variable {ε ε' α β : Type}

theorem bind_eq_ok {x : Except ε α} {f : α → Except ε β} {b : β} :
    (x >>= f) = .ok b ↔ ∃ a, x = .ok a ∧ f a = .ok b := by
  cases x with
  | error e =>
    constructor
    · intro run
      cases run
    · rintro ⟨_, run, _⟩
      cases run
  | ok a =>
    constructor
    · exact fun run => ⟨a, rfl, run⟩
    · rintro ⟨_, same, run⟩
      cases same
      exact run

theorem bind_eq_error {x : Except ε α} {f : α → Except ε β} {e : ε} :
    (x >>= f) = .error e ↔ x = .error e ∨ ∃ a, x = .ok a ∧ f a = .error e := by
  cases x <;> simp [bind, Except.bind]

/-- What only goes on to succeed fails where it does itself. -/
theorem bind_ok_eq_error {x : Except ε α} {f : α → β} {e : ε} :
    (x >>= fun a => .ok (f a)) = .error e ↔ x = .error e := by
  cases x <;> simp [bind, Except.bind]

/-- Behind a check, a computation succeeds when the check does not refuse. -/
theorem ite_error_eq_ok {p : Prop} [Decidable p] {x : Except ε α} {e : ε} {a : α} :
    (if p then .error e else x) = .ok a ↔ ¬p ∧ x = .ok a := by
  by_cases refused : p <;> simp [refused]

/-- Behind a check, a computation fails when the check refuses, or in its own way. -/
theorem ite_error_eq_error {p : Prop} [Decidable p] {x : Except ε α} {e e' : ε} :
    (if p then .error e else x) = .error e' ↔ p ∧ e = e' ∨ ¬p ∧ x = .error e' := by
  by_cases refused : p <;> simp [refused]

theorem toOption_eq_some {x : Except ε α} {a : α} : x.toOption = some a ↔ x = .ok a := by
  cases x <;> simp [Except.toOption]

theorem map_eq_ok {x : Except ε α} {f : α → β} {b : β} :
    x.map f = .ok b ↔ ∃ a, x = .ok a ∧ f a = b := by
  cases x <;> simp [Except.map]

theorem mapError_eq_ok {x : Except ε α} {f : ε → ε'} {a : α} :
    x.mapError f = .ok a ↔ x = .ok a := by
  cases x <;> simp [Except.mapError]

theorem map_eq_error {x : Except ε α} {f : α → β} {e : ε} : x.map f = .error e ↔ x = .error e := by
  cases x <;> simp [Except.map]

theorem mapError_eq_error {x : Except ε α} {f : ε → ε'} {e : ε'} :
    x.mapError f = .error e ↔ ∃ a, x = .error a ∧ f a = e := by
  cases x <;> simp [Except.mapError]

/-- Where each step succeeds, so does the whole list. -/
theorem mapM_eq_ok_map {f : α → Except ε β} {g : α → β} {xs : List α}
    (each : ∀ x ∈ xs, f x = .ok (g x)) : xs.mapM f = .ok (xs.map g) := by
  induction xs with
  | nil => rfl
  | cons x xs ih =>
    have first := each x List.mem_cons_self
    have rest := ih fun y member => each y (List.mem_cons_of_mem _ member)
    rw [List.mapM_cons, first, rest]
    rfl

/-- Where the whole list fails, some step does. -/
theorem mapM_eq_error {f : α → Except ε β} {xs : List α} {e : ε} (fails : xs.mapM f = .error e) :
    ∃ x ∈ xs, f x = .error e := by
  induction xs with
  | nil => cases fails
  | cons x xs ih =>
    rw [List.mapM_cons] at fails
    rcases bind_eq_error.mp fails with first | ⟨_, _, rest⟩
    · exact ⟨x, List.mem_cons_self, first⟩
    · rcases bind_eq_error.mp rest with later | ⟨_, _, done⟩
      · obtain ⟨y, member, failed⟩ := ih later
        exact ⟨y, List.mem_cons_of_mem _ member, failed⟩
      · cases done

/-- Where each step succeeds with a related result, the whole list does. -/
theorem exists_mapM_eq_ok {f : α → Except ε β} {Related : α → β → Prop} {xs : List α}
    (each : ∀ x ∈ xs, ∃ y, f x = .ok y ∧ Related x y) :
    ∃ ys, xs.mapM f = .ok ys ∧ List.Forall₂ Related xs ys := by
  induction xs with
  | nil => exact ⟨[], rfl, .nil⟩
  | cons x xs ih =>
    obtain ⟨y, first, related⟩ := each x List.mem_cons_self
    obtain ⟨ys, rest, all⟩ := ih fun z member => each z (List.mem_cons_of_mem _ member)
    refine ⟨y :: ys, ?_, .cons related all⟩
    rw [List.mapM_cons, first, rest]
    rfl

theorem exists_of_mem_right {Related : α → β → Prop} {xs : List α} {ys : List β}
    (related : List.Forall₂ Related xs ys) {y : β} (member : y ∈ ys) : ∃ x ∈ xs, Related x y := by
  induction related with
  | nil => simp at member
  | @cons x z xs ys first _ ih =>
    rcases List.mem_cons.mp member with rfl | later
    · exact ⟨x, List.mem_cons_self, first⟩
    · obtain ⟨x', inside, holds⟩ := ih later
      exact ⟨x', List.mem_cons_of_mem _ inside, holds⟩

theorem exists_of_mem_left {Related : α → β → Prop} {xs : List α} {ys : List β}
    (related : List.Forall₂ Related xs ys) {x : α} (member : x ∈ xs) : ∃ y ∈ ys, Related x y :=
  exists_of_mem_right related.flip member

/-- The whole list succeeds where each step does, with the result in its place. -/
theorem mapM_eq_ok {f : α → Except ε β} {xs : List α} {ys : List β} :
    xs.mapM f = .ok ys ↔ List.Forall₂ (fun x y => f x = .ok y) xs ys := by
  constructor
  · intro run
    induction xs generalizing ys with
    | nil =>
      cases run
      exact .nil
    | cons x xs ih =>
      rw [List.mapM_cons] at run
      obtain ⟨y, first, run⟩ := bind_eq_ok.mp run
      obtain ⟨others, rest, run⟩ := bind_eq_ok.mp run
      cases run
      exact .cons first (ih rest)
  · intro each
    induction each with
    | nil => rfl
    | cons first _ ih =>
      rw [List.mapM_cons, first, ih]
      rfl

/-- Each place of a list that succeeds holds the result for what stands there. -/
theorem exists_getElem?_of_mapM {f : α → Except ε β} {xs : List α} {ys : List β} (run : xs.mapM f = .ok ys)
    {n : Nat} {x : α} (there : xs[n]? = some x) : ∃ y, ys[n]? = some y ∧ f x = .ok y := by
  have each := mapM_eq_ok.mp run
  induction each generalizing n with
  | nil => cases there
  | @cons z y _ _ first rest ih =>
    cases n with
    | zero =>
      cases there
      exact ⟨y, rfl, first⟩
    | succ n => exact ih (mapM_eq_ok.mpr rest) there

theorem map_eq_map_of_forall₂ {γ : Type} {f : α → γ} {g : β → γ} {xs : List α} {ys : List β}
    (each : List.Forall₂ (fun x y => f x = g y) xs ys) : xs.map f = ys.map g := by
  induction each with
  | nil => rfl
  | cons first _ ih => rw [List.map_cons, List.map_cons, first, ih]

theorem optionMapM_eq_ok_some {f : α → Except ε β} {given : Option α} {b : β} :
    given.mapM f = .ok (some b) ↔ ∃ a, given = some a ∧ f a = .ok b := by
  cases given with
  | none =>
    constructor
    · intro run
      cases run
    · rintro ⟨_, absent, _⟩
      cases absent
  | some a =>
    change (f a).map some = .ok (some b) ↔ _
    simp [map_eq_ok]

/-- A check that lets a value through when it has a property lets a given one through when that has it. -/
theorem optionMapM_eq_ok {f : α → Except ε β} {g : α → β} {Holds : β → Prop}
    (each : ∀ {a b}, f a = .ok b ↔ g a = b ∧ Holds b) {given : Option α} {result : Option β} :
    given.mapM f = .ok result ↔ given.map g = result ∧ ∀ a ∈ given, Holds (g a) := by
  cases given with
  | none =>
    change Except.ok none = .ok result ↔ _
    simp
  | some a =>
    change (f a).map some = .ok result ↔ _
    rw [map_eq_ok]
    constructor
    · rintro ⟨b, checks, rfl⟩
      obtain ⟨rfl, holds⟩ := each.mp checks
      exact ⟨rfl, by simpa using holds⟩
    · rintro ⟨rfl, holds⟩
      exact ⟨g a, each.mpr ⟨rfl, holds a rfl⟩, rfl⟩

end IssueTracker
