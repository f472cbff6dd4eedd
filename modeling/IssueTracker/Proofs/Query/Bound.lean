import IssueTracker.Query.Reader
import IssueTracker.Proofs.Query.Expression

/-!
# What writes a bound

Which token a value stands in matters for the complaint only, so a value writes one bound at most
(`Bound.Writes.unique`).  Every bound on a day or an age of the form of ages is read back from its
characters, among which there is no quote (`Bound.IsProper.read_chars`).
-/

namespace IssueTracker

namespace Bound

/-- A bound is what a value writes. -/
def Writes (value : List Char) (bound : Bound) : Prop :=
  ∃ token, read (String.ofList value) token = .ok bound

theorem Writes.unique {value : List Char} {a b : Bound} (writesA : Writes value a)
    (writesB : Writes value b) : a = b := by
  obtain ⟨tokenA, readA⟩ := writesA
  obtain ⟨tokenB, readB⟩ := writesB
  have agree : read (String.ofList value) tokenA = .ok b := read_eq_ok.mpr (read_eq_ok.mp readB)
  exact Except.ok.inj (readA.symm.trans agree)

/-- A bound on a day, or on an age of the form of ages. -/
def IsProper (bound : Bound) : Prop :=
  ∀ token, bound.target = .age token → (ageParts? token.toList).isSome

end Bound

theorem quote_notMem_age {cs : List Char} (isAge : IsAge cs) : '"' ∉ cs := by
  obtain ⟨digits, letter, ending, rfl, _, decimal, isLetter, ended⟩ := isAge
  intro member
  rcases List.mem_append.mp member with inside | inside
  · exact absurd (decimal _ inside) (by decide)
  · rcases List.mem_cons.mp inside with rfl | inside
    · exact absurd isLetter (by decide)
    · rcases ended with rfl | rfl
      · cases inside
      · exact absurd inside (by decide)

namespace Bound.IsProper
variable {b : Bound}

theorem quote_notMem (proper : b.IsProper) : '"' ∉ b.chars := by
  have symbols : '"' ∉ b.comparison.symbol.toList := by cases b.comparison <;> decide
  rw [chars, List.mem_append, not_or]
  refine ⟨symbols, ?_⟩
  cases target : b.target with
  | day date =>
    intro member
    rcases Date.mem_isoChars member with hyphen | ⟨k, single, same⟩
    · cases hyphen
    · exact Iso.digitChar_ne single (by decide) same.symm
  | age token => exact quote_notMem_age (isSome_ageParts?_iff.mp (proper token target))

/-- A bound is read back. -/
theorem read_chars (proper : b.IsProper) (token : String) :
    read (String.ofList b.chars) token = .ok b := by
  rw [read_eq_ok_iff, String.toList_ofList]
  exact writtenBy_chars fun age target => isSome_ageParts?_iff.mp (proper age target)

end Bound.IsProper

end IssueTracker
