import IssueTracker.Json.Reader
import IssueTracker.Proofs.Json.Members
import IssueTracker.Proofs.Number.Binary64
import IssueTracker.Proofs.Outcome

/-!
# Values that can be stored

A value that was read has no whole number of more digits than may be read again, no container further
inside others than may be read again, and no object that names a member twice (`isStorable_of_read`).
-/

namespace IssueTracker.Json

/-- A value that can be read again where its containers may stand so far inside one another: its whole
    numbers, also those that its fractions are cut off to, are short enough, and its objects name no
    member twice. -/
inductive IsStorable : Nat → Json → Prop
  | null {room : Nat} : IsStorable room .null
  | bool {room : Nat} (value : Bool) : IsStorable room (.bool value)
  | integer {room : Nat} {value : Int} (short : value.natAbs < 10 ^ Text.numeralLimit) :
    IsStorable room (.integer value)
  | float {room : Nat} {value : Binary64}
      (short : ∀ n, value.truncate? = some n → n.natAbs < 10 ^ Text.numeralLimit) :
    IsStorable room (.float value)
  | string {room : Nat} (value : AnyText) : IsStorable room (.string value)
  | array {room : Nat} {elements : List Json} (each : ∀ element ∈ elements, IsStorable room element) :
    IsStorable (room + 1) (.array elements)
  | object {room : Nat} {members : List (AnyText × Json)} (distinct : (members.map Prod.fst).Nodup)
      (each : ∀ member ∈ members, IsStorable room member.2) : IsStorable (room + 1) (.object members)

variable {room : Nat}

/-! ## Numbers and words -/

theorem isStorable_of_readNumber {cs rest : List Char} {value : Json}
    (reads : readNumber cs = .ok (value, rest)) : value.IsStorable room := by
  simp only [readNumber] at reads
  split at reads
  · cases reads
  · split at reads
    · split at reads
      · cases reads
      · rename_i n numeral
        cases reads
        refine .integer ?_
        have short := Text.readNumeral_lt numeral
        split <;> simpa using short
    · cases reads
      exact .float fun n whole => Binary64.natAbs_truncate_ofDecimal whole

theorem isStorable_of_word? {cs rest : List Char} {value : Json} (is : word? cs = some (value, rest)) :
    value.IsStorable room := by
  obtain ⟨⟨name, value⟩, found, same⟩ := Option.map_eq_some_iff.mp is
  cases same
  have member := List.mem_of_find?_eq_some found
  simp only [words, List.mem_cons, Prod.mk.injEq, List.not_mem_nil, or_false] at member
  rcases member with ⟨_, rfl⟩ | ⟨_, rfl⟩ | ⟨_, rfl⟩ | ⟨_, rfl⟩ | ⟨_, rfl⟩ | ⟨_, rfl⟩
  · exact .null
  · exact .bool true
  · exact .bool false
  · exact .float (by simp [Binary64.truncate?])
  · exact .float (by simp [Binary64.truncate?])
  · exact .float (by simp [Binary64.truncate?])

/-! ## Values -/

/-- What is read in a container is read with room for one less. -/
theorem enter_eq_ok {container : Container} {inside : Nat → Step Json} {result : Json × List Char} :
    enter container room inside = .ok result ↔ ∃ less, room = less + 1 ∧ inside less = .ok result := by
  cases room with
  | zero => simp [enter]
  | succ less => simp [enter, mapError_eq_ok]

/-- All that is read with so much fuel can be stored. -/
private structure ReadsStorable (fuel : Nat) : Prop where
  value : ∀ {room cs rest value}, readValue fuel room cs = .ok (value, rest) → value.IsStorable room
  elements : ∀ {room cs rest elements}, readElements fuel room cs = .ok (elements, rest) →
    ∀ element ∈ elements, element.IsStorable room
  members : ∀ {room cs rest members}, readMembers fuel room cs = .ok (members, rest) →
    ∀ member ∈ members, member.2.IsStorable room

section
variable {fuel : Nat} {cs rest : List Char}

private theorem ReadsStorable.value_succ (ih : ReadsStorable fuel) {value : Json}
    (reads : readValue (fuel + 1) room cs = .ok (value, rest)) : value.IsStorable room := by
  unfold readValue at reads
  split at reads
  · obtain ⟨⟨text, after⟩, _, same⟩ := map_eq_ok.mp reads
    cases same
    exact .string text
  · obtain ⟨less, rfl, within⟩ := enter_eq_ok.mp reads
    split at within
    · cases within
      exact .object (by simp) (by simp)
    · obtain ⟨⟨members, after⟩, inner, same⟩ := map_eq_ok.mp within
      cases same
      exact .object (nodup_lastValues members) fun member inside =>
        ih.members inner member (mem_lastValues inside)
  · obtain ⟨less, rfl, within⟩ := enter_eq_ok.mp reads
    split at within
    · cases within
      exact .array (by simp)
    · obtain ⟨⟨elements, after⟩, inner, same⟩ := map_eq_ok.mp within
      cases same
      exact .array (ih.elements inner)
  · split at reads
    · rename_i is
      cases reads
      exact isStorable_of_word? is
    · exact isStorable_of_readNumber reads

private theorem ReadsStorable.elements_succ (ih : ReadsStorable fuel) {elements : List Json}
    (reads : readElements (fuel + 1) room cs = .ok (elements, rest)) :
    ∀ element ∈ elements, element.IsStorable room := by
  rw [readElements] at reads
  split at reads
  · cases reads
  · rename_i element after first
    have storable := ih.value first
    split at reads
    · cases reads
      simpa using storable
    · obtain ⟨⟨others, after⟩, inner, same⟩ := map_eq_ok.mp reads
      cases same
      simpa using ⟨storable, ih.elements inner⟩
    · cases reads

private theorem ReadsStorable.members_succ (ih : ReadsStorable fuel) {members : List (AnyText × Json)}
    (reads : readMembers (fuel + 1) room cs = .ok (members, rest)) :
    ∀ member ∈ members, member.2.IsStorable room := by
  unfold readMembers at reads
  split at reads
  · split at reads
    · cases reads
    · split at reads
      · split at reads
        · cases reads
        · rename_i value after first
          have storable := ih.value first
          split at reads
          · cases reads
            simpa using storable
          · obtain ⟨⟨others, after⟩, inner, same⟩ := map_eq_ok.mp reads
            cases same
            intro member inside
            rcases List.mem_cons.mp inside with rfl | inside
            · exact storable
            · exact ih.members inner member inside
          · cases reads
      · cases reads
  · cases reads

end

private theorem readsStorable (fuel : Nat) : ReadsStorable fuel := by
  induction fuel with
  | zero =>
    refine ⟨?_, ?_, ?_⟩
    · intro room cs rest value reads
      rw [readValue] at reads
      cases reads
    · intro room cs rest elements reads
      rw [readElements] at reads
      cases reads
    · intro room cs rest members reads
      rw [readMembers] at reads
      cases reads
  | succ fuel ih => exact ⟨ih.value_succ, ih.elements_succ, ih.members_succ⟩

/-- There is room for four containers inside one another, and perhaps for more. -/
theorem exists_limit [Nesting] : ∃ room, Nesting.limit = room + 4 :=
  Nat.exists_eq_add_of_le' Nesting.enough

/-- What was read can be stored. -/
theorem isStorable_of_read [Nesting] {text : List Char} {value : Json} (reads : read text = .ok value) :
    value.IsStorable Nesting.limit := by
  simp only [read] at reads
  split at reads
  · cases reads
  · split at reads
    · cases reads
    · rename_i inner
      split at reads
      · cases reads
        exact (readsStorable _).value inner
      · cases reads

end IssueTracker.Json
