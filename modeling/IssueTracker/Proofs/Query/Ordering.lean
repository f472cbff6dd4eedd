import IssueTracker.Proofs.Calendar.Moment
import IssueTracker.Proofs.Query.Permutation

/-!
# The order of issues

Sorting leaves members that may stand in any order as they stood (`filter_mergeSort`).  So issues that
were put in the order of their ids keep it among those of equal values, also where the values descend,
and among those without a value.  That fixes the place of every issue: each key puts the issues in one
arrangement (`SortOrder.Arranges`), and that is the one they are sorted into (`sortIssues_arranged`).
-/

namespace IssueTracker

/-! ## Stable sorting -/

section
variable {α : Type}

/-- Members that may stand in any order are left as they stood. -/
theorem filter_mergeSort {le : α → α → Bool} (trans : ∀ a b c, le a b → le b c → le a c)
    (total : ∀ a b, le a b || le b a) {xs : List α} {p : α → Bool}
    (tied : ∀ a ∈ xs, ∀ b ∈ xs, p a → p b → le a b) : (xs.mergeSort le).filter p = xs.filter p := by
  have inAnyOrder : (xs.filter p).Pairwise fun a b => le a b = true := by
    refine List.pairwise_of_forall_mem_list fun a inA b inB => ?_
    obtain ⟨inA, isA⟩ := List.mem_filter.mp inA
    obtain ⟨inB, isB⟩ := List.mem_filter.mp inB
    exact tied a inA b inB isA isB
  have kept : (xs.filter p).Sublist (xs.mergeSort le) :=
    List.sublist_mergeSort trans total inAnyOrder List.filter_sublist
  have inside : (xs.filter p).Sublist ((xs.mergeSort le).filter p) := by
    simpa using kept.filter p
  have length := ((List.mergeSort_perm xs le).filter p).length_eq
  exact (inside.eq_of_length length.symm).symm

/-- Two arrangements of the same members are the same if both are in order, and members that may stand
    either way stand alike in both. -/
theorem eq_of_pairwise_of_filter_eq (R : α → α → Prop) (tied : α → α → Bool) (refl : ∀ a, tied a a)
    (antisymm : ∀ a b, R a b → R b a → tied a b) {xs ys : List α} (perm : xs.Perm ys)
    (orderedX : xs.Pairwise R) (orderedY : ys.Pairwise R)
    (alike : ∀ x ∈ xs, xs.filter (tied x) = ys.filter (tied x)) : xs = ys := by
  induction xs generalizing ys with
  | nil => exact perm.nil_eq
  | cons x xs ih =>
    obtain ⟨y, others, rfl⟩ : ∃ y others, ys = y :: others :=
      List.exists_cons_of_ne_nil fun none => List.cons_ne_nil x xs (none ▸ perm).eq_nil
    have first : x = y := by
      by_contra other
      have before : R x y := by
        have inside : y ∈ x :: xs := perm.mem_iff.mpr List.mem_cons_self
        exact List.rel_of_pairwise_cons orderedX ((List.mem_cons.mp inside).resolve_left (Ne.symm other))
      have after : R y x := by
        have inside : x ∈ y :: others := perm.mem_iff.mp List.mem_cons_self
        exact List.rel_of_pairwise_cons orderedY ((List.mem_cons.mp inside).resolve_left other)
      -- Neither of the two stands before the other, so they are of one class and head it in both lists.
      have same := alike x List.mem_cons_self
      rw [List.filter_cons_of_pos (refl x), List.filter_cons_of_pos (antisymm x y before after)] at same
      exact other (List.cons.inj same).1
    subst first
    refine congrArg (x :: ·) (ih perm.cons_inv orderedX.of_cons orderedY.of_cons fun z member => ?_)
    have same := alike z (List.mem_cons_of_mem _ member)
    by_cases inClass : tied z x
    · rw [List.filter_cons_of_pos inClass, List.filter_cons_of_pos inClass] at same
      exact (List.cons.inj same).2
    · rw [List.filter_cons_of_neg inClass, List.filter_cons_of_neg inClass] at same
      exact same

end

/-! ## What issues are ordered by -/

/-- The place of a word in a vocabulary, in any case; a word that is not in it has the place of the
    unknown ones. -/
def placeIn (vocabulary : List String) (unknown : Int) (word : Option String) : Int :=
  let word := Text.lower (word.getD "")
  if word ∈ vocabulary then vocabulary.idxOf word else unknown

namespace SortKey

/-- Whether an issue has nothing to be ordered by.  An unknown status or priority has a place. -/
def lacks : SortKey → Issue → Bool
  | id, i => i.id.isNone
  | title, i => i.title.getD "" == ""
  | type, i => i.type.getD "" == ""
  | assignee, i => i.assignee.getD "" == ""
  | branch, i => i.branch.getD "" == ""
  | created, i => i.createdAt.isNone
  | updated, i => i.updatedAt.isNone
  | closed, i => i.closedAt.isNone
  | status, _ | priority, _ | other _, _ => false

/-- Whether the value of an issue is at most that of another: title and type in lower case, assignee
    and branch exactly, status and priority by rank. -/
def atMost : SortKey → Issue → Issue → Bool
  | id, a, b => a.id.getD 0 ≤ b.id.getD 0
  | title, a, b => Text.lower (a.title.getD "") ≤ Text.lower (b.title.getD "")
  | type, a, b => Text.lower (a.type.getD "") ≤ Text.lower (b.type.getD "")
  | status, a, b => placeIn statuses statuses.length a.status ≤ placeIn statuses statuses.length b.status
  | priority, a, b => placeIn priorities (-1) a.priority ≤ placeIn priorities (-1) b.priority
  | assignee, a, b => a.assignee.getD "" ≤ b.assignee.getD ""
  | branch, a, b => a.branch.getD "" ≤ b.branch.getD ""
  | created, a, b => (a.createdAt.map Moment.localMicros).getD 0 ≤ (b.createdAt.map Moment.localMicros).getD 0
  | updated, a, b => (a.updatedAt.map Moment.localMicros).getD 0 ≤ (b.updatedAt.map Moment.localMicros).getD 0
  | closed, a, b => (a.closedAt.map Moment.localMicros).getD 0 ≤ (b.closedAt.map Moment.localMicros).getD 0
  | other _, _, _ => true

/-- Whether two issues are of equal values, or both without one. -/
def ties (key : SortKey) (a b : Issue) : Bool :=
  if key.lacks a then key.lacks b else !key.lacks b && key.atMost a b && key.atMost b a

/-- Whether two issues tie and are of one id: none of the two stands first by what they hold. -/
def samePlace (key : SortKey) (a b : Issue) : Bool :=
  key.ties a b && a.id.getD 0 == b.id.getD 0

end SortKey

namespace SortOrder

/-- Whether the value of an issue may stand before that of another. -/
def allows (order : SortOrder) (a b : Issue) : Bool :=
  if order.descending then order.key.atMost b a else order.key.atMost a b

/-- The issues in an order: those without a value last, the others by value, and issues that tie by id,
    those of one id as they stood. -/
structure Arranges (order : SortOrder) (issues sorted : List Issue) : Prop where
  perm : sorted.Perm issues
  missingLast : sorted.Pairwise fun a b => order.key.lacks a → order.key.lacks b
  byValue : sorted.Pairwise fun a b =>
    order.key.lacks a = false → order.key.lacks b = false → order.allows a b
  byId : sorted.Pairwise fun a b => order.key.ties a b → a.id.getD 0 ≤ b.id.getD 0
  stable : ∀ i ∈ issues, sorted.filter (order.key.samePlace i) = issues.filter (order.key.samePlace i)

end SortOrder

section
variable {key : SortKey} {order : SortOrder} {a b c i : Issue} {issues sorted : List Issue}

theorem SortKey.atMost_trans (before : key.atMost a b) (after : key.atMost b c) : key.atMost a c := by
  cases key with
  | id | status | priority =>
    simp only [atMost, decide_eq_true_eq] at before after ⊢
    exact Int.le_trans before after
  | title | type | assignee | branch =>
    simp only [atMost, decide_eq_true_eq] at before after ⊢
    exact String.le_trans before after
  | created | updated | closed =>
    simp only [atMost, decide_eq_true_eq] at before after ⊢
    exact Nat.le_trans before after
  | other name => rfl

theorem SortKey.atMost_total (key : SortKey) (a b : Issue) : key.atMost a b || key.atMost b a := by
  cases key with
  | id | status | priority => simp [atMost, Int.le_total]
  | title | type | assignee | branch => simp [atMost, String.le_total]
  | created | updated | closed => simp [atMost, Nat.le_total]
  | other name => rfl

theorem SortKey.atMost_self (key : SortKey) (a : Issue) : key.atMost a a := by
  simpa using key.atMost_total a a

theorem SortOrder.allows_trans (order : SortOrder) (a b c : Issue) (before : order.allows a b)
    (after : order.allows b c) : order.allows a c := by
  rw [allows] at before after ⊢
  split_ifs at before after ⊢
  · exact SortKey.atMost_trans after before
  · exact SortKey.atMost_trans before after

theorem SortOrder.allows_total (order : SortOrder) (a b : Issue) : order.allows a b || order.allows b a := by
  simp only [allows]
  split_ifs
  · exact order.key.atMost_total b a
  · exact order.key.atMost_total a b

theorem SortKey.ties_iff : key.ties a b ↔
    key.lacks a ∧ key.lacks b ∨
      key.lacks a = false ∧ key.lacks b = false ∧ key.atMost a b ∧ key.atMost b a := by
  rw [ties]
  cases key.lacks a <;> simp [and_assoc]

theorem SortKey.ties_self (key : SortKey) (a : Issue) : key.ties a a := by
  rw [ties_iff]
  cases is : key.lacks a <;> simp [key.atMost_self]

theorem SortKey.ties_comm (ties : key.ties a b) : key.ties b a := by
  rw [ties_iff] at ties ⊢
  rcases ties with ⟨lacksA, lacksB⟩ | ⟨thereA, thereB, before, after⟩
  · exact Or.inl ⟨lacksB, lacksA⟩
  · exact Or.inr ⟨thereB, thereA, after, before⟩

/-- What ties with one issue ties with each other. -/
theorem SortKey.ties_trans (left : key.ties c a) (right : key.ties c b) : key.ties a b := by
  rw [ties_iff] at left right ⊢
  rcases left with ⟨lacksC, lacksA⟩ | ⟨thereC, thereA, beforeA, afterA⟩
  · rcases right with ⟨_, lacksB⟩ | ⟨thereC, _⟩
    · exact Or.inl ⟨lacksA, lacksB⟩
    · cases lacksC.symm.trans thereC
  · rcases right with ⟨lacksC, _⟩ | ⟨_, thereB, beforeB, afterB⟩
    · cases lacksC.symm.trans thereC
    · exact Or.inr ⟨thereA, thereB, atMost_trans afterA beforeB, atMost_trans afterB beforeA⟩

/-- Equal values may stand either way. -/
theorem SortOrder.allows_of_ties (ties : order.key.ties a b) (there : order.key.lacks a = false) :
    order.allows a b := by
  rcases SortKey.ties_iff.mp ties with ⟨lacks, _⟩ | ⟨_, _, before, after⟩
  · cases there.symm.trans lacks
  · rw [allows]
    split_ifs
    · exact after
    · exact before

/-- Two values may each stand before the other exactly when they are equal. -/
theorem SortOrder.allows_both_iff :
    (order.allows a b ∧ order.allows b a) ↔ (order.key.atMost a b ∧ order.key.atMost b a) := by
  simp only [allows]
  split_ifs
  · exact and_comm
  · exact Iff.rfl

end

/-! ## There is one arrangement -/

section
variable {order : SortOrder} {issues sorted other : List Issue}

/-- Two arrangements of the same issues are one. -/
theorem SortOrder.Arranges.eq (one : order.Arranges issues sorted) (two : order.Arranges issues other) :
    other = sorted := by
  let before (a b : Issue) : Prop :=
    (order.key.lacks a → order.key.lacks b) ∧
      (order.key.lacks a = false → order.key.lacks b = false → order.allows a b) ∧
      (order.key.ties a b → a.id.getD 0 ≤ b.id.getD 0)
  have ordered {arranged : List Issue} (h : order.Arranges issues arranged) : arranged.Pairwise before :=
    h.missingLast.and (h.byValue.and h.byId)
  refine eq_of_pairwise_of_filter_eq before order.key.samePlace (fun a => ?_)
    (fun a b ab ba => ?_) (two.perm.trans one.perm.symm) (ordered two) (ordered one) fun i member => ?_
  · simp [SortKey.samePlace, SortKey.ties_self]
  · have ties : order.key.ties a b := by
      rw [SortKey.ties_iff]
      cases lacksA : order.key.lacks a with
      | true => exact Or.inl ⟨rfl, ab.1 lacksA⟩
      | false =>
        cases lacksB : order.key.lacks b with
        | true => exact absurd (ba.1 lacksB) (by simp [lacksA])
        | false =>
          have allowed := SortOrder.allows_both_iff.mp
            ⟨ab.2.1 lacksA lacksB, ba.2.1 lacksB lacksA⟩
          exact Or.inr ⟨rfl, rfl, allowed⟩
    have id := Int.le_antisymm (ba.2.2 (SortKey.ties_comm ties)) (ab.2.2 ties)
    simp [SortKey.samePlace, ties, id]
  · have inside : i ∈ issues := two.perm.mem_iff.mp member
    rw [two.stable i inside, one.stable i inside]

end

/-! ## Values -/

/-- The value that an issue is ordered by, where there is one. -/
def SortKey.valueOf (key : SortKey) (i : Issue) : Option SortValue := (key.value? i).toOption.join

section
variable {key : SortKey} {a b i : Issue}

theorem SortKey.value?_eq (known : key ∈ SortKey.all) (i : Issue) : key.value? i = .ok (key.valueOf i) := by
  cases key with
  | other name => simp [SortKey.all] at known
  | _ => rfl

private theorem ofText_isNone (text : Option String) :
    (SortValue.ofText text).isNone = (text.getD "" == "") := by
  rw [SortValue.ofText, Issue.textOrEmpty]
  split_ifs with empty <;> simp [empty]

private theorem ofText_lower_isNone (text : Option String) :
    (SortValue.ofText (text.map Text.lower)).isNone = (text.getD "" == "") := by
  cases text with
  | none => rw [Option.map_none, ofText_isNone]
  | some text => simp [ofText_isNone, Text.lower_eq_empty, beq_eq_decide]

theorem SortKey.isNone_valueOf (known : key ∈ SortKey.all) (i : Issue) :
    (key.valueOf i).isNone = key.lacks i := by
  cases key with
  | other name => simp [SortKey.all] at known
  | id | created | updated | closed => exact Option.isNone_map
  | title => exact ofText_lower_isNone i.title
  | type => exact ofText_lower_isNone i.type
  | status | priority => rfl
  | assignee => exact ofText_isNone i.assignee
  | branch => exact ofText_isNone i.branch

private theorem ofText_eq_some {text : Option String} {v : SortValue} (is : SortValue.ofText text = some v) :
    v = .text (text.getD "") := by
  rw [SortValue.ofText] at is
  split_ifs at is
  exact (Option.some.inj is).symm

private theorem lower_getD (text : Option String) :
    (text.map Text.lower).getD "" = Text.lower (text.getD "") := by
  cases text <;> rfl

theorem placeIn_eq (vocabulary : List String) (unknown : Int) (word : Option String) :
    placeIn vocabulary unknown word = ((rank? vocabulary word).map Int.ofNat).getD unknown := by
  rw [placeIn, rank?, Issue.textOrEmpty]
  generalize Text.lower (word.getD "") = word
  cases place : vocabulary.idxOf? word with
  | none => exact if_neg (List.idxOf?_eq_none_iff.mp place)
  | some n =>
    have known : word ∈ vocabulary := by
      by_contra unknown
      cases place.symm.trans (List.idxOf?_eq_none_iff.mpr unknown)
    rw [if_pos known, List.idxOf_eq_getD_idxOf?, place]
    rfl

theorem placeIn_length (vocabulary : List String) (word : Option String) :
    placeIn vocabulary vocabulary.length word = ((rank? vocabulary word).getD vocabulary.length : Nat) := by
  rw [placeIn_eq]
  cases rank? vocabulary word <;> rfl

private theorem le_of_time {a b : Option Moment} {u v : SortValue} (naiveA : a.all Moment.isNaive)
    (naiveB : b.all Moment.isNaive) (isA : a.map .time = some u) (isB : b.map .time = some v) :
    u.le v = decide ((a.map Moment.localMicros).getD 0 ≤ (b.map Moment.localMicros).getD 0) := by
  obtain ⟨s, rfl, rfl⟩ := Option.map_eq_some_iff.mp isA
  obtain ⟨t, rfl, rfl⟩ := Option.map_eq_some_iff.mp isB
  rw [SortValue.le, Moment.instant_eq naiveA, Moment.instant_eq naiveB, Option.map_some, Option.map_some,
    Option.getD_some, Option.getD_some]
  exact decide_eq_decide.mpr Int.ofNat_le

/-- Of two values of one key, the lesser is that of the issue that is ordered first. -/
theorem SortKey.le_valueOf {u v : SortValue} (known : key ∈ SortKey.all) (timesA : a.hasNaiveTimes)
    (timesB : b.hasNaiveTimes) (isA : key.valueOf a = some u) (isB : key.valueOf b = some v) :
    u.le v = key.atMost a b := by
  cases key with
  | other name => simp [SortKey.all] at known
  | id =>
    obtain ⟨m, there, rfl⟩ := Option.map_eq_some_iff.mp isA
    obtain ⟨n, there', rfl⟩ := Option.map_eq_some_iff.mp isB
    simp [SortValue.le, atMost, there, there']
  | title | type =>
    rw [ofText_eq_some isA, ofText_eq_some isB, lower_getD, lower_getD]
    rfl
  | assignee | branch =>
    rw [ofText_eq_some isA, ofText_eq_some isB]
    rfl
  | status =>
    cases isA
    cases isB
    simp only [atMost, placeIn_length]
    rfl
  | priority =>
    cases isA
    cases isB
    simp only [atMost, placeIn_eq]
    rfl
  | created =>
    exact le_of_time (Issue.time?_all_isNaive timesA .created) (Issue.time?_all_isNaive timesB .created) isA isB
  | updated =>
    exact le_of_time (Issue.time?_all_isNaive timesA .updated) (Issue.time?_all_isNaive timesB .updated) isA isB
  | closed =>
    exact le_of_time (Issue.time?_all_isNaive timesA .closed) (Issue.time?_all_isNaive timesB .closed) isA isB

end

/-! ## Sorting -/

section
variable {order : SortOrder} {issues : List Issue}

/-- The issues that have a value, sorted, and the others behind them, all from the order of the ids. -/
def SortOrder.arranged (order : SortOrder) (issues : List Issue) : List Issue :=
  ((sortById issues).filter fun i => !order.key.lacks i).mergeSort order.allows ++
    (sortById issues).filter order.key.lacks

/-- No issue lacks a key of the query language. -/
theorem mapM_value? (known : order.key ∈ SortKey.all) (issues : List Issue) :
    issues.mapM
        (fun i => (do return (← order.key.value? i, i) : Except MatchError (Option SortValue × Issue))) =
      .ok (issues.map fun i => (order.key.valueOf i, i)) :=
  mapM_eq_ok_map fun i _ => by rw [SortKey.value?_eq known]; rfl

theorem sortIssues_eq (known : order.key ∈ SortKey.all) (times : ∀ i ∈ issues, i.hasNaiveTimes) :
    sortIssues issues order = .ok (order.arranged issues) := by
  let present := (sortById issues).filterMap fun i => (order.key.valueOf i).map (·, i)
  have ofPresent {pair : SortValue × Issue} (member : pair ∈ present) :
      pair.2.hasNaiveTimes ∧ order.key.valueOf pair.2 = some pair.1 := by
    obtain ⟨i, inside, same⟩ := List.mem_filterMap.mp member
    obtain ⟨v, is, rfl⟩ := Option.map_eq_some_iff.mp same
    exact ⟨times i (List.mem_mergeSort.mp inside), is⟩
  have comparable : mixesOffsets (present.map Prod.fst) = false := by
    refine mixesOffsets_eq_false fun v member => ?_
    obtain ⟨pair, inside, rfl⟩ := List.mem_map.mp member
    obtain ⟨naive, is⟩ := ofPresent inside
    obtain ⟨value, run, each⟩ := value?_eq_ok known naive
    rw [SortKey.value?_eq known, is] at run
    exact each pair.1 (Except.ok.inj run).symm
  have sorted : (sortByValue order.descending present).map Prod.snd =
      (present.map Prod.snd).mergeSort order.allows := by
    refine List.map_mergeSort fun x inX y inY => ?_
    obtain ⟨naiveX, isX⟩ := ofPresent inX
    obtain ⟨naiveY, isY⟩ := ofPresent inY
    rw [SortKey.le_valueOf known naiveX naiveY isX isY, SortKey.le_valueOf known naiveY naiveX isY isX]
    rfl
  have there : present.map Prod.snd = (sortById issues).filter fun i => !order.key.lacks i := by
    rw [List.map_filterMap, ← List.filterMap_eq_filter]
    refine List.filterMap_congr fun i _ => ?_
    rw [Option.guard_apply, ← SortKey.isNone_valueOf known]
    cases order.key.valueOf i <;> rfl
  have missing : (sortById issues).filterMap (fun i => if (order.key.valueOf i).isNone then some i else none) =
      (sortById issues).filter order.key.lacks := by
    rw [← List.filterMap_eq_filter]
    refine List.filterMap_congr fun i _ => ?_
    rw [SortKey.isNone_valueOf known, Option.guard_apply]
  rw [sortIssues]
  split
  · rename_i name is
    simp [is, SortKey.all] at known
  · rw [mapM_value? known]
    simp only [bind, Except.bind, List.filterMap_map, Function.comp_def]
    rw [if_neg (by simpa [present] using comparable)]
    rw [SortOrder.arranged, ← there, ← sorted, missing]

/-- Issues of one id keep their order. -/
theorem filter_sortById {p : Issue → Bool} (same : ∀ a b, p a → p b → a.id.getD 0 = b.id.getD 0) :
    (sortById issues).filter p = issues.filter p := by
  refine filter_mergeSort (fun a b c => by simpa using Int.le_trans)
    (fun a b => by simpa using Int.le_total (a.id.getD 0) (b.id.getD 0)) fun a _ b _ isA isB => ?_
  exact decide_eq_true (Int.le_of_eq (same a b isA isB))

/-- The issues of a class that tie with each other stand in the order of their ids. -/
theorem filter_arranged {p : Issue → Bool} (tied : ∀ a b, p a → p b → order.key.ties a b) :
    (order.arranged issues).filter p = (sortById issues).filter p := by
  have inOrder (a : Issue) (inA : a ∈ (sortById issues).filter fun i => !order.key.lacks i) (b : Issue)
      (isA : p a) (isB : p b) : order.allows a b := by
    have there := (List.mem_filter.mp inA).2
    exact SortOrder.allows_of_ties (tied a b isA isB) (by simpa using there)
  rw [SortOrder.arranged, List.filter_append, filter_mergeSort order.allows_trans order.allows_total
    fun a inA b _ => inOrder a inA b, List.filter_filter, List.filter_filter]
  by_cases missing : ∃ a, p a ∧ order.key.lacks a
  · obtain ⟨a, isA, lacksA⟩ := missing
    have all (b : Issue) (isB : p b) : order.key.lacks b := by
      have ties := tied a b isA isB
      rwa [SortKey.ties, if_pos lacksA] at ties
    rw [List.filter_eq_nil_iff.mpr fun b _ => by simpa using all b, List.nil_append]
    exact List.filter_congr fun b _ => by simpa using all b
  · rw [not_exists] at missing
    rw [List.filter_eq_nil_iff (l := sortById issues) (p := fun a => p a && order.key.lacks a) |>.mpr
      fun b _ => by simpa using missing b, List.append_nil]
    exact List.filter_congr fun b _ => by simpa using missing b

/-- What holds of two issues with a value, of one with and one without, and of two without holds of an issue
    and a later one. -/
theorem pairwise_arranged {R : Issue → Issue → Prop}
    (valued : ∀ a b, order.key.lacks a = false → order.key.lacks b = false → order.allows a b → R a b)
    (last : ∀ a b, order.key.lacks b → R a b) : (order.arranged issues).Pairwise R := by
  refine List.pairwise_append.mpr ⟨?_, ?_, ?_⟩
  · have there (a : Issue) (member : a ∈ ((sortById issues).filter fun i => !order.key.lacks i).mergeSort
        order.allows) : order.key.lacks a = false := by
      simpa using (List.mem_filter.mp (List.mem_mergeSort.mp member)).2
    refine (List.pairwise_mergeSort order.allows_trans order.allows_total _).imp_of_mem ?_
    exact fun {a b} inA inB allowed => valued a b (there a inA) (there b inB) allowed
  · exact List.pairwise_of_forall_mem_list fun a _ b inB => last a b (List.mem_filter.mp inB).2
  · exact fun a _ b inB => last a b (List.mem_filter.mp inB).2

theorem arranges_arranged (order : SortOrder) (issues : List Issue) :
    order.Arranges issues (order.arranged issues) where
  perm := by
    have parts := List.filter_append_perm (fun i => !order.key.lacks i) (sortById issues)
    simp only [Bool.not_not] at parts
    exact (((List.mergeSort_perm _ _).append_right _).trans parts).trans (perm_sortById issues)
  missingLast := pairwise_arranged (fun a b there _ _ lacks => by simp [there] at lacks) fun a b lacks _ => lacks
  byValue := pairwise_arranged (fun a b _ _ allowed _ _ => allowed) fun a b lacks _ there => by
    simp [lacks] at there
  byId := by
    refine List.pairwise_iff_forall_sublist.mpr fun {a b} inside ties => ?_
    -- Two issues that tie stand as in the order of the ids, for all that tie with the first do.
    have inClass := inside.filter (order.key.ties a)
    rw [filter_arranged fun _ _ => SortKey.ties_trans] at inClass
    simp only [List.filter_cons, SortKey.ties_self, ties, if_true, List.filter_nil] at inClass
    have ordered := (pairwise_sortById issues).sublist (inClass.trans List.filter_sublist)
    simpa using ordered
  stable i _ := by
    have tied (a b : Issue) (isA : order.key.samePlace i a) (isB : order.key.samePlace i b) :
        order.key.ties a b ∧ a.id.getD 0 = b.id.getD 0 := by
      simp only [SortKey.samePlace, Bool.and_eq_true, beq_iff_eq] at isA isB
      exact ⟨SortKey.ties_trans isA.1 isB.1, isA.2.symm.trans isB.2⟩
    rw [filter_arranged fun a b isA isB => (tied a b isA isB).1]
    exact filter_sortById fun a b isA isB => (tied a b isA isB).2

/-- Every key of the query language puts issues whose times have no offset in its one arrangement, in
    both directions. -/
theorem sortIssues_arranged (known : order.key ∈ SortKey.all) (times : ∀ i ∈ issues, i.hasNaiveTimes) :
    ∃ sorted, sortIssues issues order = .ok sorted ∧
      ∀ arranged, order.Arranges issues arranged ↔ arranged = sorted := by
  have is := arranges_arranged order issues
  exact ⟨_, sortIssues_eq known times, fun arranged => ⟨is.eq, fun same => same ▸ is⟩⟩

end

private def assigned (assignee : Option String) (id : Int) (title : String) : Issue :=
  { title := some title, assignee, id := some id }

private def backlog : List Issue :=
  [assigned none 5 "Hang", assigned (some "ann") 3 "Leak", assigned (some "bob") 4 "Crash",
    assigned (some "ann") 1 "Typo", assigned (some "") 2 "Slow", assigned (some "ann") 1 "Flash"]

/-- Assignees descend while the ids of one assignee ascend, two issues of one id keep their order, and the
    issues of nobody are last. -/
theorem sortIssues_assignee :
    SortKey.assignee ∈ SortKey.all ∧ (∀ i ∈ backlog, i.hasNaiveTimes) ∧
      sortIssues backlog ⟨.assignee, true⟩ =
        .ok [assigned (some "bob") 4 "Crash", assigned (some "ann") 1 "Typo", assigned (some "ann") 1 "Flash",
          assigned (some "ann") 3 "Leak", assigned (some "") 2 "Slow", assigned none 5 "Hang"] := by
  have known : SortKey.assignee ∈ SortKey.all := by decide
  have times : ∀ i ∈ backlog, i.hasNaiveTimes := by decide
  obtain ⟨sorted, run, only⟩ :=
    @sortIssues_arranged ⟨.assignee, true⟩ _ known times
  refine ⟨known, times, run.trans (congrArg _ ((only _).mp ?_).symm)⟩
  constructor
  all_goals decide +kernel

end IssueTracker
