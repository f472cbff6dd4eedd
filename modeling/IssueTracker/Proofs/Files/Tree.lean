import Mathlib.Data.List.Find
import IssueTracker.Files.Tree
import IssueTracker.Proofs.Outcome

/-!
# Walking through directory trees

Names that lead somewhere lead past directories only, so the place that they reach can be walked to by its
own names (`Tree.IsOpen.of_walk`, `Tree.IsOpen.walk_eq`): `..` is taken up on the way.  A tree that has all
the directories of another one can be walked through as that one (`Tree.walk_mono`).  Where a directory was
made a path leads to one (`Tree.isDirectory_makeDirectory`).
-/

namespace IssueTracker

namespace Path

theorem foldl_step {names : List String} (noBack : ".." ∉ names) (place : List String) :
    names.foldl step place = place ++ names := by
  induction names generalizing place with
  | nil => simp
  | cons name names ih =>
    simp only [List.mem_cons, not_or] at noBack
    rw [List.foldl_cons, step, if_neg (Ne.symm noBack.1), ih noBack.2]
    simp

/-- A name in a directory is one name more. -/
theorem names_under_child (p : Path) (directory : Place) (name : String) :
    ((p.child name).under directory).names = (p.under directory).names ++ [name] := by
  have sameStart : (p.child name).isAbsolute = p.isAbsolute := rfl
  rw [under, under, sameStart]
  by_cases isAbsolute : p.isAbsolute = true
  · rw [if_pos isAbsolute, if_pos isAbsolute, child]
  · rw [if_neg isAbsolute, if_neg isAbsolute, child]
    simp

/-- A name in a directory leads one name further on. -/
theorem resolve_child {p : Path} {directory : Place} {name : String} (noBack : name ≠ "..") :
    ((p.child name).resolve directory).names = (p.resolve directory).names ++ [name] := by
  rw [resolve, resolve]
  simp only [names_under_child, List.foldl_append, List.foldl_cons, List.foldl_nil]
  rw [step, if_neg noBack]

/-- A place without `..` is what the path to it resolves to. -/
theorem resolve_place {place directory : Place} (noBack : ".." ∉ place) :
    resolve ⟨1, place⟩ directory = ⟨1, place⟩ := by
  have absolute : (⟨1, place⟩ : Path).isAbsolute = true := rfl
  rw [resolve, under, if_pos absolute, foldl_step noBack, List.nil_append]

end Path

namespace Tree
variable {t t' : Tree} {place above : Place} {names : List String} {name : String}
  {directory : Place} {path : Path} {entry : Entry}

/-! ## Walking -/

/-- The names of a place lead to it: they pass directories only, and none of them leads back. -/
structure IsOpen (t : Tree) (place : Place) : Prop where
  noBack : ".." ∉ place
  passes : ∀ above, above <+: place → above ≠ place → t.isDirectoryAt above

theorem IsOpen.root (t : Tree) : t.IsOpen [] where
  noBack := List.not_mem_nil
  passes := by
    intro above isPrefix other
    exact absurd (List.prefix_nil.mp isPrefix) other

theorem isDirectoryAt_iff : t.isDirectoryAt place ↔ t.entryAt? place = some .directory := by
  simp [isDirectoryAt]

/-- A place above an open one is open. -/
theorem IsOpen.of_prefix (isOpen : t.IsOpen place) (isPrefix : above <+: place) : t.IsOpen above where
  noBack := fun member => isOpen.noBack (isPrefix.subset member)
  passes := by
    intro higher isHigher other
    apply isOpen.passes higher (isHigher.trans isPrefix)
    rintro rfl
    exact other (isHigher.eq_of_length_le isPrefix.length_le)

theorem IsOpen.child (isOpen : t.IsOpen place) (there : t.isDirectoryAt place) (noBack : name ≠ "..") :
    t.IsOpen (place ++ [name]) where
  noBack := by
    intro member
    rcases List.mem_append.mp member with inside | last
    · exact isOpen.noBack inside
    · exact noBack (List.mem_singleton.mp last).symm
  passes := by
    intro above isPrefix other
    have within : above <+: place := (List.prefix_concat_iff.mp isPrefix).resolve_left other
    by_cases same : above = place
    · rw [same]
      exact there
    · exact isOpen.passes above within same

/-- Each step of a walk goes from an open place to an open place. -/
theorem IsOpen.step (isOpen : t.IsOpen place) (there : t.isDirectoryAt place) (name : String) :
    t.IsOpen (Path.step place name) := by
  rw [Path.step]
  by_cases back : name = ".."
  · rw [if_pos back]
    exact isOpen.of_prefix (List.dropLast_prefix place)
  · rw [if_neg back]
    exact isOpen.child there back

theorem of_walk_cons {reached : Place} (walks : t.walk place (name :: names) = .ok reached) :
    t.isDirectoryAt place ∧ t.walk (Path.step place name) names = .ok reached := by
  rw [walk] at walks
  cases there : t.entryAt? place with
  | none =>
    rw [there] at walks
    cases walks
  | some entry =>
    rw [there] at walks
    cases entry with
    | directory => exact ⟨isDirectoryAt_iff.mpr there, walks⟩
    | file content => cases walks
    | database db => cases walks

/-- The place that a walk reaches is open, and is the one that the names spell. -/
theorem IsOpen.of_walk {reached : Place} (isOpen : t.IsOpen place) (walks : t.walk place names = .ok reached) :
    t.IsOpen reached ∧ reached = names.foldl Path.step place := by
  induction names generalizing place with
  | nil =>
    cases walks
    exact ⟨isOpen, rfl⟩
  | cons name names ih =>
    obtain ⟨there, walks⟩ := of_walk_cons walks
    exact ih (isOpen.step there name) walks

theorem walk_cons (there : t.isDirectoryAt place) :
    t.walk place (name :: names) = t.walk (Path.step place name) names := by
  rw [walk, isDirectoryAt_iff.mp there]

/-- A tree with the directories of another one can be walked through as that one. -/
theorem walk_mono {reached : Place} (keeps : ∀ place, t.isDirectoryAt place → t'.isDirectoryAt place)
    (walks : t.walk place names = .ok reached) : t'.walk place names = .ok reached := by
  induction names generalizing place with
  | nil => exact walks
  | cons name names ih =>
    obtain ⟨there, walks⟩ := of_walk_cons walks
    rw [walk_cons (keeps place there)]
    exact ih walks

/-- A walk goes on from where the names before lead. -/
theorem walk_append {reached : Place} {more : List String} (walks : t.walk place names = .ok reached) :
    t.walk place (names ++ more) = t.walk reached more := by
  induction names generalizing place with
  | nil =>
    cases walks
    rfl
  | cons name names ih =>
    obtain ⟨there, walks⟩ := of_walk_cons walks
    rw [List.cons_append, walk_cons there]
    exact ih walks

/-- An open place is reached by its own names. -/
theorem IsOpen.walk_eq (isOpen : t.IsOpen place) : t.walk [] place = .ok place := by
  -- The names that are left are walked from the place that the others spell.
  have from_place (before after : Place) (split : place = before ++ after) : t.walk before after = .ok place := by
    induction after generalizing before with
    | nil => simp [walk, split]
    | cons name after ih =>
      have there : t.isDirectoryAt before := by
        apply isOpen.passes before (split ▸ List.prefix_append before _)
        intro same
        have length := congrArg List.length split
        simp [same] at length
      have noBack : name ≠ ".." := by
        rintro rfl
        exact isOpen.noBack (by simp [split])
      rw [walk_cons there, Path.step, if_neg noBack]
      exact ih (before ++ [name]) (by simp [split])
  exact from_place [] place rfl

/-! ## Paths -/

theorem place?_eq_some : t.place? directory path = some place ↔
    t.walk [] (path.under directory).names = .ok place :=
  toOption_eq_some

/-- The place that a path leads to is open, and is the one of the resolved path. -/
theorem isOpen_of_place? (leads : t.place? directory path = some place) :
    t.IsOpen place ∧ place = (path.resolve directory).names :=
  (IsOpen.root t).of_walk (place?_eq_some.mp leads)

theorem isDirectory_iff : t.isDirectory directory path ↔
    ∃ place, t.place? directory path = some place ∧ t.isDirectoryAt place := by
  rw [isDirectory]
  cases t.place? directory path <;> simp

/-- Whether there is a directory of a name in another one. -/
theorem isDirectory_child {slashes : Nat} (absolute : 0 < slashes) (isOpen : t.IsOpen place)
    (there : t.isDirectoryAt place) (noBack : name ≠ "..") :
    t.isDirectory directory ⟨slashes, place ++ [name]⟩ = t.isDirectoryAt (place ++ [name]) := by
  have leads : t.place? directory ⟨slashes, place ++ [name]⟩ = some (place ++ [name]) := by
    apply place?_eq_some.mpr
    have whole : (Path.under ⟨slashes, place ++ [name]⟩ directory).names = place ++ [name] := by
      rw [Path.under, if_pos (by simpa [Path.isAbsolute] using absolute)]
    rw [whole]
    exact (isOpen.child there noBack).walk_eq
  rw [isDirectory, leads]

/-- A name in a directory leads to a place in it. -/
theorem place?_child (there : t.isDirectory directory path) (noBack : name ≠ "..") :
    t.place? directory (path.child name) = some ((path.resolve directory).names ++ [name]) := by
  obtain ⟨place, leads, isThere⟩ := isDirectory_iff.mp there
  rw [← (isOpen_of_place? leads).2]
  apply place?_eq_some.mpr
  rw [Path.names_under_child, walk_append (place?_eq_some.mp leads), walk_cons isThere, Path.step, if_neg noBack]
  rfl

/-- Where two trees have the same directories, paths lead to the same places. -/
theorem place?_congr (same : ∀ place, t'.isDirectoryAt place = t.isDirectoryAt place) (directory : Place) (path : Path) :
    t'.place? directory path = t.place? directory path := by
  ext place
  rw [place?_eq_some, place?_eq_some]
  constructor
  · exact walk_mono fun other there => same other ▸ there
  · exact walk_mono fun other there => (same other).symm ▸ there

theorem isDirectory_congr (same : ∀ place, t'.isDirectoryAt place = t.isDirectoryAt place) (directory : Place) (path : Path) :
    t'.isDirectory directory path = t.isDirectory directory path := by
  rw [isDirectory, isDirectory, place?_congr same]
  cases t.place? directory path with
  | none => rfl
  | some place => exact same place

/-! ## Making and writing -/

theorem entryAt?_put (t : Tree) (place other : Place) (entry : Entry) :
    entryAt? (t.put place entry) other =
      if other ≠ [] ∧ other = place then some entry else t.entryAt? other := by
  rw [entryAt?, entryAt?]
  by_cases isRoot : other = []
  · simp [isRoot]
  · by_cases same : other = place
    · subst same
      simp [put, isRoot]
    · have kept : (t.put place entry).entries.find? (·.1 == other) = t.entries.find? (·.1 == other) := by
        rw [put, List.find?_cons_of_neg (by simpa using Ne.symm same), List.find?_filter]
        apply List.find?_congr
        intro member _
        by_cases isOther : member.1 = other
        · simp [isOther, same]
        · simp [isOther]
      simp [isRoot, same, kept]

/-- A directory stays where something is put at another place. -/
theorem isDirectoryAt_put {other : Place} (apart : other ≠ place) (there : t.isDirectoryAt other) :
    (t.put place entry).isDirectoryAt other := by
  rw [isDirectoryAt_iff, entryAt?_put, if_neg (fun both => apart both.2)]
  exact isDirectoryAt_iff.mp there

/-- A directory that is made leaves the others where they are. -/
theorem isDirectoryAt_put_directory {other : Place} (there : t.isDirectoryAt other) :
    (t.put place .directory).isDirectoryAt other := by
  by_cases same : other = place
  · rw [isDirectoryAt_iff, entryAt?_put]
    by_cases isRoot : other = []
    · simpa [isRoot] using isDirectoryAt_iff.mp (isRoot ▸ there)
    · rw [if_pos ⟨isRoot, same⟩]
  · exact isDirectoryAt_put same there

/-- A directory stays where something is written to another place. -/
theorem isDirectoryAt_write {other : Place} (apart : other ≠ (path.resolve directory).names)
    (there : t.isDirectoryAt other) : (t.write directory path entry).isDirectoryAt other := by
  rw [write]
  cases leads : t.place? directory path with
  | none => exact there
  | some place =>
    rw [← (isOpen_of_place? leads).2] at apart
    exact isDirectoryAt_put apart there

/-- A file that is written where no directory is leaves the directories as they are. -/
theorem isDirectoryAt_write_file {content : Bytes} (noDirectory : t.find? directory path ≠ some .directory)
    (other : Place) : (t.write directory path (.file content)).isDirectoryAt other = t.isDirectoryAt other := by
  rw [write]
  cases leads : t.place? directory path with
  | none => rfl
  | some place =>
    rw [find?, leads] at noDirectory
    dsimp only
    rw [isDirectoryAt, entryAt?_put]
    by_cases here : other ≠ [] ∧ other = place
    · have notThere : t.isDirectoryAt other = false := by
        rw [here.2, isDirectoryAt, beq_eq_false_iff_ne]
        exact noDirectory
      rw [if_pos here, notThere]
      rfl
    · rw [if_neg here]
      rfl

/-- A file that is written is found at its place, and what is at other places stays. -/
theorem find?_write_file {content : Bytes} (leads : t.place? directory path = some place)
    (noDirectory : t.find? directory path ≠ some .directory) (other : Path) :
    (t.write directory path (.file content)).find? directory other =
      if t.place? directory other = some place then some (.file content) else t.find? directory other := by
  have notRoot : place ≠ [] := by
    rintro rfl
    apply noDirectory
    rw [find?, leads]
    rfl
  rw [find?, place?_congr (isDirectoryAt_write_file noDirectory), find?, write, leads]
  cases t.place? directory other with
  | none => simp
  | some reached =>
    dsimp only [Option.bind_some]
    rw [entryAt?_put]
    by_cases same : reached = place
    · rw [if_pos ⟨same ▸ notRoot, same⟩, if_pos (congrArg some same)]
    · rw [if_neg (fun both => same both.2), if_neg (fun both => same (Option.some.inj both))]

theorem isDirectory_makeLast (made : t.makeLast directory path = .ok t') : t'.isDirectory directory path := by
  rw [makeLast] at made
  cases walks : t.walk [] (path.under directory).names with
  | error obstacle =>
    rw [walks] at made
    cases obstacle <;> cases made
  | ok place =>
    rw [walks] at made
    apply isDirectory_iff.mpr
    refine ⟨place, ?_⟩
    rw [place?_eq_some]
    cases there : t.entryAt? place with
    | none =>
      simp only [there] at made
      cases made
      have notRoot : place ≠ [] := by
        rintro rfl
        cases there
      refine ⟨walk_mono (fun _ => isDirectoryAt_put_directory) walks, ?_⟩
      rw [isDirectoryAt_iff, entryAt?_put, if_pos ⟨notRoot, rfl⟩]
    | some entry =>
      simp only [there] at made
      cases entry with
      | directory =>
        cases made
        exact ⟨walks, isDirectoryAt_iff.mpr there⟩
      | file content => cases made
      | database db => cases made

/-- A path leads to the directory that was made there. -/
theorem isDirectory_makeDirectory (made : t.makeDirectory directory path = (.ok (), t')) :
    t'.isDirectory directory path := by
  rw [makeDirectory] at made
  split at made
  · rename_i last
    cases made
    exact isDirectory_makeLast last
  · split at made
    · cases made
    · split at made
      · cases made
      · split at made
        · rename_i last
          cases made
          exact isDirectory_makeLast last
        · cases made
  · cases made

end Tree

end IssueTracker
