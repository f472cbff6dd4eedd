import Mathlib.Data.List.Infix
import IssueTracker.Location
import IssueTracker.Proofs.Files.Tree

/-!
# The nearest project

The search for a project looks at a directory and goes on with the one above it (`Surroundings.nearest_eq`),
so it ends at the nearest directory that keeps one (`Surroundings.find_eq_some_iff`), or nowhere when none
does (`Surroundings.find_eq_none_iff`).
-/

namespace IssueTracker

namespace Tree
variable {t : Tree} {start place other : Place}

/-- A directory at a place keeps a project.  A plain file of the same name is none. -/
def KeepsProject (t : Tree) (place : Place) : Prop := t.isDirectoryAt (place ++ [projectDirectoryName])

instance : Decidable (t.KeepsProject place) := inferInstanceAs (Decidable (_ = true))

/-- The nearest place that keeps a project, seen from a place: it is that place or above it, and none
    between the two keeps one. -/
structure IsNearest (t : Tree) (start place : Place) : Prop where
  above : place <+: start
  keeps : t.KeepsProject place
  nearest : ∀ other, other <+: start → t.KeepsProject other → other <+: place

/-- Only the places above the start are to be looked at. -/
theorem isNearest_iff : t.IsNearest start place ↔
    place <+: start ∧ t.KeepsProject place ∧ ∀ other ∈ start.inits, t.KeepsProject other → other <+: place := by
  simp only [List.mem_inits]
  exact ⟨fun ⟨above, keeps, nearest⟩ => ⟨above, keeps, nearest⟩,
    fun ⟨above, keeps, nearest⟩ => ⟨above, keeps, nearest⟩⟩

instance : Decidable (t.IsNearest start place) := decidable_of_iff _ isNearest_iff.symm

theorem IsNearest.unique (first : t.IsNearest start place) (second : t.IsNearest start other) :
    place = other := by
  have up := second.nearest place first.above first.keeps
  have down := first.nearest other second.above second.keeps
  exact up.eq_of_length_le down.length_le

theorem IsNearest.here (keeps : t.KeepsProject place) : t.IsNearest place place where
  above := List.prefix_rfl
  keeps := keeps
  nearest := fun _ isPrefix _ => isPrefix

/-- What is nearest to a directory is nearest to a directory in it that keeps no project itself. -/
theorem IsNearest.concat {name : String} (nearest : t.IsNearest start place)
    (none : ¬ t.KeepsProject (start ++ [name])) : t.IsNearest (start ++ [name]) place where
  above := nearest.above.trans (List.prefix_append start [name])
  keeps := nearest.keeps
  nearest := by
    intro other isPrefix keeps
    rcases List.prefix_concat_iff.mp isPrefix with rfl | isAbove
    · exact absurd keeps none
    · exact nearest.nearest other isAbove keeps

/-- A place with a project is the nearest one below it, as far as none stands between. -/
theorem isNearest_below {below : Place} (keeps : t.KeepsProject place)
    (noneNearer : ∀ other, other <+: below → other ≠ [] → ¬ t.KeepsProject (place ++ other)) :
    t.IsNearest (place ++ below) place where
  above := List.prefix_append place below
  keeps := keeps
  nearest := by
    intro other isPrefix here
    rcases List.prefix_or_prefix_of_prefix isPrefix (List.prefix_append place below) with up | ⟨rest, rfl⟩
    · exact up
    · have within : rest <+: below := (List.prefix_append_right_inj place).mp isPrefix
      by_cases isEmpty : rest = []
      · simp [isEmpty]
      · exact absurd here (noneNearer rest within isEmpty)

end Tree

namespace Path

theorem ancestors_root (slashes : Nat) : ancestors ⟨slashes, []⟩ = [⟨slashes, []⟩] := rfl

theorem ancestors_of_ne {p : Path} (notRoot : p.names ≠ []) : p.ancestors = p :: p.parent.ancestors := by
  obtain ⟨slashes, names⟩ := p
  rcases List.eq_nil_or_concat names with rfl | ⟨above, name, rfl⟩
  · exact absurd rfl notRoot
  · simp [ancestors, rests, parent]

end Path

namespace Surroundings
variable {s : Surroundings} {start found : Path} {place : Place}

/-- The search looks for a project in a directory, and then in the one above, up to the root. -/
theorem nearest_eq (s : Surroundings) (start : Path) : s.nearest start =
    if s.isDirectory (start.child projectDirectoryName) then some (start.child projectDirectoryName)
    else if start.names = [] then none
    else s.nearest start.parent := by
  by_cases isRoot : start.names = []
  · obtain ⟨slashes, names⟩ := start
    cases isRoot
    rw [nearest, Path.ancestors_root, List.map_cons, List.find?_cons]
    cases s.isDirectory _ <;> rfl
  · rw [nearest, Path.ancestors_of_ne isRoot, List.map_cons, List.find?_cons, if_neg isRoot, nearest]
    cases s.isDirectory _ <;> rfl

/-- From a place that can be walked to, the search ends there if it keeps a project, and otherwise goes
    on from the directory above. -/
theorem nearest_place {slashes : Nat} (absolute : 0 < slashes) (isOpen : s.tree.IsOpen place)
    (there : s.tree.isDirectoryAt place) : s.nearest ⟨slashes, place⟩ =
      if s.tree.KeepsProject place then some ⟨slashes, place ++ [projectDirectoryName]⟩
      else if place = [] then none
      else s.nearest ⟨slashes, place.dropLast⟩ := by
  have looks : s.isDirectory (Path.child ⟨slashes, place⟩ projectDirectoryName) =
      s.tree.isDirectoryAt (place ++ [projectDirectoryName]) :=
    Tree.isDirectory_child absolute isOpen there (by decide)
  rw [nearest_eq, looks]
  rfl

/-- What the search finds from a place that can be walked to: the nearest project, or nothing when no
    directory up to the root keeps one. -/
theorem nearest_spec {slashes : Nat} (absolute : 0 < slashes) (isOpen : s.tree.IsOpen place)
    (there : s.tree.isDirectoryAt place) :
    (∃ p, s.tree.IsNearest place p ∧
      s.nearest ⟨slashes, place⟩ = some ⟨slashes, p ++ [projectDirectoryName]⟩) ∨
    (∀ p, p <+: place → ¬ s.tree.KeepsProject p) ∧ s.nearest ⟨slashes, place⟩ = none := by
  -- The search goes up one directory at a time, and so does the induction.
  induction place using List.reverseRecOn with
  | nil =>
    rw [nearest_place absolute isOpen there]
    by_cases keeps : s.tree.KeepsProject []
    · exact Or.inl ⟨[], .here keeps, if_pos keeps⟩
    · refine Or.inr ⟨?_, by rw [if_neg keeps, if_pos rfl]⟩
      intro p isPrefix
      rw [List.prefix_nil.mp isPrefix]
      exact keeps
  | append_singleton above name ih =>
    rw [nearest_place absolute isOpen there]
    by_cases keeps : s.tree.KeepsProject (above ++ [name])
    · exact Or.inl ⟨above ++ [name], .here keeps, if_pos keeps⟩
    · have isAbove : above <+: above ++ [name] := List.prefix_append above [name]
      rw [if_neg keeps, if_neg (by simp), List.dropLast_concat]
      rcases ih (isOpen.of_prefix isAbove) (isOpen.passes above isAbove (by simp)) with
        ⟨p, nearest, found⟩ | ⟨none, found⟩
      · exact Or.inl ⟨p, nearest.concat keeps, found⟩
      · refine Or.inr ⟨?_, found⟩
        intro p isPrefix
        rcases List.prefix_concat_iff.mp isPrefix with rfl | higher
        · exact keeps
        · exact none p higher

/-! ## From a directory -/

/-- A directory that a search starts from: a path, or the working directory, that leads to a place. -/
structure StartsAt (s : Surroundings) (start : Option Path) (place : Place) : Prop where
  leads : s.tree.place? s.here (start.getD ⟨0, []⟩) = some place
  there : s.tree.isDirectoryAt place

theorem startsAt_iff {start : Option Path} : s.StartsAt start place ↔
    s.tree.place? s.here (start.getD ⟨0, []⟩) = some place ∧ s.tree.isDirectoryAt place :=
  ⟨fun ⟨leads, there⟩ => ⟨leads, there⟩, fun ⟨leads, there⟩ => ⟨leads, there⟩⟩

instance (start : Option Path) : Decidable (s.StartsAt start place) := decidable_of_iff _ startsAt_iff.symm

/-- The search goes up from the place that the start resolves to, whatever slashes it began with. -/
theorem find_eq_nearest {start : Option Path} (unset : s.override? = none) (starts : s.StartsAt start place) :
    s.find start = s.nearest ⟨1, place⟩ := by
  rw [find, unset, (Tree.isOpen_of_place? starts.leads).2]
  rfl

/-- The project found from a directory is the one that the nearest directory keeps. -/
theorem find_eq_some_iff {start : Option Path} (unset : s.override? = none) (starts : s.StartsAt start place) :
    s.find start = some found ↔ ∃ p, s.tree.IsNearest place p ∧
      found = ⟨1, p ++ [projectDirectoryName]⟩ := by
  rw [find_eq_nearest unset starts]
  rcases nearest_spec Nat.one_pos (Tree.isOpen_of_place? starts.leads).1 starts.there with
    ⟨p, nearest, is⟩ | ⟨none, is⟩
  · rw [is]
    constructor
    · intro same
      exact ⟨p, nearest, (Option.some.inj same).symm⟩
    · rintro ⟨other, isNearest, rfl⟩
      rw [nearest.unique isNearest]
  · rw [is]
    constructor
    · intro same
      cases same
    · rintro ⟨p, isNearest, _⟩
      exact absurd isNearest.keeps (none p isNearest.above)

/-- No project is found from a directory when neither it nor one above it keeps any. -/
theorem find_eq_none_iff {start : Option Path} (unset : s.override? = none) (starts : s.StartsAt start place) :
    s.find start = none ↔ ∀ p, p <+: place → ¬ s.tree.KeepsProject p := by
  rw [find_eq_nearest unset starts]
  rcases nearest_spec Nat.one_pos (Tree.isOpen_of_place? starts.leads).1 starts.there with
    ⟨p, nearest, is⟩ | ⟨none, is⟩
  · rw [is]
    constructor
    · intro same
      cases same
    · intro none
      exact absurd nearest.keeps (none p nearest.above)
  · exact ⟨fun _ => none, fun _ => is⟩

/-- A project is found from below it, as far as none stands between. -/
theorem find_below {start : Option Path} {below : Place} (unset : s.override? = none)
    (starts : s.StartsAt start (place ++ below)) (keeps : s.tree.KeepsProject place)
    (noneNearer : ∀ other, other <+: below → other ≠ [] → ¬ s.tree.KeepsProject (place ++ other)) :
    s.find start = some ⟨1, place ++ [projectDirectoryName]⟩ := by
  apply (find_eq_some_iff unset starts).mpr
  exact ⟨place, Tree.isNearest_below keeps noneNearer, rfl⟩

/-! ## Where a new project goes -/

theorem initTarget_none (unset : s.override? = none) :
    s.initTarget none = ⟨1, s.here ++ [projectDirectoryName]⟩ := by
  simp only [initTarget, unset]

end Surroundings

end IssueTracker
