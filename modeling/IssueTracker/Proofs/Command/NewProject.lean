import IssueTracker.Proofs.Command.Reached
import IssueTracker.Proofs.Location

/-!
# Finding a new project

A command line that makes a project leaves its directory in the tree: what is put after it was made stands in
it (`Run.init_keeps`).  So the search finds that directory from the working directory, and from below it as
far as no nearer directory keeps a project (`Surroundings.find_below`).
-/

namespace IssueTracker

/-- A session in which a project has its directory, for the working directory and the override of another
    session. -/
structure Session.Keeps (s : Session) (root : Path) (s' : Session) : Prop where
  here : s'.workspace.here = s.workspace.here
  override : s'.workspace.override = s.workspace.override
  there : s'.workspace.tree.isDirectoryAt (root.resolve s.workspace.here).names

namespace Run
variable {α : Type} {s s' : Session} {root : Path}

/-- Failures are among the endings with another exit code than 0. -/
theorem allowsFailure_notSuccess (w : Workspace) : AllowsFailure 1 w fun e _ => e ≠ .exit 0 := by
  rintro _ _ isFailure _ rfl
  cases isFailure

/-- A directory stays where an entry is put in it. -/
theorem keeps_put {name : String} {entry : Entry} (noBack : name ≠ "..") (keeps : s.Keeps root s') :
    (put (root.child name) entry).Meets s' (fun _ => s.Keeps root) (fun e _ => e ≠ .exit 0) := by
  refine .of_ok put_run ⟨keeps.here, keeps.override, ?_⟩
  apply Tree.isDirectoryAt_write _ keeps.there
  rw [keeps.here, Path.resolve_child noBack]
  intro same
  have longer := congrArg List.length same
  simp at longer

theorem keeps_putSettings {written : Written} (keeps : s.Keeps root s') :
    (putSettings (ProjectPaths.ofRoot root).settings written).Meets s' (fun _ => s.Keeps root)
      (fun e _ => e ≠ .exit 0) :=
  .bind ((keeps_put (by decide) keeps).mono (fun _ _ kept => .of_ok rfl kept) fun _ _ => id)

theorem keeps_print (markup : String) (keeps : s.Keeps root s') :
    (print markup).Meets s' (fun _ => s.Keeps root) (fun e _ => e ≠ .exit 0) := by
  apply print_meets (allowsFailure_notSuccess _)
  intro text
  exact ⟨keeps.here, keeps.override, keeps.there⟩

/-- The directory in which a project was made stays. -/
theorem init_keeps (asked : Option Path) (name : String) :
    (init asked name).Meets s (fun _ => s.Keeps (s.workspace.initTarget asked)) (fun e _ => e ≠ .exit 0) := by
  refine .bind (.of_ok workspace_run ?_)
  generalize s.workspace.initTarget asked = root
  have goesOn : (modify fun s' => { s' with workspace.tree := (s.workspace.tree.makeDirectory s.workspace.here root).2 } :
      Run Unit).Meets s (fun _ s' =>
        (s.workspace.tree.makeDirectory s.workspace.here root).1 = .ok () → s.Keeps root s')
        (fun e _ => e ≠ .exit 0) := by
    refine .of_ok rfl fun isMade => ⟨rfl, rfl, ?_⟩
    obtain ⟨place, leads, there⟩ := Tree.isDirectory_iff.mp (Tree.isDirectory_makeDirectory (Prod.ext isMade rfl))
    rw [← (Tree.isOpen_of_place? leads).2]
    exact there
  refine .bind (goesOn.mono ?_ fun _ _ => id)
  intro _ made keeps
  refine .bind (unreported_meets (allowsFailure_notSuccess _) fun _ isMade => ?_)
  refine .bind (.of_ok database_eq (.bind (unreported_meets (allowsFailure_notSuccess _) fun db _ => ?_)))
  refine .bind ((keeps_put (by decide) (keeps isMade)).mono ?_ fun _ _ => id)
  intro _ filled kept
  refine .bind (.of_ok entryAt?_run ?_)
  split
  · refine .bind ((keeps_putSettings kept).mono ?_ fun _ _ => id)
    intro _ _ keptAll
    exact .bind (unreported_meets (allowsFailure_notSuccess _) fun _ _ => keeps_print _ keptAll)
  · exact keeps_print _ kept

/-- A command line that makes a project where none is asked for leaves its directory in the tree. -/
theorem commandLine_keeps [Json.Nesting] {arguments : List String} {line : CommandLine} {name : String}
    (reads : CommandLine.read arguments = .ok line) (makes : Command.read line.name line.arguments = .ok (.init name)) :
    (commandLine arguments).Meets s (fun _ => s.Keeps (s.workspace.initTarget line.directory))
      (fun e _ => e ≠ .exit 0) := by
  apply commandLine_meets reads makes (allowsFailure_notSuccess _)
  exact init_keeps line.directory name

end Run

/-- The project of a new one that is not asked for elsewhere is kept in the working directory. -/
theorem Session.Keeps.keepsProject {s s' : Session} (keeps : s.Keeps (s.workspace.initTarget none) s')
    (unset : s.workspace.override? = none) (noBack : ".." ∉ s.workspace.here) :
    s'.workspace.tree.KeepsProject s.workspace.here := by
  have target : ((s.workspace.initTarget none).resolve s.workspace.here).names =
      s.workspace.here ++ [projectDirectoryName] := by
    rw [Surroundings.initTarget_none unset, Path.resolve_place]
    simpa using ⟨noBack, by decide⟩
  rw [Tree.KeepsProject, ← target]
  exact keeps.there

/-! ## The project that is found -/

/-- The search finds the nearest project: in the directory where it starts, with `..` resolved, or above it,
    and none where no directory up to the root keeps one.  A plain file is no project.  A project that a
    command line makes in the working directory is found from there and from all below it that have no nearer
    one, as just the path that it was made at. -/
theorem nearest_project [Json.Nesting] :
    (∀ (s : Surroundings) (start : Option Path) (place : Place), s.override? = none → s.StartsAt start place →
      place = ((start.getD ⟨0, []⟩).resolve s.here).names ∧
      (∀ found, s.find start = some found ↔ ∃ p, s.tree.IsNearest place p ∧
        found = ⟨1, p ++ [projectDirectoryName]⟩) ∧
      (s.find start = none ↔ ∀ p, p <+: place → ¬ s.tree.KeepsProject p)) ∧
    ∀ (w : Workspace) (input : List Char) (arguments : List String) (line : CommandLine) (name : String),
      CommandLine.read arguments = .ok line → line.directory = none →
      Command.read line.name line.arguments = .ok (.init name) → w.override? = none →
      (w.run input arguments).1 = .exit 0 →
      let after := (w.run input arguments).2.workspace
      ∀ (start : Option Path) (below : Place), after.StartsAt start (w.here ++ below) →
        (∀ other, other <+: below → other ≠ [] → ¬ after.tree.KeepsProject (w.here ++ other)) →
        after.find start = some (w.initTarget none) := by
  constructor
  · intro s start place unset starts
    refine ⟨(Tree.isOpen_of_place? starts.leads).2, ?_, Surroundings.find_eq_none_iff unset starts⟩
    intro found
    exact Surroundings.find_eq_some_iff unset starts
  · intro w input arguments line name reads noDirectory makes unset succeeds after start below starts noneNearer
    have keeps : Session.Keeps { workspace := w, input } (w.initTarget none) (w.run input arguments).2 := by
      have meets := Run.commandLine_keeps (s := { workspace := w, input }) reads makes
      rw [noDirectory] at meets
      rcases meets.outcome with ⟨_, keeps⟩ | fails
      · exact keeps
      · exact absurd succeeds fails
    have stillUnset : after.override? = none := by
      rw [← unset, Surroundings.override?, Surroundings.override?, keeps.override]
    have noBack : ".." ∉ w.here := fun member =>
      (Tree.isOpen_of_place? starts.leads).1.noBack (List.mem_append_left _ member)
    rw [Surroundings.initTarget_none unset]
    exact Surroundings.find_below stillUnset starts (keeps.keepsProject unset noBack) noneNearer

/-- Directories with a project at the top of them and a plain file of that name further down. -/
private def nestedDirectories : Workspace where
  tree := ⟨[(["p"], .directory), (["p", ".issuemap"], .directory), (["p", "c"], .directory),
    (["p", "c", "d"], .directory), (["p", "c", "d", ".issuemap"], .file []), (["p", "c", "d", "e"], .directory)]⟩
  here := ["p", "c"]
  clock := .earliest
  user := ""

/-- The project at the top is found, but not from above it, until a nearer one is made. -/
theorem nearest_project_nested :
    nestedDirectories.find (some ⟨0, ["d", "..", "d", "e"]⟩) = some ⟨1, ["p", ".issuemap"]⟩ ∧
    nestedDirectories.find (some ⟨1, []⟩) = none ∧
    (nestedDirectories.run [] ["init"]).1 = .exit 0 ∧
    (nestedDirectories.run [] ["init"]).2.workspace.find (some ⟨2, ["p", "c", "d", "e"]⟩) =
      some ⟨1, ["p", "c", ".issuemap"]⟩ := by
  have unset : nestedDirectories.override? = none := rfl
  have reads : CommandLine.read ["init"] = .ok { name := "init", arguments := [] } := rfl
  have makes : Command.read "init" [] = .ok (.init "") := by decide
  have succeeds : (nestedDirectories.run [] ["init"]).1 = .exit 0 := by decide +kernel
  obtain ⟨_, below, _⟩ := nearest_project.1 nestedDirectories.toSurroundings (some ⟨0, ["d", "..", "d", "e"]⟩)
    ["p", "c", "d", "e"] unset (by decide +kernel)
  obtain ⟨_, _, above⟩ := nearest_project.1 nestedDirectories.toSurroundings (some ⟨1, []⟩) [] unset
    (by decide +kernel)
  refine ⟨?_, ?_, succeeds, ?_⟩
  · exact (below _).mpr ⟨["p"], by decide +kernel, rfl⟩
  · apply above.mpr
    intro p isPrefix
    rw [List.prefix_nil.mp isPrefix]
    decide +kernel
  · have none : ∀ other ∈ ["d", "e"].inits, other ≠ [] →
        ¬ (nestedDirectories.run [] ["init"]).2.workspace.tree.KeepsProject (["p", "c"] ++ other) := by
      decide +kernel
    refine nearest_project.2 nestedDirectories [] ["init"] _ "" reads rfl makes unset succeeds
      (some ⟨2, ["p", "c", "d", "e"]⟩) ["d", "e"] (by decide +kernel) ?_
    intro other isPrefix
    exact none other ((List.mem_inits other _).mpr isPrefix)

end IssueTracker
