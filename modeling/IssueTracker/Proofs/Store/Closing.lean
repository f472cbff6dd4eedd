import IssueTracker.Proofs.Store.History

/-!
# When an issue was closed

The time of closing of an issue is decided by the changes of its status (`History.statusChanges`): it
is that of the most recent change that ended the work while it was going on, as long as no later
change takes the work up again (`History.run_closedAt`).
-/

namespace IssueTracker

/-- A change of the status of an issue. -/
structure StatusChange where
  status : String
  clock : Moment
deriving DecidableEq

namespace StatusChange

/-- The change is to a status that ends the work. -/
def closes (c : StatusChange) : Bool := isClosing c.status

/-- The work has ended after these changes; it goes on when an issue is created. -/
def EndsClosed (changes : List StatusChange) : Prop := ∃ last, changes.getLast? = some last ∧ last.closes

/-- A change that follows these and ends work that was going on. -/
def Ends (earlier : List StatusChange) (c : StatusChange) : Prop := c.closes ∧ ¬ EndsClosed earlier

/-- The most recent of the changes that ended work that was going on. -/
def IsLatestEnd (changes : List StatusChange) (c : StatusChange) : Prop :=
  ∃ earlier later, changes = earlier ++ c :: later ∧ Ends earlier c ∧
    ∀ between d rest, later = between ++ d :: rest → ¬ Ends (earlier ++ c :: between) d

/-- What a move to a status, if there is one, makes of a time of closing. -/
def stamp {α : Type} (now : α) (closed : Option α) : Option String → Option α
  | none => closed
  | some status => if isClosing status then some (closed.getD now) else none

/-- The time of closing after these changes. -/
def closing (changes : List StatusChange) : Option Moment :=
  changes.foldl (fun closed c => stamp c.clock closed (some c.status)) none

theorem closing_concat (changes : List StatusChange) (c : StatusChange) :
    closing (changes ++ [c]) = stamp c.clock (closing changes) (some c.status) := by
  simp [closing]

theorem map_stamp {α β : Type} (f : α → β) (now : α) (closed : Option α) (target : Option String) :
    (stamp now closed target).map f = stamp (f now) (closed.map f) target := by
  cases target with
  | none => rfl
  | some status =>
    rw [stamp, stamp]
    by_cases closes : isClosing status = true
    · cases closed <;> simp [closes]
    · simp [closes]

theorem endsClosed_concat (changes : List StatusChange) (c : StatusChange) :
    EndsClosed (changes ++ [c]) ↔ c.closes := by
  simp [EndsClosed]

/-- There is a time of closing when the work has ended. -/
theorem isSome_closing (changes : List StatusChange) :
    (closing changes).isSome ↔ EndsClosed changes := by
  induction changes using List.reverseRecOn with
  | nil => simp [closing, EndsClosed]
  | append_singleton changes last _ =>
    rw [closing_concat, endsClosed_concat, closes, stamp]
    split
    · simp [*]
    · simp [*]

/-- A change that ends work that was going on is the most recent one. -/
theorem isLatestEnd_of_ends {changes : List StatusChange} {c : StatusChange}
    (ends : Ends changes c) : IsLatestEnd (changes ++ [c]) c := by
  refine ⟨changes, [], rfl, ends, ?_⟩
  intro between d rest absurd
  simp at absurd

/-- A change after the work has ended leaves the most recent end as it is. -/
theorem IsLatestEnd.concat {changes : List StatusChange} {c d : StatusChange}
    (latest : IsLatestEnd changes c) (ended : EndsClosed changes) :
    IsLatestEnd (changes ++ [d]) c := by
  obtain ⟨earlier, later, rfl, ends, none⟩ := latest
  refine ⟨earlier, later ++ [d], by simp, ends, ?_⟩
  intro between e rest split
  rcases List.eq_nil_or_concat rest with rfl | ⟨rest, last, rfl⟩
  · obtain ⟨rfl, _⟩ := List.append_inj' split rfl
    exact fun again => again.2 ended
  · rw [List.concat_eq_append, ← List.cons_append, ← List.append_assoc] at split
    obtain ⟨rfl, _⟩ := List.append_inj' split rfl
    exact none between e rest rfl

/-- The time of closing is the clock of the most recent change that ended work that was going on. -/
theorem exists_isLatestEnd {changes : List StatusChange} {t : Moment}
    (closed : closing changes = some t) : ∃ c, IsLatestEnd changes c ∧ c.clock = t := by
  induction changes using List.reverseRecOn with
  | nil => cases closed
  | append_singleton changes last ih =>
    have ended : EndsClosed (changes ++ [last]) := (isSome_closing _).mp (by simp [closed])
    have ends : isClosing last.status := (endsClosed_concat changes last).mp ended
    rw [closing_concat, stamp, if_pos ends] at closed
    -- Either the work had ended, and the last change kept the time, or it ends with the last change.
    by_cases before : EndsClosed changes
    · obtain ⟨t', isClosed⟩ := Option.isSome_iff_exists.mp ((isSome_closing changes).mpr before)
      rw [isClosed] at closed
      obtain ⟨c, latest, same⟩ := ih (isClosed.trans closed)
      exact ⟨c, latest.concat before, same⟩
    · have absent : closing changes = none := by
        rw [← isSome_closing] at before
        simpa using before
      rw [absent] at closed
      exact ⟨last, isLatestEnd_of_ends ⟨ends, before⟩, Option.some.inj closed⟩

end StatusChange

/-! ## What one operation makes of a record -/

/-- The issue whose status an operation changes and the status that is asked for, if it does. -/
def Operation.move? : Operation → Option (Int × Option String)
  | setStatus id status => some (id, status)
  | close id => some (id, some "closed")
  | reopen id => some (id, some "open")
  | create _ | update _ _ | delete _ => none

/-- The status to which an operation moves the issue with an id, if it does. -/
def Operation.target? (operation : Operation) (id : Int) : Option String :=
  operation.move?.bind fun (id', status) =>
    if id' = id then some (Text.lower (Text.strip (status.getD ""))) else none

/-- What becomes of a record while an operation moves it to a status, or leaves its status alone. -/
structure Record.Moves (now : Moment) (target : Option String) (r r' : Record) : Prop where
  id : r'.id = r.id
  createdAt : r'.createdAt = r.createdAt
  updatedAt : r'.updatedAt = r.updatedAt ∨ r'.updatedAt = now.isoSeconds
  status : r'.status = target.getD r.status
  closedAt : r'.closedAt = StatusChange.stamp now.isoSeconds r.closedAt target

theorem Record.Moves.refl (now : Moment) (r : Record) : r.Moves now none r :=
  ⟨rfl, rfl, Or.inl rfl, rfl, rfl⟩

/-- The times of a record that moves: its time of closing is stamped. -/
theorem Record.Moves.times {now : Moment} {target : Option String} {r r' : Record}
    (moves : r.Moves now target r') (naive : now.isNaive) {created updated : Moment}
    {closed : Option Moment} (times : r.Times created updated closed) :
    ∃ updated', r'.Times created updated' (StatusChange.stamp now closed target) := by
  obtain ⟨updated', updatedAt, updatedNaive⟩ :
      ∃ updated' : Moment, r'.updatedAt = updated'.isoSeconds ∧ updated'.isNaive := by
    rcases moves.updatedAt with kept | stamped
    · exact ⟨updated, kept.trans times.updatedAt, times.updatedNaive⟩
    · exact ⟨now, stamped, naive⟩
  have closedAt : r'.closedAt = (StatusChange.stamp now closed target).map Moment.isoSeconds := by
    rw [moves.closedAt, times.closedAt, StatusChange.map_stamp]
  refine ⟨updated', times.amend moves.createdAt updatedAt updatedNaive closedAt ?_ ?_⟩
  · rw [moves.status]
    cases target with
    | none => exact times.isClosed
    | some word =>
      rw [StatusChange.stamp]
      by_cases closes : isClosing word = true
      · simp [closes]
      · simp [closes]
  · have closedNaive := times.closedNaive
    cases target with
    | none => exact closedNaive
    | some word =>
      rw [StatusChange.stamp]
      by_cases closes : isClosing word = true
      · cases closed with
        | none => simpa [closes] using naive
        | some before => simpa [closes] using closedNaive
      · simp [closes]

namespace Operation
variable {s s' : Store} {now : Moment} {created : Option Int}

theorem perform_move {operation : Operation} {id : Int} {status : Option String} {db : Database}
    (moves : operation.move? = some (id, status)) :
    operation.perform now db = (db.setStatus id status now).map fun db => (none, db) := by
  cases operation with
  | setStatus | close | reopen =>
    cases moves
    rfl
  | create | update | delete => cases moves

/-- A change of status finds the record with the id, and the records that it leaves were there
    before, that one moved. -/
private theorem setStatus_origin {id : Int} {status : Option String} {db : Database}
    (distinct : (s.records.map (·.id)).Nodup)
    (run : (Database.ready s).setStatus id status now = .ok db) :
    (∃ r ∈ s.records, r.id = id) ∧ ∃ s', db = .ready s' ∧ ∀ r' ∈ s'.records, ∃ r ∈ s.records, r.Moves now
      (if id = r.id then some (Text.lower (Text.strip (status.getD ""))) else none) r' := by
  obtain ⟨found, word, isFound, checks, rfl⟩ := Database.setStatus_records run
  obtain ⟨is, _⟩ := Vocabulary.check_eq_ok.mp checks
  refine ⟨⟨found, (Store.record?_eq_some distinct).mp isFound⟩, _, rfl, ?_⟩
  intro r' member
  obtain ⟨r, old, rfl⟩ := List.mem_map.mp member
  refine ⟨r, old, ?_⟩
  by_cases there : r.id = id
  · have same : s.record? id = some r := (Store.record?_eq_some distinct).mpr ⟨old, there⟩
    cases isFound.symm.trans same
    rw [if_pos there, if_pos there.symm, is]
    exact ⟨rfl, rfl, Or.inr rfl, rfl, rfl⟩
  · rw [if_neg there, if_neg (Ne.symm there)]
    exact .refl now r

/-- A record after a successful operation was there before, and was moved as the operation says, or
    is the one that was created. -/
theorem perform_origin {operation : Operation} (sound : s.IsSound)
    (performs : operation.perform now (.ready s) = .ok (created, .ready s')) {r' : Record}
    (member : r' ∈ s'.records) :
    (∃ r ∈ s.records, r.Moves now (operation.target? r.id) r') ∨
      r'.IsFresh now ∧ r'.id = s.lastRecord + 1 ∧ operation.target? r'.id = none := by
  cases moves : operation.move? with
  | some move =>
    obtain ⟨id, status⟩ := move
    rw [perform_move moves] at performs
    obtain ⟨_, run, same⟩ := map_eq_ok.mp performs
    cases same
    obtain ⟨_, _, same, origin⟩ := setStatus_origin sound.distinct run
    cases same
    simp only [target?, moves, Option.bind_some]
    exact Or.inl (origin r' member)
  | none =>
    simp only [target?, moves, Option.bind_none]
    cases operation with
    | create new =>
      obtain ⟨⟨id, _⟩, run, same⟩ := map_eq_ok.mp performs
      cases same
      obtain ⟨_, same, evolves⟩ := Database.create_evolves run
      cases same
      cases evolves with
      | @created _ r fresh id records _ _ =>
        rw [records, List.mem_append, List.mem_singleton] at member
        rcases member with old | rfl
        · exact Or.inl ⟨r', old, .refl now r'⟩
        · exact Or.inr ⟨fresh, id, trivial⟩
    | update id changes =>
      obtain ⟨_, run, same⟩ := map_eq_ok.mp performs
      cases same
      obtain ⟨_, assignments, same, _, records, _⟩ := Database.update_records run
      cases same
      rw [records] at member
      obtain ⟨r, old, rfl⟩ := List.mem_map.mp member
      refine Or.inl ⟨r, old, ?_⟩
      by_cases there : r.id = id
      · obtain ⟨id, status, created, closed⟩ := r.assign_frame assignments
        rw [if_pos there]
        exact ⟨id, created, Or.inr rfl, status, closed⟩
      · rw [if_neg there]
        exact .refl now r
    | delete id =>
      obtain ⟨_, run, same⟩ := map_eq_ok.mp performs
      cases same
      cases Database.delete_records run
      exact Or.inl ⟨r', (List.mem_filter.mp member).1, .refl now r'⟩
    | setStatus | close | reopen => cases moves

/-- A successful operation moves only issues that are there. -/
theorem exists_of_target? {operation : Operation} (sound : s.IsSound)
    (performs : operation.perform now (.ready s) = .ok (created, .ready s')) {id : Int}
    {status : String} (moves : operation.target? id = some status) : ∃ r ∈ s.records, r.id = id := by
  obtain ⟨⟨id', asked⟩, isMove, same⟩ := Option.bind_eq_some_iff.mp moves
  obtain ⟨rfl, _⟩ := Option.ite_none_right_eq_some.mp same
  rw [perform_move isMove] at performs
  obtain ⟨_, run, _⟩ := map_eq_ok.mp performs
  exact (setStatus_origin sound.distinct run).1

end Operation

/-! ## Histories -/

namespace History

/-- The status to which a step moves the issue with an id, if it does. -/
def moved? (h : History) (id : Int) (s : Step) : Option String :=
  match s.operation.perform s.clock h.database with
  | .ok _ => s.operation.target? id
  | .error _ => none

/-- The change that a step makes of the status of the issue with an id, if it does. -/
def change? (h : History) (id : Int) (s : Step) : Option StatusChange :=
  (h.moved? id s).map fun status => ⟨status, s.clock⟩

/-- The changes that steps make of the status of the issue with an id, first to last. -/
def statusChangesFrom (h : History) (id : Int) : List Step → List StatusChange
  | [] => []
  | s :: steps => (h.change? id s).toList ++ (h.step s).statusChangesFrom id steps

/-- The changes of the status of the issue with an id in a run. -/
def statusChanges (id : Int) (steps : List Step) : List StatusChange :=
  statusChangesFrom {} id steps

theorem statusChanges_concat (id : Int) (steps : List Step) (s : Step) :
    statusChanges id (steps ++ [s]) = statusChanges id steps ++ ((run steps).change? id s).toList := by
  have from_concat (h : History) : h.statusChangesFrom id (steps ++ [s]) =
      h.statusChangesFrom id steps ++ ((steps.foldl step h).change? id s).toList := by
    induction steps generalizing h with
    | nil => simp [statusChangesFrom]
    | cons first later ih =>
      rw [List.cons_append, statusChangesFrom, ih, statusChangesFrom, List.append_assoc]
      rfl
  exact from_concat {}

/-- A step stamps the time of closing as its change of the status says. -/
theorem closing_statusChanges_concat (id : Int) (steps : List Step) (s : Step) :
    StatusChange.closing (statusChanges id (steps ++ [s])) = StatusChange.stamp s.clock
      (StatusChange.closing (statusChanges id steps)) ((run steps).moved? id s) := by
  rw [statusChanges_concat, change?]
  cases (run steps).moved? id s with
  | none => simp [StatusChange.stamp]
  | some status => exact StatusChange.closing_concat _ _

/-- The times of closing are those that the changes of status stamp, and no status of an issue was
    changed before it was created. -/
def Stamps (steps : List Step) (s : Store) (_ : List Int) : Prop :=
  (∀ r ∈ s.records, ∃ created updated,
    r.Times created updated (StatusChange.closing (statusChanges r.id steps))) ∧
  ∀ id : Int, s.lastRecord < id → statusChanges id steps = []

theorem Stamps.fail {steps : List Step} {s : Store} {created : List Int} {step : Step}
    {failure : StoreError} (isReady : (run steps).database = .ready s)
    (stamps : Stamps steps s created)
    (fails : step.operation.perform step.clock (.ready s) = .error failure) :
    Stamps (steps ++ [step]) s created := by
  have same (id : Int) : statusChanges id (steps ++ [step]) = statusChanges id steps := by
    simp [statusChanges_concat, change?, moved?, isReady, fails]
  simp only [Stamps, same]
  exact stamps

theorem Stamps.perform {steps : List Step} {s s' : Store} {created : List Int} {step : Step}
    {handed : Option Int} (isReady : (run steps).database = .ready s)
    (stamps : Stamps steps s created) (sound : s.IsSound)
    (performs : step.operation.perform step.clock (.ready s) = .ok (handed, .ready s')) :
    Stamps (steps ++ [step]) s' (created ++ handed.toList) := by
  obtain ⟨times, unborn⟩ := stamps
  have target (id : Int) : (run steps).moved? id step = step.operation.target? id := by
    rw [moved?, isReady, performs]
  have grows : s.lastRecord ≤ s'.lastRecord := by
    obtain ⟨_, same, evolves⟩ := Operation.perform_evolves sound performs
    cases same
    exact evolves.lastRecord_le
  refine ⟨fun r' member => ?_, fun id later => ?_⟩
  · rw [closing_statusChanges_concat, target]
    rcases Operation.perform_origin sound performs member with ⟨r, old, moves⟩ | ⟨fresh, isNext, stays⟩
    · obtain ⟨created, updated, before⟩ := times r old
      obtain ⟨updated', after⟩ := moves.times step.naive before
      rw [moves.id]
      exact ⟨created, updated', after⟩
    · -- Its id was beyond the last one given, so no status was changed under it before.
      rw [unborn r'.id (by omega), stays]
      exact ⟨step.clock, step.clock, fresh.times step.naive⟩
  · rw [statusChanges_concat, unborn id (by omega), change?, target]
    cases moves : step.operation.target? id with
    | none => rfl
    | some status =>
      obtain ⟨r, old, rfl⟩ := Operation.exists_of_target? sound performs moves
      have bound := sound.bound r old
      omega

/-- Every issue that is read after a run has the time of closing that the changes of its status
    stamp. -/
theorem run_closing (steps : List Step) :
    ∃ issues, (run steps).database.list none = .ok issues ∧ ∀ i ∈ issues, ∃ id, i.id = some id ∧
      i.closedAt = (StatusChange.closing (statusChanges id steps)).map Moment.wholeSecond := by
  obtain ⟨s, isReady, _, times, _⟩ := run_steps (motive := Stamps) ⟨by simp, fun _ _ => rfl⟩
    (fun _ _ _ _ _ _ isReady stamps sound performs => stamps.perform isReady sound performs)
    (fun _ _ _ _ _ isReady stamps fails => stamps.fail isReady fails) steps
  have each : ∀ r ∈ s.records, ∃ i, s.issueOf r = .ok i ∧ ∃ id, i.id = some id ∧
      i.closedAt = (StatusChange.closing (statusChanges id steps)).map Moment.wholeSecond := by
    intro r member
    obtain ⟨created, updated, reads⟩ := times r member
    exact ⟨_, reads.issueOf s, r.id, rfl, rfl⟩
  obtain ⟨issues, list, related⟩ := Database.list_related each
  refine ⟨issues, isReady ▸ list, fun i member => ?_⟩
  obtain ⟨_, _, holds⟩ := exists_of_mem_right related member
  exact holds

/-- Every issue that is read after a run has no time of closing unless the last change of its status
    ended the work, and then has the clock of the most recent change that ended work that was going
    on.  One more step leaves the time as it is unless it changes the status of this issue. -/
theorem run_closedAt (steps : List Step) :
    ∃ issues, (run steps).database.list none = .ok issues ∧ ∀ i ∈ issues, ∃ id, i.id = some id ∧
      (¬ StatusChange.EndsClosed (statusChanges id steps) → i.closedAt = none) ∧
      (StatusChange.EndsClosed (statusChanges id steps) →
        ∃ c, StatusChange.IsLatestEnd (statusChanges id steps) c ∧
          i.closedAt = some c.clock.wholeSecond) ∧
      ∀ s issues', (run (steps ++ [s])).database.list none = .ok issues' →
        ∀ i' ∈ issues', i'.id = some id → i'.closedAt =
          StatusChange.stamp s.clock.wholeSecond i.closedAt ((run steps).moved? id s) := by
  obtain ⟨issues, read, closed⟩ := run_closing steps
  refine ⟨issues, read, fun i member => ?_⟩
  obtain ⟨id, isId, closedAt⟩ := closed i member
  refine ⟨id, isId, fun goesOn => ?_, fun ended => ?_, ?_⟩
  · rw [← StatusChange.isSome_closing] at goesOn
    rw [closedAt, Option.not_isSome_iff_eq_none.mp goesOn]
    rfl
  · obtain ⟨t, stamped⟩ :=
      Option.isSome_iff_exists.mp ((StatusChange.isSome_closing _).mpr ended)
    obtain ⟨c, latest, rfl⟩ := StatusChange.exists_isLatestEnd stamped
    exact ⟨c, latest, by rw [closedAt, stamped, Option.map_some]⟩
  · intro s issues' readAfter i' memberAfter same
    obtain ⟨_, readAfter', closedAfter⟩ := run_closing (steps ++ [s])
    cases readAfter'.symm.trans readAfter
    obtain ⟨id', isId', closedAt'⟩ := closedAfter i' memberAfter
    cases isId'.symm.trans same
    rw [closedAt', closing_statusChanges_concat, StatusChange.map_stamp, closedAt]

/-- An issue that is taken up again and closed has a new time of closing, which closing it once more
    does not change. -/
example (noon : Moment) (isNoon : noon = { Moment.earliest with time := ⟨12, 0, 0, 0, by decide⟩ }) :
    ((run [
      ⟨.create { title := some "Crash" }, .earliest, rfl⟩, ⟨.close 1, .earliest, rfl⟩,
      ⟨.reopen 1, .earliest, rfl⟩, ⟨.setStatus 1 (some " Done "), noon, by rw [isNoon]; rfl⟩,
      ⟨.close 1, .earliest, rfl⟩]).database.list none).toOption.map (·.map (·.closedAt)) =
      some [some noon] := by
  subst isNoon
  decide +kernel

end History

end IssueTracker
