import CoursePlanner.Open.Gating

namespace CoursePlanner.Application

open Std Library Contracts Storage Open

/-- What happens before a pull gets the storage lock: operations of other callers, and
possibly an error of the storage engine or of the lock instead of the operation. -/
structure Interference where
  before : List StorageOperation
  fault : Option StorageError

/-- A staged Catalog that is published with the pull. -/
structure CatalogCandidateContext where
  candidate : CatalogCandidateOpenSnapshot
  emptyDecision : EmptySnapshotDecision

/-- The persistence of one pull. The storage is locked for one call at a time; `others` is
what the next calls will find. -/
structure ShortLockOpenPersistence where
  db : Database
  catalogCandidate : Option CatalogCandidateContext
  openAttemptTarget : Option TermCampusKey
  committedCatalog : Option PublishOutcome
  others : List Interference

namespace ShortLockOpenPersistence

variable {A : Type}

def new (db : Database) (catalogCandidate : Option CatalogCandidateContext)
    (others : List Interference) : ShortLockOpenPersistence :=
  ⟨db,catalogCandidate,none,none,others⟩

section Calls

variable [Sha256]

def reached (persistence : ShortLockOpenPersistence) : Database :=
  match persistence.others with
  | [] => persistence.db
  | turn::_ => run Database.perform persistence.db turn.before

def fault (persistence : ShortLockOpenPersistence) : Option StorageError :=
  persistence.others.head?.bind Interference.fault

def withStorage (persistence : ShortLockOpenPersistence)
    (operation : Database → StorageResult (A × Database)) :
    StorageResult A × ShortLockOpenPersistence :=
  let db := persistence.reached
  let locked := { persistence with db, others := persistence.others.tail }
  match persistence.fault with
  | some error => (.error error,locked)
  | none =>
    match operation db with
    | .ok (answer,after) => (.ok answer,{ locked with db := after })
    | .error error => (.error error,locked)

def reading (read : Database → A) (db : Database) : StorageResult (A × Database) :=
  .ok (read db,db)

/-- A candidate stands for the Catalog that is served. -/
def servingOpenCatalogSnapshot (target : TermCampusKey)
    (persistence : ShortLockOpenPersistence) :
    StorageResult (Option OpenCatalogSnapshot) × ShortLockOpenPersistence :=
  match persistence.catalogCandidate with
  | some context =>
    if context.candidate.catalog.target≠target then
      (.error (.invalidCommand "candidate_catalog.target" "does not match the Open target"),
        persistence)
    else (.ok (some context.candidate.catalog),persistence)
  | none => persistence.withStorage (reading (fun db => db.servingOpenCatalogSnapshot target))

def beginOpenPullAttempt (command : BeginOpenPullAttemptCommand)
    (persistence : ShortLockOpenPersistence) : StorageResult Nat × ShortLockOpenPersistence :=
  match persistence.catalogCandidate with
  | some context => persistence.withStorage (fun db =>
      db.beginCandidateOpenPullAttempt context.candidate command)
  | none =>
    let (result,locked) := persistence.withStorage (fun db => db.beginOpenPullAttempt command)
    (result,{ locked with
      openAttemptTarget := if result.isOk then some command.target else none })

def missingOpenAttemptTarget : StorageError :=
  .invalidCommand "prepared_open_attempt_target" "missing"

/-- The failure that a candidate is finished with if its success could not be committed. -/
def fallbackFailure (command : FinishOpenPullSuccessCommand) : FinishOpenPullFailureCommand :=
  ⟨command.attemptId,command.completedAt,command.http,"COMPLETE_SNAPSHOT_COMMIT_FAILED",none⟩

def finishOpenPullSuccess (command : FinishOpenPullSuccessCommand)
    (persistence : ShortLockOpenPersistence) :
    StorageResult OpenCommitOutcome × ShortLockOpenPersistence :=
  match persistence.catalogCandidate with
  | some context =>
    let result := persistence.withStorage (fun db => do
      let (catalog,outcome,after) ← db.finishCandidateOpenPullSuccess
        context.candidate.observationId context.emptyDecision command
      pure ((catalog,outcome),after))
    match result with
    | (.ok (catalog,outcome),locked) =>
      (.ok outcome,{ locked with openAttemptTarget := none, committedCatalog := catalog })
    | (.error error,locked) =>
      -- The error of the success is returned, whatever becomes of the fallback.
      (.error error,(locked.withStorage (fun db => db.finishCandidateOpenPullFailure
        context.candidate.observationId (fallbackFailure command))).2)
  | none =>
    match persistence.openAttemptTarget with
    | none => (.error missingOpenAttemptTarget,persistence)
    | some _ =>
      match persistence.withStorage (fun db => db.finishOpenPullSuccess command) with
      | (.ok outcome,locked) =>
        (.ok outcome,{ locked with openAttemptTarget := none, committedCatalog := none })
      | (.error error,locked) => (.error error,locked)

def finishOpenPullFailure (command : FinishOpenPullFailureCommand)
    (persistence : ShortLockOpenPersistence) :
    StorageResult OpenCommitOutcome × ShortLockOpenPersistence :=
  match persistence.catalogCandidate with
  | some context => persistence.withStorage (fun db =>
      db.finishCandidateOpenPullFailure context.candidate.observationId command)
  | none =>
    match persistence.openAttemptTarget with
    | none => (.error missingOpenAttemptTarget,persistence)
    | some _ =>
      let (result,locked) := persistence.withStorage (fun db => db.finishOpenPullFailure command)
      (result,{ locked with
        openAttemptTarget := if result.isOk then none else persistence.openAttemptTarget })

instance : OpenPullPersistence ShortLockOpenPersistence where
  servingOpenCatalogSnapshot := servingOpenCatalogSnapshot
  beginOpenPullAttempt := beginOpenPullAttempt
  finishOpenPullSuccess := finishOpenPullSuccess
  finishOpenPullFailure := finishOpenPullFailure
  lkgOpenIndexSet target persistence :=
    persistence.withStorage (reading (fun db => db.servingLkgOpenIndexSet target))
  recentOpenGateAttemptSummaries target limit persistence :=
    persistence.withStorage (reading (fun db => db.recentOpenGateAttemptSummaries target limit))

/-- An operation that other callers perform in between. -/
def Interferes (persistence : ShortLockOpenPersistence) (operation : StorageOperation) : Prop :=
  ∃turn∈persistence.others,operation∈turn.before

/-- Other callers had the storage, and the pull did nothing but read. -/
structure Waited (before after : ShortLockOpenPersistence) : Prop where
  candidate : after.catalogCandidate=before.catalogCandidate
  target : after.openAttemptTarget=before.openAttemptTarget
  others : ∀turn∈after.others,turn∈before.others
  operations : ∃operations,(∀operation∈operations,before.Interferes operation) ∧
    after.db=run Database.perform before.db operations

theorem Waited.refl (persistence : ShortLockOpenPersistence) : Waited persistence persistence :=
  ⟨rfl,rfl,fun _ mem => mem,[],by simp,rfl⟩

theorem Waited.trans {first second third : ShortLockOpenPersistence} (h : Waited first second)
    (g : Waited second third) : Waited first third := by
  obtain ⟨earlier,own,ran⟩ := h.operations
  obtain ⟨later,other,reran⟩ := g.operations
  refine ⟨g.candidate.trans h.candidate,g.target.trans h.target,
    fun turn mem => h.others turn (g.others turn mem),earlier++later,?_,?_⟩
  · intro op mem
    rcases List.mem_append.mp mem with before | after
    · exact own op before
    · obtain ⟨turn,listed,performed⟩ := other op after
      exact ⟨turn,h.others turn listed,performed⟩
  · rw [reran,ran,run_append]

theorem reached_waited (pe : ShortLockOpenPersistence) : Waited pe { pe with
      db := pe.reached, others := pe.others.tail } := by
  refine ⟨rfl,rfl,fun _ => List.mem_of_mem_tail,?_⟩
  unfold reached
  cases turns : pe.others with
  | nil => exact ⟨[],by simp,rfl⟩
  | cons turn rest =>
    refine ⟨turn.before,?_,rfl⟩
    intro op mem
    refine ⟨turn,?_,mem⟩
    rw [turns]
    exact List.mem_cons_self

theorem withStorage_cases {op : Database → StorageResult (A × Database)}
    {pe after : ShortLockOpenPersistence} {result : StorageResult A}
    (h : pe.withStorage op=(result,after)) :
    (∃error,result=.error error ∧ Waited pe after ∧ after.db=pe.reached ∧
      (pe.fault=some error ∨ op pe.reached=.error error)) ∨
    ∃answer db,result=.ok answer ∧ op pe.reached=.ok (answer,db) ∧
      after={ pe with db, others := pe.others.tail } := by
  unfold withStorage at h
  cases faulted : pe.fault with
  | some error =>
    rw [faulted] at h
    cases h
    exact .inl ⟨error,rfl,reached_waited pe,rfl,.inl rfl⟩
  | none =>
    rw [faulted] at h
    cases done : op pe.reached with
    | ok answer =>
      simp only [done] at h
      cases h
      exact .inr ⟨answer.1,answer.2,rfl,rfl,rfl⟩
    | error error =>
      simp only [done] at h
      cases h
      exact .inl ⟨error,rfl,reached_waited pe,rfl,.inr rfl⟩

theorem reading_waited (read : Database → A) (pe : ShortLockOpenPersistence) :
    Waited pe (pe.withStorage (reading read)).2 := by
  rcases withStorage_cases (Prod.mk.eta.symm : pe.withStorage (reading read)=_) with
    ⟨_,-,waited,-⟩ | ⟨answer,db,-,done,after⟩
  · exact waited
  · cases done
    rw [after]
    exact reached_waited pe

theorem servingOpenCatalogSnapshot_waited (target : TermCampusKey) (pe : ShortLockOpenPersistence) :
    Waited pe (servingOpenCatalogSnapshot target pe).2 := by
  unfold servingOpenCatalogSnapshot
  split
  · split <;> exact .refl pe
  · exact reading_waited _ pe

theorem reads_wait : ReadsKeep Waited where
  refl := .refl
  trans := .trans
  snapshot := servingOpenCatalogSnapshot_waited
  lkg _ persistence := reading_waited _ persistence
  summaries _ _ persistence := reading_waited _ persistence

end Calls

end ShortLockOpenPersistence

end CoursePlanner.Application
