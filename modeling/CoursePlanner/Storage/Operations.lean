import CoursePlanner.Library.Transition
import CoursePlanner.Storage.Evolution

namespace CoursePlanner.Storage

open Std Library Contracts
open Open (Sha256)

variable [Sha256]

inductive StorageOperation where
  | stage (observationId : TraceId) (staged : StagedCatalog)
  | discard (observationId : TraceId)
  | publish (observationId : TraceId) (emptyDecision : EmptySnapshotDecision)
  | select (selector : ExtTreeSet TermCampusKey)
  | beginPull (command : BeginOpenPullAttemptCommand)
  | beginCandidatePull (candidate : CatalogCandidateOpenSnapshot)
      (command : BeginOpenPullAttemptCommand)
  | finishSuccess (command : FinishOpenPullSuccessCommand)
  | finishCandidateSuccess (observationId : TraceId) (emptyDecision : EmptySnapshotDecision)
      (command : FinishOpenPullSuccessCommand)
  | finishFailure (command : FinishOpenPullFailureCommand)
  | finishCandidateFailure (observationId : TraceId) (command : FinishOpenPullFailureCommand)
  | prune (target : TermCampusKey) (retainRecent : Nat)
  | restart (now : Timestamp)

namespace Database

/-- An error rolls its transaction back. -/
def commit {A : Type} (db : Database) (result : StorageResult A) (after : A → Database) :
    StorageResult Unit × Database :=
  match result with
  | .ok answer => (.ok (),after answer)
  | .error error => (.error error,db)

def perform (db : Database) : StorageOperation → StorageResult Unit × Database
  | .stage observationId staged => db.commit (db.stageCatalogRefresh observationId staged) id
  | .discard observationId => (.ok (),db.discardStaged observationId)
  | .publish observationId emptyDecision =>
    let (answer,after) := db.publishStagedRefresh observationId emptyDecision
    (answer.map (fun _ => ()),after)
  | .select selector => (.ok (),db.selectTargets selector)
  | .beginPull command => db.commit (db.beginOpenPullAttempt command) Prod.snd
  | .beginCandidatePull candidate command =>
    db.commit (db.beginCandidateOpenPullAttempt candidate command) Prod.snd
  | .finishSuccess command => db.commit (db.finishOpenPullSuccess command) Prod.snd
  | .finishCandidateSuccess observationId emptyDecision command =>
    db.commit (db.finishCandidateOpenPullSuccess observationId emptyDecision command)
      (fun (_,_,after) => after)
  | .finishFailure command => db.commit (db.finishOpenPullFailure command) Prod.snd
  | .finishCandidateFailure observationId command =>
    db.commit (db.finishCandidateOpenPullFailure observationId command) Prod.snd
  | .prune target retainRecent => db.commit (db.pruneOpenDiagnostics target retainRecent) id
  | .restart now => db.commit (db.recoverInterrupted now) id

theorem commit_evolves {pol : WritePolicy} {sc : StorageScope} {db : Database} {A : Type}
    {res : StorageResult A} {after : A → Database}
    (h : ∀answer,res=.ok answer → db.Evolves pol sc (after answer)) :
    db.Evolves pol sc (db.commit res after).2 := by
  cases res with
  | error error => exact .refl pol sc db
  | ok answer => exact h answer rfl

end Database

/-- The operation keeps to a policy and a scope in this state. -/
def StorageOperation.Allowed (policy : WritePolicy) (scope : StorageScope) (db : Database) :
    StorageOperation → Prop
  | .stage _ _ | .select _ => True
  | .prune target retainRecent => (scope.target target).retains ≤ retainRecent
  | .discard observationId | .publish observationId _ => scope.consumes observationId
  | .beginPull command | .beginCandidatePull _ command =>
    (scope.target command.target).begins command.attemptId ∧
      policy.interval command.effectiveIntervalSeconds
  | .finishSuccess command =>
    (∀outcome after,db.finishOpenPullSuccess command=.ok (outcome,after) →
      db.MayFinish scope command.attemptId (outcome.classification.isSuccess=true)) ∧
    Database.Reports policy command.http.httpStatus
  | .finishCandidateSuccess observationId emptyDecision command =>
    scope.consumes observationId ∧
    (∀catalog outcome after,db.finishCandidateOpenPullSuccess observationId emptyDecision
        command=.ok (catalog,outcome,after) →
      db.MayFinish scope command.attemptId (outcome.classification.isSuccess=true)) ∧
    Database.Reports policy command.http.httpStatus
  | .finishFailure command => db.MayFinish scope command.attemptId False ∧
    policy.failure command.errorCode command.http.httpStatus
  | .finishCandidateFailure observationId command => scope.consumes observationId ∧
    db.MayFinish scope command.attemptId False ∧
      policy.failure command.errorCode command.http.httpStatus
  | .restart _ => (∀id,scope.consumes id) ∧ (∀target id,(scope.target target).settles id) ∧
    policy.failure "PROCESS_RESTARTED" none

variable {pol : WritePolicy}

theorem Database.perform_evolves {sc : StorageScope} {db : Database}
    {op : StorageOperation} (allowed : op.Allowed pol sc db)
    (consistent : ∀t,(db.tables t).Consistent pol) :
    db.Evolves pol sc (db.perform op).2 := by
  cases op with
  | stage => exact commit_evolves (fun _ h => stageCatalogRefresh_evolves h)
  | discard oid => exact evolves_discardStaged db oid allowed
  | publish oid emptyDecision =>
    change db.Evolves pol sc (db.publishStagedRefresh oid emptyDecision).2
    unfold publishStagedRefresh
    split
    · next h => exact publishStaged_evolves allowed h
    · exact evolves_discardStaged db oid allowed
  | select selector =>
    exact ⟨fun _ => .refl,fun _ h => h,fun _ h => h,fun _ _ h => .inl h,fun _ _ h _ => h⟩
  | beginPull cmd =>
    exact commit_evolves (fun _ h =>
      beginOpenPullAttemptWithCatalog_evolves allowed.1 allowed.2 h)
  | beginCandidatePull cand cmd =>
    apply commit_evolves
    intro answer h
    exact beginOpenPullAttemptWithCatalog_evolves allowed.1 allowed.2 (ensure_bind_ok.mp h).2
  | finishSuccess cmd =>
    exact commit_evolves (fun answer h => finishOpenPullSuccessTransaction_evolves
      (allowed.1 answer.1 answer.2 h) allowed.2 h)
  | finishCandidateSuccess =>
    exact commit_evolves (fun answer h => finishCandidateOpenPullSuccess_evolves allowed.1
      (allowed.2.1 answer.1 answer.2.1 answer.2.2 h) allowed.2.2 h)
  | finishFailure cmd =>
    exact commit_evolves (fun _ h => finishOpenPullFailureTransaction_evolves allowed.1 allowed.2 h)
  | finishCandidateFailure =>
    exact commit_evolves (fun _ h =>
      finishCandidateOpenPullFailure_evolves allowed.1 allowed.2.1 allowed.2.2 h)
  | prune => 
    exact commit_evolves (fun _ h => pruneOpenDiagnostics_evolves allowed h)
  | restart now =>
    apply commit_evolves
    intro answer h
    exact recoverInterrupted_evolves consistent allowed.2.1 allowed.2.2 allowed.1 h

/-- The sequence of the last attempt that a target began. -/
def TargetTables.lastSequence (tables : TargetTables) : Nat :=
  (tables.batch.getD .new).lastAttemptSequence

section Write

variable {pol : WritePolicy} {sc : WriteScope} {bef after : TargetTables}
  (write : TargetWrite pol sc bef after)

include write

theorem TargetWrite.rows : ∀row∈after.attempts,(∃old∈bef.attempts,row.SameStart old) ∨
      ∃cmd cand secs, row=startedAttempt cmd (bef.lastSequence+1) cand secs ∧
        sc.begins cmd.attemptId ∧ (cand=none →
          cmd.capturedCatalogContentVersion=bef.catalog.currentContentVersion ∧
            secs=bef.catalog.sections) := by
  intro row member
  cases write with
  | inserted cmd cand secs begins _ _ _ serving =>
    rcases List.mem_append.mp member with earlier | newest
    · exact .inl ⟨row,earlier,.refl row⟩
    · exact .inr ⟨cmd,cand,secs,List.mem_singleton.mp newest,begins,serving⟩
  | retired _ _ _ _ _ _ _ _ _ _ _ _ retires _ counted =>
    obtain ⟨daily,run,-,-,rfl⟩ := TargetTables.incrementFinalCounters_ok counted
    exact .inl (updateStarted_follows bef _ retires.start row member)
  | applied _ attempt _ _ _ _ _ _ _ _ _ _ _ _ _ _ _ _ _ _ counted =>
    obtain ⟨daily,run,-,-,rfl⟩ := TargetTables.incrementFinalCounters_ok counted
    refine .inl (updateStarted_follows bef attempt.attemptId ?_ row member)
    exact fun row => ⟨rfl,rfl,rfl,rfl,rfl,rfl,rfl,rfl,rfl,rfl,rfl,rfl,rfl⟩
  | pruned =>
    exact .inl ⟨row,(List.mem_filter.mp member).1,.refl row⟩
  | published catalog newer => exact .inl ⟨row,member,.refl row⟩

theorem TargetWrite.catalog : after.catalog=bef.catalog ∨
    bef.catalog.currentContentVersion < after.catalog.currentContentVersion := by
  cases write with
  | inserted | pruned => exact .inl rfl
  | retired _ _ _ _ _ _ _ _ _ _ _ _ _ _ counted
  | applied _ _ _ _ _ _ _ _ _ _ _ _ _ _ _ _ _ _ _ _ counted =>
    obtain ⟨daily,run,-,-,rfl⟩ := TargetTables.incrementFinalCounters_ok counted
    exact .inl rfl
  | published catalog newer => exact .inr newer

end Write

section Writes

variable {pol : WritePolicy} {sc : WriteScope} {bef after : TargetTables}
  (writes : Relation.ReflTransGen (TargetWrite pol sc) bef after)

include writes

theorem writes_consistent (h : bef.Consistent pol) : after.Consistent pol := by
  induction writes with
  | refl => exact h
  | tail _ write ih => exact write.consistent ih

theorem writes_rows : ∀row∈after.attempts,(∃old∈bef.attempts,row.SameStart old) ∨
      sc.begins row.attemptId := by
  induction writes with
  | refl => exact fun row member => .inl ⟨row,member,.refl row⟩
  | tail _ write ih =>
    intro row member
    rcases write.rows row member with ⟨middle,listed,same⟩ | ⟨_,_,_,rfl,begins,_⟩
    · rcases ih middle listed with ⟨old,first,start⟩ | begins
      · exact .inl ⟨old,first,same.trans start⟩
      · rw [← same.attemptId] at begins
        exact .inr begins
    · exact .inr begins

end Writes

/-- The rows of every target are consistent, and an attempt belongs to one target. -/
structure Database.Consistent (policy : WritePolicy) (db : Database) : Prop where
  tables : ∀target,(db.tables target).Consistent policy
  owned : ∀target other,∀a∈(db.tables target).attempts,∀b∈(db.tables other).attempts,
    a.attemptId=b.attemptId → target=other

namespace Database.Consistent

variable {pol : WritePolicy} {db : Database}

theorem new (pol : WritePolicy) : Database.new.Consistent pol := by
  have blank : ∀t,Database.new.tables t=.new := by
    intro t
    unfold Database.new Database.tables
    simp
  constructor
  · intro t
    exact .of_blank rfl rfl rfl
  · intro t other a mem
    cases mem

theorem findAttempt_eq (h : db.Consistent pol) {t : TermCampusKey}
    {tb : TargetTables} {row : OpenAttempt} (held : db.targets[t]?=some tb)
    (listed : row∈tb.attempts) :
    db.findAttempt row.attemptId=some (t,tb,row) := by
  have here : row∈(db.tables t).attempts := by
    rw [tables_eq held]
    exact listed
  cases found : db.findAttempt row.attemptId with
  | none => exact absurd rfl (findAttempt_none found here)
  | some entry =>
    obtain ⟨other,rows,hit⟩ := entry
    obtain ⟨known,mem,same⟩ := findAttempt_some found
    have there : hit∈(db.tables other).attempts := by
      rw [tables_eq known]
      exact mem
    have keys := h.owned other t hit there row here same
    subst keys
    rw [held] at known
    cases known
    have consistent := h.tables other
    rw [tables_eq held] at consistent
    rw [consistent.unique mem listed same]

theorem findAttempt_tables (h : db.Consistent pol) {t : TermCampusKey}
    {row : OpenAttempt} (listed : row∈(db.tables t).attempts) :
    db.findAttempt row.attemptId=some (t,db.tables t,row) := by
  cases held : db.targets[t]? with
  | none =>
    unfold Database.tables at listed
    rw [held] at listed
    cases listed
  | some tb =>
    rw [tables_eq held] at listed ⊢
    exact h.findAttempt_eq held listed

theorem evolves {sc : StorageScope} {after : Database} (h : db.Consistent pol)
    (evolves : db.Evolves pol sc after)
    (nothing : ∀target id,¬(sc.target target).begins id) : after.Consistent pol := by
  refine ⟨fun target => writes_consistent (evolves.tables target) (h.tables target),?_⟩
  intro target other a ha b hb same
  obtain ⟨first,hfirst,sameFirst⟩ :=
    (writes_rows (evolves.tables target) a ha).resolve_right (nothing target _)
  obtain ⟨second,hsecond,sameSecond⟩ :=
    (writes_rows (evolves.tables other) b hb).resolve_right (nothing other _)
  apply h.owned target other first hfirst second hsecond
  rw [←sameFirst.attemptId,←sameSecond.attemptId,same]

theorem begun (h : db.Consistent pol) {cmd : BeginOpenPullAttemptCommand}
    {cand : Option CatalogCandidateOpenSnapshot} {secs : ExtTreeSet SectionIndex}
    {tb : TargetTables} (begun : Begun db cmd cand secs tb)
    (interval : pol.interval cmd.effectiveIntervalSeconds) :
    (db.setTables cmd.target (tb.insertAttempt cmd cand secs)).Consistent pol := by
  have evolves : db.Evolves pol ⟨fun target => ⟨fun id => target=cmd.target ∧
      id=cmd.attemptId,fun _ => False,fun _ => False,0⟩,fun _ => False⟩ _ :=
    begun.evolves ⟨rfl,rfl⟩ interval
  refine ⟨fun target => writes_consistent (evolves.tables target) (h.tables target),?_⟩
  intro target other a ha b hb same
  rcases writes_rows (evolves.tables target) a ha with ⟨first,hfirst,sameFirst⟩ | ⟨here,named⟩
  · rcases writes_rows (evolves.tables other) b hb with ⟨second,hsecond,sameSecond⟩ | ⟨there,named⟩
    · apply h.owned target other first hfirst second hsecond
      rw [←sameFirst.attemptId,←sameSecond.attemptId,same]
    · refine absurd ?_ (findAttempt_none begun.fresh hfirst)
      rw [←sameFirst.attemptId,same,named]
  · rcases writes_rows (evolves.tables other) b hb with ⟨second,hsecond,sameSecond⟩ | ⟨there,-⟩
    · refine absurd ?_ (findAttempt_none begun.fresh hsecond)
      rw [←sameSecond.attemptId,← same,named]
    · rw [here,there]

theorem begin {cmd : BeginOpenPullAttemptCommand}
    {candidate : Option CatalogCandidateOpenSnapshot} {sequence : Nat} {after : Database}
    (h : db.Consistent pol) (interval : pol.interval cmd.effectiveIntervalSeconds)
    (done : db.beginOpenPullAttemptWithCatalog cmd candidate=.ok (sequence,after)) :
    after.Consistent pol := by
  rcases begin_cases done with ⟨_,_,_,_,_,_,rfl⟩ | ⟨_,_,begun,_,rfl⟩
  · exact h
  · exact h.begun begun interval

end Database.Consistent

/-- The policy that an operation keeps to in every state. -/
def StorageOperation.Keeps (policy : WritePolicy) : StorageOperation → Prop
  | .stage _ _ | .select _ | .prune _ _ | .discard _ | .publish _ _ => True
  | .beginPull command | .beginCandidatePull _ command =>
    policy.interval command.effectiveIntervalSeconds
  | .finishSuccess command | .finishCandidateSuccess _ _ command =>
    Database.Reports policy command.http.httpStatus
  | .finishFailure command | .finishCandidateFailure _ command =>
    policy.failure command.errorCode command.http.httpStatus
  | .restart _ => policy.failure "PROCESS_RESTARTED" none

/-- Everything but a begin. -/
def StorageScope.settling : StorageScope :=
  ⟨fun _ => ⟨fun _ => False,fun _ => True,fun _ => True,0⟩,fun _ => True⟩

def StorageOperation.Begins (attemptId : TraceId) : StorageOperation → Prop
  | .beginPull command | .beginCandidatePull _ command => command.attemptId=attemptId
  | _ => False

namespace Database

def retention : StorageOperation → Nat
  | .prune _ retainRecent => retainRecent
  | _ => openDiagnosticRetentionPerTarget

end Database

/-- A scope that leaves everything but begins free. -/
structure StorageScope.Free (scope : StorageScope) (retention : Nat) : Prop where
  consumes : ∀id,scope.consumes id
  settles : ∀target id,(scope.target target).settles id
  applies : ∀target id,(scope.target target).applies id
  retains : ∀target,(scope.target target).retains ≤ retention

theorem StorageOperation.Keeps.allowed {sc : StorageScope} {db : Database}
    {op : StorageOperation} (keeps : op.Keeps pol)
    (free : sc.Free (Database.retention op))
    (begins : ∀t id,op.Begins id → (sc.target t).begins id) :
    op.Allowed pol sc db := by
  cases op with
  | stage | select => trivial
  | discard oid | publish oid => exact free.consumes oid
  | beginPull | beginCandidatePull => exact ⟨begins _ _ rfl,keeps⟩
  | prune t retainRecent => exact free.retains t
  | restart now => exact ⟨free.consumes,free.settles,keeps⟩
  | finishSuccess cmd =>
    exact ⟨fun _ _ _ t _ _ _ => ⟨free.settles t _,free.retains t, fun _ => free.applies t _⟩,keeps⟩
  | finishCandidateSuccess =>
    exact ⟨free.consumes _,fun _ _ _ _ t _ _ _ => ⟨free.settles t _,
      free.retains t,fun _ => free.applies t _⟩,keeps⟩
  | finishFailure cmd =>
    exact ⟨fun t _ _ _ => ⟨free.settles t _,free.retains t,False.elim⟩,keeps⟩
  | finishCandidateFailure =>
    exact ⟨free.consumes _,fun t _ _ _ => ⟨free.settles t _,free.retains t, False.elim⟩,keeps⟩

namespace Database

variable {pol : WritePolicy} {db : Database} {op : StorageOperation}

/-- An operation is a begin that succeeds, it changes nothing, or it begins nothing. -/
theorem perform_begins_or_settles (keeps : op.Keeps pol) :
    (∃cmd cand sequence,pol.interval cmd.effectiveIntervalSeconds ∧
      db.beginOpenPullAttemptWithCatalog cmd cand= .ok (sequence,(db.perform op).2)) ∨
    (db.perform op).2=db ∨ ∀id,¬op.Begins id := by
  have committed (res : StorageResult (Nat × Database)) :
      (∃sequence,res=.ok (sequence,(db.commit res Prod.snd).2)) ∨
        (db.commit res Prod.snd).2=db := by
    cases res with
    | ok answer => exact .inl ⟨answer.1,rfl⟩
    | error error => exact .inr rfl
  cases op with
  | beginPull cmd =>
    rcases committed (db.beginOpenPullAttempt cmd) with ⟨sequence,done⟩ | same
    · exact .inl ⟨cmd,none,sequence,keeps,done⟩
    · exact .inr (.inl same)
  | beginCandidatePull cand cmd =>
    rcases committed (db.beginCandidateOpenPullAttempt cand cmd) with
      ⟨sequence,done⟩ | same
    · refine .inl ⟨cmd,some cand,sequence,keeps,?_⟩
      exact (ensure_bind_ok.mp done).2
    · exact .inr (.inl same)
  | _ => exact .inr (.inr (fun _ => id))

theorem perform_settles (consistent : ∀t,(db.tables t).Consistent pol)
    (keeps : op.Keeps pol) (settles : ∀id,¬op.Begins id) :
    db.Evolves pol .settling (db.perform op).2 :=
  perform_evolves (keeps.allowed ⟨fun _ => trivial,fun _ _ => trivial,fun _ _ => trivial,
    fun _ => Nat.zero_le _⟩ (fun _ => settles)) consistent

theorem Consistent.perform (h : db.Consistent pol) (keeps : op.Keeps pol) :
    (db.perform op).2.Consistent pol := by
  rcases perform_begins_or_settles keeps with ⟨_,_,_,interval,done⟩ | same | settles
  · exact h.begin interval done
  · rw [same]
    exact h
  · exact h.evolves (perform_settles h.tables keeps settles) (fun _ _ begins => begins)

end Database

/-- The storage is consistent in every state that operations of the program reach. -/
theorem Database.consistent_run (operations : List StorageOperation)
    (keeps : ∀op∈operations,op.Keeps pol) :
    (run Database.perform Database.new operations).Consistent pol :=
  run_invariant (Database.Consistent pol) (.new pol) operations
    (fun _ op member h => h.perform (keeps op member))

namespace Sample

/-- The ids of the closed examples. -/
def trace (value : Nat) : TraceId := ⟨versionFourUuid value,versionFourUuid_valid value⟩

def target : TermCampusKey := nbFall2026

def index : SectionIndex := firstSection.index

def moment (seconds : Nat) : Timestamp where
  instant := 1000000000*(seconds%2^32 : Nat)
  written := by
    have small : seconds%2^32 < 2^32 := Nat.mod_lt _ (by decide)
    generalize seconds%2^32=second at small
    change (-62167219200*1000000000 : Int) ≤ _ ∧ (_ : Int) < 253402300800*1000000000
    omega

def stagedCatalog (semanticSha256 : String) (sections : ExtTreeSet SectionIndex) :
    StagedCatalog :=
  ⟨target,semanticSha256,⟨1,1,sections.size,0⟩,sections,rfl⟩

def beginning (attemptId version startedAt : Nat) : BeginOpenPullAttemptCommand where
  attemptId := trace attemptId
  runId := trace 0
  target
  capturedCatalogContentVersion := version
  rutgersDay := ⟨0⟩
  startedAt := moment startedAt
  lane := .general
  requestedIntervalSeconds := some 60
  effectiveIntervalSeconds := some 60
  scheduleLagMs := some 0

def answered : OpenHttpAuditMetadata :=
  { OpenHttpAuditMetadata.none with
    httpStatus := some 200
    cacheStatus := some .notApplicable
    decodedBytes := some 2
    decodedBodySha256 := some "0000000000000000000000000000000000000000000000000000000000000000"
    contentType := some "application/json" }

def response (attemptId completedAt : Nat) (indices : List SectionIndex) :
    FinishOpenPullSuccessCommand where
  attemptId := trace attemptId
  completedAt := moment completedAt
  openSections := indices.map (fun index => ⟨target.term,target.campus,index⟩)
  sourceValueCount := indices.length
  watchedSections := []
  http := answered
  gateHold := false
  gateCatalogSetIdentity := none

def timeout (attemptId completedAt : Nat) : FinishOpenPullFailureCommand :=
  ⟨trace attemptId,moment completedAt,
    { OpenHttpAuditMetadata.none with cacheStatus := some .notApplicable },"OPEN_TIMEOUT",none⟩

end Sample

end CoursePlanner.Storage
