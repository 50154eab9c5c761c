import CoursePlanner.Storage.OpenPull

namespace CoursePlanner.Storage

open Std Library Contracts
open Open (Sha256 isSha256Hex)

/-- What the callers of the storage keep to: the codes that they report with a failed
attempt and the freshness intervals that they begin one with. -/
structure WritePolicy where
  failure : String → Option Nat → Prop
  interval : Option Nat → Prop

/-- The attempts that writes to a target begin, finish and apply, and how many of the
newest ones they keep. -/
structure WriteScope where
  begins : TraceId → Prop
  settles : TraceId → Prop
  applies : TraceId → Prop
  retains : Nat

/-- The columns that a begin writes and nothing changes. -/
structure OpenAttempt.SameStart (row started : OpenAttempt) : Prop where
  attemptId : row.attemptId=started.attemptId
  runId : row.runId=started.runId
  attemptSequence : row.attemptSequence=started.attemptSequence
  rutgersDay : row.rutgersDay=started.rutgersDay
  captured : row.capturedCatalogContentVersion=started.capturedCatalogContentVersion
  startedAt : row.startedAt=started.startedAt
  lane : row.lane=started.lane
  requested : row.requestedIntervalSeconds=started.requestedIntervalSeconds
  interval : row.effectiveIntervalSeconds=started.effectiveIntervalSeconds
  lag : row.scheduleLagMs=started.scheduleLagMs
  candidate : row.candidateCatalogObservationId=started.candidateCatalogObservationId
  base : row.candidateBaseContentVersion=started.candidateBaseContentVersion
  sections : row.catalogSections=started.catalogSections

theorem OpenAttempt.SameStart.refl (row : OpenAttempt) : row.SameStart row :=
  ⟨rfl,rfl,rfl,rfl,rfl,rfl,rfl,rfl,rfl,rfl,rfl,rfl,rfl⟩

theorem OpenAttempt.SameStart.trans {row middle old : OpenAttempt} (h : row.SameStart middle)
    (g : middle.SameStart old) : row.SameStart old :=
  ⟨h.1.trans g.1,h.2.trans g.2,h.3.trans g.3,h.4.trans g.4,h.5.trans g.5,h.6.trans g.6,
    h.7.trans g.7,h.8.trans g.8,h.9.trans g.9,h.10.trans g.10,h.11.trans g.11,h.12.trans g.12,
    h.13.trans g.13⟩

theorem updateStarted_follows (tb : TargetTables) (attemptId : TraceId)
    {update : OpenAttempt → OpenAttempt} (start : ∀row,(update row).SameStart row) :
    ∀row∈(tb.updateStarted attemptId update).attempts, ∃old∈tb.attempts,row.SameStart old := by
  intro row mem
  obtain ⟨old,listed,rfl⟩ := List.mem_map.mp mem
  refine ⟨old,listed,?_⟩
  split
  · exact start old
  · exact .refl old

/-- What a finish or a restart writes to the row of an attempt that applied nothing. -/
structure Retires (retire : OpenAttempt → OpenAttempt) (completedAt : Timestamp)
    (code : String) (status : Option Nat) : Prop where
  start : ∀row,(retire row).SameStart row
  completed : ∀row,(retire row).completedAt=some completedAt
  terminal : ∀row,(retire row).classification≠.started
  unapplied : ∀row,(retire row).classification.isSuccess=false
  coded : ∀row,(retire row).classification=.failed →
    (retire row).errorCode=some code ∧ (retire row).http.httpStatus=status

/-- The writes to the rows of one target. Every operation is a sequence of these. -/
inductive TargetWrite [Sha256] (policy : WritePolicy) (scope : WriteScope) :
    TargetTables → TargetTables → Prop
  | inserted (tables : TargetTables) (command : BeginOpenPullAttemptCommand)
      (candidate : Option CatalogCandidateOpenSnapshot) (sections : ExtTreeSet SectionIndex)
      (begins : scope.begins command.attemptId)
      (idle : ∀row∈tables.attempts,row.classification≠.started)
      (fresh : ∀row∈tables.attempts,row.attemptId≠command.attemptId)
      (captured : command.capturedCatalogContentVersion≠0)
      (serving : candidate=none →
        command.capturedCatalogContentVersion=tables.catalog.currentContentVersion ∧
          sections=tables.catalog.sections)
      (interval : policy.interval command.effectiveIntervalSeconds) :
      TargetWrite policy scope tables (tables.insertAttempt command candidate sections)
  | retired (tables : TargetTables) (batch : OpenBatchState) (attempt : OpenAttempt)
      (retire : OpenAttempt → OpenAttempt) (completedAt : Timestamp) (code : String)
      (status : Option Nat) (empty : Bool) (after : TargetTables)
      (settles : scope.settles attempt.attemptId)
      (listed : attempt∈tables.attempts)
      (started : attempt.classification=.started) (held : tables.batch=some batch)
      (retires : Retires retire completedAt code status)
      (allowed : policy.failure code status)
      (counted : TargetTables.incrementFinalCounters
        { tables.updateStarted attempt.attemptId retire with
          batch := some (TargetTables.recordFailure batch attempt.attemptSequence completedAt
            code status) } attempt.runId attempt.rutgersDay false empty=.ok after) :
      TargetWrite policy scope tables after
  | applied (tables : TargetTables) (batch : OpenBatchState) (attempt : OpenAttempt)
      (command : FinishOpenPullSuccessCommand) (classification : OpenAttemptClassification)
      (canonicalSetSha256 stateSha256 : String)
      (states : ExtTreeMap SectionIndex OpenSectionState) (empty : Bool)
      (after : TargetTables) (settles : scope.settles attempt.attemptId)
      (applies : scope.applies attempt.attemptId)
      (covers : ∀index,index∈states ↔ index∈attempt.catalogSections)
      (listed : attempt∈tables.attempts) (started : attempt.classification=.started)
      (held : tables.batch=some batch) (success : classification.isSuccess=true)
      (canonical : isSha256Hex canonicalSetSha256=true)
      (state : isSha256Hex stateSha256=true)
      (observation : OpenBatchObservation)
      (observed : observation=batchObservation attempt command.completedAt classification
        (batch.lastObservationSequence+1) canonicalSetSha256 stateSha256)
      (counted : TargetTables.incrementFinalCounters
        { tables.updateStarted attempt.attemptId (fun attempt =>
            appliedAttempt attempt command.completedAt command.http
              command.gateCatalogSetIdentity observation) with
          current := states.map (fun _ state => sectionCurrent observation state)
          batch := some (applyObservation batch observation) }
        attempt.runId attempt.rutgersDay true empty=.ok after) :
      TargetWrite policy scope tables after
  | pruned (tables : TargetTables) (retainRecent pruneLimit : Nat)
      (positive : 0 < retainRecent) (retains : scope.retains ≤ retainRecent) :
      TargetWrite policy scope tables (tables.pruneOpenDiagnostics retainRecent pruneLimit)
  | published (tables : TargetTables) (catalog : CatalogTarget)
      (newer : tables.catalog.currentContentVersion < catalog.currentContentVersion) :
      TargetWrite policy scope tables { tables with catalog }

namespace TargetTables

/-- The counters that a finish adds to those of its begin. -/
def finalCounters (succeeded empty : Bool) : OpenAttemptCounters :=
  ⟨0,succeeded.toNat,(!succeeded).toNat,empty.toNat⟩

variable {tb : TargetTables}

theorem incrementFinalCounters_ok {counted : TargetTables} {runId : TraceId} {day : RutgersDay}
    {succeeded empty : Bool}
    (h : tb.incrementFinalCounters runId day succeeded empty=.ok counted) :
    ∃daily run,tb.dailyCounters[day]?=some daily ∧ tb.runCounters[runId]?=some run ∧
      counted={ tb with
        dailyCounters := tb.dailyCounters.insert day (daily.add (finalCounters succeeded empty))
        runCounters := tb.runCounters.insert runId (run.add (finalCounters succeeded empty)) } := by
  unfold incrementFinalCounters at h
  simp only [bind_ok,required_ok] at h
  obtain ⟨daily,hdaily,run,hrun,h⟩ := h
  cases h
  exact ⟨daily,run,hdaily,hrun,rfl⟩

section Order

/-- An element that is below none of a list goes to its end. -/
theorem orderedInsert_of_forall_not {A : Type} (r : A → A → Prop) [DecidableRel r] (a : A)
    (l : List A) (h : ∀b∈l,¬r a b) : l.orderedInsert r a=l++[a] := by
  induction l with
  | nil => rfl
  | cons b l ih =>
    have later : ∀c∈l,¬r a c := fun c mem => h c (List.mem_cons_of_mem b mem)
    rw [List.orderedInsert_cons,if_neg (h b List.mem_cons_self),ih later]
    rfl

variable {tb : TargetTables}
  (ordered : tb.attempts.Pairwise (fun a b => a.attemptSequence < b.attemptSequence))

include ordered

/-- The rows are inserted in the order of their sequence numbers. -/
theorem oldestFirst_eq : tb.oldestFirst=tb.attempts := (ordered.imp Nat.le_of_lt).insertionSort_eq

theorem newestFirst_eq : tb.newestFirst=tb.attempts.reverse := by
  unfold newestFirst
  generalize tb.attempts=rows at ordered
  induction rows with
  | nil => rfl
  | cons row rows ih =>
    obtain ⟨above,rest⟩ := List.pairwise_cons.mp ordered
    rw [List.insertionSort_cons,ih rest,List.reverse_cons]
    apply orderedInsert_of_forall_not
    intro later mem
    have := above later (List.mem_reverse.mp mem)
    omega

end Order

theorem updateStarted_last {past : List OpenAttempt} {last att : OpenAttempt}
    (rows : tb.attempts=past++[last]) (settled : ∀row∈past,row.classification≠.started)
    (listed : att∈tb.attempts) (started : att.classification=.started)
    (update : OpenAttempt → OpenAttempt) :
    att=last ∧ (tb.updateStarted att.attemptId update).attempts=past++[update last] := by
  have same : att=last := by
    rw [rows,List.mem_append,List.mem_singleton] at listed
    rcases listed with earlier | same
    · exact absurd started (settled att earlier)
    · exact same
  subst same
  refine ⟨rfl,?_⟩
  have kept : past.map (fun row => if row.attemptId=att.attemptId ∧
      row.classification=.started then update row else row)=past := by
    conv_rhs => rw [← List.map_id past]
    apply List.map_congr_left
    intro row mem
    exact if_neg (fun h => settled row mem h.2)
  change tb.attempts.map _=_
  rw [rows,List.map_append,kept,List.map_singleton,if_pos ⟨rfl,started⟩]

def keeps (tables : TargetTables) (retainRecent pruneLimit : Nat) (row : OpenAttempt) : Bool :=
  !(tables.prunedAttempts retainRecent pruneLimit).contains row.attemptId

theorem not_keeps {rr pruneLimit : Nat} {row : OpenAttempt} (h : tb.keeps rr pruneLimit row=false) :
    ∃pruned∈tb.oldestFirst,pruned.attemptId=row.attemptId ∧ pruned.classification≠.started ∧
      some pruned.attemptId≠tb.batch.bind OpenBatchState.lkgAttemptId ∧
      pruned.attemptId∉(tb.newestFirst.take rr).map OpenAttempt.attemptId := by
  unfold keeps prunedAttempts at h
  rw [Bool.not_eq_false',List.contains_iff_mem,List.mem_map] at h
  obtain ⟨pruned,mem,same⟩ := h
  obtain ⟨listed,conditions⟩ := List.mem_filter.mp (List.mem_of_mem_take mem)
  simp only [Bool.and_eq_true,decide_eq_true_eq,Bool.not_eq_true',
    ← Bool.not_eq_true,List.contains_iff_mem] at conditions
  exact ⟨pruned,listed,same,conditions.1.1,conditions.1.2,conditions.2⟩

end TargetTables

end CoursePlanner.Storage
