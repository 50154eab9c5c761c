import CoursePlanner.Storage.Writes

namespace CoursePlanner.Storage

open Std Library Contracts
open Open (Sha256 isSha256Hex)

variable [Sha256] {policy : WritePolicy}

/-- The attempt and the observation that the last-known-good columns name. -/
structure LastKnownGood (tables : TargetTables) (batch : OpenBatchState) (row : OpenAttempt)
    (observation : OpenBatchObservation) : Prop where
  listed : row∈tables.attempts
  named : batch.lkgAttemptId=some row.attemptId
  success : row.classification.isSuccess=true
  completed : row.completedAt=some observation.observedAt
  observed : row.observation=some observation
  attemptId : observation.attemptId=row.attemptId
  valid : observation.classification.isSuccess=true
  derived : observation.observationId=deriveOpenRefreshObservationId row.attemptId
  sequence : batch.lkgObservationSequence=some observation.observationSequence
  numbered : 0 < observation.observationSequence
  version : batch.currentCatalogContentVersion=observation.catalogContentVersion
  published : 0 < observation.catalogContentVersion
  canonical : isSha256Hex observation.canonicalSetSha256=true
  state : isSha256Hex observation.stateSha256=true
  current : ∀(index : SectionIndex) entry,tables.current[index]?=some entry →
    entry=sectionCurrent observation entry.state
  covers : ∀index,index∈tables.current ↔ index∈row.catalogSections
  captured : observation.catalogContentVersion=row.capturedCatalogContentVersion
  observedAt : batch.lkgObservedAt=some observation.observedAt
  hashed : batch.lkgCanonicalSetSha256=some observation.canonicalSetSha256 ∧
    batch.lkgStateSha256=some observation.stateSha256
  last : batch.lastObservationSequence=observation.observationSequence

structure NeverGood (tables : TargetTables) (batch : OpenBatchState) : Prop where
  attemptId : batch.lkgAttemptId=none
  sequence : batch.lkgObservationSequence=none
  observedAt : batch.lkgObservedAt=none
  canonical : batch.lkgCanonicalSetSha256=none
  state : batch.lkgStateSha256=none
  last : batch.lastObservationSequence=0
  current : tables.current=∅

def NeverFailed (batch : OpenBatchState) : Prop :=
  batch.lastFailureAttemptSequence=none ∧ batch.lastFailureAt=none ∧
    batch.lastFailureErrorCode=none ∧ batch.lastFailureHttpStatus=none

def LastFailure (batch : OpenBatchState) (sequence : Nat) (failedAt : Timestamp)
    (code : String) (status : Option Nat) : Prop :=
  batch.lastFailureAttemptSequence=some sequence ∧ batch.lastFailureAt=some failedAt ∧
    batch.lastFailureErrorCode=some code ∧ batch.lastFailureHttpStatus=status

structure RowConsistent (policy : WritePolicy) (row : OpenAttempt) : Prop where
  finished : row.completedAt=none ↔ row.classification=.started
  numbered : 0 < row.attemptSequence
  captured : row.capturedCatalogContentVersion≠0
  interval : policy.interval row.effectiveIntervalSeconds

/-- The batch row against the attempts: the last attempt is the only one that can be
in flight. -/
structure BatchConsistent (policy : WritePolicy) (tables : TargetTables)
    (batch : OpenBatchState) (past : List OpenAttempt) (last : OpenAttempt) : Prop where
  held : tables.batch=some batch
  rows : tables.attempts=past++[last]
  settled : ∀row∈past,row.classification≠.started
  identity : batch.lastAttemptId=some last.attemptId
  sequence : batch.lastAttemptSequence=last.attemptSequence
  good : NeverGood tables batch ∨ ∃row observation,LastKnownGood tables batch row observation
  failure : NeverFailed batch ∨ ∃sequence failedAt code status,
    LastFailure batch sequence failedAt code status ∧ 0 < sequence ∧ policy.failure code status
  blamed : last.classification=.failed → ∃code,last.errorCode=some code ∧
    batch.lastFailureErrorCode=some code ∧
    last.http.httpStatus=batch.lastFailureHttpStatus

structure TargetTables.Consistent (policy : WritePolicy) (tables : TargetTables) : Prop where
  ordered : tables.attempts.Pairwise (fun a b => a.attemptSequence < b.attemptSequence)
  distinct : (tables.attempts.map OpenAttempt.attemptId).Nodup
  row : ∀row∈tables.attempts,RowConsistent policy row
  blank : tables.batch=none → tables.attempts=[] ∧ tables.current=∅
  filled : ∀batch,tables.batch=some batch → ∃past last,
    BatchConsistent policy tables batch past last

namespace TargetTables.Consistent

variable {tables : TargetTables}

theorem batch_ne_none (h : tables.Consistent policy) (att : OpenAttempt)
    (listed : att∈tables.attempts) : tables.batch≠none := by
  intro none
  rw [(h.blank none).1] at listed
  cases listed

theorem of_blank (attempts : tables.attempts=[]) (current : tables.current=∅)
    (batch : tables.batch=none) : tables.Consistent policy where
  ordered := by rw [attempts]; exact List.Pairwise.nil
  distinct := by rw [attempts]; exact List.Pairwise.nil
  row := by
    intro row member
    rw [attempts] at member
    cases member
  blank := fun _ => ⟨attempts,current⟩
  filled := by
    intro other held
    rw [batch] at held
    cases held

section

variable (h : tables.Consistent policy) {a b : OpenAttempt} (ha : a∈tables.attempts)
  (hb : b∈tables.attempts)

include h ha hb

theorem unique (same : a.attemptId=b.attemptId) : a=b :=
  List.inj_on_of_nodup_map h.distinct ha hb same

end

theorem sequence_le (h : tables.Consistent policy) : ∀row∈tables.attempts,
    row.attemptSequence ≤ (tables.batch.getD .new).lastAttemptSequence := by
  intro row member
  obtain ⟨batch,held⟩ := Option.ne_none_iff_exists'.mp (h.batch_ne_none row member)
  obtain ⟨past,last,consistent⟩ := h.filled batch held
  rw [held,Option.getD_some,consistent.sequence]
  have order := h.ordered
  rw [consistent.rows] at member order
  rcases List.mem_append.mp member with earlier | newest
  · exact Nat.le_of_lt ((List.pairwise_append.mp order).2.2 row earlier last
      (List.mem_singleton_self last))
  · rw [List.mem_singleton.mp newest]

theorem inserted (h : tables.Consistent policy) {command : BeginOpenPullAttemptCommand}
    {candidate : Option CatalogCandidateOpenSnapshot} {sections : ExtTreeSet SectionIndex}
    (idle : ∀row∈tables.attempts,row.classification≠.started)
    (fresh : ∀row∈tables.attempts,row.attemptId≠command.attemptId)
    (captured : command.capturedCatalogContentVersion≠0)
    (interval : policy.interval command.effectiveIntervalSeconds) :
    (tables.insertAttempt command candidate sections).Consistent policy := by
  have below := h.sequence_le
  have good : NeverGood tables (tables.batch.getD .new) ∨
      ∃row observation,LastKnownGood tables (tables.batch.getD .new) row observation := by
    cases held : tables.batch with
    | none => exact .inl ⟨rfl,rfl,rfl,rfl,rfl,rfl,(h.blank held).2⟩
    | some batch =>
      obtain ⟨past,last,consistent⟩ := h.filled batch held
      exact consistent.good
  have failure : NeverFailed (tables.batch.getD .new) ∨ ∃sequence failedAt code status,
      LastFailure (tables.batch.getD .new) sequence failedAt code status ∧ 0 < sequence ∧
        policy.failure code status := by
    cases held : tables.batch with
    | none => exact .inl ⟨rfl,rfl,rfl,rfl⟩
    | some batch =>
      obtain ⟨past,last,consistent⟩ := h.filled batch held
      exact consistent.failure
  generalize inserted : startedAttempt command
    ((tables.batch.getD .new).lastAttemptSequence+1) candidate sections=row
  have rows : (tables.insertAttempt command candidate sections).attempts=
      tables.attempts++[row] := by
    rw [← inserted]
    rfl
  refine ⟨?_,?_,?_,?_,?_⟩
  · rw [rows,List.pairwise_append]
    refine ⟨h.ordered,List.pairwise_singleton _ _,?_⟩
    intro earlier member newest hn
    rw [List.mem_singleton.mp hn,← inserted]
    exact Nat.lt_succ_of_le (below earlier member)
  · rw [rows,List.map_append,List.nodup_append]
    refine ⟨h.distinct,List.nodup_singleton _,?_⟩
    intro id member other hother
    obtain ⟨earlier,listed,rfl⟩ := List.mem_map.mp member
    rw [List.mem_singleton.mp hother,← inserted]
    exact fresh earlier listed
  · intro other member
    rw [rows,List.mem_append,List.mem_singleton] at member
    rcases member with earlier | rfl
    · exact h.row other earlier
    · rw [← inserted]
      exact ⟨⟨fun _ => rfl,fun _ => rfl⟩,Nat.succ_pos _,captured,interval⟩
  · intro none
    cases none
  · intro batch held
    refine ⟨tables.attempts,row,held,rows,idle,?_,?_,?_,?_,?_⟩
    all_goals
      cases held
      subst inserted
    · rfl
    · rfl
    · rcases good with never | ⟨old,observation,lkg⟩
      · exact .inl ⟨never.attemptId,never.sequence,never.observedAt,never.canonical,
          never.state,never.last,never.current⟩
      · refine .inr ⟨old,observation,{ lkg with listed := ?_ }⟩
        exact List.mem_append_left _ lkg.listed
    · exact failure
    · intro failed
      cases failed

variable {last row : OpenAttempt} {past : List OpenAttempt} {batch : OpenBatchState}
    {retainRecent : Nat}

omit [Sha256] in
theorem ordered_replaced
    (ordered : (past++[last]).Pairwise (fun a b => a.attemptSequence < b.attemptSequence))
    (sequence : row.attemptSequence=last.attemptSequence) :
    (past++[row]).Pairwise (fun a b => a.attemptSequence < b.attemptSequence) := by
  obtain ⟨front,_,below⟩ := List.pairwise_append.mp ordered
  refine List.pairwise_append.mpr ⟨front,List.pairwise_singleton _ _,?_⟩
  intro earlier member newest hn
  rw [List.mem_singleton.mp hn,sequence]
  exact below earlier member last (List.mem_singleton_self last)

omit [Sha256] in
theorem distinct_replaced (distinct : ((past++[last]).map OpenAttempt.attemptId).Nodup)
    (attemptId : row.attemptId=last.attemptId) :
    ((past++[row]).map OpenAttempt.attemptId).Nodup := by
  have same : (past++[row]).map OpenAttempt.attemptId=
      (past++[last]).map OpenAttempt.attemptId := by
    rw [List.map_append,List.map_append,List.map_singleton,List.map_singleton,attemptId]
  rw [same]
  exact distinct

/-- The last-known-good attempt is not the one in flight. -/
theorem good_past {obs : OpenBatchObservation}
    (consistent : BatchConsistent policy tables batch past last)
    (started : last.classification=.started) (lkg : LastKnownGood tables batch row obs) :
    row∈past := by
  have listed := lkg.listed
  rw [consistent.rows,List.mem_append,List.mem_singleton] at listed
  rcases listed with earlier | rfl
  · exact earlier
  · have success := lkg.success
    rw [started] at success
    cases success

variable (h : tables.Consistent policy)

include h

/-- Finishing the row in flight only leaves the batch row to account for. -/
theorem finished {attempt : OpenAttempt} {finish : OpenAttempt → OpenAttempt} {after : TargetTables}
    (listed : attempt∈tables.attempts) (started : attempt.classification=.started)
    (held : tables.batch=some batch) (start : (finish attempt).SameStart attempt)
    (completed : (finish attempt).completedAt≠none)
    (terminal : (finish attempt).classification≠.started)
    (written : after.attempts=(tables.updateStarted attempt.attemptId finish).attempts)
    (filled : ∀past,BatchConsistent policy tables batch past attempt →
      after.attempts=past++[finish attempt] →
      ∃next,after.batch=some next ∧ BatchConsistent policy after next past (finish attempt)) :
    after.Consistent policy := by
  obtain ⟨past,last,consistent⟩ := h.filled batch held
  obtain ⟨same,rows⟩ := updateStarted_last consistent.rows consistent.settled listed started finish
  subst same
  rw [← written] at rows
  have order := h.ordered
  have ids := h.distinct
  rw [consistent.rows] at order ids
  have old := h.row attempt listed
  obtain ⟨next,stored,batched⟩ := filled past consistent rows
  refine ⟨?_,?_,?_,?_,?_⟩
  · rw [rows]
    exact ordered_replaced order start.attemptSequence
  · rw [rows]
    exact distinct_replaced ids start.attemptId
  · intro row member
    rw [rows,List.mem_append,List.mem_singleton] at member
    rcases member with earlier | rfl
    · exact h.row row (by rw [consistent.rows]; exact List.mem_append_left _ earlier)
    refine ⟨⟨fun none => absurd none completed,fun running => absurd running terminal⟩,?_,?_,?_⟩
    · rw [start.attemptSequence]
      exact old.numbered
    · rw [start.captured]
      exact old.captured
    · rw [start.interval]
      exact old.interval
  · intro none
    rw [stored] at none
    cases none
  · intro other same
    rw [stored] at same
    cases same
    exact ⟨past,_,batched⟩

theorem retired {att : OpenAttempt}
    {retire : OpenAttempt → OpenAttempt} {ca : Timestamp} {code : String}
    {status : Option Nat} (listed : att∈tables.attempts)
    (started : att.classification=.started) (held : tables.batch=some batch)
    (retires : Retires retire ca code status) (allowed : policy.failure code status) :
    ({ tables.updateStarted att.attemptId retire with
      batch := some (recordFailure batch att.attemptSequence ca code status) } :
        TargetTables).Consistent policy := by
  have start := retires.start att
  refine h.finished listed started held start (by simp [retires.completed])
    (retires.terminal att) rfl ?_
  intro past consistent rows
  refine ⟨_,rfl,rfl,rows,consistent.settled,?_,?_,?_,?_,?_⟩
  · rw [start.attemptId]
    exact consistent.identity
  · rw [start.attemptSequence]
    exact consistent.sequence
  · rcases consistent.good with never | ⟨row,obs,lkg⟩
    · exact .inl { never with }
    · refine .inr ⟨row,obs,{ lkg with listed := ?_ }⟩
      rw [rows]
      exact List.mem_append_left _ (good_past consistent started lkg)
  · exact .inr ⟨att.attemptSequence,ca,code,status,⟨rfl,rfl,rfl,rfl⟩,
      (h.row att listed).numbered,allowed⟩
  · intro failed
    obtain ⟨coded,stored⟩ := retires.coded att failed
    exact ⟨code,coded,rfl,stored⟩

theorem applied {attempt : OpenAttempt}
    {command : FinishOpenPullSuccessCommand} {classification : OpenAttemptClassification}
    {canonicalSetSha256 stateSha256 : String} {states : ExtTreeMap SectionIndex OpenSectionState}
    (listed : attempt∈tables.attempts) (started : attempt.classification=.started)
    (held : tables.batch=some batch) (success : classification.isSuccess=true)
    (canonical : isSha256Hex canonicalSetSha256=true) (state : isSha256Hex stateSha256=true)
    (covers : ∀index,index∈states ↔ index∈attempt.catalogSections)
    {observation : OpenBatchObservation}
    (observed : observation=batchObservation attempt command.completedAt classification
      (batch.lastObservationSequence+1) canonicalSetSha256 stateSha256) :
    ({ tables.updateStarted attempt.attemptId (fun attempt =>
        appliedAttempt attempt command.completedAt command.http
          command.gateCatalogSetIdentity observation) with
      current := states.map (fun _ state => sectionCurrent observation state)
      batch := some (applyObservation batch observation) } : TargetTables).Consistent policy := by
  have classified : observation.classification=classification := by rw [observed]; rfl
  refine h.finished listed started held ?_ (Option.some_ne_none _) ?_ rfl ?_
  · constructor <;> rfl
  · change observation.classification≠_
    rw [classified]
    rintro rfl
    cases success
  intro past consistent rows
  refine ⟨_,rfl,rfl,rows,consistent.settled,consistent.identity,consistent.sequence,?_,
    consistent.failure,?_⟩
  · refine .inr ⟨appliedAttempt attempt command.completedAt command.http
      command.gateCatalogSetIdentity observation,observation,?_⟩
    constructor
    case listed =>
      rw [rows]
      exact List.mem_append_right _ (List.mem_singleton_self _)
    case current =>
      intro index entry found
      rw [ExtTreeMap.getElem?_map] at found
      obtain ⟨state,-,rfl⟩ := Option.map_eq_some_iff.mp found
      rfl
    case covers =>
      intro index
      rw [ExtTreeMap.mem_map]
      exact covers index
    case success | valid => exact (congrArg _ classified).trans success
    case published =>
      rw [observed]
      exact Nat.pos_of_ne_zero (h.row attempt listed).captured
    case numbered =>
      rw [observed]
      exact Nat.succ_pos _
    case canonical =>
      rw [observed]
      exact canonical
    case state =>
      rw [observed]
      exact state
    case hashed => exact ⟨rfl,rfl⟩
    case named | attemptId | derived | captured | completed =>
      rw [observed]
      rfl
    all_goals rfl
  · intro failed
    rw [classified.symm.trans failed] at success
    cases success

theorem beside (catalog : CatalogTarget) (dailyCounters : ExtTreeMap RutgersDay OpenAttemptCounters)
    (runCounters : ExtTreeMap TraceId OpenAttemptCounters) :
    ({ tables with catalog, dailyCounters, runCounters } : TargetTables).Consistent policy := by
  refine ⟨h.ordered,h.distinct,h.row,h.blank,?_⟩
  intro batch held
  obtain ⟨past,last,consistent⟩ := h.filled batch held
  refine ⟨past,last,{ consistent with good := ?_ }⟩
  rcases consistent.good with never | ⟨row,observation,lkg⟩
  · exact .inl { never with }
  · exact .inr ⟨row,observation,{ lkg with }⟩

/-- A pruned row is a listed one: ids are distinct. -/
theorem pruned_row {pruneLimit : Nat} (listed : row∈tables.attempts)
    (gone : tables.keeps retainRecent pruneLimit row=false) :
    row.classification≠.started ∧ some row.attemptId≠tables.batch.bind OpenBatchState.lkgAttemptId ∧
      row∉tables.attempts.reverse.take retainRecent := by
  obtain ⟨other,member,same,settled,unnamed,old⟩ := not_keeps gone
  rw [oldestFirst_eq h.ordered] at member
  have equal := h.unique member listed same
  subst equal
  rw [newestFirst_eq h.ordered] at old
  exact ⟨settled,unnamed,fun recent => old (List.mem_map_of_mem recent)⟩

/-- The newest attempt, the last-known-good one and the one in flight are kept. -/
theorem keeps_newest (rows : tables.attempts=past++[last])
    (retains : 0 < retainRecent) (pruneLimit : Nat) :
    tables.keeps retainRecent pruneLimit last=true := by
  by_contra gone
  have listed : last∈tables.attempts := by
    rw [rows]
    exact List.mem_append_right _ (List.mem_singleton_self last)
  obtain ⟨-,-,old⟩ := h.pruned_row listed (Bool.eq_false_iff.mpr gone)
  apply old
  rw [rows,List.reverse_append]
  obtain ⟨n,rfl⟩ := Nat.exists_eq_succ_of_ne_zero (Nat.ne_of_gt retains)
  exact List.mem_cons_self

theorem keeps_good (held : tables.batch=some batch)
    (listed : row∈tables.attempts) (named : batch.lkgAttemptId=some row.attemptId)
    (retainRecent pruneLimit : Nat) : tables.keeps retainRecent pruneLimit row=true := by
  by_contra gone
  obtain ⟨-,unnamed,-⟩ := h.pruned_row listed (Bool.eq_false_iff.mpr gone)
  apply unnamed
  rw [held]
  exact named.symm

/-- The current rows reference the last-known-good attempt, so a prune step leaves
them as they are. -/
theorem pruned_current (retainRecent pruneLimit : Nat) :
    (tables.pruneOpenDiagnostics retainRecent pruneLimit).current=tables.current := by
  change tables.current.filter (fun _ row =>
    !(tables.prunedAttempts retainRecent pruneLimit).contains row.attemptId)=tables.current
  apply ExtTreeMap.ext_getElem?
  intro index
  rw [ExtTreeMap.getElem?_filter']
  cases found : tables.current[index]? with
  | none => rfl
  | some entry =>
    cases held : tables.batch with
    | none =>
      rw [(h.blank held).2] at found
      simp at found
    | some batch =>
      obtain ⟨past,last,consistent⟩ := h.filled batch held
      rcases consistent.good with never | ⟨row,obs,lkg⟩
      · rw [never.current] at found
        simp at found
      have owner : entry.attemptId=row.attemptId := by
        rw [lkg.current index entry found]
        exact lkg.attemptId
      have kept := h.keeps_good held lkg.listed lkg.named retainRecent pruneLimit
      unfold keeps at kept
      rw [Option.filter_some,owner,if_pos kept]

theorem pruned (retains : 0 < retainRecent) (pruneLimit : Nat) :
    (tables.pruneOpenDiagnostics retainRecent pruneLimit).Consistent policy := by
  have rows : (tables.pruneOpenDiagnostics retainRecent pruneLimit).attempts=
      tables.attempts.filter (tables.keeps retainRecent pruneLimit) := rfl
  have current := h.pruned_current retainRecent pruneLimit
  refine ⟨?_,?_,?_,?_,?_⟩
  · rw [rows]
    exact h.ordered.filter _
  · rw [rows]
    exact h.distinct.sublist (List.filter_sublist.map _)
  · intro row member
    exact h.row row (List.mem_filter.mp member).1
  · intro none
    obtain ⟨attempts,empty⟩ := h.blank none
    rw [rows,attempts,current,empty]
    exact ⟨rfl,rfl⟩
  · intro batch held
    obtain ⟨past,last,consistent⟩ := h.filled batch held
    have newest := h.keeps_newest consistent.rows retains pruneLimit
    refine ⟨past.filter (tables.keeps retainRecent pruneLimit),last,
      { consistent with held := held, rows := ?_, settled := ?_, good := ?_ }⟩
    · rw [rows,consistent.rows,List.filter_append,List.filter_singleton,newest]
      rfl
    · intro row member
      exact consistent.settled row (List.mem_filter.mp member).1
    · rcases consistent.good with never | ⟨row,observation,lkg⟩
      · exact .inl { never with current := by rw [current,never.current] }
      · have kept := h.keeps_good consistent.held lkg.listed lkg.named retainRecent pruneLimit
        refine .inr ⟨row,observation,{ lkg with listed := ?_, current := ?_, covers := ?_ }⟩
        · rw [rows]
          exact List.mem_filter.mpr ⟨lkg.listed,kept⟩
        · rw [current]
          exact lkg.current
        · rw [current]
          exact lkg.covers

end TargetTables.Consistent

theorem TargetWrite.consistent {scope : WriteScope} {before after : TargetTables}
    (write : TargetWrite policy scope before after) (h : before.Consistent policy) :
    after.Consistent policy := by
  cases write with
  | inserted _ _ _ _ idle fresh captured _ interval =>
    exact h.inserted idle fresh captured interval
  | retired _ _ _ _ _ _ _ _ _ listed started held retires allowed counted =>
    obtain ⟨daily,run,-,-,rfl⟩ := TargetTables.incrementFinalCounters_ok counted
    exact (h.retired listed started held retires allowed).beside _ _ _
  | applied _ _ _ _ _ _ _ _ _ _ _ covers listed started held success canonical state _ observed
      counted =>
    obtain ⟨daily,run,-,-,rfl⟩ := TargetTables.incrementFinalCounters_ok counted
    exact (h.applied listed started held success canonical state covers observed).beside _ _ _
  | pruned retainRecent pruneLimit positive retains => exact h.pruned positive pruneLimit
  | published catalog newer => exact h.beside catalog _ _

end CoursePlanner.Storage
