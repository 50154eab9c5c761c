import CoursePlanner.Storage.Ledger

namespace CoursePlanner.Storage

open Std Library Contracts
open Open (Sha256 isSha256Hex)
open Relation (ReflTransGen)

/-- The last-known-good columns of a target and its current section rows. -/
structure LastGoodRows where
  attemptId : Option TraceId
  observationSequence : Option Nat
  observedAt : Option Timestamp
  canonicalSetSha256 : Option String
  stateSha256 : Option String
  catalogContentVersion : Nat
  lastObservationSequence : Nat
  current : ExtTreeMap SectionIndex OpenSectionCurrent

/-- A target without a batch row reads as one with the column defaults. -/
def TargetTables.lastGood (tables : TargetTables) : LastGoodRows :=
  let batch := tables.batch.getD .new
  { attemptId := batch.lkgAttemptId
    observationSequence := batch.lkgObservationSequence
    observedAt := batch.lkgObservedAt
    canonicalSetSha256 := batch.lkgCanonicalSetSha256
    stateSha256 := batch.lkgStateSha256
    catalogContentVersion := batch.currentCatalogContentVersion
    lastObservationSequence := batch.lastObservationSequence
    current := tables.current }

section Writes

variable [Sha256] {pol : WritePolicy} {sc : WriteScope} {bef after : TargetTables}

theorem TargetTables.pruned_lastGood (consistent : bef.Consistent pol) (rr pl : Nat) :
    (bef.pruneOpenDiagnostics rr pl).lastGood=bef.lastGood := by
  have current := consistent.pruned_current rr pl
  unfold lastGood
  rw [current]
  rfl

/-- Only an applied response changes the last-known-good rows. -/
theorem TargetWrite.lastGood (write : TargetWrite pol sc bef after)
    (consistent : bef.Consistent pol) (never : ∀id,¬sc.applies id) :
    after.lastGood=bef.lastGood := by
  cases write with
  | inserted | published => rfl
  | retired _ _ _ _ _ _ _ _ _ _ _ held _ _ counted =>
    obtain ⟨daily,run,-,-,rfl⟩ := TargetTables.incrementFinalCounters_ok counted
    unfold TargetTables.lastGood
    rw [held]
    rfl
  | applied _ _ _ _ _ _ _ _ _ _ applies =>
    exact absurd applies (never _)
  | pruned rr pl positive retains =>
    exact TargetTables.pruned_lastGood consistent rr pl

theorem writes_lastGood (writes : ReflTransGen (TargetWrite pol sc) bef after)
    (consistent : bef.Consistent pol) (never : ∀id,¬sc.applies id) :
    after.lastGood=bef.lastGood := by
  induction writes with
  | refl => rfl
  | tail writes write ih =>
    exact (write.lastGood (writes_consistent writes consistent) never).trans ih

omit [Sha256] in
/-- The newest rows of a filtered list contain those that the filter keeps. -/
theorem mem_take_filter {A : Type} {l : List A} {p : A → Bool} {n : Nat} {a : A}
    (h : a∈l.take n) (kept : p a=true) : a∈(l.filter p).take n := by
  have split : l.filter p=(l.take n).filter p++(l.drop n).filter p := by
    rw [← List.filter_append,List.take_append_drop]
  have short : ((l.take n).filter p).length ≤ n :=
    (List.length_filter_le _ _).trans (List.length_take_le n l)
  rw [split,List.take_append,List.take_of_length_le short]
  exact List.mem_append_left _ (List.mem_filter.mpr ⟨h,kept⟩)

variable {row : OpenAttempt}

omit [Sha256] in
theorem updateStarted_retained (tb : TargetTables) (attemptId : TraceId)
    {update : OpenAttempt → OpenAttempt} (same : ∀row,(update row).attemptId=row.attemptId)
    {n : Nat} (newest : row∈tb.attempts.reverse.take n) :
    ∃kept∈(tb.updateStarted attemptId update).attempts.reverse.take n,
      kept.attemptId=row.attemptId := by
  change ∃kept∈(tb.attempts.map _).reverse.take n,_
  rw [← List.map_reverse,← List.map_take]
  refine ⟨_,List.mem_map_of_mem newest,?_⟩
  split
  · exact same row
  · rfl

/-- Without a begin, the newest rows stay the newest. -/
theorem TargetWrite.retained (write : TargetWrite pol sc bef after)
    (consistent : bef.Consistent pol) (never : ∀id,¬sc.begins id)
    (newest : row∈bef.attempts.reverse.take sc.retains) :
    ∃kept∈after.attempts.reverse.take sc.retains,kept.attemptId=row.attemptId := by
  cases write with
  | inserted _ _ _ begins =>
    exact absurd begins (never _)
  | retired _ _ _ _ _ _ _ _ _ _ _ _ retires _ counted =>
    obtain ⟨daily,run,-,-,rfl⟩ := TargetTables.incrementFinalCounters_ok counted
    exact updateStarted_retained bef _ (fun row => (retires.start row).attemptId) newest
  | applied _ att _ _ _ _ _ _ _ _ _ _ _ _ _ _ _ _ _ _ counted =>
    obtain ⟨daily,run,-,-,rfl⟩ := TargetTables.incrementFinalCounters_ok counted
    refine updateStarted_retained bef att.attemptId ?_ newest
    exact fun row => rfl
  | pruned rr pl positive retains =>
    have listed : row∈bef.attempts := List.mem_reverse.mp (List.mem_of_mem_take newest)
    have kept : bef.keeps rr pl row=true := by
      by_contra gone
      exact (consistent.pruned_row listed (Bool.eq_false_iff.mpr gone)).2.2
        ((List.take_subset_take_left _ retains) newest)
    refine ⟨row,?_,rfl⟩
    change row∈(bef.attempts.filter (bef.keeps rr pl)).reverse.take _
    rw [← List.filter_reverse]
    exact mem_take_filter newest kept
  | published catalog newer => exact ⟨row,newest,rfl⟩

theorem writes_retained (writes : ReflTransGen (TargetWrite pol sc) bef after)
    (consistent : bef.Consistent pol) (never : ∀id,¬sc.begins id)
    (newest : row∈bef.attempts.reverse.take sc.retains) :
    ∃kept∈after.attempts.reverse.take sc.retains,kept.attemptId=row.attemptId := by
  induction writes with
  | refl => exact ⟨row,newest,rfl⟩
  | tail writes write ih =>
    obtain ⟨middle,member,same⟩ := ih
    obtain ⟨kept,last,equal⟩ := write.retained (writes_consistent writes consistent) never member
    exact ⟨kept,last,equal.trans same⟩

end Writes

/-- The last-known-good rows are those of an attempt and cover its Catalog. -/
structure AppliedRows (attempt : OpenAttempt) (sequence : Nat) (completedAt : Timestamp)
    (rows : LastGoodRows) : Prop where
  attemptId : rows.attemptId=some attempt.attemptId
  observationSequence : rows.observationSequence=some sequence
  observedAt : rows.observedAt=some completedAt
  catalogContentVersion : rows.catalogContentVersion=attempt.capturedCatalogContentVersion
  lastObservationSequence : rows.lastObservationSequence=sequence
  covers : ∀index,index∈rows.current ↔ index∈attempt.catalogSections
  carries : ∀(index : SectionIndex) entry,rows.current[index]?=some entry →
    entry.attemptId=attempt.attemptId ∧ entry.observationSequence=sequence ∧
      entry.catalogContentVersion=attempt.capturedCatalogContentVersion ∧
      entry.observedAt=completedAt

/-- What a success leaves in the rows of its target and of the others. -/
structure Database.Applies (db after : Database) (outcome : OpenCommitOutcome)
    (completedAt : Timestamp) (target : TermCampusKey) (attempt : OpenAttempt) : Prop where
  listed : attempt∈(db.tables target).attempts
  named : attempt.attemptId=outcome.attemptId
  started : attempt.classification=.started
  sequence : outcome.observationSequence=
    some ((db.tables target).lastGood.lastObservationSequence+1)
  rows : AppliedRows attempt ((db.tables target).lastGood.lastObservationSequence+1) completedAt
    (after.tables target).lastGood
  others : ∀other,other≠target → (after.tables other).lastGood=(db.tables other).lastGood

/-- Everything but a success. -/
def StorageScope.unapplied : StorageScope :=
  ⟨fun _ => ⟨fun _ => True,fun _ => True,fun _ => False,0⟩,fun _ => True⟩

/-- Everything but a begin, with the number of rows that is kept. -/
def StorageScope.retaining (retention : Nat) : StorageScope :=
  ⟨fun _ => ⟨fun _ => False,fun _ => True,fun _ => True,retention⟩,fun _ => True⟩

namespace Database

variable [Sha256] {db : Database}

variable {after : Database} {cmd : FinishOpenPullSuccessCommand} {outcome : OpenCommitOutcome}
    {t : TermCampusKey}

theorem finishCompared_success {tables : TargetTables} {batch : OpenBatchState}
    {attempt : OpenAttempt} {response : CanonicalOpenResponse} {accept : Bool}
    (h : finishCompared db t tables batch attempt cmd response accept=
      .ok (outcome,after)) (success : outcome.classification.isSuccess=true) :
    finishApplied db t tables batch attempt cmd
      (compareOpenResponse batch attempt response) outcome.classification=.ok (outcome,after) := by
  obtain ⟨cls,-,⟨-,done⟩ | ⟨_,_,_,-,unapplied,-,rfl,-⟩⟩ := finishCompared_cases h
  · rw [finishApplied_classification done]
    exact done
  · exact absurd success (Bool.eq_false_iff.mp unapplied)

theorem applyResponse_rows (tb : TargetTables) (batch : OpenBatchState)
    (att : OpenAttempt) (cmd : FinishOpenPullSuccessCommand)
    (resp : CanonicalOpenResponse) (t : TermCampusKey)
    (cls : OpenAttemptClassification) :
    AppliedRows att (batch.lastObservationSequence+1) cmd.completedAt
      (tb.applyResponse batch att cmd resp (appliedObservation t batch
        att cmd.completedAt resp cls)).lastGood := by
  refine ⟨rfl,rfl,rfl,rfl,rfl,?_,?_⟩
  · intro index
    change index∈(intendedStates att resp).map _ ↔ _
    rw [ExtTreeMap.mem_map]
    exact mem_intendedStates att resp index
  · intro index entry found
    change ((intendedStates att resp).map _)[index]?=some entry at found
    rw [ExtTreeMap.getElem?_map] at found
    obtain ⟨state,-,rfl⟩ := Option.map_eq_some_iff.mp found
    exact ⟨rfl,rfl,rfl,rfl⟩

/-- A success replaces the last-known-good rows of its target and of no other one. -/
theorem finishOpenPullSuccessTransaction_applied {pol : WritePolicy}
    (consistent : ∀t,(db.tables t).Consistent pol) {accept : Bool}
    (h : db.finishOpenPullSuccessTransaction cmd accept=.ok (outcome,after))
    (success : outcome.classification.isSuccess=true) :
    ∃t attempt,Applies db after outcome cmd.completedAt t attempt := by
  obtain ⟨-,t,tables,attempt,batch,response,loaded,-,canonical,-,done⟩ :=
    finishOpenPullSuccessTransaction_ok.mp h
  have applied := finishCompared_success done success
  obtain ⟨held,listed,-⟩ := loaded.rows
  have same := tables_eq held
  have hash := canonicalizeOpenResponse_hex canonical
  obtain ⟨seconds,watched,counted,-,-,-,counts,committed,answer⟩ := finishApplied_ok.mp applied
  have write : TargetWrite pol (StorageScope.all.target t) tables counted :=
    applyResponse_write loaded success hash trivial trivial counts
  have next := write.consistent (same ▸ consistent t)
  refine ⟨t,attempt,⟨same ▸ listed,?_,loaded.started,?_,?_,?_⟩⟩
  · rw [answer]
    rfl
  · rw [answer,same]
    unfold TargetTables.lastGood
    rw [loaded.held]
    rfl
  · have pruned : (after.tables t).lastGood=counted.lastGood := by
      rw [committed]
      change ((db.setTables t counted.pruneCommitted).tables t).lastGood=_
      rw [tables_setTables,if_pos rfl]
      exact TargetTables.pruned_lastGood next _ _
    have last : (db.tables t).lastGood.lastObservationSequence= batch.lastObservationSequence := by
      unfold TargetTables.lastGood
      rw [same,loaded.held]
      rfl
    obtain ⟨daily,run,-,-,rfl⟩ := TargetTables.incrementFinalCounters_ok counts
    rw [pruned,last]
    exact applyResponse_rows tables batch attempt cmd response t _
  · intro other apart
    rw [committed]
    change ((db.setTables t counted.pruneCommitted).tables other).lastGood=_
    rw [tables_setTables,if_neg (Ne.symm apart)]

def outcomeOf (db : Database) : StorageOperation → Option OpenCommitOutcome
  | .finishSuccess command => (db.finishOpenPullSuccess command).toOption.map Prod.fst
  | .finishCandidateSuccess observationId emptyDecision command =>
    (db.finishCandidateOpenPullSuccess observationId emptyDecision command).toOption.map
      (fun answer => answer.2.1)
  | .finishFailure command => (db.finishOpenPullFailure command).toOption.map Prod.fst
  | .finishCandidateFailure observationId command =>
    (db.finishCandidateOpenPullFailure observationId command).toOption.map Prod.fst
  | _ => none

def Succeeds (db : Database) (operation : StorageOperation) : Prop :=
  ∃outcome,db.outcomeOf operation=some outcome ∧ outcome.classification.isSuccess=true

omit [Sha256] in
theorem outcome_eq {A : Type} {result : StorageResult A} {project : A → OpenCommitOutcome}
    (h : result.toOption.map project=some outcome) :
    ∃answer,result=.ok answer ∧ project answer=outcome := by
  cases result with
  | error error => cases h
  | ok answer => exact ⟨answer,rfl,Option.some.inj h⟩

variable {op : StorageOperation}

theorem allowed_unapplied (h : ¬db.Succeeds op) : op.Allowed .any .unapplied db := by
  cases op with
  | beginPull | beginCandidatePull => exact ⟨trivial,trivial⟩
  | finishSuccess cmd =>
    refine ⟨?_,trivial,fun _ => trivial⟩
    intro outcome after done t row listed named
    refine ⟨trivial,Nat.zero_le _,fun success => h ⟨outcome,?_,success⟩⟩
    unfold outcomeOf
    simp only [done]
    rfl
  | finishCandidateSuccess =>
    refine ⟨trivial,?_,trivial,fun _ => trivial⟩
    intro catalog outcome after done t row listed named
    refine ⟨trivial,Nat.zero_le _,fun success => h ⟨outcome,?_,success⟩⟩
    unfold outcomeOf
    simp only [done]
    rfl
  | finishFailure cmd =>
    exact ⟨fun _ _ _ _ => ⟨trivial,Nat.zero_le _,False.elim⟩,trivial⟩
  | finishCandidateFailure =>
    exact ⟨trivial,fun _ _ _ _ => ⟨trivial,Nat.zero_le _,False.elim⟩,trivial⟩
  | restart now => exact ⟨fun _ => trivial,fun _ _ => trivial,trivial⟩
  | prune t rr => exact Nat.zero_le rr
  | _ => trivial

/-- Nothing but a success changes the last-known-good rows. -/
theorem perform_lastGood (consistent : db.Consistent .any) (h : ¬db.Succeeds op)
    (t : TermCampusKey) :
    ((db.perform op).2.tables t).lastGood=(db.tables t).lastGood :=
  writes_lastGood ((perform_evolves (allowed_unapplied h) consistent.tables).tables t)
    (consistent.tables t) (fun _ applies => applies)

def completedAt : StorageOperation → Option Timestamp
  | .finishSuccess command => some command.completedAt
  | .finishCandidateSuccess _ _ command => some command.completedAt
  | .finishFailure command => some command.completedAt
  | .finishCandidateFailure _ command => some command.completedAt
  | _ => none

omit [Sha256] in
theorem publishStaged_lastGood {oid : TraceId} {emptyDecision : EmptySnapshotDecision}
    {outcome : PublishOutcome}
    (h : db.publishStaged oid emptyDecision=.ok (outcome,after)) (t : TermCampusKey) :
    (after.tables t).lastGood=(db.tables t).lastGood := by
  obtain ⟨staged,tb,-,held,⟨rfl,-⟩ | ⟨rfl,-,-⟩⟩ := publishStaged_cases h
  · rfl
  rw [tables_setTables]
  split
  · next same =>
    rw [← same,tables_eq held]
    rfl
  · rfl

theorem perform_applied (consistent : db.Consistent .any)
    (known : db.outcomeOf op=some outcome) (success : outcome.classification.isSuccess=true) :
    ∃time t attempt,completedAt op=some time ∧
      Applies db (db.perform op).2 outcome time t attempt := by
  cases op with
  | finishSuccess cmd =>
    obtain ⟨⟨_,after⟩,done,rfl⟩ := outcome_eq known
    obtain ⟨t,attempt,applies⟩ :=
      finishOpenPullSuccessTransaction_applied consistent.tables done success
    refine ⟨_,t,attempt,rfl,?_⟩
    unfold perform
    simp only [done]
    exact applies
  | finishCandidateSuccess observationId emptyDecision cmd =>
    obtain ⟨⟨catalog,_,after⟩,done,rfl⟩ := outcome_eq known
    have performed : (db.perform (.finishCandidateSuccess observationId emptyDecision
        cmd)).2=after := by
      unfold perform
      simp only [done]
      rfl
    rw [performed]
    obtain ⟨t,tables,attempt,base,-,-,-,-,⟨_,published,publishes,-,finishes⟩ |
      ⟨final,finishes,rfl⟩⟩ := finishCandidateOpenPullSuccess_cases done
    · have publishing : db.Evolves .any .all published := publishStaged_evolves trivial publishes
      obtain ⟨t,attempt,applies⟩ := finishOpenPullSuccessTransaction_applied
        (fun t => writes_consistent (publishing.tables t) (consistent.tables t))
        finishes success
      have kept := publishStaged_lastGood publishes
      refine ⟨_,t,attempt,rfl,?_,applies.named,applies.started,?_,?_,?_⟩
      · rw [← publishStaged_attempts publishes]
        exact applies.listed
      · rw [← kept]
        exact applies.sequence
      · rw [← kept]
        exact applies.rows
      · intro other apart
        rw [← kept]
        exact applies.others other apart
    · obtain ⟨t,attempt,applies⟩ :=
        finishOpenPullSuccessTransaction_applied consistent.tables finishes success
      exact ⟨_,t,attempt,rfl,{ applies with }⟩
  | finishFailure cmd =>
    obtain ⟨⟨_,after⟩,done,rfl⟩ := outcome_eq known
    obtain ⟨-,-,-,t,tables,attempt,batch,finalized,-,-,-,rfl,-⟩ :=
      finishOpenPullFailureTransaction_ok.mp done
    cases success
  | finishCandidateFailure =>
    obtain ⟨⟨_,after⟩,done,rfl⟩ := outcome_eq known
    unfold finishCandidateOpenPullFailure at done
    simp only [bind_ok,ensure_ok,exists_const] at done
    obtain ⟨-,-,-,⟨committed,final⟩,finishes,staged,-,done⟩ := done
    cases done
    obtain ⟨-,-,-,t,tables,attempt,batch,finalized,-,-,-,rfl,-⟩ :=
      finishOpenPullFailureTransaction_ok.mp finishes
    cases success
  | _ => cases known

variable {row : OpenAttempt}

omit [Sha256] in
theorem begin_retained {cmd : BeginOpenPullAttemptCommand}
    {candidate : Option CatalogCandidateOpenSnapshot} {sequence : Nat}
    (h : db.beginOpenPullAttemptWithCatalog cmd candidate=.ok (sequence,after))
    (listed : row∈(db.tables t).attempts) : row∈(after.tables t).attempts := by
  rcases begin_cases h with ⟨_,_,_,_,_,_,rfl⟩ | ⟨sections,tb,begun,-,rfl⟩
  · exact listed
  rw [tables_setTables]
  split
  · next same =>
    subst same
    rw [tables_eq begun.held] at listed
    exact List.mem_append_left _ listed
  · exact listed

/-- Every operation keeps the newest attempts of a target. -/
theorem perform_retained (consistent : db.Consistent .any) (op : StorageOperation)
    (newest : row∈(db.tables t).newestFirst.take (retention op)) :
    ∃kept∈((db.perform op).2.tables t).attempts,kept.attemptId=row.attemptId := by
  rw [TargetTables.newestFirst_eq (consistent.tables t).ordered] at newest
  have listed := List.mem_reverse.mp (List.mem_of_mem_take newest)
  rcases perform_begins_or_settles op.keeps_any with ⟨_,_,_,_,done⟩ | same | settles
  · exact ⟨row,begin_retained done listed,rfl⟩
  · exact ⟨row,by rw [same]; exact listed,rfl⟩
  have allowed : op.Allowed .any (.retaining (retention op)) db :=
    op.keeps_any.allowed ⟨fun _ => trivial,fun _ _ => trivial,fun _ _ => trivial,
      fun _ => Nat.le_refl _⟩ (fun _ id begins => absurd begins (settles id))
  obtain ⟨kept,member,same⟩ := writes_retained
    ((perform_evolves allowed consistent.tables).tables t) (consistent.tables t)
    (fun _ begins => begins) newest
  exact ⟨kept,List.mem_reverse.mp (List.mem_of_mem_take member),same⟩

/-- A prune step that would keep nothing is refused, and the attempt in flight is the
newest one, so it stays. -/
theorem perform_started (consistent : db.Consistent .any) (op : StorageOperation)
    (listed : row∈(db.tables t).attempts) (started : row.classification=.started) :
    ∃kept∈((db.perform op).2.tables t).attempts,kept.attemptId=row.attemptId := by
  by_cases refused : retention op=0
  · cases op with
    | prune other retainRecent =>
      have zero : retainRecent=0 := refused
      subst zero
      exact ⟨row,listed,rfl⟩
    | _ => cases refused
  · apply perform_retained consistent op
    have tables := consistent.tables t
    obtain ⟨batch,held⟩ := Option.ne_none_iff_exists'.mp (tables.batch_ne_none row listed)
    obtain ⟨past,last,filled⟩ := tables.filled batch held
    rw [filled.rows,List.mem_append,List.mem_singleton] at listed
    have newest := listed.resolve_left (fun earlier => filled.settled row earlier started)
    obtain ⟨n,positive⟩ := Nat.exists_eq_succ_of_ne_zero refused
    rw [TargetTables.newestFirst_eq tables.ordered,filled.rows,List.reverse_append,positive,newest]
    exact List.mem_cons_self

/-- The last-known-good rows of every run: a success replaces those of its target with its
own and the next sequence, nothing else changes them, and pruning keeps the attempt in
flight, the last-known-good one with its observation and the newest ones. -/
theorem lastGood_replaced_by_successes (operations : List StorageOperation)
    (operation : StorageOperation) :
    let db := run Database.perform Database.new operations
    let after := (db.perform operation).2
    (¬db.Succeeds operation → ∀target,(after.tables target).lastGood=(db.tables target).lastGood) ∧
    (∀outcome,db.outcomeOf operation=some outcome → outcome.classification.isSuccess=true →
      ∃time target attempt,completedAt operation=some time ∧
        Applies db after outcome time target attempt) ∧
    (∀target attemptId,(db.tables target).lastGood.attemptId=some attemptId →
      ∃row∈(db.tables target).attempts,∃observation,row.attemptId=attemptId ∧
        row.observation=some observation ∧
        (db.tables target).lastGood.observationSequence= some observation.observationSequence) ∧
    (∀target,∀row∈(db.tables target).attempts,row.classification=.started →
      ∃kept∈(after.tables target).attempts,kept.attemptId=row.attemptId) ∧
    ∀target,∀row∈(db.tables target).newestFirst.take (retention operation),
      ∃kept∈(after.tables target).attempts,kept.attemptId=row.attemptId := by
  have consistent := consistent_any operations
  refine ⟨fun h target => perform_lastGood consistent h target,?_,?_,?_,?_⟩
  · exact fun outcome known success => perform_applied consistent known success
  · intro target attemptId named
    have tables := consistent.tables target
    unfold TargetTables.lastGood at named ⊢
    cases held : ((run Database.perform Database.new operations).tables target).batch with
    | none =>
      rw [held] at named
      cases named
    | some batch =>
      rw [held] at named
      obtain ⟨past,last,filled⟩ := tables.filled batch held
      rcases filled.good with never | ⟨row,observation,good⟩
      · change batch.lkgAttemptId=_ at named
        rw [never.attemptId] at named
        cases named
      · change batch.lkgAttemptId=_ at named
        rw [good.named] at named
        exact ⟨row,good.listed,observation,Option.some.inj named,good.observed,good.sequence⟩
  · exact fun target row listed started => perform_started consistent operation listed started
  · exact fun target row newest => perform_retained consistent operation newest

end Database

end CoursePlanner.Storage
