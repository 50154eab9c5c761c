import CoursePlanner.Storage.Capture

namespace CoursePlanner.Storage

open Std Library Contracts
open Open (Sha256 isSha256Hex)

/-- Removing the first elements with a property, by their keys, leaves the ones without it
and then a whole rest. -/
theorem filter_not_taken {A K : Type} [DecidableEq K] (key : A → K) (p : A → Bool)
    (l : List A) (n : Nat) (distinct : (l.map key).Nodup) :
    ∃old recent,l=old++recent ∧
      l.filter (fun a => !(((l.filter p).take n).map key).contains (key a))=
        old.filter (fun a => !p a)++recent := by
  induction l generalizing n with
  | nil => exact ⟨[],[],rfl,rfl⟩
  | cons a l ih =>
    obtain ⟨alone,rest⟩ := List.nodup_cons.mp (List.map_cons ▸ distinct)
    have others : ∀b∈l,key b≠key a := by
      intro b mem same
      exact alone (same ▸ List.mem_map_of_mem mem)
    cases n with
    | zero => exact ⟨[],a::l,rfl,by simp⟩
    | succ n =>
      by_cases chosen : p a=true
      · obtain ⟨old,recent,split,left⟩ := ih n rest
        refine ⟨a::old,recent,congrArg (List.cons a) split,?_⟩
        have kept : l.filter (fun b => !((key a::((l.filter p).take n).map key).contains
            (key b)))=l.filter (fun b => !(((l.filter p).take n).map key).contains (key b)) := by
          apply List.filter_congr
          intro b mem
          simp [others b mem]
        simp only [List.filter_cons,chosen,if_true,List.take_succ_cons,List.map_cons]
        rw [kept,left]
        simp
      · obtain ⟨old,recent,split,left⟩ := ih (n+1) rest
        refine ⟨a::old,recent,congrArg (List.cons a) split,?_⟩
        have unlisted : key a∉((l.filter p).take (n+1)).map key := by
          intro listed
          obtain ⟨b,mem,same⟩ := List.mem_map.mp listed
          exact others b (List.mem_filter.mp (List.mem_of_mem_take mem)).1 same
        have kept : ((((l.filter p).take (n+1)).map key).contains (key a))=false := by
          rw [← Bool.not_eq_true,List.contains_iff_mem]
          exact unlisted
        have missed : p a=false := Bool.eq_false_iff.mpr chosen
        have skipped : (a::l).filter p=l.filter p := List.filter_cons_of_neg chosen
        rw [skipped,List.filter_cons,kept,left]
        simp [missed]

/-- What a prune step leaves of settled rows: the newer ones as they were, and of the older
ones only some that were applied. -/
def Thinned (rows kept : List OpenAttempt) : Prop :=
  ∃old recent keep,rows=old++recent ∧ kept=old.filter keep++recent ∧
    ∀row∈old,keep row=true → row.classification.isSuccess=true

def TargetTables.prunable (tables : TargetTables) (retainRecent : Nat) (row : OpenAttempt) : Bool :=
  row.classification≠.started &&
    some row.attemptId≠tables.batch.bind OpenBatchState.lkgAttemptId &&
    !((tables.newestFirst.take retainRecent).map OpenAttempt.attemptId).contains row.attemptId

namespace TargetTables.Consistent

variable [Sha256] {policy : WritePolicy} {tb : TargetTables}

theorem success_of_not_prunable (h : tb.Consistent policy) {rr : Nat}
    {row : OpenAttempt} (listed : row∈tb.attempts) (settled : row.classification≠.started)
    (old : row∉tb.attempts.reverse.take rr)
    (kept : prunable tb rr row=false) : row.classification.isSuccess=true := by
  have unlisted : row.attemptId∉ (tb.newestFirst.take rr).map OpenAttempt.attemptId := by
    rw [newestFirst_eq h.ordered]
    intro mem
    obtain ⟨other,recent,same⟩ := List.mem_map.mp mem
    have found := List.mem_reverse.mp (List.mem_of_mem_take recent)
    rw [h.unique found listed same] at recent
    exact old recent
  have named : some row.attemptId=tb.batch.bind OpenBatchState.lkgAttemptId := by
    by_contra apart
    apply unlisted
    simpa [prunable,settled,apart] using kept
  cases held : tb.batch with
  | none =>
    rw [held] at named
    cases named
  | some batch =>
    rw [held] at named
    have named : batch.lkgAttemptId=some row.attemptId := named.symm
    obtain ⟨past,last,facts⟩ := h.filled batch held
    rcases facts.good with never | ⟨good,observation,lkg⟩
    · rw [never.attemptId] at named
      cases named
    have same : good.attemptId=row.attemptId := Option.some.inj (lkg.named.symm.trans named)
    rw [← h.unique lkg.listed listed same]
    exact lkg.success

/-- The prune step of a finish keeps the newest row and thins the others. -/
theorem pruneCommitted_thinned (h : tb.Consistent policy) {past : List OpenAttempt}
    {last : OpenAttempt} (rows : tb.attempts=past++[last])
    (settled : ∀row∈past,row.classification≠.started) :
    ∃kept,tb.pruneCommitted.attempts=kept++[last] ∧ Thinned past kept := by
  -- The newest rows are out of reach; the older ones lose their first prunable ones.
  let bound := tb.attempts.length-openDiagnosticRetentionPerTarget
  let older := tb.attempts.take bound
  let newer := tb.attempts.drop bound
  have whole : tb.attempts=older++newer := (List.take_append_drop bound _).symm
  have newest : tb.attempts.reverse.take openDiagnosticRetentionPerTarget=newer.reverse :=
    List.take_reverse
  have distinct := h.distinct
  rw [whole,List.map_append,List.nodup_append] at distinct
  obtain ⟨apart,-,disjoint⟩ := distinct
  have safe : ∀row∈newer,tb.prunable openDiagnosticRetentionPerTarget row=false := by
    intro row mem
    have recent : row.attemptId∈(tb.newestFirst.take openDiagnosticRetentionPerTarget).map
        OpenAttempt.attemptId := by
      rw [newestFirst_eq h.ordered,newest]
      exact List.mem_map_of_mem (List.mem_reverse.mpr mem)
    unfold prunable
    rw [List.contains_iff_mem.mpr recent]
    simp
  have chosen : tb.prunedAttempts openDiagnosticRetentionPerTarget
      openDiagnosticPruneAttemptsPerCommit=
      ((older.filter (tb.prunable openDiagnosticRetentionPerTarget)).take
        openDiagnosticPruneAttemptsPerCommit).map OpenAttempt.attemptId := by
    have none : newer.filter (tb.prunable openDiagnosticRetentionPerTarget)=[] :=
      List.filter_eq_nil_iff.mpr (fun row mem => by simp [safe row mem])
    change ((tb.oldestFirst.filter (tb.prunable openDiagnosticRetentionPerTarget)).take _).map _=_
    rw [oldestFirst_eq h.ordered,whole,List.filter_append,none,List.append_nil]
  obtain ⟨old,rest,split,left⟩ := filter_not_taken OpenAttempt.attemptId
    (tb.prunable openDiagnosticRetentionPerTarget) older
    openDiagnosticPruneAttemptsPerCommit apart
  have spared : newer.filter (fun row => !(((older.filter
      (tb.prunable openDiagnosticRetentionPerTarget)).take
        openDiagnosticPruneAttemptsPerCommit).map OpenAttempt.attemptId).contains
          row.attemptId)=newer := by
    rw [List.filter_eq_self]
    intro row mem
    rw [Bool.not_eq_true',← Bool.not_eq_true,List.contains_iff_mem]
    intro listed
    obtain ⟨other,taken,same⟩ := List.mem_map.mp listed
    have early := (List.mem_filter.mp (List.mem_of_mem_take taken)).1
    exact disjoint _ (List.mem_map_of_mem early) _ (List.mem_map_of_mem mem) same
  have pruned : tb.pruneCommitted.attempts=
      old.filter (fun row => !tb.prunable openDiagnosticRetentionPerTarget row)++rest++
        newer := by
    change tb.attempts.filter (fun row => !(tb.prunedAttempts _ _).contains _)=_
    rw [chosen]
    conv_lhs => rw [whole]
    rw [List.filter_append,left,spared]
  obtain ⟨init,ends⟩ : ∃init,newer=init++[last] := by
    have some : newer≠[] := by
      intro none
      have short : tb.attempts.length ≤ bound := List.drop_eq_nil_iff.mp none
      have long : tb.attempts.length=past.length+1 := by simp [rows]
      have : openDiagnosticRetentionPerTarget=256 := rfl
      omega
    refine ⟨newer.dropLast,?_⟩
    have final : newer.getLast some=last := by
      rw [List.getLast_drop]
      simp [rows]
    rw [← final,List.dropLast_append_getLast]
  have before : past=old++(rest++init) := by
    have both : past++[last]=(old++(rest++init))++[last] := by
      rw [← rows,whole,split,ends]
      simp
    exact List.append_cancel_right both
  refine ⟨old.filter (fun row => !tb.prunable openDiagnosticRetentionPerTarget row)++
    (rest++init),?_,old,rest++init,_,before,rfl,?_⟩
  · rw [pruned,ends]
    simp
  intro row mem kept
  have listed : row∈older := split ▸ List.mem_append_left rest mem
  have early : row∈tb.attempts := whole ▸ List.mem_append_left newer listed
  apply h.success_of_not_prunable early
  · exact settled row (before ▸ List.mem_append_left _ mem)
  · rw [newest,List.mem_reverse]
    intro late
    exact disjoint _ (List.mem_map_of_mem listed) _ (List.mem_map_of_mem late) rfl
  · exact (Bool.not_eq_true' _).mp kept

end TargetTables.Consistent

/-- A finish replaces the row in flight by a terminal one and thins the others. -/
structure Database.Settles (db after : Database) (target : TermCampusKey)
    (attempt settled : OpenAttempt) : Prop where
  started : attempt.classification=.started
  start : settled.SameStart attempt
  rows : ∃past kept,(db.tables target).attempts=past++[attempt] ∧
    (∀row∈past,row.classification≠.started) ∧
    (after.tables target).attempts=kept++[settled] ∧ Thinned past kept
  others : ∀other,target≠other → (after.tables other).attempts=(db.tables other).attempts

/-- The columns that a finish writes to the row of its attempt. -/
structure OpenAttempt.Finished (row : OpenAttempt) (completedAt : Timestamp)
    (classification : OpenAttemptClassification) (canonicalSetSha256 gate : Option String) :
    Prop where
  completedAt : row.completedAt=some completedAt
  classification : row.classification=classification
  canonical : row.canonicalSetSha256=canonicalSetSha256
  gate : row.gateCatalogSetIdentity=gate

namespace Database

variable [Sha256] {db : Database} {attemptId : TraceId} {t : TermCampusKey}
  {tb : TargetTables} {att : OpenAttempt} {batch : OpenBatchState}

namespace Settles

variable {after : Database} {settled : OpenAttempt}

omit [Sha256] in
theorem listed (h : db.Settles after t att settled) :
    att∈(db.tables t).attempts ∧ settled∈(after.tables t).attempts := by
  obtain ⟨past,kept,before,-,left,-⟩ := h.rows
  rw [before,left]
  exact ⟨by simp,by simp⟩

omit [Sha256] in
theorem of_attempts {published : Database} (h : published.Settles after t att settled)
    (same : ∀t,(published.tables t).attempts=(db.tables t).attempts) :
    db.Settles after t att settled := by
  obtain ⟨started,start,⟨past,kept,before,done,left,thinned⟩,others⟩ := h
  refine ⟨started,start,⟨past,kept,(same t).symm.trans before,done,left,thinned⟩,?_⟩
  exact fun other apart => (others other apart).trans (same other)

omit [Sha256] in
theorem discarding (h : db.Settles after t att settled) (oid : TraceId) :
    db.Settles (after.discardStaged oid) t att settled :=
  ⟨h.started,h.start,h.rows,h.others⟩

end Settles

variable {after : Database} {cmd : FinishOpenPullSuccessCommand} {oc : OpenCommitOutcome}

section

variable (consistent : (db.tables t).Consistent .any)
  (loaded : Loaded db attemptId t tb att batch)

include consistent loaded

theorem settles_of_update (update : OpenAttempt → OpenAttempt)
    (start : (update att).SameStart att) {counted : TargetTables}
    (rows : counted.attempts=(tb.updateStarted att.attemptId update).attempts)
    (valid : counted.Consistent .any)
    (left : ∀other,after.tables other=(db.setTables t counted.pruneCommitted).tables other) :
    db.Settles after t att (update att) := by
  obtain ⟨held,listed,-⟩ := loaded.rows
  rw [tables_eq held] at consistent
  obtain ⟨past,last,facts⟩ := consistent.filled batch loaded.held
  obtain ⟨rfl,updated⟩ := TargetTables.updateStarted_last facts.rows facts.settled listed
    loaded.started update
  obtain ⟨kept,pruned,thinned⟩ := valid.pruneCommitted_thinned (rows.trans updated) facts.settled
  refine ⟨loaded.started,start,⟨past,kept,?_,facts.settled,?_,thinned⟩,?_⟩
  · rw [tables_eq held]
    exact facts.rows
  · rw [left,tables_setTables,if_pos rfl]
    exact pruned
  · intro other apart
    rw [left,tables_setTables,if_neg apart]

theorem finalize_settles {ca : Timestamp}
    {cls : OpenAttemptClassification} {http : OpenHttpAuditMetadata}
    {resp : Option CanonicalOpenResponse} {code : String} {gate : Option String}
    {finalized : TargetTables} (terminal : cls≠.started)
    (unapplied : cls.isSuccess=false)
    (h : tb.finalizeNonAppliedAttempt att ca cls http resp code gate=.ok finalized) :
    ∃settled,db.Settles (db.setTables t finalized.pruneCommitted) t att settled ∧
      settled.Finished ca cls (resp.map CanonicalOpenResponse.canonicalSetSha256) gate := by
  have writes : Relation.ReflTransGen (TargetWrite .any (StorageScope.all.target t)) tb
      finalized := finalizeNonAppliedAttempt_writes loaded terminal unapplied trivial trivial h
  have valid : finalized.Consistent .any := by
    rw [tables_eq loaded.rows.1] at consistent
    exact writes_consistent writes consistent
  unfold TargetTables.finalizeNonAppliedAttempt at h
  simp only [bind_ok] at h
  obtain ⟨-,-,-,-,-,-,counts⟩ := h
  obtain ⟨daily,run,-,-,counted⟩ := TargetTables.incrementFinalCounters_ok counts
  let update := fun att => TargetTables.finalizeAttempt att ca cls http resp code gate
  have rows : finalized.attempts=(tb.updateStarted att.attemptId update).attempts := by
    rw [counted]
  refine ⟨update att,settles_of_update consistent loaded update ?_ rows valid (fun _ => rfl),?_⟩
  · exact ⟨rfl,rfl,rfl,rfl,rfl,rfl,rfl,rfl,rfl,rfl,rfl,rfl,rfl⟩
  · exact ⟨rfl,rfl,rfl,rfl⟩

theorem apply_settles {cmp : OpenComparison}
    {cls : OpenAttemptClassification} (success : cls.isSuccess=true)
    (can : isSha256Hex cmp.response.canonicalSetSha256=true)
    (h : finishApplied db t tb batch att cmd cmp cls= .ok (oc,after)) :
    ∃settled,db.Settles after t att settled ∧ settled.Finished cmd.completedAt cls
        (some cmp.response.canonicalSetSha256) cmd.gateCatalogSetIdentity := by
  obtain ⟨seconds,watched,counted,-,-,-,done,rfl,-⟩ := finishApplied_ok.mp h
  have write : TargetWrite .any (StorageScope.all.target t) tb counted :=
    applyResponse_write loaded success can trivial trivial done
  have valid : counted.Consistent .any := by
    rw [tables_eq loaded.rows.1] at consistent
    exact write.consistent consistent
  obtain ⟨daily,run,-,-,same⟩ := TargetTables.incrementFinalCounters_ok done
  let observation := appliedObservation t batch att cmd.completedAt cmp.response cls
  let update := fun row => appliedAttempt row cmd.completedAt cmd.http
    cmd.gateCatalogSetIdentity observation
  have rows : counted.attempts=(tb.updateStarted att.attemptId update).attempts := by
    rw [same]
    rfl
  refine ⟨update att,settles_of_update consistent loaded update ?_ rows valid (fun _ => rfl),?_⟩
  · exact ⟨rfl,rfl,rfl,rfl,rfl,rfl,rfl,rfl,rfl,rfl,rfl,rfl,rfl⟩
  · exact ⟨rfl,rfl,rfl,rfl⟩

end

theorem finishCompared_settles (consistent : (db.tables t).Consistent .any)
    (loaded : Loaded db attemptId t tb att batch) {resp : CanonicalOpenResponse}
    {accept : Bool} (can : isSha256Hex resp.canonicalSetSha256=true)
    (h : finishCompared db t tb batch att cmd resp accept= .ok (oc,after)) :
    ∃settled,db.Settles after t att settled ∧ settled.Finished cmd.completedAt oc.classification
        (some resp.canonicalSetSha256) (storedGate oc cmd) := by
  obtain ⟨cls,-,⟨success,done⟩ | ⟨code,changed,finalized,terminal,unapplied,-,rfl,done,rfl⟩⟩ :=
    finishCompared_cases h
  · obtain ⟨settled,settles,finished⟩ := apply_settles consistent loaded success can done
    refine ⟨settled,settles,?_⟩
    rw [storedGate,finishApplied_classification done,if_neg]
    · exact finished
    · rintro rfl
      cases success
  · exact finalize_settles consistent loaded terminal unapplied done

/-- What a finish of a response leaves in the storage. -/
structure FinishedWith (db after : Database) (command : FinishOpenPullSuccessCommand)
    (outcome : OpenCommitOutcome) (target : TermCampusKey) (attempt settled : OpenAttempt) :
    Prop where
  named : attempt.attemptId=command.attemptId
  settles : db.Settles after target attempt settled
  finished : settled.Finished command.completedAt outcome.classification
    (some (openSetSha256V1 (.ofList (command.openSections.map SectionKey.index))))
    (storedGate outcome command)

theorem finishOpenPullSuccessTransaction_settles (consistent : db.Consistent .any) {accept : Bool}
    (h : db.finishOpenPullSuccessTransaction cmd accept=.ok (oc,after)) :
    ∃t att settled,FinishedWith db after cmd oc t att settled := by
  obtain ⟨-,t,tb,att,batch,resp,loaded,-,can,-,done⟩ := finishOpenPullSuccessTransaction_ok.mp h
  obtain ⟨settled,settles,finished⟩ := finishCompared_settles (consistent.tables t) loaded
    (canonicalizeOpenResponse_hex can) done
  rw [(canonicalizeOpenResponse_ok.mp can).2.2] at finished
  exact ⟨t,att,settled,loaded.rows.2.2,settles,finished⟩

theorem finishCandidateOpenPullSuccess_settles (consistent : db.Consistent .any)
    {oid : TraceId} {emptyDecision : EmptySnapshotDecision}
    {catalog : Option PublishOutcome}
    (h : db.finishCandidateOpenPullSuccess oid emptyDecision cmd= .ok (catalog,oc,after)) :
    ∃t att settled,FinishedWith db after cmd oc t att settled := by
  obtain ⟨place,tb,row,base,-,-,-,-,⟨_,published,publishes,-,finishes⟩ | ⟨final,finishes,rfl⟩⟩ :=
    finishCandidateOpenPullSuccess_cases h
  · have evolves : db.Evolves .any .settling published := publishStaged_evolves trivial publishes
    have later := consistent.evolves evolves (fun _ _ begins => begins)
    obtain ⟨t,att,settled,named,settles,finished⟩ :=
      finishOpenPullSuccessTransaction_settles later finishes
    exact ⟨t,att,settled,named,settles.of_attempts (publishStaged_attempts publishes), finished⟩
  · obtain ⟨t,att,settled,named,settles,finished⟩ :=
      finishOpenPullSuccessTransaction_settles consistent finishes
    exact ⟨t,att,settled,named,settles.discarding oid,finished⟩

end Database

end CoursePlanner.Storage
