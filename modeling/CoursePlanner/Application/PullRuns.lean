import CoursePlanner.Application.OpenPull
import CoursePlanner.Open.Expectation
import CoursePlanner.Storage.Settle

namespace CoursePlanner.Application

open Std Library Contracts Storage Open
open ShortLockOpenPersistence (Waited reads_wait)

section Errors

variable {cmd : OpenPullCommand} {resp : OpenSectionsResponse}
  {out : OpenCommitOutcome}

end Errors

variable [Sha256]

theorem reconcileInputs_avoids (cap : Nat) (current : OpenCatalogSnapshot)
    (resp : OpenSectionsResponse) (t : TermCampusKey) :
    Avoids .reconcileDivergence (reconcileInputs cap current resp t) :=
  .bind (.required nofun) (fun _ => .bind (.mapError (fun _ => by nofun) _) (fun _ =>
    .bind (.mapError (fun _ => by nofun) _) (fun _ => .bind (.required nofun) (fun _ => .pure _))))

/-- A pull that is finished as a failure: the gate set stays, and its errors are those of
the storage or of the outcome. -/
theorem finishFailure_cases {cmd : OpenPullCommand} {failure : OpenPullFailure}
    {ca : OffsetDateTime} {completedAtText : Timestamp}
    {state after : PullState ShortLockOpenPersistence}
    {res : Except PullStop OpenPullExecution} (sound : state.persistence.db.Sound)
    (h : finishFailure cmd failure ca completedAtText state=(res,after)) :
    after.gates=state.gates ∧ after.persistence.db.Sound ∧
      ∀stop,res=.error stop → Ordinary stop := by
  have settled := finishFailure_sound sound (failureCommand cmd failure ca completedAtText)
  rcases attempt_call h with ⟨error,-,rfl,rfl⟩ | ⟨out,-,checked⟩
  · exact ⟨rfl,settled,stops_with (ordinary_storage error)⟩
  obtain ⟨same,rfl⟩ := Prod.mk.inj checked
  refine ⟨rfl,settled,?_⟩
  intro stop ended
  obtain ⟨error,failed,rfl⟩ := mapError_error (same.trans ended)
  refine ⟨error,rfl,?_⟩
  rintro rfl
  revert failed
  change Avoids _ _
  exact .bind (.ensure nofun) (fun _ => .bind (.ensure nofun) (fun _ => .pure _))

/-- A storage that its operations lead to, and a gate set that its pulls lead to. -/
structure PullSystem.Sound (system : PullSystem) : Prop where
  db : system.db.Sound
  filed : system.gates.Filed

namespace OpenPull

variable [RutgersCalendar] {pull : OpenPull} {sys : PullSystem}

structure Reconciled (pull : OpenPull) (system : PullSystem) (reconciling : Reconciling)
    (row : OpenAttempt) : Prop where
  begun : Begun pull.command reconciling.captured (pull.opened system).persistence
    reconciling.begun.persistence row
  snapshot : ShortLockOpenPersistence.servingOpenCatalogSnapshot pull.command.target
    reconciling.begun.persistence=(.ok (some reconciling.current),reconciling.read.persistence)
  gates : reconciling.read.gates=system.gates
  inputs : reconcileInputs reconciling.captured reconciling.current reconciling.response
    pull.command.target=.ok reconciling.inputs

variable {rc : Reconciling} {row : OpenAttempt}

theorem reconciling_reconciled (sound : sys.db.Sound) (h : pull.reconciling sys=some rc) :
    ∃row,Reconciled pull sys rc row := by
  obtain ⟨begins,-,-,-,-,called,reconciled⟩ := reconciling_some h
  have started : (pull.opened sys).persistence.db.Sound := sound
  obtain ⟨kept,⟨_,same,-⟩ | ⟨cap,row,same,begun⟩⟩ := beginPull_cases started begins
  · cases same
  cases same
  obtain ⟨answered,gates⟩ := call_ok called
  exact ⟨row,begun,answered,gates.trans kept,reconciled⟩

omit [RutgersCalendar] in
theorem snapshot_target {target : TermCampusKey}
    {persistence read : ShortLockOpenPersistence} {current : OpenCatalogSnapshot}
    (h : ShortLockOpenPersistence.servingOpenCatalogSnapshot target persistence=
      (.ok (some current),read)) : current.target=target := by
  unfold ShortLockOpenPersistence.servingOpenCatalogSnapshot at h
  split at h
  · next context held =>
    split at h
    · cases h
    · next own =>
      cases h
      exact not_not.mp own
  · rcases ShortLockOpenPersistence.withStorage_cases h with ⟨_,failed,-⟩ | ⟨_,db,answered,reads,-⟩
    · cases failed
    · cases answered
      have shown := congrArg Prod.fst (Except.ok.inj reads)
      rw [(servingSnapshot_some shown).1]

omit [RutgersCalendar] in
theorem Reconciled.same_target (facts : Reconciled pull sys rc row) :
    rc.inputs.openSet.target=rc.inputs.catalog.target := by
  obtain ⟨-,owned,-,-,evidence⟩ := reconcileInputs_ok facts.inputs
  obtain ⟨-,same⟩ := OpenSetEvidence.tryNew_ok.mp evidence
  rw [owned,snapshot_target facts.snapshot,same]

omit [RutgersCalendar] in
theorem Reconciled.planned (facts : Reconciled pull sys rc row) (gateHold : Bool) :
    ∃plan,reconcileOpenSet rc.inputs.captured rc.inputs.catalog
      rc.inputs.openSet gateHold=.ok plan := by
  obtain ⟨-,-,-,sections,-⟩ := reconcileInputs_ok facts.inputs
  have target := facts.same_target
  by_cases raced : rc.inputs.captured=rc.inputs.catalog.contentVersion
  · rw [raced]
    obtain ⟨_,planned,-⟩ := reconcileOpenSet_current target sections gateHold
    exact ⟨_,planned⟩
  · exact ⟨_,reconcileOpenSet_raced target raced gateHold⟩

theorem answer_cases (sound : sys.Sound) (h : pull.reconciling sys=some rc)
    {res : Except PullStop (Option Gated)} {state : PullState ShortLockOpenPersistence}
    (answered : pull.answer rc=(res,state)) :
    Waited rc.read.persistence state.persistence ∧
    (∀stop,res=.error stop → ∃error,stop=.error (.storage error)) ∧
    (((pull.command.gate=none ∨ rc.inputs.isHardReject) ∧ res=.ok none ∧ state.gates=sys.gates) ∨
      ∃route,pull.command.gate=some route ∧ ¬rc.inputs.isHardReject ∧
        Prepares rc.inputs pull.completedAt route sys.gates state.gates ∧
        ∀gated,res=.ok gated → ∃decided rt,gated=some decided ∧ decided.route=route ∧
          Decided rc.inputs pull.completedAt state.gates decided rt) := by
  obtain ⟨row,facts⟩ := reconciling_reconciled sound.db h
  have keyed := sound.filed.keyed
  rw [← facts.gates] at keyed ⊢
  exact decideGate_cases reads_wait keyed answered

omit [RutgersCalendar] in
theorem commit_stored {cmd : OpenPullCommand} {cap : Nat}
    {start begun last after : ShortLockOpenPersistence} {finish : FinishOpenPullSuccessCommand}
    {out : OpenCommitOutcome} (facts : Begun cmd cap start begun row)
    (spares : Spares cmd.attemptId start) (waited : Waited begun last)
    (own : finish.attemptId=cmd.attemptId)
    (done : ShortLockOpenPersistence.finishOpenPullSuccess finish last=(.ok out,after)) :
    ∃att settled,Database.FinishedWith last.reached after.db finish out cmd.target
      att settled ∧ att.SameStart row := by
  have turn := waited.trans (ShortLockOpenPersistence.reached_waited last)
  have reached : last.reached.Sound := (waited_sound turn facts.sound :)
  obtain ⟨t,att,settled,finished⟩ : ∃t att settled,
      Database.FinishedWith last.reached after.db finish out t att settled := by
    rcases finish_ok done with ⟨-,committed⟩ | ⟨context,catalog,-,committed⟩
    · exact Database.finishOpenPullSuccessTransaction_settles reached.consistent committed
    · exact Database.finishCandidateOpenPullSuccess_settles reached.consistent committed
  have evolves := waited_sparing turn (spares.of_others facts.others) facts.sound
  obtain ⟨rfl,same⟩ := Database.spared_row facts.sound.consistent evolves facts.listed
    facts.named finished.settles.listed.1 (finished.named.trans own)
  exact ⟨att,settled,finished,same⟩

inductive Ends (pull : OpenPull) (system : PullSystem) :
    Except PullStop OpenPullExecution → PullSystem → Prop
  | stopped (stop : PullStop) (after : PullSystem) (ordinary : Ordinary stop)
      (sound : after.db.Sound) (gates : after.gates=pull.preparedGates system)
      (uncommitted : pull.commitment system=none) : Ends pull system (.error stop) after
  | failed (execution : OpenPullExecution) (after : PullSystem) (sound : after.db.Sound)
      (gates : after.gates=system.gates) (unreconciled : pull.reconciling system=none) :
      Ends pull system (.ok execution) after
  | committed (reconciling : Reconciling) (gated : Option Gated)
      (state : PullState ShortLockOpenPersistence) (plan : OpenReconcilePlan)
      (outcome : OpenCommitOutcome) (db : Database)
      (reconciled : pull.reconciling system=some reconciling)
      (answered : pull.answer reconciling=(.ok gated,state))
      (planned : reconcileOpenSet reconciling.inputs.captured reconciling.inputs.catalog
        reconciling.inputs.openSet (gateHolds gated)=.ok plan)
      (committed : pull.commitment system=some outcome)
      (matched : Matched reconciling.captured reconciling.current plan outcome)
      (sound : db.Sound) (attempt settled : OpenAttempt)
      (stored : Database.FinishedWith state.persistence.reached db
        (pull.commitCommand reconciling gated) outcome pull.command.target attempt settled) :
      Ends pull system ((executed pull.command reconciling.response plan outcome
        (.ofList pull.watched)).mapError .error) ⟨db,state.gates.settled gated outcome⟩

theorem execute_unreconciled (sound : sys.Sound) (h : pull.reconciling sys=none) :
    Ends pull sys (pull.execute sys).1 (pull.execute sys).2 := by
  have prepared : pull.preparedGates sys=sys.gates := by
    unfold preparedGates
    rw [h]
  have uncommitted : pull.commitment sys=none := by
    unfold commitment
    rw [h]
  -- Everything that is left to show for an end without a commit.
  have ends : ∀(rs : Except PullStop OpenPullExecution)
      (state : PullState ShortLockOpenPersistence),state.gates=sys.gates →
      state.persistence.db.Sound → (∀stop,rs=.error stop → Ordinary stop) →
      Ends pull sys rs ⟨state.persistence.db,state.gates⟩ := by
    intro rs state gates sound ordinary
    cases rs with
    | error stop =>
      exact .stopped stop _ (ordinary stop rfl) sound (gates.trans prepared.symm) uncommitted
    | ok execution => exact .failed execution _ sound gates h
  have started : (pull.opened sys).persistence.db.Sound := sound.db
  rcases executes : executeWith pull.command pull.startedAt pull.completedAt pull.fetched
    (fun _ => pull.watched) (pull.opened sys) with ⟨rs,after⟩
  unfold execute
  rw [executes]
  rcases attempt_eq.mp executes with ⟨stop,begins,rfl⟩ | ⟨cap,begun,begins,completes⟩
  · obtain ⟨kept,⟨_,same,ordinary,stopped⟩ | ⟨_,_,same,-⟩⟩ := beginPull_cases started begins
    · cases same
      refine ends _ _ kept stopped ?_
      intro other same
      cases same
      exact ordinary
    · cases same
  obtain ⟨kept,⟨_,same,-⟩ | ⟨_,row,same,facts⟩⟩ := beginPull_cases started begins
  · cases same
  cases same
  have failing : ∀{failure : OpenPullFailure} {text : Timestamp},
      finishFailure pull.command failure pull.completedAt text begun=(rs,after) →
      Ends pull sys rs ⟨after.persistence.db,after.gates⟩ := by
    intro failure text finished
    obtain ⟨gates,settled,ordinary⟩ := finishFailure_cases facts.sound finished
    exact ends _ _ (gates.trans kept) settled ordinary
  unfold OpenPull.reconciling at h
  rw [begins] at h
  unfold completePull formatTimestamp at completes
  cases formatted : formatRfc3339 pull.completedAt with
  | none =>
    rw [formatted] at completes
    cases completes
    refine ends _ _ kept facts.sound ?_
    intro stop same
    cases same
    exact ⟨_,rfl,nofun⟩
  | some text =>
  rw [formatted] at completes h
  cases fetched : pull.fetched with
  | error failure =>
    rw [fetched] at completes
    exact failing completes
  | ok resp =>
  rw [fetched] at completes h
  simp only [attempt,PullState.check,required,Except.mapError] at completes h
  by_cases tc : resp.target=pull.command.target
  swap
  · rw [if_pos tc] at completes
    exact failing completes
  by_cases consistent : responseMetadataIsConsistent resp
  swap
  · rw [if_neg (not_not.mpr tc),if_pos consistent] at completes
    exact failing completes
  rw [if_neg (not_not.mpr tc),if_neg (not_not.mpr consistent)] at completes
  rw [if_pos ⟨tc,consistent⟩] at h
  have waited := reads_wait.snapshot pull.command.target begun.persistence
  have soundly := waited_sound waited facts.sound
  rcases attempt_call completes with ⟨error,-,rfl,rfl⟩ | ⟨snapshot,answered,rest⟩
  · exact ends _ ⟨_,begun.gates⟩ kept soundly (stops_with (ordinary_storage error))
  rw [call_of_ok answered] at h
  cases snapshot with
  | none =>
    obtain ⟨gates,settled,ordinary⟩ := finishFailure_cases soundly rest
    exact ends _ _ (gates.trans kept) settled ordinary
  | some current =>
    rcases attempt_check rest with ⟨error,failed,rfl,rfl⟩ | ⟨inputs,reconciled,-⟩
    · refine ends _ ⟨_,begun.gates⟩ kept soundly (stops_with ⟨error,rfl,?_⟩)
      rintro rfl
      exact reconcileInputs_avoids _ _ _ _ failed
    · dsimp only at h
      rw [reconciled] at h
      cases h

theorem execute_ends (sound : sys.Sound) (proper : pull.Proper sys.db) :
    Ends pull sys (pull.execute sys).1 (pull.execute sys).2 := by
  cases h : pull.reconciling sys with
  | none => exact execute_unreconciled sound h
  | some rc =>
    obtain ⟨row,facts⟩ := reconciling_reconciled sound.db h
    have spares : Spares pull.command.attemptId (pull.opened sys).persistence := by
      rintro operation ⟨turn,listed,performed⟩
      exact proper.spares turn listed operation performed
    have candidates : ∀context,(pull.opened sys).persistence.catalogCandidate=some context →
        context.ReadBefore (pull.opened sys).persistence.db := proper.candidates
    have reading := reads_wait.snapshot pull.command.target rc.begun.persistence
    rw [show OpenPullPersistence.servingOpenCatalogSnapshot pull.command.target
      rc.begun.persistence=_ from facts.snapshot] at reading
    have executes := execute_reconciling h
    rcases answered : pull.answer rc with ⟨answer,state⟩
    rw [answered] at executes
    obtain ⟨waited,stopped,decides⟩ := answer_cases sound h answered
    have soundly := waited_sound (reading.trans waited) facts.begun.sound
    have prepared : pull.preparedGates sys=state.gates := by
      unfold preparedGates
      rw [h]
      dsimp only
      rw [answered]
    cases answer with
    | error stop =>
      obtain ⟨error,rfl⟩ := stopped stop rfl
      rw [executes]
      refine .stopped _ _ (ordinary_storage error) soundly prepared.symm ?_
      unfold commitment
      rw [h]
      dsimp only
      rw [answered]
    | ok gated =>
      have decided : ∀gate,gated=some gate →
          ∃runtime,Decided rc.inputs pull.completedAt state.gates gate runtime := by
        intro gate same
        obtain ⟨-,none,-⟩ | ⟨route,-,-,-,decided⟩ := decides
        · cases none
          cases same
        obtain ⟨chosen,runtime,equal,-,facts⟩ := decided gated rfl
        rw [same] at equal
        cases equal
        exact ⟨runtime,facts⟩
      have committing : pull.commitment sys=
          (ShortLockOpenPersistence.finishOpenPullSuccess (pull.commitCommand rc gated)
            state.persistence).1.toOption := by
        unfold commitment
        rw [h]
        dsimp only
        rw [answered]
      have finished := finish_sound soundly (pull.commitCommand rc gated)
      rcases commits : commitResponse pull.command rc.response rc.inputs gated
        rc.completedAtText pull.watched state with ⟨rs,after⟩
      rw [attempt_ok rfl,commits] at executes
      rw [executes]
      cases commitResponse_commits decided commits with
      | unplanned error failed =>
        obtain ⟨plan,planned⟩ := facts.planned (gateHolds gated)
        rw [failed] at planned
        cases planned
      | refused plan error after planned called =>
        have called : ShortLockOpenPersistence.finishOpenPullSuccess
          (pull.commitCommand rc gated) state.persistence=(.error error,after) := called
        rw [called] at committing finished
        exact .stopped _ _ (ordinary_storage error) finished prepared.symm committing
      | diverged plan out after planned called apart =>
        have matched := commit_matched facts.begun spares candidates facts.snapshot waited
          facts.inputs planned called
        exact absurd matched.accepted apart
      | committed plan out after planned called accepted =>
        have matched := commit_matched facts.begun spares candidates facts.snapshot waited
          facts.inputs planned called
        have called : ShortLockOpenPersistence.finishOpenPullSuccess
          (pull.commitCommand rc gated) state.persistence=(.ok out,after) := called
        rw [called] at committing finished
        obtain ⟨attempt,settled,stored,-⟩ :=
          commit_stored facts.begun spares (reading.trans waited) rfl called
        exact .committed rc gated state plan out after.db h answered planned
          committing matched finished attempt settled stored

end OpenPull

namespace Sample

open Storage.Sample

/-- The first Catalog of the target in the closed examples. -/
def publication (sections : List SectionIndex) : List StorageOperation :=
  [.stage (trace 1) (stagedCatalog "first" (.ofList sections)),
    .publish (trace 1) .acceptNonEmptyOrUnchangedEmpty]

def pullCommand (attemptId : Nat) (gate : Option OpenGateRoute) : OpenPullCommand where
  attemptId := trace attemptId
  runId := trace 0
  target := target
  refreshIntervals := .fixed
  activeWatchCount := 0
  freshnessIntervalSeconds := 60
  lane := .openGeneral
  schedulerLag := ⟨0⟩
  counterAudience := .public
  gate

def pullResponse (indices : List SectionIndex) : OpenSectionsResponse where
  target := target
  classification := if indices.length=0 then .empty else .nonempty
  openIndexes := indices
  metadata :=
    { httpStatus := 200
      decodedBytes := 2
      decodedBodySha256 := "0000000000000000000000000000000000000000000000000000000000000000"
      canonicalSetSha256 := canonicalOpenSetHashV1 (.ofList indices)
      rawValueCount := indices.length
      uniqueValueCount := indices.length
      duplicateValueCount := 0
      contentType := "application/json"
      etag := none
      cacheControl := none
      date := none
      ageSeconds := none
      lastModified := none }

def servingPull (attemptId startedAt completedAt : Nat) (indices : List SectionIndex) :
    OpenPull where
  command := pullCommand attemptId (some .serving)
  context := none
  startedAt := (moment startedAt).instant
  completedAt := (moment completedAt).instant
  fetched := .ok (pullResponse indices)
  watched := []
  others := []

end Sample

end CoursePlanner.Application
