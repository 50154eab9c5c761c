import CoursePlanner.Open.Agreement
import CoursePlanner.Open.Failure
import CoursePlanner.Open.Projection
import CoursePlanner.Open.Scheduler

namespace CoursePlanner.Open

open Std Library Contracts Storage

/-- The persistence of a pull. Every method may change what it works on. -/
class OpenPullPersistence (P : Type) where
  servingOpenCatalogSnapshot : TermCampusKey → P → StorageResult (Option OpenCatalogSnapshot) × P
  beginOpenPullAttempt : BeginOpenPullAttemptCommand → P → StorageResult Nat × P
  finishOpenPullSuccess : FinishOpenPullSuccessCommand → P → StorageResult OpenCommitOutcome × P
  finishOpenPullFailure : FinishOpenPullFailureCommand → P → StorageResult OpenCommitOutcome × P
  lkgOpenIndexSet : TermCampusKey → P → StorageResult (Option (ExtTreeSet SectionIndex)) × P
  recentOpenGateAttemptSummaries : TermCampusKey → Nat → P →
    StorageResult (List OpenGateAttemptSummary) × P

inductive OpenGateRoute where
  | serving
  | candidate
  deriving DecidableEq, Repr

structure OpenSectionsResponse where
  target : TermCampusKey
  classification : OpenPayloadClassification
  openIndexes : List SectionIndex
  metadata : OpenResponseMetadata
  deriving DecidableEq

/-- A pull of the target of its request. The gate set is that of the target. -/
structure OpenPullCommand where
  attemptId : TraceId
  runId : TraceId
  target : TermCampusKey
  refreshIntervals : OpenRefreshIntervals
  activeWatchCount : Nat
  freshnessIntervalSeconds : Nat
  lane : OriginSchedulerLane
  schedulerLag : Duration
  counterAudience : OpenCounterAudience
  gate : Option OpenGateRoute

/-- What the scheduler is told, with the failure that its retry policy is asked about. -/
inductive PullCompletion where
  | success
  | retry (failure : OpenFailureKind)
  | catalogRace
  deriving DecidableEq

inductive OpenPullTerminal where
  | valid (response : OpenSectionsResponse)
  | unusable (response : OpenSectionsResponse)
  | catalogRace (response : OpenSectionsResponse)
  | failed (failure : OpenPullFailure)
  deriving DecidableEq

structure OpenPullExecution where
  outcome : OpenCommitOutcome
  schedulerCompletion : PullCompletion
  terminal : OpenPullTerminal
  reconcile : Option OpenReconcilePlan
  observations : List OpenObservationV1
  deriving DecidableEq

inductive SharedOpenServiceError where
  | targetNotPublished (target : TermCampusKey)
  | storage (error : StorageError)
  | timestampFormat
  | rutgersDay
  | invalidCatalogVersion
  | reconcile (error : ReconcileInputError)
  | reconcileDivergence
  | unexpectedClassification
  | catalogSchedulerLane
  | counterAudienceRunMismatch
  | observationSequence
  | observationTarget
  | observationCommit (reason : String)
  | freshUntilOverflow
  | zeroFreshnessInterval
  deriving DecidableEq

/-- A pull ends early with an error, or a gate assertion panics. -/
inductive PullStop where
  | error (error : SharedOpenServiceError)
  | panic
  deriving DecidableEq

/-- What a pull works on: the persistence and the gate set of its target. -/
structure PullState (P : Type) where
  persistence : P
  gates : TargetGateSet

namespace PullState

variable {P A : Type}

def call (state : PullState P) (method : P → StorageResult A × P) :
    Except PullStop A × PullState P :=
  let (result,persistence) := method state.persistence
  (result.mapError (fun error => .error (.storage error)),{ state with persistence })

def check (state : PullState P) (result : Except SharedOpenServiceError A) :
    Except PullStop A × PullState P :=
  (result.mapError .error,state)

end PullState

def formatTimestamp (value : OffsetDateTime) : Except SharedOpenServiceError Timestamp :=
  required (formatRfc3339 value) .timestampFormat

def validateCounterAudience (command : OpenPullCommand) : Except SharedOpenServiceError Unit :=
  match command.counterAudience with
  | .local runId => ensure (runId=command.runId) .counterAudienceRunMismatch
  | .public => pure ()

def storageLane : OriginSchedulerLane → Except SharedOpenServiceError OpenRequestLane
  | .catalog => throw .catalogSchedulerLane
  | .openGeneral => pure .general
  | .openActiveWatch => pure .activeWatch
  | .openFirstLoad => pure .firstLoad
  | .openManualRefresh => pure .manualRefresh
  | .openCatalogRaceRecheck => pure .catalogRaceRecheck

def beginCommand (command : OpenPullCommand) (captured : Nat) (day : RutgersDay)
    (startedAt : Timestamp) (lane : OpenRequestLane) : BeginOpenPullAttemptCommand where
  attemptId := command.attemptId
  runId := command.runId
  target := command.target
  capturedCatalogContentVersion := captured
  rutgersDay := day
  startedAt
  lane
  requestedIntervalSeconds := some command.refreshIntervals.general.seconds
  effectiveIntervalSeconds := some command.freshnessIntervalSeconds
  scheduleLagMs := some (millisOrMax command.schedulerLag)

/-- The audit of a response that was reconciled. -/
def finishCommand (command : OpenPullCommand) (response : OpenSectionsResponse)
    (completedAt : Timestamp) (watchedSections : List SectionKey) (gateHold : Bool)
    (gateCatalogSetIdentity : Option String) : FinishOpenPullSuccessCommand where
  attemptId := command.attemptId
  completedAt
  openSections := response.openIndexes.map
    (fun index => ⟨command.target.term,command.target.campus,index⟩)
  sourceValueCount := response.metadata.rawValueCount
  watchedSections
  http := responseAudit response.metadata none
  gateHold
  gateCatalogSetIdentity

def failureCommand (command : OpenPullCommand) (failure : OpenPullFailure)
    (completedAt : OffsetDateTime) (completedAtText : Timestamp) :
    FinishOpenPullFailureCommand :=
  let fields := failureStorageFields failure completedAt
  ⟨command.attemptId,completedAtText,
    failureHttpAudit failure fields.httpStatus fields.retryAfterSeconds,fields.errorCode,none⟩

def responseMetadataIsConsistent [Sha256] (response : OpenSectionsResponse) : Prop :=
  response.classification=(if response.openIndexes.length=0 then .empty else .nonempty) ∧
    response.metadata.uniqueValueCount=response.openIndexes.length ∧
    response.openIndexes.length ≤ response.metadata.rawValueCount ∧
    response.metadata.duplicateValueCount=
      response.metadata.rawValueCount-response.openIndexes.length ∧
    canonicalOpenSetHashV1 (.ofList response.openIndexes)=response.metadata.canonicalSetSha256

instance [Sha256] (response : OpenSectionsResponse) :
    Decidable (responseMetadataIsConsistent response) :=
  inferInstanceAs (Decidable (_ ∧ _))

/-- |LKG open set ∩ Catalog|. -/
def lkgReferenceWithin (lkgOpenSet : ExtTreeSet SectionIndex) (catalog : CatalogOpenBatch) :
    Nat :=
  (lkgOpenSet.filter (fun index => catalog.containsIndex index)).size

/-- A row without a hash or a completion time breaks the run. -/
def gateRestartSummary (row : OpenGateAttemptSummary) : RestartAttemptSummary :=
  let catalogSetIdentity := row.catalogSetIdentity.bind CatalogSetIdentity.fromSha256Hex
  match row.classification,row.canonicalSetSha256,row.completedAt with
  | .suspectPartialSnapshot,some canonicalSetSha256,some completedAt =>
    ⟨true,canonicalSetSha256,completedAt.instant,catalogSetIdentity⟩
  | _,hash,completedAt =>
    ⟨false,hash.getD "",(completedAt.map Timestamp.instant).getD 0,catalogSetIdentity⟩

structure ReconcileInputs where
  captured : CatalogContentVersion
  catalog : CatalogOpenBatch
  openSet : OpenSetEvidence

def reconcileInputs [Sha256] (captured : Nat) (current : OpenCatalogSnapshot)
    (response : OpenSectionsResponse) (target : TermCampusKey) :
    Except SharedOpenServiceError ReconcileInputs := do
  let version ← required (nonZero current.contentVersion) .invalidCatalogVersion
  let catalog ← (CatalogOpenBatch.tryNew current.target version (current.sections.toList.map
    (fun index => ⟨current.target.term,current.target.campus,index⟩))).mapError .reconcile
  let openSet ← (OpenSetEvidence.tryNew target response.openIndexes
    response.metadata.rawValueCount).mapError .reconcile
  let captured ← required (nonZero captured) .invalidCatalogVersion
  pure ⟨captured,catalog,openSet⟩

namespace ReconcileInputs

def observed (inputs : ReconcileInputs) : ExtTreeSet SectionIndex :=
  observedIntersection inputs.catalog inputs.openSet

/-- A response that never is a sample of the gate. -/
def isHardReject (inputs : ReconcileInputs) : Prop :=
  inputs.captured≠inputs.catalog.contentVersion ∨
    (0 < inputs.openSet.indexes.size ∧ 0 < inputs.catalog.sections.size ∧
      inputs.observed.isEmpty=true)

instance (inputs : ReconcileInputs) : Decidable inputs.isHardReject :=
  inferInstanceAs (Decidable (_ ∨ _))

def identity [Sha256] (inputs : ReconcileInputs) : CatalogSetIdentity :=
  catalogSectionSetIdentityV1 inputs.catalog.sections.keys

def sample [Sha256] (inputs : ReconcileInputs) (completedAt : OffsetDateTime) : GateSample :=
  ⟨inputs.identity,inputs.observed,completedAt⟩

end ReconcileInputs

/-- A decision of the gate that its commit is waiting for. -/
structure Gated where
  identity : CatalogSetIdentity
  route : OpenGateRoute
  decision : GateDecision

section Service

variable [Sha256] {P : Type} [OpenPullPersistence P]

open OpenPullPersistence

/-- The reference of the last-known-good set within a Catalog. -/
def lkgReference (inputs : ReconcileInputs) (target : TermCampusKey) (state : PullState P) :
    Except PullStop (Option Nat) × PullState P :=
  attempt (state.call (lkgOpenIndexSet target)) (fun set state =>
    (.ok (set.map (fun set => lkgReferenceWithin set inputs.catalog)),state))

/-- The first use after a restart rebuilds the serving runtime. -/
def installedServing (inputs : ReconcileInputs) (target : TermCampusKey)
    (completedAt : OffsetDateTime) (state : PullState P) : Except PullStop Unit × PullState P :=
  match state.gates.serving with
  | some _ => (.ok (),state)
  | none =>
    attempt (lkgReference inputs target state) (fun reference state =>
      attempt (state.call (recentOpenGateAttemptSummaries target 32)) (fun rows state =>
        (.ok (),{ state with
          gates := state.gates.installServing (rebuildAfterRestart inputs.identity reference
            (rows.map gateRestartSummary) completedAt) })))

/-- A Catalog with other sections resets the epoch of the serving runtime. -/
def keyedServing (inputs : ReconcileInputs) (target : TermCampusKey) (state : PullState P) :
    Except PullStop GateRuntime × PullState P :=
  let serving := state.gates.servingMut
  if serving.catalogIdentity.any (fun current => current≠inputs.identity) then
    attempt (lkgReference inputs target state) (fun transferred state =>
      let reset := serving.resetForCatalogIdentity inputs.identity transferred
      (.ok reset,{ state with gates := state.gates.installServing reset }))
  else (.ok serving,state)

def routedRuntime (route : OpenGateRoute) (inputs : ReconcileInputs) (target : TermCampusKey)
    (completedAt : OffsetDateTime) (state : PullState P) :
    Except PullStop GateRuntime × PullState P :=
  match route with
  | .serving =>
    attempt (installedServing inputs target completedAt state) (fun _ state =>
      keyedServing inputs target state)
  | .candidate =>
    attempt (lkgReference inputs target state) (fun seed state =>
      let (runtime,gates) := state.gates.candidateMut inputs.identity seed
      (.ok runtime,{ state with gates }))

/-- The decision of the gate on a response that is not rejected anyway. -/
def decideGate (command : OpenPullCommand) (inputs : ReconcileInputs)
    (completedAt : OffsetDateTime) (state : PullState P) :
    Except PullStop (Option Gated) × PullState P :=
  match command.gate with
  | none => (.ok none,state)
  | some route =>
    if inputs.isHardReject then (.ok none,state)
    else
      attempt (routedRuntime route inputs command.target completedAt state)
        (fun runtime state =>
          match runtime.evaluate (inputs.sample completedAt) with
          | none => (.error .panic,state)
          | some decision => (.ok (some ⟨inputs.identity,route,decision⟩),state))

/-- The runtime takes its decision on once the transaction has committed; a successful
candidate becomes the serving runtime. -/
def advanceGate (gated : Option Gated) (outcome : OpenCommitOutcome) (state : PullState P) :
    Except PullStop Unit × PullState P :=
  match gated with
  | none => (.ok (),state)
  | some gated =>
    if outcome.classification=.staleCatalogRace then (.ok (),state)
    else match gated.route with
      | .serving =>
        match state.gates.servingMut.advance gated.decision with
        | none => (.error .panic,state)
        | some runtime => (.ok (),{ state with gates := state.gates.installServing runtime })
      | .candidate =>
        let (runtime,gates) := state.gates.candidateMut gated.identity none
        match runtime.advance gated.decision with
        | none => (.error .panic,{ state with gates })
        | some runtime =>
          let advanced := gates.setCandidate gated.identity runtime
          (.ok (),{ state with
            gates := if outcome.classification.isSuccess then
                advanced.promoteCandidate gated.identity
              else advanced })

end Service

def validateCommittedSectionEvent (event : OpenSectionEvent) (attemptId : TraceId)
    (refreshObservationId : TraceId) (observationSequence catalogContentVersion : Nat) :
    Except SharedOpenServiceError Unit :=
  ensure (¬(event.eventId=0 ∨ event.attemptId≠attemptId ∨
      event.refreshObservationId≠refreshObservationId ∨
      event.observationSequence≠observationSequence ∨
      event.catalogContentVersion≠catalogContentVersion))
    (.observationCommit "committed Section event disagrees with its target commit")

def committedCounterSnapshot (commit : OpenObservationCommit) (audience : OpenCounterAudience) :
    OpenCounterSnapshot :=
  match audience with
  | .local _ => ⟨some (toPullCounts commit.runCounts),toPullCounts commit.targetDayCounts,
      commit.rutgersDay⟩
  | .public => ⟨none,toPullCounts commit.serviceDayCounts,commit.rutgersDay⟩

def fannedState : OpenSectionState → OpenState
  | .opened => .opened
  | .closed => .closed

/-- The columns of a commit that every observation of it carries. -/
structure CommittedPull where
  refreshObservationId : TraceId
  observationSequence : Nat
  pullSequence : OpenSequence
  catalogContentVersion : CatalogContentVersion
  freshnessSeconds : Nat
  counterSnapshot : OpenCounterSnapshot

def committedObservation (command : OpenPullCommand) (pull : CommittedPull)
    (event : OpenSectionEvent) : Except SharedOpenServiceError OpenObservationV1 := do
  let observedAt := event.observedAt.instant
  let freshUntil ← required (checkedAdd observedAt pull.freshnessSeconds) .freshUntilOverflow
  required (OpenObservationV1.tryNew event.observationId event.refreshObservationId
      command.target event.sectionKey pull.pullSequence pull.catalogContentVersion
      (fannedState event.state) observedAt freshUntil (millisOrMax command.schedulerLag)
      pull.counterSnapshot)
    .observationTarget

/-- The ids and the sections of the events so far, and their observations. -/
structure FannedOut where
  observationIds : ExtTreeSet TraceId
  sectionKeys : ExtTreeSet SectionKey
  observations : List OpenObservationV1

def fanOut (command : OpenPullCommand) (pull : CommittedPull) (fanned : FannedOut)
    (event : OpenSectionEvent) : Except SharedOpenServiceError FannedOut := do
  validateCommittedSectionEvent event command.attemptId pull.refreshObservationId
    pull.observationSequence pull.catalogContentVersion
  ensure (event.observationId∉fanned.observationIds)
    (.observationCommit "committed Section observation IDs are duplicated")
  ensure (event.sectionKey∉fanned.sectionKeys)
    (.observationCommit "committed watched Section identities are duplicated")
  let observation ← committedObservation command pull event
  pure ⟨fanned.observationIds.insert event.observationId,
    fanned.sectionKeys.insert event.sectionKey,fanned.observations++[observation]⟩

def committedPull (command : OpenPullCommand) (outcome : OpenCommitOutcome)
    (commit : OpenObservationCommit) : Except SharedOpenServiceError CommittedPull := do
  let refreshObservationId ← required outcome.refreshObservationId
    (.observationCommit "a valid pull omitted its refresh observation ID")
  let observationSequence ← required outcome.observationSequence
    (.observationCommit "a valid pull omitted its observation sequence")
  let pullSequence ← required (nonZero outcome.attemptSequence) .observationSequence
  let catalogContentVersion ← required (nonZero outcome.catalogContentVersion)
    .invalidCatalogVersion
  ensure (commit.effectiveIntervalSeconds≠0)
    (.observationCommit "a valid pull returned a zero effective interval")
  ensure (2*commit.effectiveIntervalSeconds+15 ≤ i64Max) .freshUntilOverflow
  pure ⟨refreshObservationId,observationSequence,pullSequence,
    catalogContentVersion,2*commit.effectiveIntervalSeconds+15,
    committedCounterSnapshot commit command.counterAudience⟩

/-- build_committed_observations: one observation for every committed event, and an event
for every section of the sampled watch set. -/
def buildCommittedObservations (command : OpenPullCommand) (outcome : OpenCommitOutcome)
    (expectedWatchedSections : ExtTreeSet SectionKey) :
    Except SharedOpenServiceError (List OpenObservationV1) := do
  let commit ← required outcome.observationCommit
    (.observationCommit "a valid pull omitted its observation commit")
  let pull ← committedPull command outcome commit
  let fanned ← commit.sectionEvents.foldlM (fanOut command pull) ⟨∅,∅,[]⟩
  ensure (fanned.sectionKeys.toList=expectedWatchedSections.toList)
    (.observationCommit "committed Section events differ from the sampled watch set")
  pure fanned.observations

/-- The observations of a valid pull; any other one has none. -/
def handedOff (command : OpenPullCommand) (outcome : OpenCommitOutcome)
    (expectedWatchedSections : ExtTreeSet SectionKey) :
    Except SharedOpenServiceError (List OpenObservationV1) :=
  if outcome.classification.isSuccess then
    buildCommittedObservations command outcome expectedWatchedSections
  else do
    ensure (outcome.observationCommit=none)
      (.observationCommit "a non-valid pull returned an observation commit")
    pure []

def responseTerminal (classification : OpenAttemptClassification)
    (response : OpenSectionsResponse) :
    Except SharedOpenServiceError (PullCompletion × OpenPullTerminal) :=
  match classification with
  | .validApplied | .validEmptyNoRows => .ok (.success,.valid response)
  | .unsafeEmpty => .ok (.retry .unsafeEmpty,.unusable response)
  | .unsafeZeroIntersection => .ok (.retry .unsafeZeroIntersection,.unusable response)
  | .suspectPartialSnapshot => .ok (.retry .suspectPartial,.unusable response)
  | .staleCatalogRace => .ok (.catalogRace,.catalogRace response)
  | .started | .failed | .interrupted => .error .unexpectedClassification

def executed (command : OpenPullCommand) (response : OpenSectionsResponse)
    (plan : OpenReconcilePlan) (outcome : OpenCommitOutcome)
    (expectedWatchedSections : ExtTreeSet SectionKey) :
    Except SharedOpenServiceError OpenPullExecution := do
  let observations ← handedOff command outcome expectedWatchedSections
  let (schedulerCompletion,terminal) ← responseTerminal outcome.classification response
  pure ⟨outcome,schedulerCompletion,terminal,some plan,observations⟩

section Service

variable [Sha256] {P : Type} [OpenPullPersistence P]

open OpenPullPersistence

def finishFailure (command : OpenPullCommand) (failure : OpenPullFailure)
    (completedAt : OffsetDateTime) (completedAtText : Timestamp) (state : PullState P) :
    Except PullStop OpenPullExecution × PullState P :=
  attempt (state.call (finishOpenPullFailure
      (failureCommand command failure completedAt completedAtText))) (fun outcome state =>
    state.check (do
      ensure (outcome.classification=.failed) .unexpectedClassification
      ensure (outcome.observationCommit=none)
        (.observationCommit "a failed pull returned an observation commit")
      pure ⟨outcome,.retry (failureStorageFields failure completedAt).failureKind,
        .failed failure,none,[]⟩))

def commitResponse (command : OpenPullCommand) (response : OpenSectionsResponse)
    (inputs : ReconcileInputs) (gated : Option Gated) (completedAtText : Timestamp)
    (watchedSections : List SectionKey) (state : PullState P) :
    Except PullStop OpenPullExecution × PullState P :=
  let gateHold := gated.any (fun gated => gated.decision.disposition=.hold)
  attempt (state.check ((reconcileOpenSet inputs.captured inputs.catalog inputs.openSet
      gateHold).mapError .reconcile)) (fun plan state =>
    attempt (state.call (finishOpenPullSuccess (finishCommand command response completedAtText
        watchedSections gateHold (gated.map (fun gated => gated.identity.value)))))
      (fun outcome state =>
        if ¬outcomeMatchesReconcile outcome plan then
          (.error (.error .reconcileDivergence),state)
        else attempt (advanceGate gated outcome state) (fun _ state =>
          state.check (executed command response plan outcome (.ofList watchedSections)))))

/-- A response against the Catalog that is served after it: the gate decides, and the
commit and the advance follow under its lock. -/
def finishSuccess (command : OpenPullCommand) (captured : Nat)
    (response : OpenSectionsResponse) (completedAt : OffsetDateTime)
    (completedAtText : Timestamp) (currentWatchedSections : TermCampusKey → List SectionKey)
    (state : PullState P) : Except PullStop OpenPullExecution × PullState P :=
  attempt (state.call (servingOpenCatalogSnapshot command.target)) (fun snapshot state =>
    match snapshot with
    | none => finishFailure command (.catalogUnavailableAfterFetch response.metadata)
        completedAt completedAtText state
    | some current =>
      attempt (state.check (reconcileInputs captured current response command.target))
        (fun inputs state =>
          attempt (decideGate command inputs completedAt state) (fun gated state =>
            commitResponse command response inputs gated completedAtText
              (currentWatchedSections command.target) state)))

/-- The part of execute_with before the fetch: the version that its attempt captured. -/
def beginPull [RutgersCalendar] (command : OpenPullCommand) (startedAt : OffsetDateTime)
    (state : PullState P) : Except PullStop Nat × PullState P :=
  attempt (state.check (do
    validateCounterAudience command
    ensure (command.freshnessIntervalSeconds≠0) .zeroFreshnessInterval)) (fun _ state =>
  attempt (state.call (servingOpenCatalogSnapshot command.target)) (fun snapshot state =>
  attempt (state.check (do
    let catalog ← required snapshot (.targetNotPublished command.target)
    let startedAtText ← formatTimestamp startedAt
    let day ← required (RutgersCalendar.dayAt startedAt) .rutgersDay
    let lane ← storageLane command.lane
    pure (beginCommand command catalog.contentVersion day startedAtText lane)))
      (fun begins state =>
  attempt (state.call (beginOpenPullAttempt begins)) (fun _ state =>
    (.ok begins.capturedCatalogContentVersion,state)))))

/-- The part of execute_with after the fetch. -/
def completePull (command : OpenPullCommand) (captured : Nat)
    (fetched : Except OpenSectionsFailure OpenSectionsResponse) (completedAt : OffsetDateTime)
    (currentWatchedSections : TermCampusKey → List SectionKey) (state : PullState P) :
    Except PullStop OpenPullExecution × PullState P :=
  attempt (state.check (formatTimestamp completedAt)) (fun completedAtText state =>
    match fetched with
    | .error failure => finishFailure command (.upstream failure) completedAt completedAtText
        state
    | .ok response =>
      if response.target≠command.target then
        finishFailure command (.responseTargetMismatch response.metadata) completedAt
          completedAtText state
      else if ¬responseMetadataIsConsistent response then
        finishFailure command (.responseMetadataMismatch response.metadata) completedAt
          completedAtText state
      else finishSuccess command captured response completedAt completedAtText
        currentWatchedSections state)

/-- execute_with. Other callers may use the persistence while it awaits the fetch. -/
def executeWith [RutgersCalendar] (command : OpenPullCommand)
    (startedAt completedAt : OffsetDateTime)
    (fetched : Except OpenSectionsFailure OpenSectionsResponse)
    (currentWatchedSections : TermCampusKey → List SectionKey) (state : PullState P) :
    Except PullStop OpenPullExecution × PullState P :=
  attempt (beginPull command startedAt state) (fun captured state =>
    completePull command captured fetched completedAt currentWatchedSections state)

end Service

end CoursePlanner.Open
