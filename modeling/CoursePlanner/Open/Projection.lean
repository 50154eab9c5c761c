import CoursePlanner.Contracts.OpenStatus
import CoursePlanner.Storage.OpenPull

namespace CoursePlanner.Open

open Std Library Contracts Storage

def openFreshnessGraceSeconds : Nat := 15

structure LastValidOpenPoint where
  attemptSequence : OpenSequence
  observedAt : OffsetDateTime
  completedAt : OffsetDateTime
  requestedEffectiveIntervalSeconds : Nat

structure LatestOpenAttemptPoint where
  attemptSequence : OpenSequence
  completedAt : OffsetDateTime
  classification : OpenRefreshClassification

inductive OpenFreshnessError where
  | zeroInterval
  | timestampOverflow
  deriving DecidableEq, Repr

def invalidationReason : OpenRefreshClassification → Option OpenUncertaintyReason
  | .failed => some .latestAttemptFailed
  | .unsafeEmpty | .unsafeZeroIntersection => some .latestAttemptUnsafe
  | .suspectPartialSnapshot => some .suspectPartialUpstream
  | .staleCatalogRace => some .staleCatalogRace
  | .inFlight | .validApplied | .validEmptyNoRows => none

/-- The lifetime of an observation is twice its interval and the grace period. -/
def freshUntil (lastValid : LastValidOpenPoint) : Option OffsetDateTime :=
  checkedAdd lastValid.completedAt
    (2*lastValid.requestedEffectiveIntervalSeconds+openFreshnessGraceSeconds)

def projectOpenFreshness (now : OffsetDateTime) (lastValid : Option LastValidOpenPoint)
    (latestAttempt : Option LatestOpenAttemptPoint)
    (unavailableReason : Option OpenUncertaintyReason) :
    Except OpenFreshnessError OpenFreshness :=
  match lastValid with
  | none => .ok ⟨.unknown,none,none,none,some (unavailableReason.getD .neverObserved)⟩
  | some lastValid => do
    ensure (lastValid.requestedEffectiveIntervalSeconds≠0) .zeroInterval
    let freshUntil ← required (freshUntil lastValid) .timestampOverflow
    let age := (now-lastValid.completedAt).tdiv 1000000000
    let invalidation := (latestAttempt.filter (fun attempt =>
      lastValid.attemptSequence < attempt.attemptSequence)).bind
        (fun attempt => invalidationReason attempt.classification)
    let (state,uncertainty) := match invalidation with
      | some reason => (OpenFreshnessState.stale,some reason)
      | none =>
        if now ≤ freshUntil then (.fresh,none) else (.stale,some .staleLastKnownGood)
    pure ⟨state,some lastValid.observedAt,some freshUntil,some age.toNat,uncertainty⟩

inductive OpenCounterAudience where
  | «local» (runId : TraceId)
  | «public»
  deriving DecidableEq

structure OpenProjectionRuntime where
  now : OffsetDateTime
  audience : OpenCounterAudience
  scheduler : OpenSchedulerStatus

structure ProjectedOpenStatus where
  refresh : OpenRefreshStatus
  sections : List OpenSectionStatus

inductive OpenProjectionError where
  | targetNotPublished
  | missingRelatedRow (entity : String)
  | invalidValue (field : String)
  | inconsistentState (reason : String)
  | freshness (error : OpenFreshnessError)
  | rutgersDay
  | unknownFailureCode
  deriving DecidableEq, Repr

abbrev ProjectionResult (A : Type) : Type := Except OpenProjectionError A

structure LkgProjection where
  attemptId : TraceId
  point : OpenObservationPoint
  freshnessPoint : LastValidOpenPoint

def sequence (value : Nat) : ProjectionResult OpenSequence :=
  required (nonZero value) (.invalidValue "open_sequence")

def contentVersion (value : Nat) : ProjectionResult CatalogContentVersion :=
  required (nonZero value) (.invalidValue "catalog_content_version")

def openHash (field value : String) : ProjectionResult String := do
  ensure (isSha256Hex value=true) (.invalidValue field)
  pure value

/-- transpose of an optional projection. -/
def optionally {A B : Type} (value : Option A) (project : A → ProjectionResult B) :
    ProjectionResult (Option B) :=
  match value with
  | none => pure none
  | some value => do pure (some (← project value))

def mapClassification : OpenAttemptClassification → OpenRefreshClassification
  | .started => .inFlight
  | .validApplied => .validApplied
  | .validEmptyNoRows => .validEmptyNoRows
  | .failed | .interrupted => .failed
  | .unsafeEmpty => .unsafeEmpty
  | .unsafeZeroIntersection => .unsafeZeroIntersection
  | .suspectPartialSnapshot => .suspectPartialSnapshot
  | .staleCatalogRace => .staleCatalogRace

/-- The class of a status that failed, where it has one. -/
def statusClass (httpStatus : Option Nat) : Option OpenFailureClass :=
  match httpStatus with
  | none => none
  | some status =>
    if status=408 then some .http408
    else if status=429 then some .http429
    else if 500 ≤ status ∧ status ≤ 599 then some .http5xx
    else if 400 ≤ status ∧ status ≤ 499 then some .otherHttp4xx
    else none

def mapFailureCode (code : String) (httpStatus : Option Nat) :
    ProjectionResult OpenFailureClass :=
  match code with
  | "OPEN_TIMEOUT" | "UPSTREAM_TIMEOUT" => .ok .timeout
  | "OPEN_NETWORK" => .ok .network
  | "OPEN_RATE_LIMITED" => .ok .http429
  | "OPEN_FORBIDDEN" => .ok .forbidden
  | "OPEN_RESPONSE_TOO_LARGE" => .ok .oversize
  | "OPEN_CONTENT_DECODING" => .ok .schemaViolation
  | "OPEN_INVALID_CONTENT_TYPE" | "OPEN_INVALID_JSON" => .ok .nonJson
  | "OPEN_ROOT_NOT_ARRAY" | "OPEN_NON_STRING_VALUE" | "OPEN_RESPONSE_METADATA_MISMATCH"
  | "OPEN_INVALID_REDIRECT" => .ok .schemaViolation
  | "OPEN_INVALID_SECTION_INDEX" | "OPEN_RESPONSE_TARGET_MISMATCH" => .ok .invalidValue
  | "OPEN_REQUEST_CONSTRUCTION" | "OPEN_CATALOG_UNAVAILABLE_AFTER_FETCH"
  | "PROCESS_RESTARTED" => .ok .persist
  | "UNSAFE_EMPTY_WITH_CATALOG_ROWS" => .ok .unsafeEmpty
  | "UNSAFE_ZERO_INTERSECTION" => .ok .unsafeZeroIntersection
  | "SUSPECT_PARTIAL_SNAPSHOT" => .ok .suspectPartialSnapshot
  | "OPEN_RESPONSE_URL_MISMATCH" | "OPEN_OFF_ORIGIN_REDIRECT" => .ok .offOriginRedirect
  | "OPEN_SAME_ORIGIN_REDIRECT" | "OPEN_FATAL_CLIENT_HTTP" => .ok .otherHttp4xx
  | "OPEN_TRANSIENT_HTTP" => required (statusClass httpStatus) .unknownFailureCode
  | "OPEN_UNSUPPORTED_HTTP" => .ok ((statusClass httpStatus).getD .schemaViolation)
  | _ => .error .unknownFailureCode

def projectFailureClass (attempt : OpenAttempt) : ProjectionResult (Option OpenFailureClass) :=
  if attempt.classification=.interrupted then .ok (some .persist)
  else if attempt.classification≠.failed then .ok none
  else do
    let code ← required attempt.errorCode .unknownFailureCode
    pure (some (← mapFailureCode code attempt.http.httpStatus))

def projectAttemptPoint (attempt : OpenAttempt) : ProjectionResult OpenAttemptPoint := do
  if attempt.classification=.started then
    ensure (attempt.completedAt=none)
      (.inconsistentState "in-flight Open attempt already has a completion timestamp")
  else
    ensure (attempt.completedAt≠none)
      (.inconsistentState "terminal Open attempt has no completion timestamp")
  let attemptSequence ← sequence attempt.attemptSequence
  let failureClass ← projectFailureClass attempt
  pure ⟨attemptSequence,attempt.startedAt.instant,attempt.completedAt.map Timestamp.instant,
    mapClassification attempt.classification,failureClass⟩

def projectLatestFreshnessPoint (attempt : OpenAttempt) :
    ProjectionResult (Option LatestOpenAttemptPoint) :=
  optionally attempt.completedAt (fun completedAt => do
    let attemptSequence ← sequence attempt.attemptSequence
    pure ⟨attemptSequence,completedAt.instant,mapClassification attempt.classification⟩)

def projectLatestFailure (batch : Option OpenBatchState) :
    ProjectionResult (Option OpenFailurePoint) :=
  match batch with
  | none => .ok none
  | some batch =>
    match batch.lastFailureAttemptSequence,batch.lastFailureAt,batch.lastFailureErrorCode,
        batch.lastFailureHttpStatus with
    | none,none,none,none => .ok none
    | some attemptSequence,some failedAt,some errorCode,httpStatus => do
      let attemptSequence ← sequence attemptSequence
      let failureClass ← mapFailureCode errorCode httpStatus
      pure (some ⟨attemptSequence,failedAt.instant,failureClass⟩)
    | _,_,_,_ => .error (.inconsistentState "latest Open failure snapshot is partial")

def toPullCounts (value : OpenAttemptCounters) : OpenPullCounts :=
  ⟨value.attempted,value.succeeded,value.failed,value.empty⟩

def validateRuntime (runtime : OpenProjectionRuntime) : ProjectionResult Unit :=
  ensure (runtime.scheduler.requestedGeneralIntervalSeconds≠0 ∧
      runtime.scheduler.requestedEffectiveIntervalSeconds≠0)
    (.invalidValue "scheduler_interval_seconds")

def validateLatestAttempt (batch : Option OpenBatchState) (latestAttempt : Option OpenAttempt) :
    ProjectionResult Unit :=
  match batch,latestAttempt with
  | some batch,some latest => ensure (batch.lastAttemptSequence=latest.attemptSequence)
      (.inconsistentState "latest attempt sequence differs from batch state")
  | _,_ => .ok ()

def validateAbsentLkgState (batch : Option OpenBatchState) (lkg : Option LkgProjection) :
    ProjectionResult Unit :=
  match batch with
  | none => .ok ()
  | some batch =>
    ensure (¬(lkg.isNone=true ∧ (batch.lkgObservationSequence.isSome=true ∨
        batch.lkgObservedAt.isSome=true ∨ batch.lkgCanonicalSetSha256.isSome=true ∨
        batch.lkgStateSha256.isSome=true)))
      (.inconsistentState "LKG markers exist without an LKG attempt identity")

def sectionUnknownFreshness (targetHasLkg : Bool) : OpenFreshness :=
  ⟨.unknown,none,none,none,
    some (if targetHasLkg then .catalogVersionUnavailable else .neverObserved)⟩

section Reads

variable (db : Database)

def loadAttempt (target : TermCampusKey) (attemptId : TraceId) :
    ProjectionResult OpenAttempt := do
  let (owner,_,attempt) ← required (db.findAttempt attemptId) (.missingRelatedRow "Open attempt")
  ensure (owner=target ∧ attempt.attemptId=attemptId)
    (.inconsistentState "Open attempt does not match the requested target and identity")
  pure attempt

/-- open_batch_observation, with the target of the attempt that owns it. -/
def openBatchObservation (attemptId : TraceId) :
    Option (TermCampusKey × OpenBatchObservation) :=
  (db.findAttempt attemptId).bind (fun (owner,_,attempt) =>
    attempt.observation.map (fun observation => (owner,observation)))

def projectLkg (target : TermCampusKey) (batch : OpenBatchState) (attemptId : TraceId) :
    ProjectionResult LkgProjection := do
  let attempt ← loadAttempt db target attemptId
  ensure (attempt.classification.isSuccess=true)
    (.inconsistentState "LKG attempt is not a valid applied Open response")
  let completedAt ← required attempt.completedAt
    (.inconsistentState "LKG attempt has no completion timestamp")
  let interval ← required attempt.effectiveIntervalSeconds
    (.invalidValue "lkg_effective_interval_seconds")
  ensure (0 < interval ∧ interval ≤ u32Max) (.invalidValue "lkg_effective_interval_seconds")
  let (owner,observation) ← required (openBatchObservation db attemptId)
    (.missingRelatedRow "LKG batch observation")
  ensure (owner=target ∧ observation.attemptId=attemptId ∧
      observation.classification.isSuccess=true)
    (.inconsistentState "LKG batch observation does not match its attempt and target")
  ensure (batch.lkgObservationSequence=some observation.observationSequence ∧
      batch.currentCatalogContentVersion=observation.catalogContentVersion)
    (.inconsistentState "LKG batch markers differ from the persisted observation")
  let observationSequence ← sequence observation.observationSequence
  let catalogContentVersion ← contentVersion observation.catalogContentVersion
  let canonicalSetHash ← openHash "lkg_canonical_set_sha256" observation.canonicalSetSha256
  let stateHash ← openHash "lkg_state_sha256" observation.stateSha256
  let attemptSequence ← sequence attempt.attemptSequence
  pure ⟨attemptId,
    ⟨observation.observationId,observationSequence,catalogContentVersion,
      observation.observedAt.instant,canonicalSetHash,stateHash⟩,
    ⟨attemptSequence,observation.observedAt.instant,completedAt.instant,interval⟩⟩

def projectCounters [RutgersCalendar] (target : TermCampusKey)
    (runtime : OpenProjectionRuntime) : ProjectionResult OpenCounterSnapshot := do
  let day ← required (RutgersCalendar.dayAt runtime.now) .rutgersDay
  let tables := db.tables target
  match runtime.audience with
  | .local runId => pure ⟨some (toPullCounts (tables.runCounters[runId]?.getD .zero)),
      toPullCounts (tables.dailyCounters[day]?.getD .zero),day⟩
  | .public => pure ⟨none,toPullCounts (db.openServiceDayCounters day),day⟩

end Reads

/-- The status of a section that the Catalog serves. -/
def projectSection (target : TermCampusKey)
    (current : ExtTreeMap SectionIndex OpenSectionCurrent)
    (currentCatalogVersion : CatalogContentVersion) (lkg : Option LkgProjection)
    (targetFreshness : OpenFreshness) (counters : OpenCounterSnapshot)
    (schedulerLagMilliseconds : Nat) (index : SectionIndex) :
    ProjectionResult OpenSectionStatus :=
  let sectionKey : SectionKey := ⟨target.term,target.campus,index⟩
  match current[index]? with
  | some value => do
    let lkg ← required lkg
      (.inconsistentState "known Open Section exists without an LKG target observation")
    ensure (value.attemptId=lkg.attemptId)
      (.inconsistentState "known Open Section does not belong to the target LKG attempt")
    ensure (value.observationSequence=lkg.point.observationSequence)
      (.inconsistentState "known Open Section does not belong to the target LKG observation")
    ensure (value.catalogContentVersion=lkg.point.catalogContentVersion ∧
        value.observedAt.instant=lkg.point.observedAt)
      (.inconsistentState "known Open Section markers differ from its LKG observation")
    let state := match value.state with
      | .opened => OpenState.opened
      | .closed => .closed
    let version ← contentVersion value.catalogContentVersion
    pure ⟨sectionKey,state,some lkg.point.observationId,some version,targetFreshness,
      schedulerLagMilliseconds,counters⟩
  | none => pure ⟨sectionKey,.unknown,none,some currentCatalogVersion,
      sectionUnknownFreshness lkg.isSome,schedulerLagMilliseconds,counters⟩

/-- The projection of the Open rows of a target against the Catalog that it serves. The
section rows of a target are keyed by their index, so a foreign or a duplicate one has no
place here. -/
def projectRows (db : Database) (target : TermCampusKey) (runtime : OpenProjectionRuntime)
    (catalogSections : ExtTreeSet SectionIndex) (catalogContentVersion : CatalogContentVersion)
    (counterSnapshot : OpenCounterSnapshot) : ProjectionResult ProjectedOpenStatus := do
  let batch := (db.tables target).batch
  let latestAttempt ← optionally (batch.bind OpenBatchState.lastAttemptId) (loadAttempt db target)
  validateLatestAttempt batch latestAttempt
  let latestPoint ← optionally latestAttempt projectAttemptPoint
  let latestFreshnessPoint ← optionally latestAttempt projectLatestFreshnessPoint
  let latestFailure ← projectLatestFailure batch
  let lkg ← optionally (batch.bind (fun batch => batch.lkgAttemptId.map (fun id => (batch,id))))
    (fun entry => projectLkg db target entry.1 entry.2)
  validateAbsentLkgState batch lkg
  let freshness ← (projectOpenFreshness runtime.now (lkg.map LkgProjection.freshnessPoint)
    latestFreshnessPoint.join none).mapError .freshness
  let refresh := ⟨target,some catalogContentVersion,latestPoint,latestFailure,
    lkg.map LkgProjection.point,
    (batch.bind OpenBatchState.lastBodyChangeAt).map Timestamp.instant,
    (batch.bind OpenBatchState.lastStateChangeAt).map Timestamp.instant,freshness,
    runtime.scheduler,counterSnapshot⟩
  let sections ← catalogSections.toList.mapM
    (projectSection target (db.tables target).current catalogContentVersion lkg freshness
      counterSnapshot runtime.scheduler.schedulerLagMilliseconds)
  pure ⟨refresh,sections⟩

def projectOpenStatus [RutgersCalendar] (db : Database) (target : TermCampusKey)
    (runtime : OpenProjectionRuntime) : ProjectionResult ProjectedOpenStatus := do
  validateRuntime runtime
  let catalog ← required (db.servingOpenCatalogSnapshot target) .targetNotPublished
  let catalogContentVersion ← contentVersion catalog.contentVersion
  let counterSnapshot ← projectCounters db target runtime
  projectRows db target runtime catalog.sections catalogContentVersion counterSnapshot

/-- The sections that get no observation yet, and the candidates for one. -/
abbrev CandidateSplit :=
  ExtTreeMap SectionKey (Option OpenObservationV1) × List (SectionKey × OpenSectionStatus)

/-- A requested section that has a status: one that is unknown or not fresh gets no
observation, the others are candidates for one. -/
def splitCandidate (statuses : ExtTreeMap SectionKey OpenSectionStatus)
    (split : CandidateSplit) (key : SectionKey) : CandidateSplit :=
  match statuses[key]? with
  | none => split
  | some status =>
    if status.state=.unknown ∨ status.freshness.state≠.fresh then
      (split.1.insert key none,split.2)
    else (split.1,split.2++[(key,status)])

def splitCandidates (statuses : ExtTreeMap SectionKey OpenSectionStatus)
    (sections : List SectionKey) : CandidateSplit :=
  sections.foldl (splitCandidate statuses) (∅,[])

/-- The committed observation of a section that is known and fresh. -/
def currentObservation [Sha256] (target : TermCampusKey) (version : CatalogContentVersion)
    (lastValid : OpenObservationPoint) (attempt : OpenAttempt) (lkgAttemptId : TraceId)
    (schedulerLagMilliseconds : Nat) (key : SectionKey) (status : OpenSectionStatus) :
    ProjectionResult OpenObservationV1 := do
  let observedAt ← required status.freshness.observedAt
    (.inconsistentState "fresh Open Section omitted its observation timestamp")
  let freshUntil ← required status.freshness.freshUntil
    (.inconsistentState "fresh Open Section omitted its freshness deadline")
  ensure (observedAt=lastValid.observedAt)
    (.inconsistentState "Open Section timestamp differs from its LKG observation")
  let pullSequence ← sequence attempt.attemptSequence
  required (OpenObservationV1.tryNew (deriveOpenSectionObservationId lkgAttemptId key.index)
      (deriveOpenRefreshObservationId lkgAttemptId) target key pullSequence version status.state
      observedAt freshUntil schedulerLagMilliseconds status.counterSnapshot)
    (.inconsistentState "projected Open observation target differs from its Section")

/-- project_current_open_observations: a section that the Catalog does not serve has no
entry, one whose state is uncertain has an entry without an observation. -/
def projectCurrentOpenObservations [Sha256] [RutgersCalendar] (db : Database)
    (target : TermCampusKey) (sections : List SectionKey) (runtime : OpenProjectionRuntime) :
    ProjectionResult (ExtTreeMap SectionKey (Option OpenObservationV1)) := do
  ensure (∀key∈sections,key.target=target)
    (.inconsistentState "requested Open Sections belong to another target")
  if sections.isEmpty then return ∅
  let projected ← projectOpenStatus db target runtime
  let statuses := .ofList (projected.sections.map (fun status => (status.sectionKey,status)))
  let (observations,candidates) := splitCandidates statuses sections
  if candidates.isEmpty then return observations
  let version ← required projected.refresh.catalogContentVersion
    (.inconsistentState "published Open projection omitted its Catalog version")
  ensure (∀candidate∈candidates,candidate.2.catalogContentVersion≠none)
    (.inconsistentState "known Open Section omitted its Catalog version")
  let lastValid ← required projected.refresh.lastValidObservation
    (.inconsistentState "known fresh Open Section exists without an LKG observation")
  if lastValid.catalogContentVersion≠version then
    return candidates.foldl (fun observations (key,_) => observations.insert key none) observations
  let outdated := candidates.filter (fun (_,status) => status.catalogContentVersion≠some version)
  let observations := outdated.foldl
    (fun observations (key,_) => observations.insert key none) observations
  let candidates := candidates.filter
    (fun (_,status) => status.catalogContentVersion=some version)
  if candidates.isEmpty then return observations
  let batch ← required (db.tables target).batch
    (.inconsistentState "known fresh Open Section exists without batch state")
  let lkgAttemptId ← required batch.lkgAttemptId
    (.inconsistentState "known fresh Open Section exists without an LKG attempt")
  let attempt ← loadAttempt db target lkgAttemptId
  let (_,observation) ← required (openBatchObservation db lkgAttemptId)
    (.missingRelatedRow "LKG batch observation")
  let expectedRefreshId := deriveOpenRefreshObservationId lkgAttemptId
  ensure (observation.observationId=expectedRefreshId ∧
      lastValid.observationId=expectedRefreshId ∧
      observation.catalogContentVersion=version ∧
      observation.observationSequence=lastValid.observationSequence)
    (.inconsistentState "LKG observation identity differs from its committed projection")
  let schedulerLagMilliseconds ← required attempt.scheduleLagMs
    (.invalidValue "lkg_schedule_lag_ms")
  candidates.foldlM (fun observations (key,status) => do
    let observation ← currentObservation target version lastValid attempt lkgAttemptId
      schedulerLagMilliseconds key status
    pure (observations.insert key (some observation))) observations

end CoursePlanner.Open
