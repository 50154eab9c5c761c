import CoursePlanner.Library.OrderedMap
import CoursePlanner.Open.Gate
import CoursePlanner.Storage.CatalogPublish

namespace CoursePlanner.Storage

open Std Library Contracts
open Open (Sha256 isSha256Hex setPreimage)

def openDiagnosticRetentionPerTarget : Nat := 256
def openDiagnosticPruneAttemptsPerCommit : Nat := 8

structure BeginOpenPullAttemptCommand where
  attemptId : TraceId
  runId : TraceId
  target : TermCampusKey
  capturedCatalogContentVersion : Nat
  rutgersDay : RutgersDay
  startedAt : Timestamp
  lane : OpenRequestLane
  requestedIntervalSeconds : Option Nat
  effectiveIntervalSeconds : Option Nat
  scheduleLagMs : Option Nat
  deriving DecidableEq

structure FinishOpenPullSuccessCommand where
  attemptId : TraceId
  completedAt : Timestamp
  openSections : List SectionKey
  sourceValueCount : Nat
  watchedSections : List SectionKey
  http : OpenHttpAuditMetadata
  gateHold : Bool
  gateCatalogSetIdentity : Option String

structure FinishOpenPullFailureCommand where
  attemptId : TraceId
  completedAt : Timestamp
  http : OpenHttpAuditMetadata
  errorCode : String
  diagnosticToken : Option String

structure OpenObservationCommit where
  rutgersDay : RutgersDay
  effectiveIntervalSeconds : Nat
  runCounts : OpenAttemptCounters
  targetDayCounts : OpenAttemptCounters
  serviceDayCounts : OpenAttemptCounters
  sectionEvents : List OpenSectionEvent
  deriving DecidableEq

structure OpenCommitOutcome where
  attemptId : TraceId
  attemptSequence : Nat
  classification : OpenAttemptClassification
  refreshObservationId : Option TraceId
  observationSequence : Option Nat
  catalogContentVersion : Nat
  sourceValueCount : Nat
  catalogSectionCount : Nat
  intersectionCount : Nat
  orphanCount : Nat
  duplicateCount : Nat
  changedSectionCount : Nat
  bodyChanged : Bool
  stateChanged : Bool
  retainedLkgAttemptId : Option TraceId
  observationCommit : Option OpenObservationCommit
  deriving DecidableEq

structure OpenGateAttemptSummary where
  classification : OpenAttemptClassification
  canonicalSetSha256 : Option String
  completedAt : Option Timestamp
  catalogSetIdentity : Option String

structure CanonicalOpenResponse where
  canonicalIndices : ExtTreeSet SectionIndex
  sourceValueCount : Nat
  duplicateCount : Nat
  canonicalSetSha256 : String

def invalidStored (table field : String) : StorageError :=
  .invalidStoredProjection table field "is invalid"

def validateOptionalPositive (field : String) (value : Option Nat) : StorageResult Unit :=
  ensure (value≠some 0) (.invalidCommand field "must be positive when present")

def validateTimestampOrder (startedAt completedAt : Timestamp) : StorageResult Unit :=
  ensure (startedAt.instant ≤ completedAt.instant)
    (.invalidCommand "completed_at" "must not precede started_at")

def isSafeCode (value : String) : Bool :=
  value.utf8ByteSize≠0 && value.utf8ByteSize ≤ 64 &&
    value.toList.all (fun c => c.isUpper || c.isDigit || c = '_')

def validateSafeCode (field value : String) : StorageResult Unit :=
  ensure (isSafeCode value=true)
    (.invalidCommand field "must be a non-empty upper snake-case code of at most 64 bytes")

def isSafeToken (value : String) : Bool :=
  value.utf8ByteSize≠0 && value.utf8ByteSize ≤ 64 &&
    value.toList.all (fun c => c.isAlphanum || c = '.' || c = '_' || c = ':' || c = '-')

def validateOptionalSafeToken (field : String) (value : Option String) : StorageResult Unit :=
  ensure (value.all isSafeToken=true)
    (.invalidCommand field "must be a safe token of at most 64 bytes")

def isHttpHeader (value : String) : Bool :=
  value.utf8ByteSize≠0 && value.utf8ByteSize ≤ 4096 &&
    !value.toList.any (fun c => c = '\r' || c = '\n')

def validateOptionalHttpHeader (field : String) (value : Option String) : StorageResult Unit :=
  ensure (value.all isHttpHeader=true)
    (.invalidCommand field "must be non-empty CR/LF-free HTTP audit text of at most 4096 bytes")

def validateDurableCount (field : String) (value : Option Nat) : StorageResult Unit :=
  ensure (value.all (fun value => value ≤ i64Max)=true)
    (.invalidCommand field "must fit the durable signed 64-bit range")

def validateOpenHttpAudit (metadata : OpenHttpAuditMetadata) (successRequired : Bool) :
    StorageResult Unit := do
  ensure (metadata.httpStatus.all (fun status => 100 ≤ status && status ≤ 599)=true)
    (.invalidCommand "http_status" "must be a valid HTTP status")
  validateDurableCount "decoded_bytes" metadata.decodedBytes
  validateDurableCount "age_seconds" metadata.ageSeconds
  validateDurableCount "retry_after_seconds" metadata.retryAfterSeconds
  ensure (metadata.decodedBodySha256.all isSha256Hex=true)
    (.invalidCommand "decoded_body_sha256"
      "must be exactly 64 lowercase hexadecimal characters")
  ensure (metadata.decodedBodySha256=none ∨ metadata.decodedBytes≠none)
    (.invalidCommand "decoded_body_sha256" "requires decoded_bytes")
  validateOptionalHttpHeader "content_type" metadata.contentType
  validateOptionalHttpHeader "etag" metadata.etag
  validateOptionalHttpHeader "cache_control" metadata.cacheControl
  validateOptionalHttpHeader "date" metadata.date
  validateOptionalHttpHeader "last_modified" metadata.lastModified
  validateOptionalHttpHeader "retry_after" metadata.retryAfter
  if successRequired then
    let status ← required metadata.httpStatus
      (.invalidCommand "http_status" "is required for a successful Open response")
    ensure (200 ≤ status ∧ status ≤ 299)
      (.invalidCommand "http_status" "a successful Open response must use a 2xx status")
    ensure (metadata.decodedBytes≠none)
      (.invalidCommand "decoded_bytes" "is required for a successful Open response")
    ensure (metadata.decodedBodySha256≠none)
      (.invalidCommand "decoded_body_sha256" "is required for a successful Open response")
    ensure (metadata.contentType≠none)
      (.invalidCommand "content_type" "is required for a successful Open response")

/-- Hexadecimal digits, most significant first. -/
def hexText (width value : Nat) : String :=
  String.ofList ((List.range width).reverse.map (fun place => (value/16^place%16).digitChar))

/-- The hyphenated text of a UUID. -/
def traceIdText (id : TraceId) : String :=
  hexText 8 (id.uuid/2^96) ++ "-" ++ hexText 4 (id.uuid/2^80) ++ "-" ++
    hexText 4 (id.uuid/2^64) ++ "-" ++ hexText 4 (id.uuid/2^48) ++ "-" ++ hexText 12 id.uuid

def hexValue (c : Char) : Nat :=
  if c.isDigit then c.toNat - '0'.toNat else 10+(c.toNat - 'a'.toNat)

/-- Sixteen digest bytes with the version and variant bits of a random UUID. -/
def versionFourUuid (value : Nat) : Nat :=
  value/2^80%2^48*2^80+4*2^76+value/2^64%2^12*2^64+2*2^62+value%2^62

theorem versionFourUuid_valid (value : Nat) : randomV4 (versionFourUuid value) := by
  unfold versionFourUuid
  have high : value/2^80%2^48 < 2^48 := Nat.mod_lt _ (by decide)
  have middle : value/2^64%2^12 < 2^12 := Nat.mod_lt _ (by decide)
  have low : value%2^62 < 2^62 := Nat.mod_lt _ (by decide)
  refine ⟨?_,?_,?_⟩ <;> omega

def derivedObservationId [Sha256] (domain : String) (attemptId : TraceId)
    (discriminator : Option String) : TraceId :=
  let preimage := domain ++ "\n" ++ traceIdText attemptId ++ "\n" ++
    (discriminator.map (fun value => value ++ "\n")).getD ""
  let digest := ((Sha256.hex preimage).toList.take 32).foldl
    (fun value c => 16*value+hexValue c) 0
  ⟨versionFourUuid digest,versionFourUuid_valid digest⟩

def deriveOpenRefreshObservationId [Sha256] (attemptId : TraceId) : TraceId :=
  derivedObservationId "bcsp-open-refresh-observation-v1" attemptId none

def deriveOpenSectionObservationId [Sha256] (attemptId : TraceId) (index : SectionIndex) :
    TraceId :=
  derivedObservationId "bcsp-open-section-observation-v1" attemptId (some index.value)

def openSetSha256V1 [Sha256] (indices : ExtTreeSet SectionIndex) : String :=
  Sha256.hex (setPreimage "bcsp-open-set-v1\n" indices.toList)

/-- A header with the target, then one line for each section. -/
def openStatePreimage (target : TermCampusKey)
    (states : ExtTreeMap SectionIndex OpenSectionState) : String :=
  states.toList.foldl
    (fun preimage (index,state) => preimage ++ index.value ++ "\t" ++ state.asStr ++ "\n")
    ("bcsp-open-state-v1\n" ++ target.term.value ++ "\n" ++ target.campus.value ++ "\n")

def openStateSha256V1 [Sha256] (target : TermCampusKey)
    (states : ExtTreeMap SectionIndex OpenSectionState) : String :=
  Sha256.hex (openStatePreimage target states)

def canonicalizeOpenResponse [Sha256] (target : TermCampusKey) (openSections : List SectionKey)
    (sourceValueCount : Nat) : StorageResult CanonicalOpenResponse := do
  ensure (∀key∈openSections,key.target=target)
    (.invalidCommand "open_sections" "all sections must belong to the attempt target")
  let canonicalIndices : ExtTreeSet SectionIndex := .ofList (openSections.map SectionKey.index)
  ensure (canonicalIndices.size ≤ sourceValueCount)
    (.invalidCommand "source_value_count"
      "must be at least the canonical unique Open identity count")
  pure ⟨canonicalIndices,sourceValueCount,sourceValueCount-canonicalIndices.size,
    openSetSha256V1 canonicalIndices⟩

/-- Hard rejections win over the gate: it only withholds what would be applied. -/
def classifyOpenResponse (canonicalIndices catalogIndices : ExtTreeSet SectionIndex)
    (intersectionCount : Nat) (gateHold : Bool) : OpenAttemptClassification :=
  if canonicalIndices.isEmpty then
    if catalogIndices.isEmpty then .validEmptyNoRows
    else if gateHold then .suspectPartialSnapshot
    else .validApplied
  else if !catalogIndices.isEmpty && intersectionCount=0 then .unsafeZeroIntersection
  else if gateHold then .suspectPartialSnapshot
  else .validApplied

/-- The code stored with an unsafe response; the last one is that of a held one. -/
def unsafeErrorCode : OpenAttemptClassification → String
  | .unsafeEmpty => "UNSAFE_EMPTY_WITH_CATALOG_ROWS"
  | .unsafeZeroIntersection => "UNSAFE_ZERO_INTERSECTION"
  | _ => "SUSPECT_PARTIAL_SNAPSHOT"

def canonicalizeWatchedSections (target : TermCampusKey) (watchedSections : List SectionKey)
    (catalogIndices : ExtTreeSet SectionIndex) : StorageResult (ExtTreeSet SectionIndex) := do
  watchedSections.forM (fun key => do
    ensure (key.target=target)
      (.invalidCommand "watched_sections"
        "all watched sections must belong to the attempt target")
    ensure (key.index∈catalogIndices)
      (.invalidCommand "watched_sections"
        "all watched sections must exist in the captured Catalog version"))
  pure (.ofList (watchedSections.map SectionKey.index))

def changedStateCount (previous intended : ExtTreeMap SectionIndex OpenSectionState) : Nat :=
  (intended.toList.filter (fun (index,state) => previous[index]?≠some state)).length+
    (previous.keys.filter (fun index => !intended.contains index)).length

namespace TargetTables

/-- UPDATE open_pull_attempts … WHERE attempt_id = ? AND classification = 'STARTED'. -/
def updateStarted (tables : TargetTables) (attemptId : TraceId)
    (update : OpenAttempt → OpenAttempt) : TargetTables :=
  { tables with
    attempts := tables.attempts.map (fun attempt =>
      if attempt.attemptId=attemptId ∧ attempt.classification=.started then update attempt
      else attempt) }

def incrementAttemptedCounters (tables : TargetTables) (runId : TraceId) (day : RutgersDay) :
    TargetTables :=
  let attempted : OpenAttemptCounters := ⟨1,0,0,0⟩
  { tables with
    dailyCounters := tables.dailyCounters.insert day
      ((tables.dailyCounters[day]?.getD .zero).add attempted)
    runCounters := tables.runCounters.insert runId
      ((tables.runCounters[runId]?.getD .zero).add attempted) }

def incrementFinalCounters (tables : TargetTables) (runId : TraceId) (day : RutgersDay)
    (succeeded empty : Bool) : StorageResult TargetTables := do
  let final : OpenAttemptCounters :=
    ⟨0,succeeded.toNat,(!succeeded).toNat,empty.toNat⟩
  let daily ← required tables.dailyCounters[day]? (invalidStored "open_pull_attempts" "counters")
  let run ← required tables.runCounters[runId]? (invalidStored "open_pull_attempts" "counters")
  pure { tables with
    dailyCounters := tables.dailyCounters.insert day (daily.add final)
    runCounters := tables.runCounters.insert runId (run.add final) }

/-- ORDER BY attempt_sequence DESC. -/
def newestFirst (tables : TargetTables) : List OpenAttempt :=
  tables.attempts.insertionSort (fun a b => b.attemptSequence ≤ a.attemptSequence)

/-- ORDER BY attempt_sequence ASC. -/
def oldestFirst (tables : TargetTables) : List OpenAttempt :=
  tables.attempts.insertionSort (fun a b => a.attemptSequence ≤ b.attemptSequence)

def prunedAttempts (tables : TargetTables) (retainRecent pruneLimit : Nat) : List TraceId :=
  let recent := (tables.newestFirst.take retainRecent).map OpenAttempt.attemptId
  let lkgAttemptId := tables.batch.bind OpenBatchState.lkgAttemptId
  ((tables.oldestFirst.filter (fun attempt =>
    attempt.classification≠.started && some attempt.attemptId≠lkgAttemptId &&
      !recent.contains attempt.attemptId)).take pruneLimit).map OpenAttempt.attemptId

/-- Deleting an attempt deletes what references it. -/
def pruneOpenDiagnostics (tables : TargetTables) (retainRecent pruneLimit : Nat) :
    TargetTables :=
  let pruned := tables.prunedAttempts retainRecent pruneLimit
  { tables with
    attempts := tables.attempts.filter (fun attempt => !pruned.contains attempt.attemptId)
    current := tables.current.filter (fun _ row => !pruned.contains row.attemptId) }

def pruneCommitted (tables : TargetTables) : TargetTables :=
  tables.pruneOpenDiagnostics openDiagnosticRetentionPerTarget
    openDiagnosticPruneAttemptsPerCommit

/-- The columns of a terminal attempt that applied nothing. -/
def finalizeAttempt (attempt : OpenAttempt) (completedAt : Timestamp)
    (classification : OpenAttemptClassification) (http : OpenHttpAuditMetadata)
    (response : Option CanonicalOpenResponse) (errorCode : String)
    (gateCatalogSetIdentity : Option String) : OpenAttempt :=
  { attempt with
    completedAt := some completedAt
    classification
    http
    canonicalSetSha256 := response.map CanonicalOpenResponse.canonicalSetSha256
    errorCode := some errorCode
    gateCatalogSetIdentity }

/-- The failure columns of open_batch_state. -/
def recordFailure (batch : OpenBatchState) (sequence : Nat) (failedAt : Timestamp)
    (errorCode : String) (httpStatus : Option Nat) : OpenBatchState :=
  { batch with
    lastFailureAttemptSequence := some sequence
    lastFailureAt := some failedAt
    lastFailureErrorCode := some errorCode
    lastFailureHttpStatus := httpStatus }

def finalizeNonAppliedAttempt (tables : TargetTables) (attempt : OpenAttempt)
    (completedAt : Timestamp) (classification : OpenAttemptClassification)
    (http : OpenHttpAuditMetadata) (response : Option CanonicalOpenResponse)
    (errorCode : String) (gateCatalogSetIdentity : Option String) :
    StorageResult TargetTables := do
  validateSafeCode "error_code" errorCode
  validateOpenHttpAudit http false
  optionalU64ToI64 (response.map CanonicalOpenResponse.sourceValueCount)
  let updated := tables.updateStarted attempt.attemptId (fun attempt =>
    finalizeAttempt attempt completedAt classification http response errorCode
      gateCatalogSetIdentity)
  let failed := { updated with
    batch := updated.batch.map (fun batch =>
      recordFailure batch attempt.attemptSequence completedAt errorCode http.httpStatus) }
  failed.incrementFinalCounters attempt.runId attempt.rutgersDay false
    (response.any (fun response => response.canonicalIndices.isEmpty))

end TargetTables

def loadStartedOpenAttempt (db : Database) (attemptId : TraceId) :
    StorageResult (TermCampusKey × TargetTables × OpenAttempt) := do
  let found ← required (db.findAttempt attemptId) (.openAttemptNotFound attemptId)
  ensure (found.2.2.classification=.started) (.openAttemptNotStarted attemptId)
  pure found

def ensureStartedOpenAttemptIsCurrent (tables : TargetTables) (attempt : OpenAttempt) :
    StorageResult OpenBatchState := do
  let batch ← required tables.batch (.sqlite "open_batch_state")
  ensure (batch.lastAttemptSequence=attempt.attemptSequence ∧
      batch.lastAttemptId=some attempt.attemptId)
    (.openAttemptSuperseded attempt.attemptId)
  pure batch

/-- A row that the same command inserted. -/
def OpenAttempt.begunBy (attempt : OpenAttempt) (target : TermCampusKey)
    (command : BeginOpenPullAttemptCommand)
    (candidate : Option CatalogCandidateOpenSnapshot) : Prop :=
  target=command.target ∧ attempt.runId=command.runId ∧
    attempt.rutgersDay=command.rutgersDay ∧
    attempt.capturedCatalogContentVersion=command.capturedCatalogContentVersion ∧
    attempt.startedAt=command.startedAt ∧ attempt.lane=command.lane ∧
    attempt.requestedIntervalSeconds=command.requestedIntervalSeconds ∧
    attempt.effectiveIntervalSeconds=command.effectiveIntervalSeconds ∧
    attempt.scheduleLagMs=command.scheduleLagMs ∧
    attempt.candidateCatalogObservationId=candidate.map (·.observationId) ∧
    attempt.candidateBaseContentVersion=candidate.map (·.baseContentVersion)

instance (attempt : OpenAttempt) (target : TermCampusKey)
    (command : BeginOpenPullAttemptCommand)
    (candidate : Option CatalogCandidateOpenSnapshot) :
    Decidable (attempt.begunBy target command candidate) :=
  inferInstanceAs (Decidable (_ ∧ _))

def startedAttempt (command : BeginOpenPullAttemptCommand) (sequence : Nat)
    (candidate : Option CatalogCandidateOpenSnapshot) (sections : ExtTreeSet SectionIndex) :
    OpenAttempt where
  attemptId := command.attemptId
  runId := command.runId
  attemptSequence := sequence
  rutgersDay := command.rutgersDay
  capturedCatalogContentVersion := command.capturedCatalogContentVersion
  startedAt := command.startedAt
  completedAt := none
  classification := .started
  lane := command.lane
  http := .none
  canonicalSetSha256 := none
  requestedIntervalSeconds := command.requestedIntervalSeconds
  effectiveIntervalSeconds := command.effectiveIntervalSeconds
  scheduleLagMs := command.scheduleLagMs
  errorCode := none
  candidateCatalogObservationId := candidate.map (·.observationId)
  candidateBaseContentVersion := candidate.map (·.baseContentVersion)
  gateCatalogSetIdentity := none
  catalogSections := sections
  observation := none

/-- The writes of a begin: the batch row, the attempt row and the counters. -/
def TargetTables.insertAttempt (tables : TargetTables) (command : BeginOpenPullAttemptCommand)
    (candidate : Option CatalogCandidateOpenSnapshot) (sections : ExtTreeSet SectionIndex) :
    TargetTables :=
  let batch := tables.batch.getD .new
  let sequence := batch.lastAttemptSequence+1
  { tables with
    batch := some { batch with
      lastAttemptSequence := sequence
      lastAttemptId := some command.attemptId
      lastAttemptAt := some command.startedAt }
    attempts := tables.attempts++[startedAttempt command sequence candidate sections] }
    |>.incrementAttemptedCounters command.runId command.rutgersDay

namespace Database

/-- The version and the sections that an attempt of a target captures. -/
def attemptCatalog (db : Database) (target : TermCampusKey)
    (candidate : Option CatalogCandidateOpenSnapshot) :
    StorageResult (Nat × ExtTreeSet SectionIndex) :=
  let serving := (db.tables target).catalog
  match candidate with
  | some candidate => do
    let staged ← required db.staged[candidate.observationId]?
      (.observationNotStaged candidate.observationId)
    ensure (staged.target=target ∧ serving.currentContentVersion=candidate.baseContentVersion)
      (.catalogContentVersionMismatch candidate.baseContentVersion
        serving.currentContentVersion)
    pure (candidate.catalog.contentVersion,staged.sections)
  | none => do
    ensure (0 < serving.currentContentVersion) .catalogTargetNotPublished
    pure (serving.currentContentVersion,serving.sections)

def beginOpenPullAttemptWithCatalog (db : Database) (command : BeginOpenPullAttemptCommand)
    (candidate : Option CatalogCandidateOpenSnapshot) : StorageResult (Nat × Database) := do
  validateOptionalPositive "requested_interval_seconds" command.requestedIntervalSeconds
  validateOptionalPositive "effective_interval_seconds" command.effectiveIntervalSeconds
  ensure (command.capturedCatalogContentVersion≠0)
    (.invalidCommand "captured_catalog_content_version" "must be positive")
  u64ToI64 command.capturedCatalogContentVersion
  optionalU64ToI64 command.requestedIntervalSeconds
  optionalU64ToI64 command.effectiveIntervalSeconds
  optionalU64ToI64 command.scheduleLagMs
  let (currentVersion,sections) ← db.attemptCatalog command.target candidate
  match db.findAttempt command.attemptId with
  | some (target,_,existing) =>
    ensure (existing.begunBy target command candidate)
      (.invalidCommand "attempt_id" "already identifies a different Open attempt")
    pure (existing.attemptSequence,db)
  | none =>
    let tables ← required db.targets[command.target]? (.sqlite "open_batch_state")
    match tables.attempts.find? (fun attempt => attempt.classification=.started) with
    | some active => throw (.openTargetInFlight active.attemptId)
    | none =>
      ensure (currentVersion=command.capturedCatalogContentVersion)
        (.catalogContentVersionMismatch command.capturedCatalogContentVersion currentVersion)
      pure ((tables.batch.getD .new).lastAttemptSequence+1,
        db.setTables command.target (tables.insertAttempt command candidate sections))

def beginOpenPullAttempt (db : Database) (command : BeginOpenPullAttemptCommand) :
    StorageResult (Nat × Database) :=
  db.beginOpenPullAttemptWithCatalog command none

def beginCandidateOpenPullAttempt (db : Database) (candidate : CatalogCandidateOpenSnapshot)
    (command : BeginOpenPullAttemptCommand) : StorageResult (Nat × Database) := do
  ensure (command.target=candidate.catalog.target ∧
      command.capturedCatalogContentVersion=candidate.catalog.contentVersion)
    (.invalidCommand "candidate_catalog"
      "must match the Open attempt target and captured version")
  db.beginOpenPullAttemptWithCatalog command (some candidate)

/-- The sum of the daily counters over all targets. -/
def openServiceDayCounters (db : Database) (day : RutgersDay) : OpenAttemptCounters :=
  (db.targets.toList.map (fun (_,tables) => tables.dailyCounters[day]?.getD .zero)).foldl
    OpenAttemptCounters.add .zero

end Database

section Finish

variable [Sha256]

/-- The response of a finish against the sections that its attempt copied. -/
structure OpenComparison where
  response : CanonicalOpenResponse
  catalogSectionCount : Nat
  intersectionCount : Nat
  orphanCount : Nat
  bodyChanged : Bool

def compareOpenResponse (batch : OpenBatchState) (attempt : OpenAttempt)
    (response : CanonicalOpenResponse) : OpenComparison where
  response
  catalogSectionCount := attempt.catalogSections.size
  intersectionCount := (response.canonicalIndices ∩ attempt.catalogSections).size
  orphanCount := (response.canonicalIndices \ attempt.catalogSections).size
  bodyChanged := batch.lkgCanonicalSetSha256≠some response.canonicalSetSha256

def intendedStates (attempt : OpenAttempt) (response : CanonicalOpenResponse) :
    ExtTreeMap SectionIndex OpenSectionState :=
  tabulate attempt.catalogSections (fun index =>
    if index∈response.canonicalIndices then .opened else .closed)

def retainedOutcome (batch : OpenBatchState) (attempt : OpenAttempt)
    (comparison : OpenComparison) (classification : OpenAttemptClassification)
    (stateChanged : Bool) : OpenCommitOutcome where
  attemptId := attempt.attemptId
  attemptSequence := attempt.attemptSequence
  classification
  refreshObservationId := none
  observationSequence := none
  catalogContentVersion := attempt.capturedCatalogContentVersion
  sourceValueCount := comparison.response.sourceValueCount
  catalogSectionCount := comparison.catalogSectionCount
  intersectionCount := comparison.intersectionCount
  orphanCount := comparison.orphanCount
  duplicateCount := comparison.response.duplicateCount
  changedSectionCount := 0
  bodyChanged := comparison.bodyChanged
  stateChanged
  retainedLkgAttemptId := batch.lkgAttemptId
  observationCommit := none

def batchObservation (attempt : OpenAttempt) (completedAt : Timestamp)
    (classification : OpenAttemptClassification) (sequence : Nat)
    (canonicalSetSha256 stateSha256 : String) : OpenBatchObservation where
  attemptId := attempt.attemptId
  observationId := deriveOpenRefreshObservationId attempt.attemptId
  observationSequence := sequence
  catalogContentVersion := attempt.capturedCatalogContentVersion
  observedAt := completedAt
  classification
  canonicalSetSha256
  stateSha256

def appliedAttempt (attempt : OpenAttempt) (completedAt : Timestamp)
    (http : OpenHttpAuditMetadata) (gateCatalogSetIdentity : Option String)
    (observation : OpenBatchObservation) : OpenAttempt :=
  { attempt with
    completedAt := some completedAt
    classification := observation.classification
    http
    canonicalSetSha256 := some observation.canonicalSetSha256
    errorCode := none
    gateCatalogSetIdentity
    observation := some observation }

/-- The last-known-good columns that an observation replaces. -/
def applyObservation (batch : OpenBatchState) (observation : OpenBatchObservation) :
    OpenBatchState :=
  { batch with
    lastObservationSequence := observation.observationSequence
    currentCatalogContentVersion := observation.catalogContentVersion
    lkgAttemptId := some observation.attemptId
    lkgObservationSequence := some observation.observationSequence
    lkgObservedAt := some observation.observedAt
    lastBodyChangeAt :=
      if batch.lkgCanonicalSetSha256≠some observation.canonicalSetSha256 then
        some observation.observedAt
      else batch.lastBodyChangeAt
    lastStateChangeAt :=
      if batch.lkgStateSha256≠some observation.stateSha256 then some observation.observedAt
      else batch.lastStateChangeAt
    lkgCanonicalSetSha256 := some observation.canonicalSetSha256
    lkgStateSha256 := some observation.stateSha256
    lastSuccessAt := some observation.observedAt }

def sectionCurrent (observation : OpenBatchObservation) (state : OpenSectionState) :
    OpenSectionCurrent :=
  ⟨state,observation.catalogContentVersion,observation.attemptId,
    observation.observationSequence,observation.observedAt⟩

/-- One event for each watched index, numbered by AUTOINCREMENT. -/
def sectionEvents (target : TermCampusKey) (observation : OpenBatchObservation)
    (canonicalIndices watchedIndices : ExtTreeSet SectionIndex) (lastEventId : Nat) :
    List OpenSectionEvent :=
  watchedIndices.toList.zipIdx.map (fun (index,position) =>
    { eventId := lastEventId+position+1
      observationId := deriveOpenSectionObservationId observation.attemptId index
      refreshObservationId := observation.observationId
      attemptId := observation.attemptId
      sectionKey := ⟨target.term,target.campus,index⟩
      state := if index∈canonicalIndices then .opened else .closed
      catalogContentVersion := observation.catalogContentVersion
      observationSequence := observation.observationSequence
      observedAt := observation.observedAt })

/-- Finalizes an attempt without applying it. -/
def finishRetained (db : Database) (target : TermCampusKey) (tables : TargetTables)
    (batch : OpenBatchState) (attempt : OpenAttempt) (command : FinishOpenPullSuccessCommand)
    (comparison : OpenComparison) (classification : OpenAttemptClassification)
    (errorCode : String) (gateCatalogSetIdentity : Option String) (stateChanged : Bool) :
    StorageResult (OpenCommitOutcome × Database) := do
  let finalized ← tables.finalizeNonAppliedAttempt attempt command.completedAt classification
    command.http (some comparison.response) errorCode gateCatalogSetIdentity
  pure (retainedOutcome batch attempt comparison classification stateChanged,
    db.setTables target finalized.pruneCommitted)

def appliedObservation (target : TermCampusKey) (batch : OpenBatchState) (attempt : OpenAttempt)
    (completedAt : Timestamp) (response : CanonicalOpenResponse)
    (classification : OpenAttemptClassification) : OpenBatchObservation :=
  batchObservation attempt completedAt classification (batch.lastObservationSequence+1)
    response.canonicalSetSha256 (openStateSha256V1 target (intendedStates attempt response))

/-- The current state of every Catalog section and the last-known-good columns. -/
def TargetTables.applyResponse (tables : TargetTables) (batch : OpenBatchState)
    (attempt : OpenAttempt) (command : FinishOpenPullSuccessCommand)
    (response : CanonicalOpenResponse) (observation : OpenBatchObservation) : TargetTables :=
  { tables.updateStarted attempt.attemptId (fun attempt => appliedAttempt attempt
      command.completedAt command.http command.gateCatalogSetIdentity observation) with
    current := (intendedStates attempt response).map
      (fun _ state => sectionCurrent observation state)
    batch := some (applyObservation batch observation) }

def appliedOutcome (tables counted : TargetTables) (batch : OpenBatchState)
    (attempt : OpenAttempt) (comparison : OpenComparison) (observation : OpenBatchObservation)
    (effectiveIntervalSeconds : Nat) (serviceDayCounts : OpenAttemptCounters)
    (sectionEvents : List OpenSectionEvent) : OpenCommitOutcome where
  attemptId := attempt.attemptId
  attemptSequence := attempt.attemptSequence
  classification := observation.classification
  refreshObservationId := some observation.observationId
  observationSequence := some observation.observationSequence
  catalogContentVersion := attempt.capturedCatalogContentVersion
  sourceValueCount := comparison.response.sourceValueCount
  catalogSectionCount := comparison.catalogSectionCount
  intersectionCount := comparison.intersectionCount
  orphanCount := comparison.orphanCount
  duplicateCount := comparison.response.duplicateCount
  changedSectionCount := changedStateCount (tables.current.map (fun _ row => row.state))
    (intendedStates attempt comparison.response)
  bodyChanged := comparison.bodyChanged
  stateChanged := batch.lkgStateSha256≠some observation.stateSha256
  retainedLkgAttemptId := some attempt.attemptId
  observationCommit := some
    { rutgersDay := attempt.rutgersDay
      effectiveIntervalSeconds
      runCounts := counted.runCounters[attempt.runId]?.getD .zero
      targetDayCounts := counted.dailyCounters[attempt.rutgersDay]?.getD .zero
      serviceDayCounts
      sectionEvents }

/-- Applies a valid response: the observation, the current state of every Catalog
section, one event for each watched one, and the last-known-good columns. -/
def finishApplied (db : Database) (target : TermCampusKey) (tables : TargetTables)
    (batch : OpenBatchState) (attempt : OpenAttempt) (command : FinishOpenPullSuccessCommand)
    (comparison : OpenComparison) (classification : OpenAttemptClassification) :
    StorageResult (OpenCommitOutcome × Database) := do
  let response := comparison.response
  let effectiveIntervalSeconds ← required attempt.effectiveIntervalSeconds
    (invalidStored "open_pull_attempts" "effective_interval_seconds")
  let watchedIndices ← canonicalizeWatchedSections target command.watchedSections
    attempt.catalogSections
  u64ToI64 response.sourceValueCount
  let observation := appliedObservation target batch attempt command.completedAt response
    classification
  let events := sectionEvents target observation response.canonicalIndices watchedIndices
    db.lastEventId
  let counted ← (tables.applyResponse batch attempt command response
    observation).incrementFinalCounters attempt.runId attempt.rutgersDay true
      response.canonicalIndices.isEmpty
  let committed := { db.setTables target counted.pruneCommitted with
    lastEventId := db.lastEventId+events.length }
  pure (appliedOutcome tables counted batch attempt comparison observation
    effectiveIntervalSeconds (committed.openServiceDayCounters attempt.rutgersDay) events,
    committed)

/-- What a finish does with a response to its attempt: the Catalog was replaced since
the begin, or the response is applied, or it is unsafe. -/
def finishCompared (db : Database) (target : TermCampusKey) (tables : TargetTables)
    (batch : OpenBatchState) (attempt : OpenAttempt) (command : FinishOpenPullSuccessCommand)
    (response : CanonicalOpenResponse) (acceptCandidateBaseVersion : Bool) :
    StorageResult (OpenCommitOutcome × Database) :=
  let comparison := compareOpenResponse batch attempt response
  if tables.catalog.currentContentVersion≠attempt.capturedCatalogContentVersion ∧
      ¬(acceptCandidateBaseVersion=true ∧
        attempt.candidateBaseContentVersion=some tables.catalog.currentContentVersion) then
    finishRetained db target tables batch attempt command comparison .staleCatalogRace
      "CATALOG_CONTENT_VERSION_CHANGED" none false
  else
    let classification := classifyOpenResponse response.canonicalIndices
      attempt.catalogSections comparison.intersectionCount command.gateHold
    if classification.isSuccess then
      finishApplied db target tables batch attempt command comparison classification
    else
      finishRetained db target tables batch attempt command comparison classification
        (unsafeErrorCode classification) command.gateCatalogSetIdentity
        (batch.lkgStateSha256≠some
          (openStateSha256V1 target (intendedStates attempt response)))

namespace Database

def finishOpenPullSuccessTransaction (db : Database) (command : FinishOpenPullSuccessCommand)
    (acceptCandidateBaseVersion : Bool) : StorageResult (OpenCommitOutcome × Database) := do
  validateOpenHttpAudit command.http true
  let (target,tables,attempt) ← loadStartedOpenAttempt db command.attemptId
  let batch ← ensureStartedOpenAttemptIsCurrent tables attempt
  validateTimestampOrder attempt.startedAt command.completedAt
  let response ← canonicalizeOpenResponse target command.openSections command.sourceValueCount
  ensure (0 < tables.catalog.currentContentVersion) .catalogTargetNotPublished
  finishCompared db target tables batch attempt command response acceptCandidateBaseVersion

def finishOpenPullSuccess (db : Database) (command : FinishOpenPullSuccessCommand) :
    StorageResult (OpenCommitOutcome × Database) :=
  db.finishOpenPullSuccessTransaction command false

/-- The command with the watched sections that the Catalog of the attempt has. -/
def retainWatched (command : FinishOpenPullSuccessCommand) (target : TermCampusKey)
    (catalogSections : ExtTreeSet SectionIndex) : FinishOpenPullSuccessCommand :=
  { command with
    watchedSections := command.watchedSections.filter (fun key =>
      key.target=target ∧ key.index∈catalogSections) }

/-- Publishes a staged Catalog together with the Open result reconciled against it,
or discards it with an unsafe one. -/
def finishCandidateOpenPullSuccess (db : Database) (catalogObservationId : TraceId)
    (emptyDecision : EmptySnapshotDecision) (command : FinishOpenPullSuccessCommand) :
    StorageResult (Option PublishOutcome × OpenCommitOutcome × Database) := do
  let (target,tables,attempt) ← loadStartedOpenAttempt db command.attemptId
  let _ ← ensureStartedOpenAttemptIsCurrent tables attempt
  ensure (attempt.candidateCatalogObservationId=some catalogObservationId)
    (.invalidCommand "candidate_catalog_observation_id"
      "must match the staged Catalog bound to the Open attempt")
  let candidateBase ← required attempt.candidateBaseContentVersion
    (.invalidStoredProjection "open_pull_attempts" "candidate_base_content_version"
      "candidate attempts require a base Catalog version")
  ensure (tables.catalog.currentContentVersion=candidateBase)
    (.catalogContentVersionMismatch candidateBase tables.catalog.currentContentVersion)
  let response ← canonicalizeOpenResponse target command.openSections command.sourceValueCount
  let retained := retainWatched command target attempt.catalogSections
  let classification := classifyOpenResponse response.canonicalIndices attempt.catalogSections
    (response.canonicalIndices ∩ attempt.catalogSections).size command.gateHold
  if classification.isSuccess then
    let (catalog,published) ← db.publishStaged catalogObservationId emptyDecision
    ensure (catalog.contentVersion=attempt.capturedCatalogContentVersion ∧
        catalog.retainsSuspectEmpty=false)
      (.catalogContentVersionMismatch attempt.capturedCatalogContentVersion
        catalog.contentVersion)
    let (outcome,committed) ← published.finishOpenPullSuccessTransaction retained false
    ensure (outcome.classification.isSuccess=true ∧
        outcome.catalogContentVersion=catalog.contentVersion)
      (.invalidStoredProjection "open_batch_state" "complete snapshot"
        "Open did not commit against the published Catalog candidate")
    pure (some catalog,outcome,committed)
  else
    let (outcome,committed) ← db.finishOpenPullSuccessTransaction retained true
    let _ ← required committed.staged[catalogObservationId]?
      (.observationNotStaged catalogObservationId)
    pure (none,outcome,committed.discardStaged catalogObservationId)

def finishOpenPullFailureTransaction (db : Database) (command : FinishOpenPullFailureCommand) :
    StorageResult (OpenCommitOutcome × Database) := do
  validateSafeCode "error_code" command.errorCode
  validateOptionalSafeToken "diagnostic_token" command.diagnosticToken
  validateOpenHttpAudit command.http false
  let (target,tables,attempt) ← loadStartedOpenAttempt db command.attemptId
  let batch ← ensureStartedOpenAttemptIsCurrent tables attempt
  validateTimestampOrder attempt.startedAt command.completedAt
  let finalized ← tables.finalizeNonAppliedAttempt attempt command.completedAt .failed
    command.http none command.errorCode none
  pure (⟨attempt.attemptId,attempt.attemptSequence,.failed,none,none,
    attempt.capturedCatalogContentVersion,0,attempt.catalogSections.size,0,0,0,0,false,false,
    batch.lkgAttemptId,none⟩,db.setTables target finalized.pruneCommitted)

def finishOpenPullFailure (db : Database) (command : FinishOpenPullFailureCommand) :
    StorageResult (OpenCommitOutcome × Database) :=
  db.finishOpenPullFailureTransaction command

def finishCandidateOpenPullFailure (db : Database) (catalogObservationId : TraceId)
    (command : FinishOpenPullFailureCommand) :
    StorageResult (OpenCommitOutcome × Database) := do
  let (_,_,attempt) ← loadStartedOpenAttempt db command.attemptId
  ensure (attempt.candidateCatalogObservationId=some catalogObservationId)
    (.invalidCommand "candidate_catalog_observation_id"
      "must match the staged Catalog bound to the Open attempt")
  let (outcome,committed) ← db.finishOpenPullFailureTransaction command
  let _ ← required committed.staged[catalogObservationId]?
    (.observationNotStaged catalogObservationId)
  pure (outcome,committed.discardStaged catalogObservationId)

end Database

end Finish

/-- The columns of an attempt that a restart found in flight. -/
def OpenAttempt.interrupt (attempt : OpenAttempt) (completedAt : Timestamp) : OpenAttempt :=
  { attempt with
    completedAt := some completedAt
    classification := .interrupted
    errorCode := some "PROCESS_RESTARTED" }

namespace TargetTables

def interruptAttempt (completedAt : Timestamp) (tables : TargetTables)
    (attempt : OpenAttempt) : StorageResult TargetTables :=
  let updated := tables.updateStarted attempt.attemptId
    (fun attempt => attempt.interrupt completedAt)
  let failed := { updated with
    batch := updated.batch.map (fun batch => recordFailure batch attempt.attemptSequence
      completedAt "PROCESS_RESTARTED" none) }
  failed.incrementFinalCounters attempt.runId attempt.rutgersDay false false

/-- The writes of a restart to one target: what was in flight was interrupted. -/
def recoverInterrupted (tables : TargetTables) (completedAt : Timestamp) :
    StorageResult TargetTables :=
  (tables.oldestFirst.filter (fun attempt => attempt.classification=.started)).foldlM
    (interruptAttempt completedAt) tables

end TargetTables

namespace Database

def pruneOpenDiagnostics (db : Database) (target : TermCampusKey) (retainRecent : Nat) :
    StorageResult Database := do
  ensure (retainRecent≠0) (.invalidCommand "retain_recent" "must be positive")
  u64ToI64 retainRecent
  match db.targets[target]? with
  | none => pure db
  | some tables => pure (db.setTables target
      (tables.pruneOpenDiagnostics retainRecent openDiagnosticPruneAttemptsPerCommit))

/-- recover_interrupted_refreshes. -/
def forgetStaged (db : Database) : Database :=
  { db with staged := ∅, known := fun _ h => absurd h ExtTreeMap.not_mem_empty }

/-- recover_interrupted_refreshes and recover_interrupted_open_attempts: a process
that opens the storage again. -/
def recoverInterrupted (db : Database) (now : Timestamp) : StorageResult Database :=
  db.targets.toList.foldlM (fun db (target,tables) => do
    let tables ← tables.recoverInterrupted now
    pure (db.setTables target tables)) db.forgetStaged

/-- The last applied OPEN indexes; none where nothing was ever applied. -/
def servingLkgOpenIndexSet (db : Database) (target : TermCampusKey) :
    Option (ExtTreeSet SectionIndex) :=
  match db.targets[target]? with
  | none => none
  | some tables =>
    if tables.current.isEmpty then none
    else some (.ofList (tables.current.filter (fun _ row => row.state=.opened)).keys)

/-- A candidate attempt is only visible if it published its Catalog. -/
def recentOpenGateAttemptSummaries (db : Database) (target : TermCampusKey) (limit : Nat) :
    List OpenGateAttemptSummary :=
  match db.targets[target]? with
  | none => []
  | some tables =>
    ((tables.newestFirst.filter (fun attempt =>
      attempt.classification≠.started &&
        (attempt.candidateCatalogObservationId.isNone || attempt.classification.isSuccess))).take
      limit).map (fun attempt =>
        ⟨attempt.classification,attempt.canonicalSetSha256,attempt.completedAt,
          attempt.gateCatalogSetIdentity⟩)

end Database

end CoursePlanner.Storage
