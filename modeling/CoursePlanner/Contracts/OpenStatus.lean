import CoursePlanner.Contracts.Calendar
import CoursePlanner.Contracts.Observation

namespace CoursePlanner.Contracts

/-- NonZeroU64::new, for Open sequences and Catalog content versions. -/
def nonZero (value : Nat) : Option ℕ+ :=
  if h : 0 < value then some (value.toPNat h) else none

theorem nonZero_some {value : Nat} (h : 0 < value) : nonZero value=some (value.toPNat h) :=
  dif_pos h

abbrev OpenSequence := ℕ+
abbrev CatalogContentVersion := ℕ+

inductive OpenRefreshClassification where
  | inFlight
  | validApplied
  | validEmptyNoRows
  | unsafeEmpty
  | unsafeZeroIntersection
  | suspectPartialSnapshot
  | staleCatalogRace
  | failed
  deriving DecidableEq, Repr

inductive OpenFailureClass where
  | network
  | timeout
  | http408
  | http429
  | forbidden
  | otherHttp4xx
  | http5xx
  | offOriginRedirect
  | nonJson
  | oversize
  | schemaViolation
  | invalidValue
  | persist
  | unsafeEmpty
  | unsafeZeroIntersection
  | suspectPartialSnapshot
  deriving DecidableEq, Repr

inductive OpenFreshnessState where
  | unknown
  | fresh
  | stale
  deriving DecidableEq, Repr

inductive OpenUncertaintyReason where
  | neverObserved
  | staleLastKnownGood
  | latestAttemptFailed
  | latestAttemptUnsafe
  | suspectPartialUpstream
  | staleCatalogRace
  | catalogVersionUnavailable
  deriving DecidableEq, Repr

structure OpenFreshness where
  state : OpenFreshnessState
  observedAt : Option OffsetDateTime
  freshUntil : Option OffsetDateTime
  lastKnownGoodAgeSeconds : Option Nat
  uncertainty : Option OpenUncertaintyReason
  deriving DecidableEq

structure OpenPullCounts where
  attempted : Nat
  succeeded : Nat
  failed : Nat
  empty : Nat
  deriving DecidableEq, Repr

structure OpenCounterSnapshot where
  runCounts : Option OpenPullCounts
  todayCounts : OpenPullCounts
  rutgersDay : RutgersDay
  deriving DecidableEq

structure OpenAttemptPoint where
  attemptSequence : OpenSequence
  startedAt : OffsetDateTime
  completedAt : Option OffsetDateTime
  classification : OpenRefreshClassification
  failureClass : Option OpenFailureClass
  deriving DecidableEq

structure OpenFailurePoint where
  attemptSequence : OpenSequence
  failedAt : OffsetDateTime
  failureClass : OpenFailureClass
  deriving DecidableEq

structure OpenObservationPoint where
  observationId : TraceId
  observationSequence : OpenSequence
  catalogContentVersion : CatalogContentVersion
  observedAt : OffsetDateTime
  canonicalSetHash : String
  stateHash : String
  deriving DecidableEq

structure OpenSchedulerStatus where
  requestedGeneralIntervalSeconds : Nat
  requestedEffectiveIntervalSeconds : Nat
  schedulerLagMilliseconds : Nat
  deriving DecidableEq, Repr

structure OpenRefreshStatus where
  batch : TermCampusKey
  catalogContentVersion : Option CatalogContentVersion
  latestAttempt : Option OpenAttemptPoint
  latestFailure : Option OpenFailurePoint
  lastValidObservation : Option OpenObservationPoint
  lastBodyChangeAt : Option OffsetDateTime
  lastStateChangeAt : Option OffsetDateTime
  freshness : OpenFreshness
  scheduler : OpenSchedulerStatus
  counterSnapshot : OpenCounterSnapshot
  deriving DecidableEq

structure OpenSectionStatus where
  sectionKey : SectionKey
  state : OpenState
  lastObservationId : Option TraceId
  catalogContentVersion : Option CatalogContentVersion
  freshness : OpenFreshness
  schedulerLagMilliseconds : Nat
  counterSnapshot : OpenCounterSnapshot
  deriving DecidableEq

/-- An observation that is handed to the watches. Its batch is that of its section. -/
structure OpenObservationV1 where
  observationId : TraceId
  refreshObservationId : TraceId
  batch : TermCampusKey
  sectionKey : SectionKey
  pullSequence : OpenSequence
  catalogContentVersion : CatalogContentVersion
  state : OpenState
  observedAt : OffsetDateTime
  freshUntil : OffsetDateTime
  schedulerLagMilliseconds : Nat
  counterSnapshot : OpenCounterSnapshot
  matched : batch=sectionKey.target
  deriving DecidableEq

def OpenObservationV1.tryNew (observationId refreshObservationId : TraceId)
    (batch : TermCampusKey) (sectionKey : SectionKey) (pullSequence : OpenSequence)
    (catalogContentVersion : CatalogContentVersion) (state : OpenState)
    (observedAt freshUntil : OffsetDateTime) (schedulerLagMilliseconds : Nat)
    (counterSnapshot : OpenCounterSnapshot) : Option OpenObservationV1 :=
  if h : batch=sectionKey.target then
    some ⟨observationId,refreshObservationId,batch,sectionKey,pullSequence,
      catalogContentVersion,state,observedAt,freshUntil,schedulerLagMilliseconds,
      counterSnapshot,h⟩
  else none

end CoursePlanner.Contracts
