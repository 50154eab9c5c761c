import CoursePlanner.Contracts.Observation

namespace CoursePlanner.Watch

open Std Contracts

/-- Monotonic milliseconds. -/
structure WatchInstant where
  milliseconds : Nat
  deriving DecidableEq, Repr

namespace WatchInstant

def saturatingAdd (instant : WatchInstant) (duration : Duration) : WatchInstant :=
  ⟨Contracts.saturatingAdd instant.milliseconds (millisOrMax duration)⟩

def elapsedSince (instant earlier : WatchInstant) : Duration :=
  .fromMillis (instant.milliseconds-earlier.milliseconds)

end WatchInstant

/-- Both readings may advance the clock; no relation between them is assumed. -/
class WatchClock (C : Type) where
  now : C → WatchInstant × C
  wallNow : C → OffsetDateTime × C

def defaultMaxAudible : NonZeroU64 := ⟨3,by decide,by decide⟩
def defaultContinuousSeconds : NonZeroU64 := ⟨600,by decide,by decide⟩

inductive CoreNotificationMode where
  | oneShot
  | continuous
  deriving DecidableEq, Repr

inductive CoreContinuousDuration where
  | finite (seconds : NonZeroU64)
  | unlimited
  deriving DecidableEq

def CoreContinuousDuration.deadline : CoreContinuousDuration → WatchInstant → Option WatchInstant
  | .finite seconds,now => some (now.saturatingAdd (.fromSecs seconds.get))
  | .unlimited,_ => none

structure CorePolicy where
  mode : CoreNotificationMode
  maxAudible : NonZeroU64
  continuousDuration : CoreContinuousDuration
  deriving DecidableEq

instance : Inhabited CorePolicy :=
  ⟨⟨.oneShot,defaultMaxAudible,.finite defaultContinuousSeconds⟩⟩

inductive CoreInitialState where
  | unknown
  | closed
  | opened (observationId : TraceId) (observedAt : OffsetDateTime)
  deriving DecidableEq

inductive ReliableState where
  | closed
  | opened
  deriving DecidableEq, Repr

inductive CoreEpisodeState where
  | unacknowledged
  | acknowledged
  | timedOut
  | closed
  deriving DecidableEq, Repr

inductive CoreEpisodeEndReason where
  | observedClosed
  | watchStopped
  | connectionClosed
  | heartbeatExpired
  | processStopped
  | restarted
  deriving DecidableEq, Repr

structure CoreEpisode where
  id : TraceId
  alertId : TraceId
  watchId : TraceId
  sectionKey : SectionKey
  policy : CorePolicy
  audibleCount : Nat
  sequence : Nat
  state : CoreEpisodeState
  observationCount : Nat
  firstObservationId : TraceId
  lastObservationId : TraceId
  firstObservedAt : OffsetDateTime
  lastObservedAt : OffsetDateTime
  stateChangedAt : OffsetDateTime
  closedAt : Option OffsetDateTime
  deadline : Option WatchInstant
  endReason : Option CoreEpisodeEndReason
  alertDismissed : Bool
  deriving DecidableEq

namespace CoreEpisode

def new (id alertId watchId : TraceId) (sectionKey : SectionKey) (policy : CorePolicy)
    (audibleCount sequence : Nat) (observationId : TraceId) (observedAt : OffsetDateTime)
    (deadline : Option WatchInstant) : CoreEpisode where
  id := id
  alertId := alertId
  watchId := watchId
  sectionKey := sectionKey
  policy := policy
  audibleCount := audibleCount
  sequence := sequence
  state := .unacknowledged
  observationCount := 1
  firstObservationId := observationId
  lastObservationId := observationId
  firstObservedAt := observedAt
  lastObservedAt := observedAt
  stateChangedAt := observedAt
  closedAt := none
  deadline := deadline
  endReason := none
  alertDismissed := false

def observeOpen (episode : CoreEpisode) (observationId : TraceId)
    (observedAt : OffsetDateTime) : CoreEpisode :=
  { episode with
    observationCount := saturatingAdd episode.observationCount 1
    lastObservationId := observationId
    lastObservedAt := max episode.lastObservedAt observedAt }

/-- The assignments shared by acknowledge, acknowledge_all and the timer. -/
def settle (episode : CoreEpisode) (state : CoreEpisodeState) (emittedAt : OffsetDateTime) :
    CoreEpisode :=
  { episode with
    state := state
    deadline := none
    stateChangedAt := max emittedAt episode.firstObservedAt }

end CoreEpisode

structure PendingCue where
  id : TraceId
  observationId : TraceId
  episodeId : TraceId
  deriving DecidableEq

structure ObservationCursor where
  pullSequence : Nat
  observationId : TraceId
  deriving DecidableEq

/-- One physical watch. The cue queue is oldest first. -/
structure CoreWatchSession where
  id : TraceId
  sectionKey : SectionKey
  policy : CorePolicy
  reliableState : Option ReliableState
  episodeSequence : Nat
  episode : Option CoreEpisode
  audibleCount : Nat
  activeCue : Option PendingCue
  queuedCues : List PendingCue
  observationCursor : Option ObservationCursor
  deriving DecidableEq

namespace CoreWatchSession

def new (id : TraceId) (sectionKey : SectionKey) (policy : CorePolicy)
    (initialState : CoreInitialState) (observationCursor : Option ObservationCursor) :
    CoreWatchSession where
  id := id
  sectionKey := sectionKey
  policy := policy
  reliableState := match initialState with
    | .unknown => none
    | .closed => some .closed
    | .opened _ _ => some .opened
  episodeSequence := 0
  episode := none
  audibleCount := 0
  activeCue := none
  queuedCues := []
  observationCursor := observationCursor

def continuousAlarmActive (session : CoreWatchSession) : Bool :=
  session.policy.mode=.continuous &&
    session.episode.any (fun episode => episode.state=.unacknowledged)

def takePendingCues (session : CoreWatchSession) : List PendingCue × CoreWatchSession :=
  (session.activeCue.toList++session.queuedCues,
    { session with activeCue := none, queuedCues := [] })

end CoreWatchSession

end CoursePlanner.Watch
