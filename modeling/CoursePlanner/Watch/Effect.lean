import CoursePlanner.Watch.State

namespace CoursePlanner.Watch

open Std Contracts

inductive CoreStartDisposition where
  | started
  | restarted
  | rejectedLimit
  | rejectedDuplicate
  | rejectedSectionNotFound
  | rejectedTargetUnavailable
  | rejectedUnsupportedTarget
  | rejectedTermOutOfRange
  deriving DecidableEq, Repr

structure CoreStartResult where
  sectionKey : SectionKey
  disposition : CoreStartDisposition
  watchId : Option TraceId
  deriving DecidableEq

inductive CoreAlertChange where
  | opened
  | updated
  | dismissed
  | closed
  deriving DecidableEq, Repr

structure CoreAlertUpdate where
  alertId : TraceId
  episodeId : TraceId
  sectionKey : SectionKey
  change : CoreAlertChange
  observationCount : Nat
  dismissed : Bool
  episode : CoreEpisode
  deriving DecidableEq

inductive CoreCueOutcome where
  | started
  | muted
  | autoplayBlocked
  | failed
  deriving DecidableEq, Repr

inductive CoreOneShotDisposition where
  | requested
  | queued
  | silentCap
  deriving DecidableEq, Repr

inductive CoreCueCancellationReason where
  | watchStopped
  | watchRestarted
  | notificationModeChanged
  deriving DecidableEq, Repr

inductive CoreMixerStopReason where
  | noUnacknowledgedEpisodes
  | notificationModeChanged
  deriving DecidableEq, Repr

inductive CoreAudioDisposition where
  | oneShot (watchId : TraceId) (sectionKey : SectionKey) (observationId : TraceId)
      (cueId : Option TraceId) (disposition : CoreOneShotDisposition)
      (audibleCount maxAudible : Nat)
  | cueCancelled (watchId : TraceId) (sectionKey : SectionKey) (cueId observationId : TraceId)
      (reason : CoreCueCancellationReason)
  | continuousMixer (active : Bool) (activeEpisodeIds : List TraceId)
      (stopReason : Option CoreMixerStopReason)
  deriving DecidableEq

inductive CoreActionKind where
  | watchStarted
  | watchRestarted
  | watchStopped
  | episodeOpened
  | episodeAcknowledged
  | episodesAcknowledgedAll
  | episodeTimedOut
  | episodeResumed
  | episodeClosed
  | audibleCountReset
  | cueStarted
  | cueMuted
  | cueAutoplayBlocked
  | cueFailed
  | alertDismissed
  | policyUpdated
  deriving DecidableEq, Repr

structure CoreAction where
  actionId : TraceId
  kind : CoreActionKind
  sectionKey : Option SectionKey
  watchId : Option TraceId
  episodeId : Option TraceId
  deriving DecidableEq

inductive CoreEvent where
  | startResult (result : CoreStartResult)
  | watchStopped (sectionKey : SectionKey) (watchId : TraceId)
  | observation (observation : OpenObservation)
  | episodeUpdated (episode : CoreEpisode)
  | alertUpdated (alert : CoreAlertUpdate)
  | audioDisposition (audio : CoreAudioDisposition)
  | cueOutcomeRecorded (cueId watchId : TraceId) (sectionKey : SectionKey)
      (outcome : CoreCueOutcome) (audibleCountConsumed : Bool) (audibleCount : Nat)
  | action (action : CoreAction)
  deriving DecidableEq

structure CoreDispatch where
  connectionId : TraceId
  emittedAt : OffsetDateTime
  events : List CoreEvent
  deriving DecidableEq

structure CoreStartOutcome where
  dispatch : CoreDispatch
  replayed : Bool
  activeWatchCount : Nat
  deriving DecidableEq

structure CorePublishOutcome where
  dispatches : List CoreDispatch
  replayed : Bool
  deriving DecidableEq

inductive CoreCleanupReason where
  | connectionClosed
  | heartbeatExpired
  | processStopped
  deriving DecidableEq, Repr

structure CoreCleanupReport where
  connectionId : TraceId
  reason : CoreCleanupReason
  recordedAt : OffsetDateTime
  sections : List SectionKey
  actions : List CoreAction
  deriving DecidableEq

structure CoreTickOutcome where
  expiredConnections : List CoreCleanupReport
  dispatches : List CoreDispatch
  deriving DecidableEq

/-- The two mutable borrows that every emitting method of the manager takes:
the id source and the event vector of the dispatch under construction. -/
structure Emitter (I : Type) where
  ids : I
  events : List CoreEvent

namespace Emitter

variable {I : Type} [TraceIdSource I]

def push (out : Emitter I) (event : CoreEvent) : Emitter I :=
  { out with events := out.events++[event] }

def pushEpisode (out : Emitter I) : Option CoreEpisode → Emitter I
  | some episode => out.push (.episodeUpdated episode)
  | none => out

def nextTraceId (out : Emitter I) : TraceId × Emitter I :=
  let (id,ids) := TraceIdSource.nextTraceId out.ids
  (id,{ out with ids := ids })

def pushAction (out : Emitter I) (kind : CoreActionKind) (sectionKey : Option SectionKey)
    (watchId episodeId : Option TraceId) : Emitter I :=
  let (actionId,out) := out.nextTraceId
  out.push (.action ⟨actionId,kind,sectionKey,watchId,episodeId⟩)

end Emitter

end CoursePlanner.Watch
