import CoursePlanner.Watch.Effect

namespace CoursePlanner.Watch

open Std Contracts

variable {I : Type} [TraceIdSource I]

inductive CoreManagerError where
  | invalidHeartbeatTimeout
  | connectionAlreadyExists
  | unknownConnection
  | observationSequenceConflict
  | unknownWatch
  | unknownEpisode
  | unknownAlert
  | episodeNotResumable
  | invalidEpisodeAction
  deriving DecidableEq, Repr

def cursorAccepts (cursor : Option ObservationCursor) (pullSequence : Nat)
    (observationId : TraceId) : Except CoreManagerError Bool :=
  match cursor with
  | none => .ok true
  | some cursor =>
    if pullSequence<cursor.pullSequence then .ok false
    else if cursor.pullSequence<pullSequence then .ok true
    else if observationId=cursor.observationId then .ok false
    else .error .observationSequenceConflict

def pushCancelledCues (events : List CoreEvent) (watchId : TraceId) (sectionKey : SectionKey)
    (cues : List PendingCue) (reason : CoreCueCancellationReason) : List CoreEvent :=
  events++cues.map (fun cue => .audioDisposition
    (.cueCancelled watchId sectionKey cue.id cue.observationId reason))

def alertUpdate (sectionKey : SectionKey) (episode : CoreEpisode) (change : CoreAlertChange) :
    CoreAlertUpdate where
  alertId := episode.alertId
  episodeId := episode.id
  sectionKey := sectionKey
  change := change
  observationCount := episode.observationCount
  dismissed := episode.alertDismissed
  episode := episode

def openEpisode (session : CoreWatchSession) (observationId : TraceId)
    (observedAt : OffsetDateTime) (now : WatchInstant) (out : Emitter I) :
    CoreWatchSession × Emitter I :=
  let session := { session with episodeSequence := saturatingAdd session.episodeSequence 1 }
  let deadline :=
    if session.policy.mode=.continuous then session.policy.continuousDuration.deadline now
    else none
  let (id,out) := out.nextTraceId
  let (alertId,out) := out.nextTraceId
  let episode := CoreEpisode.new id alertId session.id session.sectionKey session.policy
    session.audibleCount session.episodeSequence observationId observedAt deadline
  let out := out.pushAction .episodeOpened (some session.sectionKey) (some session.id)
    (some episode.id)
  let out := out.push (.episodeUpdated episode)
  let out := out.push (.alertUpdated (alertUpdate session.sectionKey episode .opened))
  ({ session with episode := some episode },out)

/-- The closing assignments of end_session. -/
def closeEpisode (episode : CoreEpisode) (reason : CoreEpisodeEndReason)
    (closedAt : OffsetDateTime) : CoreEpisode :=
  let closedAt := max closedAt episode.lastObservedAt
  { episode with
    state := .closed
    deadline := none
    endReason := some reason
    stateChangedAt := max closedAt episode.firstObservedAt
    closedAt := some closedAt }

/-- The second half of end_session, after the cues have been cancelled. -/
def endEpisode (session : CoreWatchSession) (reason : CoreEpisodeEndReason)
    (closedAt : OffsetDateTime) (out : Emitter I) : CoreWatchSession × Emitter I :=
  match session.episode with
  | none => (session,out)
  | some episode =>
    if episode.state=.closed then (session,out)
    else
      let episode := closeEpisode episode reason closedAt
      let out := out.push (.episodeUpdated episode)
      let out := out.push (.alertUpdated (alertUpdate session.sectionKey episode .closed))
      let out := out.pushAction .episodeClosed (some session.sectionKey) (some session.id)
        (some episode.id)
      ({ session with episode := some episode },out)

def endSession (session : CoreWatchSession) (reason : CoreEpisodeEndReason)
    (closedAt : OffsetDateTime) (cancelReason : Option CoreCueCancellationReason)
    (out : Emitter I) : CoreWatchSession × Emitter I :=
  match cancelReason with
  | some cancelReason =>
    let (cues,session) := session.takePendingCues
    endEpisode session reason closedAt { out with
      events := pushCancelledCues out.events session.id session.sectionKey cues cancelReason }
  | none => endEpisode session reason closedAt out

def requestCue (session : CoreWatchSession) (cue : PendingCue) (out : Emitter I) :
    CoreWatchSession × Emitter I :=
  ({ session with activeCue := some cue },
    out.push (.audioDisposition (.oneShot session.id session.sectionKey cue.observationId
      (some cue.id) .requested session.audibleCount session.policy.maxAudible.get)))

def queueOneShot (session : CoreWatchSession) (observationId : TraceId) (out : Emitter I) :
    CoreWatchSession × Emitter I :=
  let max := session.policy.maxAudible.get
  if max ≤ session.audibleCount then
    (session,out.push (.audioDisposition (.oneShot session.id session.sectionKey observationId
      none .silentCap session.audibleCount max)))
  else
    let (id,out) := out.nextTraceId
    match session.episode with
    -- The source expects an episode here; both callers have just ensured one.
    | none => (session,out)
    | some episode =>
      let cue : PendingCue := ⟨id,observationId,episode.id⟩
      if session.activeCue.isSome then
        ({ session with queuedCues := session.queuedCues++[cue] },
          out.push (.audioDisposition (.oneShot session.id session.sectionKey observationId
            (some cue.id) .queued session.audibleCount max)))
      else requestCue session cue out

def driveOneShot (session : CoreWatchSession) (out : Emitter I) :
    CoreWatchSession × Emitter I :=
  if session.activeCue.isSome then (session,out)
  else
    let max := session.policy.maxAudible.get
    if max ≤ session.audibleCount then
      -- The pop_front loop drains the queue, one silent disposition for each cue.
      ({ session with queuedCues := [] },
        { out with events := out.events++session.queuedCues.map (fun cue =>
            .audioDisposition (.oneShot session.id session.sectionKey cue.observationId
              none .silentCap session.audibleCount max)) })
    else match session.queuedCues with
      | [] => (session,out)
      | cue::queuedCues => requestCue { session with queuedCues := queuedCues } cue out

def applyObservation (session : CoreWatchSession) (observation : OpenObservation)
    (now : WatchInstant) (out : Emitter I) : CoreWatchSession × Emitter I :=
  match observation.state with
  | .opened =>
    let createsEpisode := session.reliableState≠some .opened ||
      session.episode.all (fun episode => episode.state=.closed)
    let session := { session with reliableState := some .opened }
    let (session,out) :=
      if createsEpisode then
        openEpisode session observation.observationId observation.observedAt now out
      else match session.episode with
        | none => (session,out)
        | some episode =>
          let episode := episode.observeOpen observation.observationId observation.observedAt
          let out := out.push (.episodeUpdated episode)
          let out := out.push (.alertUpdated (alertUpdate session.sectionKey episode .updated))
          ({ session with episode := some episode },out)
    if session.policy.mode=.oneShot then
      queueOneShot session observation.observationId out
    else (session,out)
  | .closed =>
    endSession { session with reliableState := some .closed } .observedClosed
      observation.observedAt none out
  -- UNKNOWN is shown to the client but is neither a CLOSED transition nor a rearm.
  | .unknown => (session,out)

end CoursePlanner.Watch
