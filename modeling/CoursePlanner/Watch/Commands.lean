import CoursePlanner.Watch.Manager

namespace CoursePlanner.Watch

open Std Library Contracts

variable {C I : Type} [WatchClock C] [TraceIdSource I]

/-- The session part of update_policy: pending cues are cancelled when one-shot
turns continuous, and the deadline follows the new mode. -/
def updatePolicySession (now : WatchInstant) (policy : CorePolicy) (session : CoreWatchSession)
    (ids : I) : CoreWatchSession × Emitter I :=
  let (cancelledCues,session) :=
    if session.policy.mode=.oneShot && policy.mode=.continuous then session.takePendingCues
    else ([],session)
  let episode := session.episode.map (fun episode =>
    if policy.mode=.continuous then
      if episode.state=.unacknowledged then
        { episode with deadline := policy.continuousDuration.deadline now, policy := policy }
      else { episode with policy := policy }
    else { episode with deadline := none, policy := policy })
  let session := { session with policy := policy, episode := episode }
  let out : Emitter I := ⟨ids,pushCancelledCues [] session.id session.sectionKey cancelledCues
    .notificationModeChanged⟩
  let out := out.pushEpisode session.episode
  (session,out.pushAction .policyUpdated (some session.sectionKey) (some session.id)
    (session.episode.map CoreEpisode.id))

/-- The session part of acknowledge_episode, after the mode check. -/
def acknowledgeSession (emittedAt : OffsetDateTime) (session : CoreWatchSession) (ids : I) :
    CoreWatchSession × Emitter I :=
  match session.episode with
  | none => (session,⟨ids,[]⟩)
  | some episode =>
    if episode.state=.unacknowledged then
      let episode := episode.settle .acknowledged emittedAt
      let out := (Emitter.mk ids []).push (.episodeUpdated episode)
      ({ session with episode := some episode },
        out.pushAction .episodeAcknowledged (some session.sectionKey) (some session.id)
          (some episode.id))
    else (session,⟨ids,[]⟩)

/-- The session part of resume_episode, after the resumability check. -/
def resumeSession (now : WatchInstant) (emittedAt : OffsetDateTime) (session : CoreWatchSession)
    (episode : CoreEpisode) (ids : I) : CoreWatchSession × Emitter I :=
  let episode := { episode with
    state := .unacknowledged
    deadline := session.policy.continuousDuration.deadline now
    stateChangedAt := max emittedAt episode.firstObservedAt }
  let out := (Emitter.mk ids []).push (.episodeUpdated episode)
  ({ session with episode := some episode },
    out.pushAction .episodeResumed (some session.sectionKey) (some session.id) (some episode.id))

def resetSession (session : CoreWatchSession) (ids : I) : CoreWatchSession × Emitter I :=
  let session := { session with
    audibleCount := 0
    episode := session.episode.map (fun episode => { episode with audibleCount := 0 }) }
  let out : Emitter I := ⟨ids,[]⟩
  let out := out.pushEpisode session.episode
  driveOneShot session (out.pushAction .audibleCountReset (some session.sectionKey)
    (some session.id) (session.episode.map CoreEpisode.id))

def cueActionKind : CoreCueOutcome → CoreActionKind
  | .started => .cueStarted
  | .muted => .cueMuted
  | .autoplayBlocked => .cueAutoplayBlocked
  | .failed => .cueFailed

/-- The session part of report_cue_outcome for the located active cue. -/
def reportCueSession (outcome : CoreCueOutcome) (cue : PendingCue) (sectionKey : SectionKey)
    (session : CoreWatchSession) (ids : I) : CoreWatchSession × Emitter I :=
  let session := { session with activeCue := none }
  let session :=
    if outcome=.started then
      let audibleCount := saturatingAdd session.audibleCount 1
      { session with
        audibleCount := audibleCount
        episode := session.episode.map (fun episode =>
          { episode with audibleCount := audibleCount }) }
    else session
  let out := (Emitter.mk ids []).push (.cueOutcomeRecorded cue.id session.id session.sectionKey
    outcome (outcome=.started) session.audibleCount)
  let out := out.pushAction (cueActionKind outcome) (some sectionKey) (some session.id)
    (some cue.episodeId)
  let out := if outcome=.started then out.pushEpisode session.episode else out
  driveOneShot session out

def dismissSession (session : CoreWatchSession) (episode : CoreEpisode) (ids : I) :
    CoreWatchSession × Emitter I :=
  let episode := { episode with alertDismissed := true }
  let out := (Emitter.mk ids []).push
    (.alertUpdated (alertUpdate session.sectionKey episode .dismissed))
  ({ session with episode := some episode },
    out.pushAction .alertDismissed (some session.sectionKey) (some session.id) (some episode.id))

/-- The current episode that acknowledge_all changes in a session. -/
def acknowledgeAllSettle (emittedAt : OffsetDateTime) (session : CoreWatchSession) :
    Option CoreEpisode :=
  if session.policy.mode=.continuous then
    session.episode.bind (fun episode =>
      if episode.state=.unacknowledged then some (episode.settle .acknowledged emittedAt)
      else none)
  else none

/-- The current episode that the timer expires in a session. -/
def timeoutSettle (now : WatchInstant) (emittedAt : OffsetDateTime) (session : CoreWatchSession) :
    Option CoreEpisode :=
  if session.policy.mode=.continuous then
    session.episode.bind (fun episode =>
      if episode.state≠.unacknowledged ||
          episode.deadline.all (fun deadline => now.milliseconds<deadline.milliseconds) then none
      else some (episode.settle .timedOut emittedAt))
  else none

namespace CoreWatchManager

def updatePolicy (manager : CoreWatchManager C I) (connectionId watchId : TraceId)
    (policy : CorePolicy) : Except CoreManagerError CoreDispatch × CoreWatchManager C I :=
  match manager.takeConnection connectionId with
  | .error error => (.error error,manager)
  | .ok (connection,manager) =>
    let (now,manager) := manager.now
    let (emittedAt,manager) := manager.wallNow
    manager.commandSession connectionId connection (fun session => session.id=watchId)
      (.error .unknownWatch) (fun clock ids _ session =>
        let (changed,out) := updatePolicySession now policy session ids
        .ok ⟨clock,emittedAt,changed,out,
          some (if session.policy.mode≠policy.mode then .notificationModeChanged
            else .noUnacknowledgedEpisodes)⟩)

def acknowledgeEpisode (manager : CoreWatchManager C I) (connectionId episodeId : TraceId) :
    Except CoreManagerError CoreDispatch × CoreWatchManager C I :=
  match manager.takeConnection connectionId with
  | .error error => (.error error,manager)
  | .ok (connection,manager) =>
    manager.commandSession connectionId connection
      (fun session => session.episode.any (fun episode => episode.id=episodeId))
      (.error .unknownEpisode) (fun clock ids _ session =>
        if session.policy.mode≠.continuous then .error .invalidEpisodeAction
        else
          let (emittedAt,clock) := WatchClock.wallNow clock
          let (session,out) := acknowledgeSession emittedAt session ids
          .ok ⟨clock,emittedAt,session,out,some .noUnacknowledgedEpisodes⟩)

def acknowledgeAll (manager : CoreWatchManager C I) (connectionId : TraceId) :
    Except CoreManagerError CoreDispatch × CoreWatchManager C I :=
  match manager.takeConnection connectionId with
  | .error error => (.error error,manager)
  | .ok (connection,manager) =>
    let previousMixer := connection.activeEpisodeIds
    let (emittedAt,manager) := manager.wallNow
    let (connection,out) := sweepSessions (acknowledgeAllSettle emittedAt)
      .episodesAcknowledgedAll connection ⟨manager.ids,[]⟩
    let out := pushMixerIfChanged connection previousMixer .noUnacknowledgedEpisodes out
    (.ok ⟨connectionId,emittedAt,out.events⟩,manager.putBack connectionId connection out)

def resumeEpisode (manager : CoreWatchManager C I) (connectionId episodeId : TraceId) :
    Except CoreManagerError CoreDispatch × CoreWatchManager C I :=
  let (now,manager) := manager.now
  match manager.takeConnection connectionId with
  | .error error => (.error error,manager)
  | .ok (connection,manager) =>
    manager.commandSession connectionId connection
      (fun session => session.episode.any (fun episode => episode.id=episodeId))
      (.error .unknownEpisode) (fun clock ids _ session =>
        match session.episode with
        | none => .error .episodeNotResumable
        | some episode =>
          if session.policy.mode≠.continuous || session.reliableState≠some .opened ||
              episode.state≠.timedOut then .error .episodeNotResumable
          else
            let (emittedAt,clock) := WatchClock.wallNow clock
            let (session,out) := resumeSession now emittedAt session episode ids
            .ok ⟨clock,emittedAt,session,out,some .noUnacknowledgedEpisodes⟩)

def resetAudibleCount (manager : CoreWatchManager C I) (connectionId watchId : TraceId) :
    Except CoreManagerError CoreDispatch × CoreWatchManager C I :=
  match manager.takeConnection connectionId with
  | .error error => (.error error,manager)
  | .ok (connection,manager) =>
    manager.commandSession connectionId connection (fun session => session.id=watchId)
      (.error .unknownWatch) (fun clock ids _ session =>
        let (emittedAt,clock) := WatchClock.wallNow clock
        let (session,out) := resetSession session ids
        .ok ⟨clock,emittedAt,session,out,none⟩)

/-- A cue that no session of the connection has active is reported with an
empty dispatch, not refused. -/
def reportCueOutcome (manager : CoreWatchManager C I) (connectionId cueId : TraceId)
    (outcome : CoreCueOutcome) : Except CoreManagerError CoreDispatch × CoreWatchManager C I :=
  match manager.takeConnection connectionId with
  | .error error => (.error error,manager)
  | .ok (connection,manager) =>
    let (emittedAt,manager) := manager.wallNow
    let unchanged (clock : C) (ids : I) (session : CoreWatchSession) : SessionChange C I :=
      ⟨clock,emittedAt,session,⟨ids,[]⟩,none⟩
    manager.commandSession connectionId connection
      (fun session => session.activeCue.any (fun cue => cue.id=cueId))
      (.ok ⟨connectionId,emittedAt,[]⟩) (fun clock ids sectionKey session =>
        match session.activeCue with
        -- Located by its active cue, so the source takes it without a check.
        | none => .ok (unchanged clock ids session)
        | some cue =>
          let (session,out) := reportCueSession outcome cue sectionKey session ids
          .ok ⟨clock,emittedAt,session,out,none⟩)

def dismissAlert (manager : CoreWatchManager C I) (connectionId alertId : TraceId) :
    Except CoreManagerError CoreDispatch × CoreWatchManager C I :=
  match manager.takeConnection connectionId with
  | .error error => (.error error,manager)
  | .ok (connection,manager) =>
    manager.commandSession connectionId connection
      (fun session => session.episode.any (fun episode => episode.alertId=alertId))
      (.error .unknownAlert) (fun clock ids _ session =>
        match session.episode with
        | none => .error .unknownAlert
        | some episode =>
          let (emittedAt,clock) := WatchClock.wallNow clock
          let (session,out) := dismissSession session episode ids
          .ok ⟨clock,emittedAt,session,out,none⟩)

/-- The actions that cleanup records for one session of the removed connection. -/
def cleanupActions (sectionKey : SectionKey) (session : CoreWatchSession) (ids : I) :
    List CoreAction × I :=
  let (closed,ids) : List CoreAction × I := match session.episode with
    | none => ([],ids)
    | some episode =>
      if episode.state=.closed then ([],ids)
      else
        let (actionId,ids) := TraceIdSource.nextTraceId ids
        ([⟨actionId,.episodeClosed,some sectionKey,some session.id,some episode.id⟩],ids)
  let (actionId,ids) := TraceIdSource.nextTraceId ids
  (closed++[⟨actionId,.watchStopped,some sectionKey,some session.id,
    session.episode.map CoreEpisode.id⟩],ids)

/-- The loop of cleanup over the sessions of the removed connection. -/
def cleanupWatches (connectionId : TraceId) :
    List (SectionKey × CoreWatchSession) → List CoreAction → CoreWatchManager C I →
      List CoreAction × CoreWatchManager C I
  | [],actions,manager => (actions,manager)
  | (sectionKey,session)::watches,actions,manager =>
    let (recorded,ids) := cleanupActions sectionKey session manager.ids
    cleanupWatches connectionId watches (actions++recorded)
      ({ manager with ids := ids }.unlink connectionId sectionKey)

def cleanup (manager : CoreWatchManager C I) (connectionId : TraceId)
    (reason : CoreCleanupReason) :
    Except CoreManagerError CoreCleanupReport × CoreWatchManager C I :=
  let (recordedAt,manager) := manager.wallNow
  match manager.takeConnection connectionId with
  | .error error => (.error error,manager)
  | .ok (connection,manager) =>
    let (actions,manager) := cleanupWatches connectionId connection.watches.toList [] manager
    (.ok ⟨connectionId,reason,recordedAt,connection.watches.keys,actions⟩,manager)

def disconnect (manager : CoreWatchManager C I) (connectionId : TraceId) :
    Except CoreManagerError CoreCleanupReport × CoreWatchManager C I :=
  manager.cleanup connectionId .connectionClosed

/-- The loops of tick and process_stop that clean up a list of connections. -/
def cleanupAll (reason : CoreCleanupReason) :
    List TraceId → List CoreCleanupReport → CoreWatchManager C I →
      List CoreCleanupReport × CoreWatchManager C I
  | [],reports,manager => (reports,manager)
  | connectionId::connectionIds,reports,manager =>
    match manager.cleanup connectionId reason with
    | (.error _,manager) => cleanupAll reason connectionIds reports manager
    | (.ok report,manager) => cleanupAll reason connectionIds (reports++[report]) manager

/-- The body of the timer loop of tick on the connection taken out. -/
def tickConnection (now : WatchInstant) (emittedAt : OffsetDateTime)
    (connection : CoreConnection) (ids : I) : CoreConnection × Emitter I :=
  let previousMixer := connection.activeEpisodeIds
  let (connection,out) := sweepSessions (timeoutSettle now emittedAt) .episodeTimedOut
    connection ⟨ids,[]⟩
  (connection,pushMixerIfChanged connection previousMixer .noUnacknowledgedEpisodes out)

/-- The timer loop of tick; its body cannot fail. -/
def tickConnections (now : WatchInstant) (emittedAt : OffsetDateTime) :
    List TraceId → List CoreDispatch → CoreWatchManager C I →
      List CoreDispatch × CoreWatchManager C I
  | [],dispatches,manager => (dispatches,manager)
  | connectionId::connectionIds,dispatches,manager =>
    match manager.takeConnection connectionId with
    | .error _ => tickConnections now emittedAt connectionIds dispatches manager
    | .ok (connection,manager) =>
      let (connection,out) := tickConnection now emittedAt connection manager.ids
      tickConnections now emittedAt connectionIds
        (pushDispatch dispatches connectionId emittedAt out)
        (manager.putBack connectionId connection out)

def expiredConnections (manager : CoreWatchManager C I) (now : WatchInstant) : List TraceId :=
  manager.connections.toList.filterMap (fun entry =>
    if manager.heartbeatTimeout.nanos ≤ (now.elapsedSince entry.2.lastTouch).nanos
    then some entry.1 else none)

def tick (manager : CoreWatchManager C I) : CoreTickOutcome × CoreWatchManager C I :=
  let (now,manager) := manager.now
  let (emittedAt,manager) := manager.wallNow
  let (expired,manager) := cleanupAll .heartbeatExpired (manager.expiredConnections now) [] manager
  let (dispatches,manager) := tickConnections now emittedAt manager.connections.keys [] manager
  (⟨expired,dispatches⟩,manager)

def processStop (manager : CoreWatchManager C I) :
    List CoreCleanupReport × CoreWatchManager C I :=
  cleanupAll .processStopped manager.connections.keys [] manager

def watchedSections (manager : CoreWatchManager C I) (target : TermCampusKey) :
    List SectionKey :=
  manager.connectionsBySection.keys.filter (fun sectionKey => sectionKey.target=target)

def activeWatchCount (manager : CoreWatchManager C I) (target : TermCampusKey) : Nat :=
  min (manager.watchedSections target).length u64Max

def connectionWatches (manager : CoreWatchManager C I) (connectionId : TraceId) :
    List SectionKey :=
  (manager.connections[connectionId]?.map (fun connection => connection.watches.keys)).getD []

end CoreWatchManager

end CoursePlanner.Watch
