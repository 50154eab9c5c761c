import CoursePlanner.Library.ReverseIndex
import CoursePlanner.Watch.Session

namespace CoursePlanner.Watch

open Std Library Contracts

def startReplayWindow : Nat := 256
def sectionCursorWindow : Nat := 4096

inductive CoreStartAdmission where
  | admitted (initialState : CoreInitialState) (initialCursor : Option ObservationCursor)
  | sectionNotFound
  | targetUnavailable
  | unsupportedTarget
  | termOutOfRange
  deriving DecidableEq

structure CoreStartSpec where
  sectionKey : SectionKey
  policy : CorePolicy
  admission : CoreStartAdmission
  deriving DecidableEq

structure CoreConnection where
  lastTouch : WatchInstant
  watches : ExtTreeMap SectionKey CoreWatchSession
  startReplays : ExtTreeMap TraceId (CoreDispatch × Nat)
  startReplayOrder : List TraceId

structure SectionObservationWatermark where
  cursor : ObservationCursor
  published : Bool
  deriving DecidableEq

namespace CoreConnection

def new (now : WatchInstant) : CoreConnection := ⟨now,∅,∅,[]⟩

def activeEpisodeIds (connection : CoreConnection) : List TraceId :=
  ((orderedValues connection.watches).filter CoreWatchSession.continuousAlarmActive).filterMap
    (fun watch => watch.episode.map CoreEpisode.id)

end CoreConnection

/-- The in-memory watch core. Deques are lists with their front first. -/
structure CoreWatchManager (C I : Type) where
  clock : C
  ids : I
  heartbeatTimeout : Duration
  maxActiveWatches : NonZeroU8
  connections : ExtTreeMap TraceId CoreConnection
  connectionsBySection : ReverseIndex SectionKey TraceId
  observationCursors : ExtTreeMap SectionKey SectionObservationWatermark
  observationCursorOrder : List SectionKey

variable {C I : Type} [WatchClock C] [TraceIdSource I]

def pushMixerIfChanged (connection : CoreConnection) (previous : List TraceId)
    (stopReason : CoreMixerStopReason) (out : Emitter I) : Emitter I :=
  let current := connection.activeEpisodeIds
  if current≠previous then
    let active := !current.isEmpty
    out.push (.audioDisposition (.continuousMixer active current
      (if active then none else some stopReason)))
  else out

/-- The loops over connections return no dispatch without events. -/
def pushDispatch (dispatches : List CoreDispatch) (connectionId : TraceId)
    (emittedAt : OffsetDateTime) (out : Emitter I) : List CoreDispatch :=
  if out.events.isEmpty then dispatches else dispatches++[⟨connectionId,emittedAt,out.events⟩]

/-- One START item whose previous session, if any, has been dealt with. -/
def startSession (restarted : Bool) (now : WatchInstant) (spec : CoreStartSpec)
    (initialState : CoreInitialState) (initialCursor : Option ObservationCursor)
    (out : Emitter I) : CoreWatchSession × Emitter I :=
  let (watchId,out) := out.nextTraceId
  let session := CoreWatchSession.new watchId spec.sectionKey spec.policy initialState initialCursor
  let out := out.push (.startResult
    ⟨spec.sectionKey,if restarted then .restarted else .started,some watchId⟩)
  let out := out.pushAction (if restarted then .watchRestarted else .watchStarted)
    (some spec.sectionKey) (some watchId) none
  match initialState with
  | .opened observationId observedAt =>
    let (session,out) := openEpisode session observationId observedAt now out
    if session.policy.mode=.oneShot then queueOneShot session observationId out
    else (session,out)
  | _ => (session,out)

/-- The loop of acknowledge_all and of tick over the sessions of a connection:
settle says which current episode changes and how. The second loop draws the ids. -/
def sweepSessions (settle : CoreWatchSession → Option CoreEpisode) (kind : CoreActionKind)
    (connection : CoreConnection) (out : Emitter I) : CoreConnection × Emitter I :=
  let settled := (orderedValues connection.watches).filterMap (fun session =>
    (settle session).map (fun episode => (session,episode)))
  let out := { out with events := out.events++settled.map (fun entry => .episodeUpdated entry.2) }
  let out := settled.foldl (fun out entry => out.pushAction kind (some entry.1.sectionKey)
    (some entry.1.id) (some entry.2.id)) out
  ({ connection with watches := connection.watches.map (fun _ session =>
      match settle session with
      | some episode => { session with episode := some episode }
      | none => session) },out)

/-- What a command leaves of the session it located. -/
structure SessionChange (C I : Type) where
  clock : C
  emittedAt : OffsetDateTime
  session : CoreWatchSession
  out : Emitter I
  mixerStop : Option CoreMixerStopReason

/-- The accumulators of the START loop; the id source travels in the emitter. -/
structure StartLoop (C I : Type) where
  manager : CoreWatchManager C I
  connection : CoreConnection
  inMessage : ExtTreeSet SectionKey
  out : Emitter I

namespace StartLoop

def reject (loop : StartLoop C I) (sectionKey : SectionKey) (disposition : CoreStartDisposition) :
    StartLoop C I :=
  { loop with out := loop.out.push (.startResult ⟨sectionKey,disposition,none⟩) }

end StartLoop

namespace CoreWatchManager

/-- The manager that try_new_with_max_active_watches builds. -/
def tryNewWithMaxActiveWatches (clock : C) (ids : I) (heartbeatTimeout : Duration)
    (maxActiveWatches : NonZeroU8) : Except CoreManagerError (CoreWatchManager C I) :=
  if heartbeatTimeout.isZero then .error .invalidHeartbeatTimeout
  else .ok ⟨clock,ids,heartbeatTimeout,maxActiveWatches,∅,∅,∅,[]⟩

def now (manager : CoreWatchManager C I) : WatchInstant × CoreWatchManager C I :=
  let (now,clock) := WatchClock.now manager.clock
  (now,{ manager with clock := clock })

def wallNow (manager : CoreWatchManager C I) : OffsetDateTime × CoreWatchManager C I :=
  let (wall,clock) := WatchClock.wallNow manager.clock
  (wall,{ manager with clock := clock })

def session? (manager : CoreWatchManager C I) (connectionId : TraceId) (sectionKey : SectionKey) :
    Option CoreWatchSession :=
  manager.connections[connectionId]?.bind (fun connection => connection.watches[sectionKey]?)

def takeConnection (manager : CoreWatchManager C I) (connectionId : TraceId) :
    Except CoreManagerError (CoreConnection × CoreWatchManager C I) :=
  match manager.connections[connectionId]? with
  | none => .error .unknownConnection
  | some connection =>
    .ok (connection,{ manager with connections := manager.connections.erase connectionId })

def insertConnection (manager : CoreWatchManager C I) (connectionId : TraceId)
    (connection : CoreConnection) : CoreWatchManager C I :=
  { manager with connections := manager.connections.insert connectionId connection }

/-- A connection that was worked on goes back, and so does the id source. -/
def putBack (manager : CoreWatchManager C I) (connectionId : TraceId)
    (connection : CoreConnection) (out : Emitter I) : CoreWatchManager C I :=
  { manager with ids := out.ids }.insertConnection connectionId connection

def connect (manager : CoreWatchManager C I) (connectionId : TraceId) :
    Except CoreManagerError Unit × CoreWatchManager C I :=
  if connectionId∈manager.connections then (.error .connectionAlreadyExists,manager)
  else
    let (now,manager) := manager.now
    (.ok (),manager.insertConnection connectionId (.new now))

def touch (manager : CoreWatchManager C I) (connectionId : TraceId) :
    Except CoreManagerError Unit × CoreWatchManager C I :=
  let (now,manager) := manager.now
  match manager.connections[connectionId]? with
  | none => (.error .unknownConnection,manager)
  | some connection =>
    (.ok (),manager.insertConnection connectionId { connection with lastTouch := now })

def validateInitialWatermarks (manager : CoreWatchManager C I) (specs : List CoreStartSpec) :
    Except CoreManagerError Unit :=
  go (manager.observationCursors.map (fun _ => SectionObservationWatermark.cursor)) specs
where
  go (candidates : ExtTreeMap SectionKey ObservationCursor) :
      List CoreStartSpec → Except CoreManagerError Unit
    | [] => .ok ()
    | spec::specs =>
      match spec.admission with
      | .admitted _ (some cursor) =>
        match cursorAccepts candidates[spec.sectionKey]? cursor.pullSequence
            cursor.observationId with
        | .error error => .error error
        | .ok true => go (candidates.insert spec.sectionKey cursor) specs
        | .ok false => go candidates specs
      | _ => go candidates specs

def makeWatermarkRoom (manager : CoreWatchManager C I) (sectionKey : SectionKey) :
    CoreWatchManager C I :=
  if sectionKey∈manager.observationCursors then manager
  else
    let manager :=
      if manager.observationCursors.size=sectionCursorWindow then
        match manager.observationCursorOrder with
        | [] => manager
        | expired::order =>
          { manager with
            observationCursors := manager.observationCursors.erase expired
            observationCursorOrder := order }
      else manager
    { manager with observationCursorOrder := manager.observationCursorOrder++[sectionKey] }

def seedObservationWatermark (manager : CoreWatchManager C I) (sectionKey : SectionKey)
    (cursor : ObservationCursor) : CoreWatchManager C I :=
  match manager.observationCursors[sectionKey]? with
  | some watermark =>
    if watermark.cursor.pullSequence<cursor.pullSequence then
      { manager with
        observationCursors := manager.observationCursors.insert sectionKey ⟨cursor,false⟩ }
    else manager
  | none =>
    let manager := manager.makeWatermarkRoom sectionKey
    { manager with
      observationCursors := manager.observationCursors.insert sectionKey ⟨cursor,false⟩ }

def recordPublishedObservation (manager : CoreWatchManager C I) (sectionKey : SectionKey)
    (cursor : ObservationCursor) : CoreWatchManager C I :=
  match manager.observationCursors[sectionKey]? with
  | some _ =>
    { manager with
      observationCursors := manager.observationCursors.insert sectionKey ⟨cursor,true⟩ }
  | none =>
    let manager := manager.makeWatermarkRoom sectionKey
    { manager with
      observationCursors := manager.observationCursors.insert sectionKey ⟨cursor,true⟩ }

/-- connections_by_section.entry(section).or_default().insert(connection). -/
def link (manager : CoreWatchManager C I) (connectionId : TraceId) (sectionKey : SectionKey) :
    CoreWatchManager C I :=
  { manager with
    connectionsBySection := manager.connectionsBySection.link connectionId sectionKey }

def unlink (manager : CoreWatchManager C I) (connectionId : TraceId) (sectionKey : SectionKey) :
    CoreWatchManager C I :=
  { manager with
    connectionsBySection := manager.connectionsBySection.unlink connectionId sectionKey }

def startSpec (connectionId : TraceId) (now : WatchInstant) (emittedAt : OffsetDateTime)
    (loop : StartLoop C I) (spec : CoreStartSpec) : StartLoop C I :=
  if spec.sectionKey∈loop.inMessage then loop.reject spec.sectionKey .rejectedDuplicate
  else
    let loop := { loop with inMessage := loop.inMessage.insert spec.sectionKey }
    match spec.admission with
    | .sectionNotFound => loop.reject spec.sectionKey .rejectedSectionNotFound
    | .targetUnavailable => loop.reject spec.sectionKey .rejectedTargetUnavailable
    | .unsupportedTarget => loop.reject spec.sectionKey .rejectedUnsupportedTarget
    | .termOutOfRange => loop.reject spec.sectionKey .rejectedTermOutOfRange
    | .admitted initialState initialCursor =>
      let finish (restarted : Bool) (loop : StartLoop C I) : StartLoop C I :=
        let (session,out) := startSession restarted now spec initialState initialCursor loop.out
        { loop with
          manager := match initialCursor with
            | some cursor => loop.manager.seedObservationWatermark spec.sectionKey cursor
            | none => loop.manager
          connection := { loop.connection with
            watches := loop.connection.watches.insert spec.sectionKey session }
          out := out }
      match loop.connection.watches[spec.sectionKey]? with
      | some previous =>
        finish true { loop with
          out := (endSession previous .restarted emittedAt (some .watchRestarted) loop.out).2 }
      | none =>
        if loop.manager.maxActiveWatches.get ≤ loop.connection.watches.size then
          loop.reject spec.sectionKey .rejectedLimit
        else
          finish false { loop with manager := loop.manager.link connectionId spec.sectionKey }

/-- The replay table keeps the last START answers of the connection. -/
def recordReplay (connection : CoreConnection) (messageId : TraceId) (dispatch : CoreDispatch)
    (activeWatchCount : Nat) : CoreConnection :=
  let replays := connection.startReplays.insert messageId (dispatch,activeWatchCount)
  let order := connection.startReplayOrder++[messageId]
  if startReplayWindow<order.length then
    match order with
    | [] => { connection with startReplays := replays, startReplayOrder := order }
    | expired::order =>
      { connection with startReplays := replays.erase expired, startReplayOrder := order }
  else { connection with startReplays := replays, startReplayOrder := order }

def start (manager : CoreWatchManager C I) (connectionId messageId : TraceId)
    (specs : List CoreStartSpec) :
    Except CoreManagerError CoreStartOutcome × CoreWatchManager C I :=
  let (now,manager) := manager.now
  match manager.takeConnection connectionId with
  | .error error => (.error error,manager)
  | .ok (connection,manager) =>
    match connection.startReplays[messageId]? with
    | some (dispatch,activeWatchCount) =>
      (.ok ⟨dispatch,true,activeWatchCount⟩,
        manager.insertConnection connectionId { connection with lastTouch := now })
    | none =>
      match manager.validateInitialWatermarks specs with
      | .error error => (.error error,manager.insertConnection connectionId connection)
      | .ok () =>
        let (emittedAt,manager) := manager.wallNow
        let connection := { connection with lastTouch := now }
        let previousMixer := connection.activeEpisodeIds
        let loop := specs.foldl (startSpec connectionId now emittedAt)
          ⟨manager,connection,∅,⟨manager.ids,[]⟩⟩
        let out := pushMixerIfChanged loop.connection previousMixer .noUnacknowledgedEpisodes
          loop.out
        let activeWatchCount := loop.connection.watches.size
        let dispatch : CoreDispatch := ⟨connectionId,emittedAt,out.events⟩
        (.ok ⟨dispatch,false,activeWatchCount⟩,
          loop.manager.putBack connectionId
            (recordReplay loop.connection messageId dispatch activeWatchCount) out)

def stopWatch (manager : CoreWatchManager C I) (connectionId watchId : TraceId) :
    Except CoreManagerError CoreDispatch × CoreWatchManager C I :=
  match manager.takeConnection connectionId with
  | .error error => (.error error,manager)
  | .ok (connection,manager) =>
    let previousMixer := connection.activeEpisodeIds
    match connection.watches.toList.find? (fun entry => entry.2.id=watchId) with
    | none => (.error .unknownWatch,manager.insertConnection connectionId connection)
    | some (sectionKey,session) =>
      let connection := { connection with watches := connection.watches.erase sectionKey }
      let (emittedAt,manager) := manager.wallNow
      let (session,out) := endSession session .watchStopped emittedAt (some .watchStopped)
        ⟨manager.ids,[]⟩
      let out := out.pushAction .watchStopped (some sectionKey) (some watchId)
        (session.episode.map CoreEpisode.id)
      let out := out.push (.watchStopped sectionKey watchId)
      let manager := manager.unlink connectionId sectionKey
      let out := pushMixerIfChanged connection previousMixer .noUnacknowledgedEpisodes out
      (.ok ⟨connectionId,emittedAt,out.events⟩,manager.putBack connectionId connection out)

/-- The dry run of publish over the sessions of the section. -/
def validateSessions (manager : CoreWatchManager C I) (observation : OpenObservation) :
    List TraceId → Except CoreManagerError Unit
  | [] => .ok ()
  | connectionId::connectionIds =>
    match manager.session? connectionId observation.sectionKey with
    | none => manager.validateSessions observation connectionIds
    | some session =>
      match cursorAccepts session.observationCursor observation.pullSequence.get
          observation.observationId with
      | .error error => .error error
      | .ok _ => manager.validateSessions observation connectionIds

/-- The body of the fan-out loop of publish on the connection taken out. -/
def observeConnection (observation : OpenObservation) (now : WatchInstant)
    (connection : CoreConnection) (ids : I) :
    Except CoreManagerError (CoreConnection × Emitter I) :=
  let previousMixer := connection.activeEpisodeIds
  match connection.watches[observation.sectionKey]? with
  | none =>
    .ok (connection,
      pushMixerIfChanged connection previousMixer .noUnacknowledgedEpisodes ⟨ids,[]⟩)
  | some session =>
    let out : Emitter I := ⟨ids,[.observation observation]⟩
    match cursorAccepts session.observationCursor observation.pullSequence.get
        observation.observationId with
    | .error error => .error error
    | .ok accepted =>
      let (session,out) :=
        if accepted then
          applyObservation { session with
            observationCursor := some ⟨observation.pullSequence.get,
              observation.observationId⟩ } observation now out
        else (session,out)
      let connection := { connection with
        watches := connection.watches.insert observation.sectionKey session }
      .ok (connection,
        pushMixerIfChanged connection previousMixer .noUnacknowledgedEpisodes out)

/-- The loop over connections that publish and tick share: each one is taken
out, worked on and put back. A failure returns with the connection still out. -/
def visitConnections (work : CoreConnection → I → Except CoreManagerError (CoreConnection × Emitter I))
    (emittedAt : OffsetDateTime) :
    List TraceId → List CoreDispatch → CoreWatchManager C I →
      Except CoreManagerError (List CoreDispatch) × CoreWatchManager C I
  | [],dispatches,manager => (.ok dispatches,manager)
  | connectionId::connectionIds,dispatches,manager =>
    match manager.takeConnection connectionId with
    | .error _ => visitConnections work emittedAt connectionIds dispatches manager
    | .ok (connection,manager) =>
      match work connection manager.ids with
      | .error error => (.error error,manager)
      | .ok (connection,out) =>
        visitConnections work emittedAt connectionIds
          (pushDispatch dispatches connectionId emittedAt out)
          (manager.putBack connectionId connection out)

def fanOut (observation : OpenObservation) (now : WatchInstant) (emittedAt : OffsetDateTime)
    (connectionIds : List TraceId) (manager : CoreWatchManager C I) :
    Except CoreManagerError (List CoreDispatch) × CoreWatchManager C I :=
  visitConnections (observeConnection observation now) emittedAt connectionIds [] manager

def publish (manager : CoreWatchManager C I) (observation : OpenObservation) :
    Except CoreManagerError CorePublishOutcome × CoreWatchManager C I :=
  let sectionKey := observation.sectionKey
  let cursor : ObservationCursor := ⟨observation.pullSequence.get,observation.observationId⟩
  let watermark := manager.observationCursors[sectionKey]?
  match cursorAccepts (watermark.map SectionObservationWatermark.cursor) cursor.pullSequence
      cursor.observationId with
  | .error error => (.error error,manager)
  | .ok globallyNew =>
    let seededExact := watermark.any (fun value => !value.published && value.cursor=cursor)
    if !globallyNew && !seededExact then (.ok ⟨[],true⟩,manager)
    else
      let connectionIds := (manager.connectionsBySection[sectionKey]?.getD ∅).toList
      match manager.validateSessions observation connectionIds with
      | .error error => (.error error,manager)
      | .ok () =>
        let manager := manager.recordPublishedObservation sectionKey cursor
        if connectionIds.isEmpty then (.ok ⟨[],false⟩,manager)
        else
          let (now,manager) := manager.now
          let (emittedAt,manager) := manager.wallNow
          match fanOut observation now emittedAt connectionIds manager with
          | (.error error,manager) => (.error error,manager)
          | (.ok dispatches,manager) => (.ok ⟨dispatches,dispatches.isEmpty⟩,manager)

/-- The frame shared by the commands that locate one session of a connection
taken out of the map: a missing session or a refused change puts the connection
back untouched. -/
def commandSession (manager : CoreWatchManager C I) (connectionId : TraceId)
    (connection : CoreConnection) (select : CoreWatchSession → Bool)
    (missing : Except CoreManagerError CoreDispatch)
    (change : C → I → SectionKey → CoreWatchSession →
      Except CoreManagerError (SessionChange C I)) :
    Except CoreManagerError CoreDispatch × CoreWatchManager C I :=
  let previousMixer := connection.activeEpisodeIds
  match connection.watches.toList.find? (fun entry => select entry.2) with
  | none => (missing,manager.insertConnection connectionId connection)
  | some (sectionKey,session) =>
    match change manager.clock manager.ids sectionKey session with
    | .error error => (.error error,manager.insertConnection connectionId connection)
    | .ok changed =>
      let connection := { connection with
        watches := connection.watches.insert sectionKey changed.session }
      let out := match changed.mixerStop with
        | some stopReason => pushMixerIfChanged connection previousMixer stopReason changed.out
        | none => changed.out
      (.ok ⟨connectionId,changed.emittedAt,out.events⟩,
        { manager with clock := changed.clock }.putBack connectionId connection out)

end CoreWatchManager

end CoursePlanner.Watch
