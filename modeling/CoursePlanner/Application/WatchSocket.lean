import CoursePlanner.Watch.Facade

namespace CoursePlanner.Application

open Std Library Contracts Watch

/-- The commands of a page. START carries what the admission source answered
for its items before the state lock was taken. -/
inductive WatchClientCommand where
  | startWatch (items : WatchStartItems) (admissions : List WatchStartAdmission)
  | stopWatch (watch : ActiveWatchTarget)
  | updatePolicy (watch : ActiveWatchTarget) (policy : CorePolicy)
  | acknowledgeEpisode (episode : WatchEpisodeTarget)
  | acknowledgeAllEpisodes
  | resumeTimedOutEpisode (episode : WatchEpisodeTarget)
  | resetAudibleCount (watch : ActiveWatchTarget)
  | reportCueOutcome (report : WatchCueOutcomeReport)
  | dismissAlert (alert : WatchAlertTarget)
  | heartbeatAck

/-- A server envelope: its id and the event that it was projected from. -/
structure WatchFrame where
  envelopeId : TraceId
  event : CoreEvent
  deriving DecidableEq

/-- The frames of one dispatch in the hands of a sender, with the number that the
dispatch has in the order of production. -/
structure Parcel where
  serial : Nat
  connectionId : TraceId
  frames : List WatchFrame
  deriving DecidableEq

/-- What went out through the sender of a transport, oldest first. -/
structure ConnectionChannel where
  sent : List Parcel
  deriving DecidableEq

def ConnectionChannel.send (channel : ConnectionChannel) (parcel : Parcel) : ConnectionChannel :=
  ⟨channel.sent++[parcel]⟩

/-- The arguments of one deliver. The flag decides whether the history sink
records the dispatch; it is off for a replayed START and for a heartbeat. -/
structure Outgoing where
  dispatch : CoreDispatch
  messageId : Option TraceId
  record : Bool

/-- What the state mutex guards. -/
structure SocketState (C I E : Type) where
  manager : WatchManager C I
  connections : ExtTreeMap TraceId ConnectionChannel
  envelopeIds : E
  sealed : Bool
  owner : Option TraceId

/-- Actions of a dispatch go to the history only. -/
def isFrame : CoreEvent → Bool
  | .action _ => false
  | _ => true

variable {C I E : Type} [WatchClock C] [TraceIdSource I] [TraceIdSource E]

/-- The frames of a dispatch: an answer repeats the id of its message, anything
else draws a fresh one for each event. -/
def envelopes (messageId : Option TraceId) : List CoreEvent → E → List WatchFrame × E
  | [],ids => ([],ids)
  | event::events,ids =>
    let (envelopeId,ids) := match messageId with
      | some messageId => (messageId,ids)
      | none => TraceIdSource.nextTraceId ids
    let (frames,ids) := envelopes messageId events ids
    (⟨envelopeId,event⟩::frames,ids)

def admissionsForItems (items : WatchStartItems) (admissions : List WatchStartAdmission) :
    Except WatchManagerError (List (WatchStartItem × WatchStartAdmission)) :=
  if admissions.length≠items.items.length then .error .invalidContractProjection
  else .ok (items.items.zip admissions)

/-- The commands that work on watches a connection already holds. The owner's
path refuses the other two. -/
def runCommand (manager : WatchManager C I) (connectionId : TraceId) :
    WatchClientCommand → Except WatchManagerError CoreDispatch × WatchManager C I
  | .startWatch _ _ => (.error .targetMismatch,manager)
  | .stopWatch watch => manager.stopWatch connectionId watch
  | .updatePolicy watch policy => manager.updatePolicy connectionId watch policy
  | .acknowledgeEpisode episode => manager.acknowledgeEpisode connectionId episode
  | .acknowledgeAllEpisodes => manager.acknowledgeAllEpisodes connectionId
  | .resumeTimedOutEpisode episode => manager.resumeTimedOutEpisode connectionId episode
  | .resetAudibleCount watch => manager.resetAudibleCount connectionId watch
  | .reportCueOutcome report => manager.reportCueOutcome connectionId report
  | .dismissAlert alert => manager.dismissAlert connectionId alert
  | .heartbeatAck => (.error .targetMismatch,manager)

/-- A command reaches its handler only on a connection that the manager knows. -/
def afterTouch {A : Type} (manager : WatchManager C I) (connectionId : TraceId)
    (route : WatchManager C I → Except WatchManagerError A × WatchManager C I) :
    Except WatchManagerError A × WatchManager C I :=
  match manager.touch connectionId with
  | (.error error,manager) => (.error error,manager)
  | (.ok (),manager) => route manager

/-- The answer to a command, with the flag for the history sink. -/
def routeStart (manager : WatchManager C I) (connectionId messageId : TraceId)
    (items : List (WatchStartItem × WatchStartAdmission)) :
    Except WatchManagerError (CoreDispatch × Bool) × WatchManager C I :=
  match manager.startWithAdmission connectionId messageId items with
  | (.error error,manager) => (.error error,manager)
  | (.ok outcome,manager) => (.ok (outcome.dispatch,!outcome.replayed),manager)

def routeCommand (manager : WatchManager C I) (connectionId messageId : TraceId)
    (command : WatchClientCommand) :
    Except WatchManagerError (CoreDispatch × Bool) × WatchManager C I :=
  match command with
  | .startWatch items admissions =>
    match admissionsForItems items admissions with
    | .error error => (.error error,manager)
    | .ok items => afterTouch manager connectionId (fun manager =>
      routeStart manager connectionId messageId items)
  -- The touch is the whole effect of an acknowledgement.
  | .heartbeatAck => afterTouch manager connectionId (fun manager =>
    let (emittedAt,core) := manager.core.wallNow
    (.ok (⟨connectionId,emittedAt,[]⟩,false),⟨core⟩))
  | command => afterTouch manager connectionId (fun manager =>
    match runCommand manager connectionId command with
    | (.error error,manager) => (.error error,manager)
    | (.ok dispatch,manager) => (.ok (dispatch,true),manager))

namespace SocketState

def connect (state : SocketState C I E) (connectionId : TraceId) : Bool × SocketState C I E :=
  if state.sealed || state.owner=some connectionId then (false,state)
  else match state.manager.connect connectionId with
    | (.error _,manager) => (false,{ state with manager := manager })
    | (.ok (),manager) =>
      let (_,core) := manager.core.now
      (true,{ state with
        manager := ⟨core⟩
        connections := state.connections.insert connectionId ⟨[]⟩ })

def transportActivity (state : SocketState C I E) (connectionId : TraceId) :
    SocketState C I E :=
  { state with manager := (state.manager.touch connectionId).2 }

def disconnect (state : SocketState C I E) (connectionId : TraceId) :
    Except WatchManagerError CoreCleanupReport × SocketState C I E :=
  let (report,manager) := state.manager.disconnect connectionId
  (report,{ state with
    manager := manager
    connections := state.connections.erase connectionId })

def receiveText (state : SocketState C I E) (connectionId messageId : TraceId)
    (command : WatchClientCommand) : List Outgoing × SocketState C I E :=
  match routeCommand state.manager connectionId messageId command with
  | (.error _,manager) => ([],{ state with manager := manager })
  | (.ok (dispatch,record),manager) =>
    ([⟨dispatch,some messageId,record⟩],{ state with manager := manager })

def publish (state : SocketState C I E) (observation : OpenObservation) :
    List Outgoing × SocketState C I E :=
  match state.manager.publish observation with
  | (.error _,manager) => ([],{ state with manager := manager })
  | (.ok outcome,manager) =>
    (outcome.dispatches.map (fun dispatch => ⟨dispatch,none,!outcome.replayed⟩),
      { state with manager := manager })

/-- The watches that tick has to stop, in the order of the audience, the owner last. -/
def stopCandidates (state : SocketState C I E) (targetSupported termInRange : SectionKey → Bool) :
    List (TraceId × SectionKey) :=
  (state.connections.keys++state.owner.toList).flatMap (fun connectionId =>
    ((state.manager.core.connectionWatches connectionId).filter (fun sectionKey =>
      !targetSupported sectionKey || !termInRange sectionKey)).map
        (fun sectionKey => (connectionId,sectionKey)))

/-- The loop of tick over the candidates. A refused stop is skipped. -/
def stopSections : List (TraceId × SectionKey) → WatchManager C I →
    List CoreDispatch × WatchManager C I
  | [],manager => ([],manager)
  | (connectionId,sectionKey)::candidates,manager =>
    match manager.stopSectionWithReason connectionId sectionKey with
    | (.error _,manager) => stopSections candidates manager
    | (.ok dispatch,manager) =>
      let (dispatches,manager) := stopSections candidates manager
      (dispatch::dispatches,manager)

/-- The connections that the core expired lose their channel, and the owner its name. -/
def dropExpired (state : SocketState C I E) (reports : List CoreCleanupReport) :
    SocketState C I E :=
  reports.foldl (fun state report => { state with
    connections := state.connections.erase report.connectionId
    owner := if state.owner=some report.connectionId then none else state.owner }) state

/-- The owner has no transport that would keep it alive. -/
def touchOwner (state : SocketState C I E) : SocketState C I E :=
  { state with
    manager := match state.owner with
      | some owner => (state.manager.touch owner).2
      | none => state.manager }

def tick (state : SocketState C I E) (targetSupported termInRange : SectionKey → Bool) :
    List Outgoing × SocketState C I E :=
  let state := state.touchOwner
  let (forced,manager) := stopSections
    (state.stopCandidates targetSupported termInRange) state.manager
  let (outcome,manager) := manager.tick
  ((forced++outcome.dispatches).map (fun dispatch => ⟨dispatch,none,true⟩),
    { state with manager := manager }.dropExpired outcome.expiredConnections)

/-- The second half of ensure_owner_connection. -/
def connectOwner (state : SocketState C I E) :
    Except WatchManagerError TraceId × SocketState C I E :=
  let (owner,ids) := TraceIdSource.nextTraceId state.envelopeIds
  let state := { state with envelopeIds := ids }
  match state.manager.connect owner with
  | (.error error,manager) => (.error error,{ state with manager := manager })
  | (.ok (),manager) => (.ok owner,{ state with manager := manager, owner := some owner })

def ensureOwnerConnection (state : SocketState C I E) :
    Except WatchManagerError TraceId × SocketState C I E :=
  if state.sealed then (.error .socketSealed,state)
  else match state.owner with
    | none => state.connectOwner
    | some owner =>
      match state.manager.touch owner with
      | (.ok (),manager) => (.ok owner,{ state with manager := manager })
      | (.error _,manager) => { state with manager := manager }.connectOwner

/-- The locked part of owner_start, for the owner that the caller has in hand. -/
def ownerStart (state : SocketState C I E) (owner : TraceId) (items : WatchStartItems)
    (admissions : List WatchStartAdmission) : List Outgoing × SocketState C I E :=
  match admissionsForItems items admissions with
  | .error _ => ([],state)
  | .ok items =>
    let (messageId,ids) := TraceIdSource.nextTraceId state.envelopeIds
    let state := { state with envelopeIds := ids }
    match routeStart state.manager owner messageId items with
    | (.error _,manager) => ([],{ state with manager := manager })
    | (.ok (dispatch,record),manager) =>
      ([⟨dispatch,some messageId,record⟩],{ state with manager := manager })

/-- The locked part of owner_dispatch. -/
def ownerDispatch (state : SocketState C I E) (owner : TraceId) (command : WatchClientCommand) :
    List Outgoing × SocketState C I E :=
  match runCommand state.manager owner command with
  | (.error _,manager) => ([],{ state with manager := manager })
  | (.ok dispatch,manager) => ([⟨dispatch,none,true⟩],{ state with manager := manager })

def stopConnections (state : SocketState C I E) (sealing : Bool) :
    List CoreCleanupReport × SocketState C I E :=
  let (reports,manager) := state.manager.processStop
  (reports,{ state with
    manager := manager
    connections := ∅
    sealed := state.sealed || sealing
    owner := none })

/-- A dispatch of the owner goes to every attached page, any other one back to
its connection. -/
def deliver (state : SocketState C I E) (serial : Nat) (outgoing : Outgoing) :
    SocketState C I E :=
  let connectionId := outgoing.dispatch.connectionId
  let (frames,ids) := envelopes outgoing.messageId (outgoing.dispatch.events.filter isFrame)
    state.envelopeIds
  let parcel : Parcel := ⟨serial,connectionId,frames⟩
  { state with
    envelopeIds := ids
    connections :=
      if state.owner=some connectionId then
        state.connections.map (fun _ channel => channel.send parcel)
      else match state.connections[connectionId]? with
        | none => state.connections
        | some channel => state.connections.insert connectionId (channel.send parcel) }

end SocketState

/-- What a caller may do under the state lock. The owner's calls use the id that
the caller's last ensure_owner_connection returned. -/
inductive SocketCall where
  | connect (connectionId : TraceId)
  | transportActivity (connectionId : TraceId)
  | receiveText (connectionId messageId : TraceId) (command : WatchClientCommand)
  | disconnect (connectionId : TraceId)
  | publish (observation : OpenObservation)
  | tick (targetSupported termInRange : SectionKey → Bool)
  | ensureOwnerConnection
  | ownerStart (items : WatchStartItems) (admissions : List WatchStartAdmission)
  | ownerDispatch (command : WatchClientCommand)
  | stopConnections (sealing : Bool)

/-- What a locked call leaves: the dispatches to deliver and, after
ensure_owner_connection, the owner. -/
structure CallResult (C I E : Type) where
  outgoing : List Outgoing
  owner : Option TraceId
  state : SocketState C I E

def SocketState.execute (state : SocketState C I E) (owner : Option TraceId) :
    SocketCall → CallResult C I E
  | .connect connectionId => ⟨[],none,(state.connect connectionId).2⟩
  | .transportActivity connectionId => ⟨[],none,state.transportActivity connectionId⟩
  | .receiveText connectionId messageId command =>
    let (outgoing,state) := state.receiveText connectionId messageId command
    ⟨outgoing,none,state⟩
  | .disconnect connectionId => ⟨[],none,(state.disconnect connectionId).2⟩
  | .publish observation =>
    let (outgoing,state) := state.publish observation
    ⟨outgoing,none,state⟩
  | .tick targetSupported termInRange =>
    let (outgoing,state) := state.tick targetSupported termInRange
    ⟨outgoing,none,state⟩
  | .ensureOwnerConnection =>
    let (result,state) := state.ensureOwnerConnection
    ⟨[],result.toOption,state⟩
  | .ownerStart items admissions =>
    match owner with
    | none => ⟨[],none,state⟩
    | some owner =>
      let (outgoing,state) := state.ownerStart owner items admissions
      ⟨outgoing,none,state⟩
  | .ownerDispatch command =>
    match owner with
    | none => ⟨[],none,state⟩
    | some owner =>
      let (outgoing,state) := state.ownerDispatch owner command
      ⟨outgoing,none,state⟩
  | .stopConnections sealing => ⟨[],none,(state.stopConnections sealing).2⟩

/-- A dispatch that the manager has produced and its caller has yet to deliver. -/
structure Pending where
  caller : Nat
  serial : Nat
  outgoing : Outgoing

/-- The socket with its callers in mid-call: the dispatches in their hands, oldest
first, how many were produced so far, and the owner ids they hold. -/
structure SharedWatchSocket (C I E : Type) where
  state : SocketState C I E
  pending : List Pending
  produced : Nat
  owners : ExtTreeMap Nat TraceId

inductive SocketStep where
  | call (caller : Nat) (call : SocketCall)
  | deliver (caller : Nat)

/-- Dispatches are numbered as the manager produces them. -/
def stamp (caller : Nat) : Nat → List Outgoing → List Pending
  | _,[] => []
  | serial,outgoing::rest => ⟨caller,serial,outgoing⟩::stamp caller (serial+1) rest

namespace SharedWatchSocket

/-- A caller that still has dispatches to deliver has not returned. -/
def busy (socket : SharedWatchSocket C I E) (caller : Nat) : Bool :=
  socket.pending.any (fun waiting => waiting.caller=caller)

/-- The locked part of one call. -/
def mutate (socket : SharedWatchSocket C I E) (caller : Nat) (call : SocketCall) :
    SharedWatchSocket C I E :=
  let result := socket.state.execute socket.owners[caller]? call
  { state := result.state
    pending := socket.pending++stamp caller socket.produced result.outgoing
    produced := socket.produced+result.outgoing.length
    owners := match result.owner with
      | some owner => socket.owners.insert caller owner
      | none => socket.owners.erase caller }

/-- Takes the lock again for the first dispatch in the hands of the caller. -/
def deliverNext (socket : SharedWatchSocket C I E) (caller : Nat) : SharedWatchSocket C I E :=
  match socket.pending.dropWhile (fun waiting => waiting.caller≠caller) with
  | [] => socket
  | next::rest =>
    { socket with
      state := socket.state.deliver next.serial next.outgoing
      pending := socket.pending.takeWhile (fun waiting => waiting.caller≠caller)++rest }

def step (socket : SharedWatchSocket C I E) : SocketStep → Unit × SharedWatchSocket C I E
  | .call caller call => ((),if socket.busy caller then socket else socket.mutate caller call)
  | .deliver caller => ((),socket.deliverNext caller)

/-- A socket as its constructor leaves it, before any call. -/
structure Fresh (socket : SharedWatchSocket C I E) : Prop where
  manager : socket.state.manager.core.Fresh
  connections : socket.state.connections=∅
  owner : socket.state.owner=none
  pending : socket.pending=[]
  owners : socket.owners=∅

end SharedWatchSocket

end CoursePlanner.Application
