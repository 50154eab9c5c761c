import CoursePlanner.Watch.Mixer

set_option linter.unusedSectionVars false
set_option maxRecDepth 8000

namespace CoursePlanner.Watch

open Std Library Contracts

inductive WatchManagerError where
  | invalidHeartbeatTimeout
  | connectionAlreadyExists
  | unknownConnection
  | observationSequenceConflict
  | unknownWatch
  | unknownEpisode
  | unknownAlert
  | episodeNotResumable
  | invalidEpisodeAction
  | targetMismatch
  | initialObservationMismatch
  | invalidContractProjection
  | socketSealed
  deriving DecidableEq, Repr

def WatchManagerError.ofCore : CoreManagerError → WatchManagerError
  | .invalidHeartbeatTimeout => .invalidHeartbeatTimeout
  | .connectionAlreadyExists => .connectionAlreadyExists
  | .unknownConnection => .unknownConnection
  | .observationSequenceConflict => .observationSequenceConflict
  | .unknownWatch => .unknownWatch
  | .unknownEpisode => .unknownEpisode
  | .unknownAlert => .unknownAlert
  | .episodeNotResumable => .episodeNotResumable
  | .invalidEpisodeAction => .invalidEpisodeAction

/-- The question mark operator on a result of the core. -/
def fromCore {A : Type} : Except CoreManagerError A → Except WatchManagerError A
  | .ok value => .ok value
  | .error error => .error (.ofCore error)

structure WatchStartItem where
  sectionKey : SectionKey
  policy : CorePolicy
  deriving DecidableEq

def maxWatchStartItems : Nat := 255

/-- The items of one START: not empty, within the limit, no section twice. -/
structure WatchStartItems where
  items : List WatchStartItem
  nonempty : items≠[]
  bounded : items.length ≤ maxWatchStartItems
  unique : (items.map WatchStartItem.sectionKey).Nodup

inductive WatchStartAdmission where
  | admitted (currentObservation : Option OpenObservation)
  | sectionNotFound
  | targetUnavailable
  | unsupportedTarget
  | termOutOfRange
  deriving DecidableEq

structure ActiveWatchTarget where
  activeWatchId : TraceId
  sectionKey : SectionKey
  deriving DecidableEq

structure WatchEpisodeTarget where
  activeWatchId : TraceId
  episodeId : TraceId
  sectionKey : SectionKey
  deriving DecidableEq

structure WatchAlertTarget where
  activeWatchId : TraceId
  episodeId : TraceId
  alertId : TraceId
  sectionKey : SectionKey
  deriving DecidableEq

structure WatchCueOutcomeReport where
  cueId : TraceId
  activeWatchId : TraceId
  sectionKey : SectionKey
  outcome : CoreCueOutcome
  deriving DecidableEq

def initialCursor (current : Option OpenObservation) : Option ObservationCursor :=
  current.map (fun value => ⟨value.pullSequence.get,value.observationId⟩)

/-- Only an observation that is still fresh gives the session a state. -/
def initialState (startWallNow : OffsetDateTime) : Option OpenObservation → CoreInitialState
  | some value =>
    if startWallNow ≤ value.freshUntil && value.state=.opened then
      .opened value.observationId value.observedAt
    else if startWallNow ≤ value.freshUntil && value.state=.closed then .closed
    else .unknown
  | none => .unknown

def coreAdmission (startWallNow : OffsetDateTime) : WatchStartAdmission → CoreStartAdmission
  | .admitted current => .admitted (initialState startWallNow current) (initialCursor current)
  | .sectionNotFound => .sectionNotFound
  | .targetUnavailable => .targetUnavailable
  | .unsupportedTarget => .unsupportedTarget
  | .termOutOfRange => .termOutOfRange

/-- The current observation of an admission has to be of the item's section. -/
def WatchStartAdmission.mismatches (admission : WatchStartAdmission) (sectionKey : SectionKey) :
    Bool :=
  match admission with
  | .admitted (some value) => value.sectionKey≠sectionKey
  | _ => false

/-- The loop of start_with_admission; every item comes with the answer of the
admission closure. -/
def startSpecs (startWallNow : OffsetDateTime) :
    List (WatchStartItem × WatchStartAdmission) → Except WatchManagerError (List CoreStartSpec)
  | [] => .ok []
  | (item,admission)::items =>
    if admission.mismatches item.sectionKey then .error .initialObservationMismatch
    else match startSpecs startWallNow items with
      | .error error => .error error
      | .ok specs => .ok (⟨item.sectionKey,item.policy,coreAdmission startWallNow admission⟩::specs)

variable {C I : Type} [WatchClock C] [TraceIdSource I]

namespace CoreWatchManager

section Targets

variable (manager : CoreWatchManager C I) (connectionId : TraceId)

def findWatch (select : CoreWatchSession → Bool) : Option CoreWatchSession :=
  manager.connections[connectionId]?.bind (fun connection =>
    (orderedValues connection.watches).find? select)

def watchIdForSection (sectionKey : SectionKey) : Option TraceId :=
  (manager.session? connectionId sectionKey).map CoreWatchSession.id

def watchSection (watchId : TraceId) : Option SectionKey :=
  (manager.findWatch connectionId (fun watch => watch.id=watchId)).map
    CoreWatchSession.sectionKey

def episodeTarget (episodeId : TraceId) : Option (TraceId × SectionKey) :=
  (manager.findWatch connectionId
    (fun watch => watch.episode.any (fun episode => episode.id=episodeId))).map
    (fun watch => (watch.id,watch.sectionKey))

def alertTarget (alertId : TraceId) : Option (TraceId × TraceId × SectionKey) :=
  (manager.findWatch connectionId
    (fun watch => watch.episode.any (fun episode => episode.alertId=alertId))).bind
    (fun watch => watch.episode.map (fun episode => (watch.id,episode.id,watch.sectionKey)))

def cueTarget (cueId : TraceId) : Option (TraceId × SectionKey) :=
  (manager.findWatch connectionId
    (fun watch => watch.activeCue.any (fun cue => cue.id=cueId))).map
    (fun watch => (watch.id,watch.sectionKey))

end Targets

end CoreWatchManager

/-- The facade over the core. Its dispatches are the core's, before the wire
projection. -/
structure WatchManager (C I : Type) where
  core : CoreWatchManager C I

namespace WatchManager

section Facade

variable (manager : WatchManager C I) (connectionId : TraceId)

def withCore {A : Type} (result : Except CoreManagerError A × CoreWatchManager C I) :
    Except WatchManagerError A × WatchManager C I :=
  (fromCore result.1,⟨result.2⟩)

def connect : Except WatchManagerError Unit × WatchManager C I :=
  withCore (manager.core.connect connectionId)

def touch : Except WatchManagerError Unit × WatchManager C I :=
  withCore (manager.core.touch connectionId)

def startWithAdmission (messageId : TraceId)
    (items : List (WatchStartItem × WatchStartAdmission)) :
    Except WatchManagerError CoreStartOutcome × WatchManager C I :=
  let (startWallNow,core) := manager.core.wallNow
  match startSpecs startWallNow items with
  | .error error => (.error error,⟨core⟩)
  | .ok specs => withCore (core.start connectionId messageId specs)

/-- A command is refused unless it names its target in full. -/
def checked {A : Type} (matched : Bool)
    (command : Except CoreManagerError A × CoreWatchManager C I) :
    Except WatchManagerError A × WatchManager C I :=
  if matched then withCore command else (.error .targetMismatch,manager)

/-- The check of ensure_watch_target. -/
def watchMatches (target : ActiveWatchTarget) : Bool :=
  manager.core.watchSection connectionId target.activeWatchId=some target.sectionKey

/-- The check of ensure_episode_target. -/
def episodeMatches (target : WatchEpisodeTarget) : Bool :=
  manager.core.episodeTarget connectionId target.episodeId=
    some (target.activeWatchId,target.sectionKey)

def stopWatch (target : ActiveWatchTarget) :
    Except WatchManagerError CoreDispatch × WatchManager C I :=
  manager.checked (manager.watchMatches connectionId target)
    (manager.core.stopWatch connectionId target.activeWatchId)

/-- The reason is part of the wire projection only. -/
def stopSectionWithReason (sectionKey : SectionKey) :
    Except WatchManagerError CoreDispatch × WatchManager C I :=
  match manager.core.watchIdForSection connectionId sectionKey with
  | none => (.error .unknownWatch,manager)
  | some watchId => withCore (manager.core.stopWatch connectionId watchId)

def updatePolicy (target : ActiveWatchTarget) (policy : CorePolicy) :
    Except WatchManagerError CoreDispatch × WatchManager C I :=
  manager.checked (manager.watchMatches connectionId target)
    (manager.core.updatePolicy connectionId target.activeWatchId policy)

def acknowledgeEpisode (target : WatchEpisodeTarget) :
    Except WatchManagerError CoreDispatch × WatchManager C I :=
  manager.checked (manager.episodeMatches connectionId target)
    (manager.core.acknowledgeEpisode connectionId target.episodeId)

def acknowledgeAllEpisodes : Except WatchManagerError CoreDispatch × WatchManager C I :=
  withCore (manager.core.acknowledgeAll connectionId)

def resumeTimedOutEpisode (target : WatchEpisodeTarget) :
    Except WatchManagerError CoreDispatch × WatchManager C I :=
  manager.checked (manager.episodeMatches connectionId target)
    (manager.core.resumeEpisode connectionId target.episodeId)

def resetAudibleCount (target : ActiveWatchTarget) :
    Except WatchManagerError CoreDispatch × WatchManager C I :=
  manager.checked (manager.watchMatches connectionId target)
    (manager.core.resetAudibleCount connectionId target.activeWatchId)

def reportCueOutcome (report : WatchCueOutcomeReport) :
    Except WatchManagerError CoreDispatch × WatchManager C I :=
  manager.checked
    (manager.core.cueTarget connectionId report.cueId=
      some (report.activeWatchId,report.sectionKey))
    (manager.core.reportCueOutcome connectionId report.cueId report.outcome)

def dismissAlert (target : WatchAlertTarget) :
    Except WatchManagerError CoreDispatch × WatchManager C I :=
  manager.checked
    (manager.core.alertTarget connectionId target.alertId=
      some (target.activeWatchId,target.episodeId,target.sectionKey))
    (manager.core.dismissAlert connectionId target.alertId)

def publish (observation : OpenObservation) :
    Except WatchManagerError CorePublishOutcome × WatchManager C I :=
  withCore (manager.core.publish observation)

def disconnect : Except WatchManagerError CoreCleanupReport × WatchManager C I :=
  withCore (manager.core.disconnect connectionId)

def tick : CoreTickOutcome × WatchManager C I := manager.core.tick.map id WatchManager.mk

def processStop : List CoreCleanupReport × WatchManager C I :=
  manager.core.processStop.map id WatchManager.mk

end Facade

end WatchManager

/-- An admitted item whose current observation names its section becomes the
spec with the state and cursor that observation gives. -/
theorem startSpecs_find (startWallNow : OffsetDateTime)
    (items : List (WatchStartItem × WatchStartAdmission)) (specs : List CoreStartSpec)
    (h : startSpecs startWallNow items=.ok specs) (sk : SectionKey) :
    specs.find? (fun spec => spec.sectionKey=sk)=
      (items.find? (fun en => en.1.sectionKey=sk)).map (fun en =>
        ⟨en.1.sectionKey,en.1.policy,coreAdmission startWallNow en.2⟩) := by
  induction items generalizing specs with
  | nil =>
    cases h
    rfl
  | cons en items ih =>
    obtain ⟨item,admission⟩ := en
    unfold startSpecs at h
    split at h
    · cases h
    cases hs : startSpecs startWallNow items with
    | error error => simp [hs] at h
    | ok rest =>
      simp only [hs,Except.ok.injEq] at h
      subst h
      by_cases hk : item.sectionKey=sk
      · simp [hk]
      · simp [hk,ih rest hs]

def Superseded (core : CoreWatchManager C I) (observation : OpenObservation) : Prop :=
  ∃watermark,core.observationCursors[observation.sectionKey]?=some watermark ∧
    observation.pullSequence.get<watermark.cursor.pullSequence

/-- A new session, with the events of its START, bears no trace of the
observation it was admitted with. -/
structure TakesNothing (sectionKey : SectionKey) (session : CoreWatchSession)
    (events : List CoreEvent) : Prop where
  reliableState : session.reliableState=none
  episode : session.episode=none
  alarm : session.continuousAlarmActive=false
  cues : session.activeCue=none ∧ session.queuedCues=[]
  opened : sectionKey∉(tally events).opened
  cued : sectionKey∉events.filterMap CoreEvent.cue

theorem initialState_unknown_iff (startWallNow : OffsetDateTime) (obs : OpenObservation) :
    initialState startWallNow (some obs)=.unknown ↔
      obs.freshUntil < startWallNow ∨ obs.state=.unknown := by
  unfold initialState
  by_cases hf : startWallNow ≤ obs.freshUntil
  · have fresh : ¬obs.freshUntil < startWallNow := Int.not_lt.mpr hf
    cases hs : obs.state <;> simp [hs]
  · have stale : obs.freshUntil < startWallNow := Int.not_le.mp hf
    simp [hf,stale]

/-- A START item takes nothing from its observation exactly if it was given no state. -/
theorem StartedAt.takesNothing_iff {specs : List CoreStartSpec} {sk : SectionKey}
    {before : Option CoreWatchSession} {session : CoreWatchSession} {events : List CoreEvent}
    (h : StartedAt specs sk before (some session) (tally events))
    (created : sk∈(tally events).started)
    (cued : ∀key∈events.filterMap CoreEvent.cue,key∈(tally events).opened)
    (spec : CoreStartSpec) (state : CoreInitialState) (cursor : Option ObservationCursor)
    (first : specs.find? (fun spec => spec.sectionKey=sk)=some spec)
    (admitted : spec.admission=.admitted state cursor) :
    TakesNothing sk session events ↔ state=.unknown := by
  cases h with
  | untouched _ started => exact absurd created started
  | created found st cu made hf ha stored view _ opened cues =>
    cases stored
    rw [first] at hf
    cases hf
    rw [admitted] at ha
    cases ha
    have reliable := congrArg SessionView.reliableState view
    have episode := congrArg SessionView.episode view
    constructor
    · intro nothing
      cases state with
      | unknown => rfl
      | closed =>
        exact absurd (nothing.reliableState.symm.trans reliable) (by simp [SessionView.start])
      | opened =>
        exact absurd (nothing.reliableState.symm.trans reliable)
          (by simp [SessionView.start,SessionView.openRun])
    · rintro rfl
      have none : session.episode=none := by
        simpa [CoreWatchSession.view,SessionView.start] using episode
      have quiet : sk∉(tally events).opened := by
        rw [opened]
        simp [openingOf]
      exact ⟨reliable,none,by simp [CoreWatchSession.continuousAlarmActive,none],cues rfl,quiet,
        fun hk => quiet (cued _ hk)⟩

/-- START never consults the watermark: a session takes nothing from a superseded
observation exactly when that observation is stale or UNKNOWN. -/
theorem superseded_start_takes_nothing_iff (manager result : WatchManager C I)
    (connectionId messageId : TraceId) (items : List (WatchStartItem × WatchStartAdmission))
    (outcome : CoreStartOutcome) (item : WatchStartItem) (observation : OpenObservation)
    (session : CoreWatchSession)
    (started : manager.startWithAdmission connectionId messageId items=(.ok outcome,result))
    (executed : outcome.replayed=false)
    (first : items.find? (fun entry => entry.1.sectionKey=observation.sectionKey)=
      some (item,.admitted (some observation)))
    (_superseded : Superseded manager.core observation)
    (created : observation.sectionKey∈(tally outcome.dispatch.events).started)
    (held : result.core.session? connectionId observation.sectionKey=some session) :
    TakesNothing observation.sectionKey session outcome.dispatch.events ↔
      observation.freshUntil < manager.core.wallNow.1 ∨ observation.state=.unknown := by
  unfold WatchManager.startWithAdmission at started
  cases hs : startSpecs manager.core.wallNow.1 items with
  | error error => simp [hs] at started
  | ok specs =>
    simp only [hs] at started
    rcases start_cases manager.core.wallNow.2 connectionId messageId specs with
      ⟨error,after,hr,_⟩ | ⟨replay,after,connection,next,hr,hp,_⟩ |
      ⟨done,after,connection,next,hr,hp,hc,_,hn,change,_⟩
    · simp [hr,WatchManager.withCore,fromCore] at started
    · rw [hr] at started
      cases started
      rw [executed] at hp
      cases hp
    · rw [hr] at started
      cases started
      have found : next.watches[observation.sectionKey]?=some session := by
        have look : after.connections[connectionId]?=some next := by
          change after.store.connections[connectionId]?=some next
          rw [hn]
          simp
        simpa [CoreWatchManager.session?,look] using held
      have landed := change.sessions observation.sectionKey
      rw [found] at landed
      have spec := startSpecs_find _ _ _ hs observation.sectionKey
      rw [first] at spec
      rw [landed.takesNothing_iff created change.cued _ _ _ spec rfl]
      exact initialState_unknown_iff manager.core.wallNow.1 observation

/-- A CLOSED observation was published after the START had sampled an older one. -/
def publishedClosed : CoreWatchManager FakeClock FakeIds :=
  run CoreWatchManager.step fakeManager
    [.connect (trace 1),.publish (firstObservation (ordinal 2) 12 .closed)]

def continuousItem : WatchStartItem :=
  ⟨firstSection,{ (default : CorePolicy) with mode := .continuous }⟩

def startSampled (state : OpenState) :
    Except WatchManagerError CoreStartOutcome × WatchManager FakeClock FakeIds :=
  (WatchManager.mk publishedClosed).startWithAdmission (trace 1) (trace 2)
    [(continuousItem,.admitted (some (firstObservation ⟨1,by decide,by decide⟩ 11 state)))]

theorem superseded_start_takes_nothing_iff_unknown :
    ∃outcome session,(startSampled .unknown).1=.ok outcome ∧
      (startSampled .unknown).2.core.session? (trace 1) firstSection=some session ∧
      TakesNothing firstSection session outcome.dispatch.events := by
  have facts : (startSampled .unknown).1.toOption.map (fun outcome => (outcome.replayed,
      decide (firstSection∈(tally outcome.dispatch.events).started)))=some (false,true) := by decide
  have live : ((startSampled .unknown).2.core.session? (trace 1) firstSection).isSome=true := by
    decide
  obtain ⟨session,hs⟩ := Option.isSome_iff_exists.mp live
  cases ho : (startSampled .unknown).1 with
  | error error => simp [ho,Except.toOption] at facts
  | ok outcome =>
    simp only [ho,Except.toOption,Option.map_some,Option.some.injEq,Prod.mk.injEq,
      decide_eq_true_eq] at facts
    refine ⟨outcome,session,rfl,hs,?_⟩
    exact (superseded_start_takes_nothing_iff (WatchManager.mk publishedClosed) _ (trace 1)
      (trace 2) _ outcome continuousItem (firstObservation ⟨1,by decide,by decide⟩ 11 .unknown)
      session (Prod.ext ho rfl) facts.1 (by decide) ⟨⟨⟨2,trace 12⟩,true⟩,by decide,by decide⟩
      facts.2 hs).mpr (.inr rfl)

/-- The alarm sounds for a section that the manager knows to be closed. -/
theorem superseded_start_sounds : Reachable CoreWatchManager.step fakeManager publishedClosed ∧
    Superseded publishedClosed (firstObservation ⟨1,by decide,by decide⟩ 11 .opened) ∧
    ((startSampled .opened).2.core.session? (trace 1) firstSection).map (fun session =>
      (session.reliableState,session.continuousAlarmActive,session.observationCursor))=
      some (some .opened,true,some ⟨1,trace 11⟩) :=
  ⟨reachable_run _ _ _,⟨⟨⟨2,trace 12⟩,true⟩,by decide,by decide⟩,by decide⟩

end CoursePlanner.Watch
