import CoursePlanner.Library.Transition
import CoursePlanner.Watch.Commands

set_option linter.unusedSectionVars false

namespace CoursePlanner.Watch

open Std Library Contracts

/-- The entry points of the core manager. -/
inductive Operation where
  | connect (connectionId : TraceId)
  | touch (connectionId : TraceId)
  | start (connectionId messageId : TraceId) (specs : List CoreStartSpec)
  | stopWatch (connectionId watchId : TraceId)
  | publish (observation : OpenObservation)
  | updatePolicy (connectionId watchId : TraceId) (policy : CorePolicy)
  | acknowledgeEpisode (connectionId episodeId : TraceId)
  | acknowledgeAll (connectionId : TraceId)
  | resumeEpisode (connectionId episodeId : TraceId)
  | resetAudibleCount (connectionId watchId : TraceId)
  | reportCueOutcome (connectionId cueId : TraceId) (outcome : CoreCueOutcome)
  | dismissAlert (connectionId alertId : TraceId)
  | disconnect (connectionId : TraceId)
  | tick
  | processStop
  deriving DecidableEq

def eventsTo (connectionId : TraceId) (dispatches : List CoreDispatch) : List CoreEvent :=
  (dispatches.filter (fun produced => produced.connectionId=connectionId)).flatMap
    CoreDispatch.events

inductive Outcome where
  | unit (result : Except CoreManagerError Unit)
  | start (result : Except CoreManagerError CoreStartOutcome)
  | publish (result : Except CoreManagerError CorePublishOutcome)
  | dispatch (result : Except CoreManagerError CoreDispatch)
  | cleanup (result : Except CoreManagerError CoreCleanupReport)
  | tick (outcome : CoreTickOutcome)
  | stopped (reports : List CoreCleanupReport)

namespace Outcome

def failed : Outcome → Bool
  | .unit (.error _) => true
  | .start (.error _) => true
  | .publish (.error _) => true
  | .dispatch (.error _) => true
  | .cleanup (.error _) => true
  | _ => false

/-- The dispatches that an operation produces; a replayed START repeats one
that was produced before. -/
def dispatches : Outcome → List CoreDispatch
  | .start (.ok outcome) => if outcome.replayed then [] else [outcome.dispatch]
  | .publish (.ok outcome) => outcome.dispatches
  | .dispatch (.ok produced) => [produced]
  | .tick outcome => outcome.dispatches
  | _ => []

/-- The events that an operation addresses to one connection, in order. -/
def eventsFor (outcome : Outcome) (connectionId : TraceId) : List CoreEvent :=
  eventsTo connectionId outcome.dispatches

end Outcome

variable {C I : Type} [WatchClock C] [TraceIdSource I]

namespace CoreWatchManager

def step (manager : CoreWatchManager C I) : Operation → Outcome × CoreWatchManager C I
  | .connect connectionId => (manager.connect connectionId).map .unit id
  | .touch connectionId => (manager.touch connectionId).map .unit id
  | .start connectionId messageId specs =>
    (manager.start connectionId messageId specs).map .start id
  | .stopWatch connectionId watchId => (manager.stopWatch connectionId watchId).map .dispatch id
  | .publish observation => (manager.publish observation).map .publish id
  | .updatePolicy connectionId watchId policy =>
    (manager.updatePolicy connectionId watchId policy).map .dispatch id
  | .acknowledgeEpisode connectionId episodeId =>
    (manager.acknowledgeEpisode connectionId episodeId).map .dispatch id
  | .acknowledgeAll connectionId => (manager.acknowledgeAll connectionId).map .dispatch id
  | .resumeEpisode connectionId episodeId =>
    (manager.resumeEpisode connectionId episodeId).map .dispatch id
  | .resetAudibleCount connectionId watchId =>
    (manager.resetAudibleCount connectionId watchId).map .dispatch id
  | .reportCueOutcome connectionId cueId outcome =>
    (manager.reportCueOutcome connectionId cueId outcome).map .dispatch id
  | .dismissAlert connectionId alertId =>
    (manager.dismissAlert connectionId alertId).map .dispatch id
  | .disconnect connectionId => (manager.disconnect connectionId).map .cleanup id
  | .tick => manager.tick.map .tick id
  | .processStop => manager.processStop.map .stopped id

/-- A manager as its constructor leaves it, with any configuration. -/
structure Fresh (manager : CoreWatchManager C I) : Prop where
  connections : manager.connections=∅
  connectionsBySection : manager.connectionsBySection=∅
  observationCursors : manager.observationCursors=∅
  observationCursorOrder : manager.observationCursorOrder=[]

end CoreWatchManager

/-- The stopped clock of the acceptance tests. -/
structure FakeClock where
  monotonic : WatchInstant
  wall : OffsetDateTime

instance : WatchClock FakeClock where
  now clock := (clock.monotonic,clock)
  wallNow clock := (clock.wall,clock)

/-- The trace id 00000000-0000-4000-8000-{value:012x}. -/
def trace (value : Nat) : TraceId :=
  ⟨0x4000*2^64+0x8000*2^48+value%2^48,by refine ⟨?_,?_,?_⟩ <;> omega⟩

structure FakeIds where
  next : Nat

instance : TraceIdSource FakeIds where
  nextTraceId ids := (trace (ids.next+1),⟨ids.next+1⟩)

/-- The empty manager that the acceptance tests start from. -/
def fakeManager : CoreWatchManager FakeClock FakeIds :=
  ⟨⟨⟨0⟩,0⟩,⟨0x100⟩,.fromSecs 30,⟨9,by decide,by decide⟩,∅,∅,∅,[]⟩

theorem fakeManager_fresh : fakeManager.Fresh := ⟨rfl,rfl,rfl,rfl⟩

def ordinal (n : Nat) : NonZeroU64 :=
  if h : 0<n ∧ n ≤ u64Max then ⟨n,h.1,h.2⟩ else defaultMaxAudible

def firstObservation (pullSequence : NonZeroU64) (observationId : Nat) (state : OpenState) :
    OpenObservation :=
  ⟨trace observationId,firstSection,pullSequence,state,pullSequence.get*1000000000,
    (pullSequence.get+60)*1000000000⟩

end CoursePlanner.Watch
