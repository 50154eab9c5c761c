import CoursePlanner.Watch.Index

set_option linter.unusedSectionVars false
set_option maxRecDepth 8000

namespace CoursePlanner.Watch

open Std Library Contracts

variable {C I : Type} [WatchClock C] [TraceIdSource I]

/-- Whatever happens to a connection that stays, its events keep the client's
active set in step. -/
theorem Move.mixerStep {op : Operation} {cid : TraceId} {ws next : Watches}
    {events : List CoreEvent}
    (h : Move op cid (some ws) (some next) events) :
    MixerStep (alarms ws) (alarms next) events := by
  cases h with
  | kept => exact .still _ _ rfl
  | control _ _ _ _ change | started _ _ _ _ _ _ change => exact change.mixer
  | stopped _ _ _ _ _ mixer => exact mixer
  | observed _ _ _ observation _ change =>
    cases change with
    | ignored _ silent => exact .still _ _ (by rw [silent]; rfl)
    | applied _ _ _ _ _ _ _ _ mixer => exact mixer

theorem Move.live {op : Operation} {cid : TraceId}
    {before after : Option Watches} {events : List CoreEvent}
    (h : Move op cid before after events) (hm : (tally events).mixers≠[]) :
    ∃ws next,before=some ws ∧ after=some next := by
  cases h with
  | kept | joined | left => exact absurd rfl hm
  | control ws next | observed ws next | started ws next =>
    exact ⟨ws,next,rfl,rfl⟩
  | stopped ws sk => exact ⟨ws,_,rfl,rfl⟩

/-- The active set that each client holds: a connection that was not live starts
from the empty set, the others fold in the events addressed to them. -/
def noteMixers (manager : CoreWatchManager C I) (_ : Operation) (outcome : Outcome)
    (_ : CoreWatchManager C I) (clients : TraceId → List TraceId) : TraceId → List TraceId :=
  fun connectionId =>
    if manager.connections[connectionId]?.isNone then []
    else foldMixer (clients connectionId) (outcome.eventsFor connectionId)

abbrev mixing : CoreWatchManager C I × (TraceId → List TraceId) → Operation →
    Outcome × (CoreWatchManager C I × (TraceId → List TraceId)) :=
  traced CoreWatchManager.step noteMixers

/-- Every live client holds the active set of its connection. -/
def InStep (s : CoreWatchManager C I × (TraceId → List TraceId)) : Prop :=
  ∀connectionId watches,s.1.store.watches? connectionId=some watches →
    s.2 connectionId=alarms watches

theorem mixing_inStep (s : CoreWatchManager C I × (TraceId → List TraceId))
    (op : Operation) (h : InStep s) : InStep (mixing s op).2 := by
  intro c next hn
  change noteMixers s.1 op (s.1.step op).1 (s.1.step op).2 s.2 c=_
  change (s.1.step op).2.store.watches? c=some next at hn
  have move := step_move s.1 op c
  rw [hn] at move
  unfold noteMixers
  cases hw : s.1.store.watches? c with
  | none =>
    have absent : s.1.connections[c]?=none := by simpa [Store.watches?,CoreWatchManager.store] using hw
    rw [hw] at move
    rw [absent]
    -- Only connect makes a conn live, and it has no watch yet.
    generalize (s.1.step op).1.eventsFor c=events at move
    cases move with
    | joined => rfl
  | some ws =>
    have present : s.1.connections[c]?.isNone=false := by
      cases hc : s.1.connections[c]? with
      | none => simp [Store.watches?,CoreWatchManager.store,hc] at hw
      | some conn => rfl
    rw [hw] at move
    rw [present,h c ws hw]
    exact move.mixerStep.fold

theorem reachable_inStep {initial : CoreWatchManager C I} (fresh : initial.Fresh)
    {s : CoreWatchManager C I × (TraceId → List TraceId)}
    (h : Reachable mixing (initial,fun _ => []) s) : InStep s := by
  refine h.invariant InStep ?_ mixing_inStep
  intro c ws hw
  have hc : initial.store.connections=∅ := fresh.connections
  simp [Store.watches?,hc] at hw

theorem mixers_of_dispatch (dispatches : List CoreDispatch) (dp : CoreDispatch)
    (h : dp∈dispatches) (hm : (tally dp.events).mixers≠[]) :
    (tally (eventsTo dp.connectionId dispatches)).mixers≠[] := by
  obtain ⟨front,rest,rfl⟩ := List.append_of_mem h
  have split : eventsTo dp.connectionId (front++dp::rest)= eventsTo dp.connectionId front++
        (dp.events++eventsTo dp.connectionId rest) := by
    simp [eventsTo]
  rw [split,tally_append,tally_append]
  simp [hm]

theorem mem_alarms (ws : Watches) (id : TraceId) :
    id∈alarms ws ↔ ∃(sk : SectionKey) (ses : CoreWatchSession) (ep : CoreEpisode),ws[sk]?=some ses ∧
      ses.policy.mode=.continuous ∧ ses.episode=some ep ∧
      ep.state=.unacknowledged ∧ ep.id=id := by
  unfold alarms
  rw [List.mem_filterMap]
  constructor
  · rintro ⟨ses,hs,ha⟩
    obtain ⟨key,hk⟩ := (mem_orderedValues ws ses).mp hs
    rw [ses.alarmId_eq] at ha
    obtain ⟨ep,he,hi⟩ := Option.bind_eq_some_iff.mp ha
    split at hi
    · next hc =>
      cases hi
      exact ⟨key,ses,ep,hk,hc.1,he,hc.2,rfl⟩
    · cases hi
  · rintro ⟨key,ses,ep,hk,hm,he,hs,rfl⟩
    refine ⟨ses,(mem_orderedValues ws ses).mpr ⟨key,hk⟩,?_⟩
    simp [ses.alarmId_eq,he,hm,hs]

/-- After every operation the client's fold is the active set of its connection,
and a dispatch speaks of the mixer only if the operation changed that set. -/
theorem client_mixer_in_step (initial : CoreWatchManager C I) (fresh : initial.Fresh)
    (s : CoreWatchManager C I × (TraceId → List TraceId))
    (h : Reachable mixing (initial,fun _ => []) s) :
    (∀(connectionId : TraceId) (connection : CoreConnection),
      s.1.connections[connectionId]?=some connection →
      s.2 connectionId=connection.activeEpisodeIds ∧
      ∀episodeId,episodeId∈s.2 connectionId ↔
        ∃(sectionKey : SectionKey) (session : CoreWatchSession) (episode : CoreEpisode),
          connection.watches[sectionKey]?=some session ∧ session.policy.mode=.continuous ∧
          session.episode=some episode ∧ episode.state=.unacknowledged ∧ episode.id=episodeId) ∧
    ∀(operation : Operation),∀dispatch∈(s.1.step operation).1.dispatches,
      (tally dispatch.events).mixers≠[] → ∃connection next : CoreConnection,
        s.1.connections[dispatch.connectionId]?=some connection ∧
        (s.1.step operation).2.connections[dispatch.connectionId]?=some next ∧
        next.activeEpisodeIds≠connection.activeEpisodeIds := by
  have inStep := reachable_inStep fresh h
  refine ⟨?_,?_⟩
  · intro c connection hc
    have hs := inStep c connection.watches (watches?_of_connection s.1 hc)
    refine ⟨hs.trans (activeEpisodeIds_eq connection).symm,?_⟩
    intro id
    rw [hs,mem_alarms]
  · intro operation dispatch hd hm
    have move := step_move s.1 operation dispatch.connectionId
    have told := mixers_of_dispatch _ dispatch hd hm
    obtain ⟨watches,rest,hw,hr⟩ := move.live told
    rw [hw,hr] at move
    obtain ⟨connection,hc,rfl⟩ := Option.map_eq_some_iff.mp hw
    obtain ⟨next,hn,rfl⟩ := Option.map_eq_some_iff.mp hr
    refine ⟨connection,next,hc,hn,?_⟩
    rw [activeEpisodeIds_eq,activeEpisodeIds_eq]
    exact move.mixerStep.changed told

/-- A continuous watch of an open section sounds, and stops once acknowledged. -/
def alarmOperations : List Operation :=
  [.connect (trace 1),
    .start (trace 1) (trace 2) [⟨firstSection,{ (default : CorePolicy) with mode := .continuous },
      .admitted (.opened (trace 11) 0) (some ⟨1,trace 11⟩)⟩]]

theorem client_mixer_in_step_alarm :
    let s := run mixing (fakeManager,fun _ => []) alarmOperations
    s.2 (trace 1)=[trace 0x103] ∧ ∃connection,s.1.connections[trace 1]?=some connection ∧
      s.2 (trace 1)=connection.activeEpisodeIds := by
  have live : ((run mixing (fakeManager,fun _ => []) alarmOperations).1.connections[
      trace 1]?).isSome=true := by decide
  obtain ⟨connection,hc⟩ := Option.isSome_iff_exists.mp live
  exact ⟨by decide,connection,hc,((client_mixer_in_step fakeManager fakeManager_fresh _
    (reachable_run mixing (fakeManager,fun _ => []) alarmOperations)).1 (trace 1) connection hc).1⟩

end CoursePlanner.Watch
