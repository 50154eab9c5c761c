import CoursePlanner.Watch.Move

set_option linter.unusedSectionVars false
set_option maxRecDepth 8000

namespace CoursePlanner.Watch

open Std CoursePlanner.Library CoursePlanner.Contracts

variable {C I : Type} [WatchClock C] [TraceIdSource I]

def Store.Held (store : Store) (connectionId : TraceId) (sectionKey : SectionKey) : Prop :=
  ∃watches,store.watches? connectionId=some watches ∧ watches[sectionKey]?≠none

/-- The reverse index is the inverse of the watch maps, and each session lies
under the key of its own section. -/
structure Inverse (store : Store) : Prop where
  listed : ∀connectionId sectionKey,
    store.connectionsBySection.Listed connectionId sectionKey ↔ store.Held connectionId sectionKey
  inhabited : store.connectionsBySection.Inhabited
  sections : ∀connectionId watches (sectionKey : SectionKey) session,
    store.watches? connectionId=some watches → watches[sectionKey]?=some session →
    session.sectionKey=sectionKey

/-- The part of the invariant that speaks of the index. -/
def Indexed (store : Store) : Prop :=
  (∀connectionId sectionKey,
    store.connectionsBySection.Listed connectionId sectionKey ↔
      store.Held connectionId sectionKey) ∧ store.connectionsBySection.Inhabited

structure SameHeld (before after : Store) : Prop where
  index : after.connectionsBySection=before.connectionsBySection
  held : ∀connectionId sectionKey,
    after.Held connectionId sectionKey ↔ before.Held connectionId sectionKey

theorem SameHeld.indexed {bef after : Store} (h : SameHeld bef after)
    (hi : Indexed bef) : Indexed after := by
  refine ⟨?_,by rw [h.index]; exact hi.2⟩
  intro c key
  rw [h.index,h.held]
  exact hi.1 c key

theorem SameHeld.of_watches {bef after : Store}
    (index : after.connectionsBySection=bef.connectionsBySection)
    (h : ∀cid,after.watches? cid=bef.watches? cid) :
    SameHeld bef after :=
  ⟨index,fun c key => by rw [Store.Held,Store.Held,h]⟩

variable {events : List CoreEvent} {next ws : Watches} {cid : TraceId}

theorem Control.held (h : Control ws next events) (sk : SectionKey) :
    next[sk]?≠none ↔ ws[sk]?≠none := by
  have hv := congrArg Option.isSome (h.views sk)
  rw [Option.isSome_map,Option.isSome_map] at hv
  rw [←Option.isSome_iff_ne_none,←Option.isSome_iff_ne_none,hv]

theorem Observed.held {obs : OpenObservation} (h : Observed obs ws next events)
    (sk : SectionKey) : next[sk]?≠none ↔ ws[sk]?≠none := by
  cases h with
  | ignored => exact Iff.rfl
  | applied ses next _ present =>
    rw [getElem?_insert_eq]
    split
    · next hk =>
      subst hk
      simp [present]
    · exact Iff.rfl

theorem sameHeld_insert (bef after : Store) (cid : TraceId) (conn next : CoreConnection)
    (present : bef.connections[cid]?=some conn)
    (stored : after=bef.insert cid next)
    (h : ∀sk : SectionKey, next.watches[sk]?≠none ↔ conn.watches[sk]?≠none) :
    SameHeld bef after := by
  subst stored
  refine ⟨rfl,?_⟩
  intro c key
  unfold Store.Held
  rw [Store.watches?_insert]
  by_cases hc : cid=c
  · subst hc
    rw [Store.watches?_some present]
    simpa using h key
  · rw [if_neg hc]

theorem Answered.sameHeld {store : Store}
    {res : Except CoreManagerError CoreDispatch × CoreWatchManager C I}
    (h : Answered store cid res) : SameHeld store res.2.store := by
  cases h with
  | refused error manager same => exact .of_watches (by rw [same]) (fun _ => by rw [same])
  | answered _ _ conn next present _ stored control =>
    exact sameHeld_insert _ _ _ conn next present stored control.held

section

variable (manager : CoreWatchManager C I)

include manager

theorem connect_sameHeld (cid : TraceId) :
    SameHeld manager.store (manager.connect cid).2.store := by
  unfold CoreWatchManager.connect
  split
  · exact .of_watches rfl (fun _ => rfl)
  next hm =>
  have absent : manager.store.watches? cid=none := by
    simp [Store.watches?,CoreWatchManager.store,ExtTreeMap.getElem?_eq_none hm]
  refine ⟨rfl,?_⟩
  intro c key
  unfold Store.Held
  rw [CoreWatchManager.insertConnection_store,Store.watches?_insert]
  split
  · next hc =>
    subst hc
    rw [absent]
    simp [CoreConnection.new]
  · rfl

theorem touch_sameHeld (cid : TraceId) : SameHeld manager.store (manager.touch cid).2.store := by
  refine .of_watches ?_ (touch_watches manager cid)
  unfold CoreWatchManager.touch
  dsimp only
  split <;> rfl

theorem publish_sameHeld (obs : OpenObservation) :
    SameHeld manager.store (manager.publish obs).2.store := by
  rcases publish_cases manager obs with ⟨error,hr⟩ | ⟨oc,res,hr,index,published⟩
  · rw [hr]
    exact .of_watches rfl (fun _ => rfl)
  rw [hr]
  refine ⟨index,?_⟩
  intro c key
  unfold Store.Held
  cases published c with
  | kept same _ => rw [Store.watches?,Store.watches?,same]
  | visited conn next present stored change =>
    rw [Store.watches?_some present,Store.watches?_some stored]
    simpa using change.held key

theorem stopWatch_indexed (cid wid : TraceId) (h : Indexed manager.store) :
    Indexed (manager.stopWatch cid wid).2.store := by
  rcases stopWatch_cases manager cid wid with
    ⟨error,res,hr,hs⟩ | ⟨dispatch,res,conn,key,hr,hc,_,hs,_,_,_⟩
  · rw [hr,hs]
    exact h
  rw [hr,hs]
  refine ⟨?_,ReverseIndex.inhabited_unlink _ _ _ h.2⟩
  intro c k
  refine (ReverseIndex.listed_unlink _ _ _ _ _).trans ?_
  rw [h.1]
  change _ ↔ ∃ws,(manager.store.insert cid _).watches? c=some ws ∧ _
  rw [Store.watches?_insert,Store.Held]
  by_cases hcc : cid=c
  · subst hcc
    rw [Store.watches?_some hc]
    by_cases hk : key=k
    · simp [hk]
    · simp [hk,Ne.symm hk]
  · simp [hcc,Ne.symm hcc]

theorem start_indexed (cid mid : TraceId) (specs : List CoreStartSpec) (h : Indexed manager.store) :
    Indexed (manager.start cid mid specs).2.store := by
  rcases start_cases manager cid mid specs with
    ⟨error,res,hr,hs⟩ | ⟨oc,res,conn,next,hr,_,hc,hs,hw⟩ |
    ⟨oc,res,conn,next,hr,_,hc,_,hs,started,listed,inhabited⟩
  · rw [hr,hs]
    exact h
  · rw [hr]
    exact (sameHeld_insert _ _ _ conn next hc hs (fun key => by rw [hw])).indexed h
  rw [hr]
  refine ⟨?_,inhabited h.2⟩
  intro c key
  rw [listed,h.1,Store.Held,Store.Held]
  have look : res.store.watches? c=
      if cid=c then some next.watches else manager.store.watches? c := by
    rw [Store.watches?,hs,getElem?_insert_eq]
    split <;> rfl
  rw [look]
  by_cases hcc : cid=c
  · subst hcc
    rw [Store.watches?_some hc]
    -- START never drops a section that the conn held bef.
    have grown : conn.watches[key]?≠none → next.watches[key]?≠none := by
      intro hk
      cases started.sessions key with
      | untouched same _ _ => rwa [same]
      | created _ _ _ _ _ _ stored => simp [stored]
    simp only [Option.some.injEq,if_true]
    by_cases hk : conn.watches[key]?=none
    · simp [hk]
    · simp [hk,grown hk]
  · simp [hcc,Ne.symm hcc]

end

theorem cleaned_indexed (store : Store) (cid : TraceId) (conn : CoreConnection)
    (present : store.connections[cid]?=some conn) (h : Indexed store) :
    Indexed (store.cleaned cid conn) := by
  refine ⟨?_,ReverseIndex.inhabited_foldl_unlink _ _ _ h.2⟩
  intro c key
  refine (ReverseIndex.listed_foldl_unlink _ _ _ _ _).trans ?_
  rw [h.1]
  change _ ↔ ∃ws,(store.erase cid).watches? c=some ws ∧ _
  rw [Store.watches?_erase,Store.Held,ExtTreeMap.mem_keys]
  by_cases hc : cid=c
  · subst hc
    rw [Store.watches?_some present]
    simp
  · simp [hc,Ne.symm hc]

theorem cleanup_indexed (manager : CoreWatchManager C I) (cid : TraceId)
    (reason : CoreCleanupReason) (h : Indexed manager.store) :
    Indexed (manager.cleanup cid reason).2.store := by
  rcases cleanup_cases manager cid reason with
    ⟨error,res,hr,_,hs⟩ | ⟨report,res,conn,hr,hc,hs⟩
  · rw [hr,hs]
    exact h
  · rw [hr,hs]
    exact cleaned_indexed _ _ _ hc h

theorem tick_indexed (manager : CoreWatchManager C I) (h : Indexed manager.store) :
    Indexed manager.tick.2.store := by
  unfold CoreWatchManager.tick
  dsimp only
  have cleaned := cleanupAll_keeps Indexed .heartbeatExpired
    (manager.now.2.wallNow.2.expiredConnections manager.now.1) [] manager.now.2.wallNow.2 h
    cleaned_indexed
  generalize (CoreWatchManager.cleanupAll CoreCleanupReason.heartbeatExpired _ []
    manager.now.2.wallNow.2)=swept at cleaned ⊢
  obtain ⟨reports,swept⟩ := swept
  have loop := tickConnections_eq manager.now.1 manager.now.2.wallNow.1 swept.connections.keys []
    swept
  obtain ⟨index,skipped,worked⟩ := visitConnections_visited _ _ _ ExtTreeMap.nodup_keys _ _ _ _ loop
  refine SameHeld.indexed ⟨index,?_⟩ cleaned
  intro c key
  unfold Store.Held
  by_cases hm : c∈swept.connections.keys
  · cases hc : swept.store.connections[c]? with
    | none => rw [Store.watches?,Store.watches?,(skipped c (.inr hc)).1]
    | some conn =>
      obtain ⟨ids,next,out,hw,hs,_⟩ := worked c conn hm hc
      cases hw
      rw [Store.watches?_some hc,Store.watches?_some hs]
      simp only [Option.some.injEq,exists_eq_left']
      exact (tickConnection_control manager.now.1 manager.now.2.wallNow.1 conn ids).held key
  · rw [Store.watches?,Store.watches?,(skipped c (.inl hm)).1]

theorem step_indexed (manager : CoreWatchManager C I) (op : Operation)
    (h : Indexed manager.store) : Indexed (manager.step op).2.store := by
  cases op with
  | connect cid => exact (connect_sameHeld manager cid).indexed h
  | touch cid => exact (touch_sameHeld manager cid).indexed h
  | start cid mid specs => exact start_indexed manager cid mid specs h
  | stopWatch cid wid => exact stopWatch_indexed manager cid wid h
  | publish obs => exact (publish_sameHeld manager obs).indexed h
  | updatePolicy cid wid policy =>
    exact (updatePolicy_answered manager cid wid policy).sameHeld.indexed h
  | acknowledgeEpisode cid eid =>
    exact (acknowledgeEpisode_answered manager cid eid).sameHeld.indexed h
  | acknowledgeAll cid =>
    exact (acknowledgeAll_answered manager cid).sameHeld.indexed h
  | resumeEpisode cid eid =>
    exact (resumeEpisode_answered manager cid eid).sameHeld.indexed h
  | resetAudibleCount cid wid =>
    exact (resetAudibleCount_answered manager cid wid).sameHeld.indexed h
  | reportCueOutcome cid cueId oc =>
    exact (reportCueOutcome_answered manager cid cueId oc).sameHeld.indexed h
  | dismissAlert cid alertId =>
    exact (dismissAlert_answered manager cid alertId).sameHeld.indexed h
  | disconnect cid => exact cleanup_indexed manager cid .connectionClosed h
  | tick => exact tick_indexed manager h
  | processStop => exact cleanupAll_keeps Indexed _ _ _ manager h cleaned_indexed

theorem Control.filed (h : Control ws next events) (hf : Filed ws) : Filed next := by
  intro key ses hs
  have hv := h.views key
  rw [hs] at hv
  obtain ⟨old,ho,he⟩ := Option.map_eq_some_iff.mp hv.symm
  exact (congrArg SessionView.sectionKey he).symm.trans (hf key old ho)

theorem Move.filed {operation : Operation} {before after : Option Watches}
    (h : Move operation cid before after events)
    (hf : ∀ws,before=some ws → Filed ws) :
    ∀ws,after=some ws → Filed ws := by
  rintro ws rfl
  cases h with
  | kept => exact hf _ rfl
  | joined hop =>
    intro key session hs
    simp at hs
  | control old _ _ _ change => exact change.filed (hf old rfl)
  | stopped old sectionKey _ _ _ _ =>
    intro key session hs
    exact hf old rfl key session (of_getElem?_erase hs).2
  | observed old _ _ observation _ change =>
    cases change with
    | ignored => exact hf _ rfl
    | applied session next _ present _ view =>
      intro key found hs
      rcases of_getElem?_insert hs with ⟨rfl,rfl⟩ | before
      · have hv := congrArg SessionView.sectionKey view
        rw [SessionView.accept_sectionKey] at hv
        exact hv.trans (hf old rfl _ session present)
      · exact hf old rfl key found before
  | started old _ _ messageId specs _ change =>
    intro key session hs
    cases change.sessions key with
    | untouched same _ _ => exact hf old rfl key session (same.symm.trans hs)
    | created _ st _ _ _ _ stored view =>
      rw [stored] at hs
      cases hs
      have hv := congrArg SessionView.sectionKey view
      refine hv.trans ?_
      cases st <;> rfl

theorem step_inverse (manager : CoreWatchManager C I) (op : Operation)
    (h : Inverse manager.store) : Inverse (manager.step op).2.store := by
  obtain ⟨listed,inhabited⟩ := step_indexed manager op ⟨h.listed,h.inhabited⟩
  refine ⟨listed,inhabited,?_⟩
  intro c ws key ses hw
  exact (step_move manager op c).filed
    (fun old ho key ses => h.sections c old key ses ho) ws hw key ses

theorem fresh_inverse (manager : CoreWatchManager C I) (h : manager.Fresh) :
    Inverse manager.store := by
  have hc : manager.store.connections=∅ := h.connections
  have hi : manager.store.connectionsBySection=∅ := h.connectionsBySection
  refine ⟨?_,?_,?_⟩
  · intro c key
    simp [ReverseIndex.Listed,Store.Held,Store.watches?,hc,hi]
  · intro key holders hs
    simp [hi] at hs
  · intro c ws key ses hw
    simp [Store.watches?,hc] at hw

theorem reachable_inverse {initial manager : CoreWatchManager C I} (fresh : initial.Fresh)
    (h : Reachable CoreWatchManager.step initial manager) : Inverse manager.store :=
  h.invariant (fun m => Inverse m.store) (fresh_inverse initial fresh) step_inverse

theorem held_iff (manager : CoreWatchManager C I) (cid : TraceId)
    (sk : SectionKey) : manager.store.Held cid sk ↔
      ∃conn,manager.connections[cid]?=some conn ∧ sk∈conn.watches := by
  change (∃ws,manager.connections[cid]?.map CoreConnection.watches=some ws ∧ _) ↔ _
  cases manager.connections[cid]? <;> simp

/-- In every state of every run the reverse index is the inverse of the watch
maps, and the watched sections of a target are those that some live connection
holds. -/
theorem connectionsBySection_inverse (initial manager : CoreWatchManager C I)
    (fresh : initial.Fresh) (h : Reachable CoreWatchManager.step initial manager) :
    (∀(connectionId : TraceId) (sectionKey : SectionKey),
      (∃connections,manager.connectionsBySection[sectionKey]?=some connections ∧
        connectionId∈connections) ↔
      ∃connection,manager.connections[connectionId]?=some connection ∧
        sectionKey∈connection.watches) ∧
    (∀(sectionKey : SectionKey) (connections : ExtTreeSet TraceId),
      manager.connectionsBySection[sectionKey]?=some connections → connections≠∅) ∧
    (∀(connectionId : TraceId) (connection : CoreConnection) (sectionKey : SectionKey)
      (session : CoreWatchSession),manager.connections[connectionId]?=some connection →
      connection.watches[sectionKey]?=some session → session.sectionKey=sectionKey) ∧
    ∀target sectionKey,sectionKey∈manager.watchedSections target ↔
      sectionKey.target=target ∧ ∃(connectionId : TraceId) (connection : CoreConnection),
        manager.connections[connectionId]?=some connection ∧ sectionKey∈connection.watches := by
  have inverse := reachable_inverse fresh h
  have listed (c : TraceId) (key : SectionKey) :=
    (inverse.listed c key).trans (held_iff manager c key)
  refine ⟨listed,inverse.inhabited,?_,?_⟩
  · intro c connection key session hc hs
    exact inverse.sections c connection.watches key session (watches?_of_connection manager hc) hs
  intro target key
  have watched := ReverseIndex.mem_keys_iff _ inverse.inhabited key
  change key∈manager.connectionsBySection.keys ↔ _ at watched
  simp only [listed] at watched
  simp only [CoreWatchManager.watchedSections,List.mem_filter,watched,decide_eq_true_eq]
  exact and_comm

theorem connectionsBySection_inverse_started :
    let manager := run CoreWatchManager.step fakeManager [.connect (trace 1),
      .start (trace 1) (trace 2) [⟨firstSection,default,.admitted .closed none⟩]]
    firstSection∈manager.watchedSections firstSection.target ∧
      ∃(connectionId : TraceId) (connection : CoreConnection),
        manager.connections[connectionId]?=some connection ∧ firstSection∈connection.watches := by
  have watched : firstSection∈(run CoreWatchManager.step fakeManager [.connect (trace 1),
      .start (trace 1) (trace 2) [⟨firstSection,default,.admitted .closed none⟩]]).watchedSections
      firstSection.target := by decide
  have inverse := connectionsBySection_inverse fakeManager _ fakeManager_fresh
    (reachable_run CoreWatchManager.step fakeManager [.connect (trace 1),
      .start (trace 1) (trace 2) [⟨firstSection,default,.admitted .closed none⟩]])
  exact ⟨watched,((inverse.2.2.2 _ _).mp watched).2⟩

theorem Answered.failed_store {store : Store}
    {res : Except CoreManagerError CoreDispatch × CoreWatchManager C I}
    (h : Answered store cid res) (hf : (Outcome.dispatch res.1).failed=true) :
    res.2.store=store := by
  cases h with
  | refused error manager same => exact same
  | answered => cases hf

/-- No error path of any operation leaves a trace in the stored maps. -/
theorem failed_store (manager : CoreWatchManager C I) (op : Operation)
    (h : (manager.step op).1.failed=true) :
    (manager.step op).2.store=manager.store := by
  cases op with
  | connect cid =>
    change (Outcome.unit (manager.connect cid).1).failed=true at h
    change (manager.connect cid).2.store=manager.store
    unfold CoreWatchManager.connect at h ⊢
    split at h
    · next hm =>
      rw [if_pos hm]
    · cases h
  | touch cid =>
    change (Outcome.unit (manager.touch cid).1).failed=true at h
    change (manager.touch cid).2.store=manager.store
    unfold CoreWatchManager.touch at h ⊢
    dsimp only at h ⊢
    split at h
    · rfl
    · cases h
  | start cid mid specs =>
    change (Outcome.start (manager.start cid mid specs).1).failed=true at h
    change (manager.start cid mid specs).2.store=manager.store
    rcases start_cases manager cid mid specs with
      ⟨error,res,hr,hs⟩ | ⟨oc,res,_,_,hr,_⟩ | ⟨oc,res,_,_,hr,_⟩
    · rw [hr]
      exact hs
    · rw [hr] at h
      cases h
    · rw [hr] at h
      cases h
  | stopWatch cid wid =>
    change (Outcome.dispatch (manager.stopWatch cid wid).1).failed=true at h
    change (manager.stopWatch cid wid).2.store=manager.store
    rcases stopWatch_cases manager cid wid with
      ⟨error,res,hr,hs⟩ | ⟨dispatch,res,_,_,hr,_⟩
    · rw [hr]
      exact hs
    · rw [hr] at h
      cases h
  | publish obs =>
    change (Outcome.publish (manager.publish obs).1).failed=true at h
    change (manager.publish obs).2.store=manager.store
    rcases publish_cases manager obs with ⟨error,hr⟩ | ⟨oc,res,hr,_⟩
    · rw [hr]
    · rw [hr] at h
      cases h
  | updatePolicy cid wid policy =>
    exact (updatePolicy_answered manager cid wid policy).failed_store h
  | acknowledgeEpisode cid eid =>
    exact (acknowledgeEpisode_answered manager cid eid).failed_store h
  | acknowledgeAll cid => exact (acknowledgeAll_answered manager cid).failed_store h
  | resumeEpisode cid eid =>
    exact (resumeEpisode_answered manager cid eid).failed_store h
  | resetAudibleCount cid wid =>
    exact (resetAudibleCount_answered manager cid wid).failed_store h
  | reportCueOutcome cid cueId oc =>
    exact (reportCueOutcome_answered manager cid cueId oc).failed_store h
  | dismissAlert cid alertId =>
    exact (dismissAlert_answered manager cid alertId).failed_store h
  | disconnect cid =>
    change (Outcome.cleanup (manager.cleanup cid .connectionClosed).1).failed=true at h
    change (manager.cleanup cid .connectionClosed).2.store=manager.store
    rcases cleanup_cases manager cid .connectionClosed with
      ⟨error,res,hr,_,hs⟩ | ⟨report,res,_,hr,_⟩
    · rw [hr]
      exact hs
    · rw [hr] at h
      cases h
  | tick => cases h
  | processStop => cases h

/-- The fan-out over the connections of the section completes after the dry run
and puts every connection back with the sections it had. -/
theorem fanOut_complete (manager later : CoreWatchManager C I) (ob : OpenObservation)
    (now : WatchInstant) (emittedAt : OffsetDateTime) (cids : List TraceId)
    (nodup : cids.Nodup) (same : later.connections=manager.connections)
    (valid : manager.validateSessions ob cids=.ok ()) :
    ∃dispatches result,CoreWatchManager.fanOut ob now emittedAt cids later=
      (.ok dispatches,result) ∧ ∀cid sectionKey,
        result.store.Held cid sectionKey ↔ manager.store.Held cid sectionKey := by
  have hl : later.store.connections=manager.store.connections := same
  obtain ⟨dispatches,result,hf⟩ := fanOut_total ob now emittedAt cids nodup manager later hl valid
  obtain ⟨_,skipped,worked⟩ := visitConnections_visited _ _ _ nodup _ _ _ _ hf
  rw [hl] at skipped worked
  refine ⟨dispatches,result,hf,?_⟩
  intro c key
  unfold Store.Held
  by_cases hm : c∈cids
  · cases hc : manager.store.connections[c]? with
    | none => rw [Store.watches?,Store.watches?,(skipped c (.inr hc)).1]
    | some connection =>
      obtain ⟨ids,next,out,hw,hs,_⟩ := worked c connection hm hc
      rw [Store.watches?_some hc,Store.watches?_some hs]
      simp only [Option.some.injEq,exists_eq_left']
      exact (observeConnection_observed _ _ _ _ _ _ hw).held key
  · rw [Store.watches?,Store.watches?,(skipped c (.inl hm)).1]

/-- A failed operation leaves the four stored maps as they were, and no publish
can fail in its fan-out, where a connection is out of the map. -/
theorem failed_operation_keeps_maps (manager : CoreWatchManager C I) (operation : Operation) :
    ((manager.step operation).1.failed=true →
      (manager.step operation).2.connections=manager.connections ∧
      (manager.step operation).2.connectionsBySection=manager.connectionsBySection ∧
      (manager.step operation).2.observationCursors=manager.observationCursors ∧
      (manager.step operation).2.observationCursorOrder=manager.observationCursorOrder) ∧
    ∀(observation : OpenObservation) (now : WatchInstant) (emittedAt : OffsetDateTime)
      (later : CoreWatchManager C I),later.connections=manager.connections →
      manager.validateSessions observation
        (manager.connectionsBySection[observation.sectionKey]?.getD ∅).toList=.ok () →
      ∃dispatches result,CoreWatchManager.fanOut observation now emittedAt
        (manager.connectionsBySection[observation.sectionKey]?.getD ∅).toList later=
          (.ok dispatches,result) ∧
        ∀(connectionId : TraceId) (sectionKey : SectionKey),
          (∃connection,result.connections[connectionId]?=some connection ∧
            sectionKey∈connection.watches) ↔
          ∃connection,manager.connections[connectionId]?=some connection ∧
            sectionKey∈connection.watches := by
  refine ⟨?_,?_⟩
  · intro hf
    have hs := failed_store manager operation hf
    exact ⟨congrArg Store.connections hs,congrArg Store.connectionsBySection hs,
      congrArg Store.observationCursors hs,congrArg Store.observationCursorOrder hs⟩
  · intro observation now emittedAt later same valid
    obtain ⟨dispatches,result,hf,held⟩ := fanOut_complete manager later observation now emittedAt _
      (nodup_toList _) same valid
    refine ⟨dispatches,result,hf,?_⟩
    intro c key
    rw [←held_iff,←held_iff]
    exact held c key

/-- Two observations under one sequence number: the second is refused and the
watch stays. -/
theorem failed_operation_keeps_maps_conflict :
    let manager := run CoreWatchManager.step fakeManager [.connect (trace 1),
      .start (trace 1) (trace 2) [⟨firstSection,default,.admitted .closed (some ⟨1,trace 3⟩)⟩]]
    let conflict := Operation.publish (firstObservation ⟨1,by decide,by decide⟩ 4 .opened)
    (manager.step conflict).1.failed=true ∧
      (manager.step conflict).2.connections=manager.connections := by
  have failed : (CoreWatchManager.step (run CoreWatchManager.step fakeManager [.connect (trace 1),
      .start (trace 1) (trace 2) [⟨firstSection,default,.admitted .closed (some ⟨1,trace 3⟩)⟩]])
      (.publish (firstObservation ⟨1,by decide,by decide⟩ 4 .opened))).1.failed=true := by decide
  exact ⟨failed,((failed_operation_keeps_maps _ _).1 failed).1⟩

end CoursePlanner.Watch
