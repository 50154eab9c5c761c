import CoursePlanner.Watch.Control

set_option linter.unusedSectionVars false

namespace CoursePlanner.Watch

open Std Library Contracts CoreWatchManager

variable {C I : Type} [WatchClock C] [TraceIdSource I]

theorem eventsTo_pushDispatch (a cid : TraceId) (dispatches : List CoreDispatch)
    (emittedAt : OffsetDateTime) (out : Emitter I) :
    eventsTo a (pushDispatch dispatches cid emittedAt out)=
      eventsTo a dispatches++(if cid=a then out.events else []) := by
  unfold pushDispatch
  split
  · next he =>
    rw [List.isEmpty_iff] at he
    simp [he]
  · by_cases h : cid=a <;> simp [eventsTo,h]

/-- What a completed loop over distinct connections leaves: the visited ones
went through the body once, everything else stands. -/
structure Visited
    (work : CoreConnection → I → Except CoreManagerError (CoreConnection × Emitter I))
    (connectionIds : List TraceId) (before : Store) (dispatches : List CoreDispatch)
    (after : Store) (produced : List CoreDispatch) : Prop where
  index : after.connectionsBySection=before.connectionsBySection
  skipped : ∀connectionId,connectionId∉connectionIds ∨ before.connections[connectionId]?=none →
    after.connections[connectionId]?=before.connections[connectionId]? ∧
      eventsTo connectionId produced=eventsTo connectionId dispatches
  worked : ∀connectionId connection,connectionId∈connectionIds →
    before.connections[connectionId]?=some connection →
    ∃ids next out,work connection ids=.ok (next,out) ∧
      after.connections[connectionId]?=some next ∧
      eventsTo connectionId produced=eventsTo connectionId dispatches++out.events

section

variable (work : CoreConnection → I → Except CoreManagerError (CoreConnection × Emitter I))
  (emittedAt : OffsetDateTime) (cids : List TraceId) (nodup : cids.Nodup)

include work emittedAt cids nodup

theorem visitConnections_visited (dispatches produced : List CoreDispatch) (m res : CoreWatchManager C I)
    (h : visitConnections work emittedAt cids dispatches m= (.ok produced,res)) :
    Visited work cids m.store dispatches res.store produced := by
  induction cids generalizing dispatches m with
  | nil =>
    cases h
    exact ⟨rfl,fun _ _ => ⟨rfl,rfl⟩,nofun⟩
  | cons head rest ih =>
    obtain ⟨hhead,hrest⟩ := List.nodup_cons.mp nodup
    unfold visitConnections at h
    rcases m.takeConnection_cases head with ⟨hn,ht⟩ | ⟨conn,taken,hc,ht,hs⟩
    · rw [ht] at h
      obtain ⟨index,skipped,worked⟩ := ih hrest dispatches m h
      refine ⟨index,?_,?_⟩
      · intro a ha
        by_cases hah : a=head
        · exact skipped a (.inl (hah▸hhead))
        · exact skipped a (ha.imp_left (fun hm hr => hm (List.mem_cons_of_mem _ hr)))
      · intro a found hm ha
        rcases List.mem_cons.mp hm with rfl | hm
        · cases hn.symm.trans ha
        · exact worked a found hm ha
    · rw [ht] at h
      dsimp only at h
      split at h
      · cases h
      next next out hw =>
      obtain ⟨index,skipped,worked⟩ := ih hrest _ _ h
      have put : (taken.putBack head next out).store=m.store.insert head next := by
        rw [putBack_store,hs,Store.insert_erase]
      have look (a : TraceId) : (taken.putBack head next out).store.connections[a]?=
          if head=a then some next else m.store.connections[a]? := by
        rw [put]
        exact getElem?_insert_eq _ _ _ _
      refine ⟨index.trans (by rw [put]; rfl),?_,?_⟩
      · intro a ha
        have hne : head≠a := by
          rintro rfl
          exact ha.elim (· List.mem_cons_self) (by simp [hc])
        have hk := skipped a (by
          rw [look,if_neg hne]
          exact ha.imp_left (fun hm hr => hm (List.mem_cons_of_mem _ hr)))
        rw [look,if_neg hne,eventsTo_pushDispatch,if_neg hne,List.append_nil] at hk
        exact hk
      · intro a found hm ha
        by_cases hah : head=a
        · subst a
          cases hc.symm.trans ha
          have hk := skipped head (.inl hhead)
          rw [look,if_pos rfl,eventsTo_pushDispatch,if_pos rfl] at hk
          exact ⟨_,next,out,hw,hk⟩
        · have hr := (List.mem_cons.mp hm).resolve_left (Ne.symm hah)
          obtain ⟨ids,other,emitted,hwork,hl,he⟩ := worked a found hr (by rw [look,if_neg hah,ha])
          rw [eventsTo_pushDispatch,if_neg hah,List.append_nil] at he
          exact ⟨ids,other,emitted,hwork,hl,he⟩

/-- The loop completes when its body accepts every connection it will meet: a
connection is visited once, so it is still as it was before the loop. -/
theorem visitConnections_total (dispatches : List CoreDispatch) (m : CoreWatchManager C I)
    (h : ∀cid∈cids,∀conn, m.store.connections[cid]?=some conn → ∀ids,∃done,work conn ids=.ok done) :
    ∃produced res,visitConnections work emittedAt cids dispatches m=(.ok produced,res) := by
  induction cids generalizing dispatches m with
  | nil => exact ⟨_,_,rfl⟩
  | cons head rest ih =>
    obtain ⟨hhead,hrest⟩ := List.nodup_cons.mp nodup
    unfold visitConnections
    rcases m.takeConnection_cases head with ⟨_,ht⟩ | ⟨conn,taken,hc,ht,hs⟩
    · rw [ht]
      exact ih hrest dispatches m (fun a ha => h a (List.mem_cons_of_mem _ ha))
    obtain ⟨⟨next,out⟩,hw⟩ := h head List.mem_cons_self conn hc taken.ids
    rw [ht]
    dsimp only
    rw [hw]
    apply ih hrest
    intro a ha found hf
    have hne : head≠a := fun same => hhead (same ▸ ha)
    rw [putBack_store,hs,Store.insert_erase] at hf
    change (m.store.connections.insert head next)[a]?=some found at hf
    rw [getElem?_insert_eq,if_neg hne] at hf
    exact h a (List.mem_cons_of_mem _ ha) found hf

end

theorem tickConnections_eq (now : WatchInstant) (emittedAt : OffsetDateTime)
    (cids : List TraceId) (dispatches : List CoreDispatch)
    (m : CoreWatchManager C I) :
    visitConnections (fun conn ids => .ok (tickConnection now emittedAt conn ids))
      emittedAt cids dispatches m=
    (.ok (tickConnections now emittedAt cids dispatches m).1,
      (tickConnections now emittedAt cids dispatches m).2) := by
  induction cids generalizing dispatches m with
  | nil => rfl
  | cons head rest ih =>
    unfold visitConnections tickConnections
    cases m.takeConnection head with
    | error error => exact ih dispatches m
    | ok taken => exact ih _ _

/-- What one published observation does to the watches of a connection. -/
inductive Observed (observation : OpenObservation) (watches : Watches) :
    Watches → List CoreEvent → Prop
  | ignored (events : List CoreEvent) (silent : tally events=.empty)
      (told : Told watches watches events) : Observed observation watches watches events
  | applied (session next : CoreWatchSession) (events : List CoreEvent)
      (present : watches[observation.sectionKey]?=some session)
      (newer : ∀cursor,session.observationCursor=some cursor →
        cursor.pullSequence<observation.pullSequence.get)
      (view : next.view=session.view.accept observation)
      (opened : (tally events).opened=
        if observation.state=.opened && session.view.rearmed then [session.sectionKey] else [])
      (started : (tally events).started=[])
      (mixer : MixerStep (alarms watches)
        (alarms (watches.insert observation.sectionKey next)) events)
      (told : Told watches (watches.insert observation.sectionKey next) events) :
      Observed observation watches (watches.insert observation.sectionKey next) events

theorem pushMixerIfChanged_same (conn : CoreConnection) (stopReason : CoreMixerStopReason)
    (out : Emitter I) :
    pushMixerIfChanged conn conn.activeEpisodeIds stopReason out=out := by
  simp [pushMixerIfChanged]

theorem cursorAccepts_true (cursor : Option ObservationCursor) (pullSequence : Nat)
    (observationId : TraceId) (h : cursorAccepts cursor pullSequence observationId=.ok true) :
    ∀held,cursor=some held → held.pullSequence<pullSequence := by
  rintro held rfl
  unfold cursorAccepts at h
  dsimp only at h
  split at h
  · cases h
  · split at h
    · assumption
    · split at h <;> cases h

variable (obs : OpenObservation) (now : WatchInstant)

theorem observeConnection_observed (conn next : CoreConnection) (ids : I) (out : Emitter I)
    (h : observeConnection obs now conn ids=.ok (next,out)) :
    Observed obs conn.watches next.watches out.events := by
  unfold observeConnection at h
  split at h
  · cases h
    rw [pushMixerIfChanged_same]
    exact .ignored [] rfl (.still _ _ (fun _ _ => rfl))
  next ses hp =>
  cases hc : cursorAccepts ses.observationCursor obs.pullSequence.get obs.observationId with
  | error error => simp [hc] at h
  | ok acc =>
    cases acc with
    | false =>
      simp only [hc,Bool.false_eq_true,if_false,Library.insert_present _ _ _ hp] at h
      cases h
      rw [pushMixerIfChanged_same]
      exact .ignored _ rfl (.still _ _ (fun _ _ => rfl))
    | true =>
      simp only [hc] at h
      cases h
      have ht := applyObservation_tally { ses with
          observationCursor := some ⟨obs.pullSequence.get,obs.observationId⟩ }
        obs now (Emitter.mk ids [.observation obs])
      have seen : Told conn.watches conn.watches
          (Emitter.mk ids [.observation obs]).events := .still _ _ (fun _ _ => rfl)
      have closes (next : CoreWatchSession) := pushMixerIfChanged_closes conn { conn with
        watches := conn.watches.insert obs.sectionKey next } .noUnacknowledgedEpisodes _
        (congrArg Tally.mixers ht)
      have view := applyObservation_view { ses with
          observationCursor := some ⟨obs.pullSequence.get,obs.observationId⟩ }
        obs now (Emitter.mk ids [.observation obs])
      refine .applied ses _ _ hp (cursorAccepts_true _ _ _ hc) view
        ((closes _).opened.trans (congrArg Tally.opened ht))
        ((closes _).started.trans (congrArg Tally.started ht)) (closes _).mixer
        ((seen.insert ?_).congr (closes _).shown)
      intro filed
      have hk := filed _ ses hp
      have hv := (congrArg SessionView.sectionKey view).trans (ses.view.accept_sectionKey obs)
      rw [hp]
      exact ⟨hv.trans hk,applyObservation_announced { ses with
          observationCursor := some ⟨obs.pullSequence.get,obs.observationId⟩ } _ obs now _ hk⟩

/-- Watermark bookkeeping touches neither connections nor the reverse index. -/
structure SameWatches (before after : Store) : Prop where
  connections : after.connections=before.connections
  index : after.connectionsBySection=before.connectionsBySection

variable (m : CoreWatchManager C I) (sk : SectionKey)

theorem makeWatermarkRoom_same : SameWatches m.store (m.makeWatermarkRoom sk).store := by
  unfold makeWatermarkRoom
  split
  · exact ⟨rfl,rfl⟩
  split
  · split <;> exact ⟨rfl,rfl⟩
  · exact ⟨rfl,rfl⟩

theorem recordPublishedObservation_same (cursor : ObservationCursor) :
    SameWatches m.store (m.recordPublishedObservation sk cursor).store := by
  unfold recordPublishedObservation
  split
  · exact ⟨rfl,rfl⟩
  · exact { makeWatermarkRoom_same m sk with }

theorem seedObservationWatermark_same (cursor : ObservationCursor) :
    SameWatches m.store (m.seedObservationWatermark sk cursor).store := by
  unfold seedObservationWatermark
  split
  · split <;> exact ⟨rfl,rfl⟩
  · exact { makeWatermarkRoom_same m sk with }

theorem validateSessions_ok (obs : OpenObservation) (cids : List TraceId)
    (h : m.validateSessions obs cids=.ok ()) :
    ∀cid∈cids,∀ses, m.session? cid obs.sectionKey=some ses →
      ∃accepted,cursorAccepts ses.observationCursor obs.pullSequence.get
        obs.observationId=.ok accepted := by
  induction cids with
  | nil => nofun
  | cons head rest ih =>
    unfold validateSessions at h
    intro cid hm ses hs
    rcases List.mem_cons.mp hm with rfl | hm
    · rw [hs] at h
      dsimp only at h
      split at h
      · cases h
      · next accepted ha => exact ⟨accepted,ha⟩
    · apply ih _ cid hm ses hs
      split at h
      · exact h
      · split at h
        · cases h
        · exact h

theorem observeConnection_ok (conn : CoreConnection) (ids : I)
    (h : ∀ses,conn.watches[obs.sectionKey]?=some ses →
      ∃acc,cursorAccepts ses.observationCursor obs.pullSequence.get obs.observationId=.ok acc) :
    ∃done,observeConnection obs now conn ids=.ok done := by
  unfold observeConnection
  cases hp : conn.watches[obs.sectionKey]? with
  | none => exact ⟨_,rfl⟩
  | some ses =>
    obtain ⟨acc,ha⟩ := h ses hp
    simp only [ha]
    exact ⟨_,rfl⟩

/-- What the dry run accepted the fan-out accepts again, on every connection. -/
theorem fanOut_total (emittedAt : OffsetDateTime) (cids : List TraceId)
    (nodup : cids.Nodup) (m later : CoreWatchManager C I)
    (same : later.store.connections=m.store.connections)
    (valid : m.validateSessions obs cids=.ok ()) :
    ∃produced res,fanOut obs now emittedAt cids later= (.ok produced,res) := by
  apply visitConnections_total _ _ _ nodup
  intro cid hm conn hc ids
  apply observeConnection_ok
  intro ses hs
  apply validateSessions_ok m obs cids valid cid hm
  rw [same] at hc
  change m.connections[cid]?=some conn at hc
  simp [session?,hc,hs]

/-- A publish either fails on an untouched store or takes the connections that
the reverse index names through the body of its loop. -/
theorem publish_visited (obs : OpenObservation) : (∃error,m.publish obs=(.error error,m)) ∨
    ∃oc res,m.publish obs=(.ok oc,res) ∧
      res.store.connectionsBySection=m.store.connectionsBySection ∧
      ∀cid,(res.store.connections[cid]?=m.store.connections[cid]? ∧ eventsTo cid oc.dispatches=[]) ∨
        ∃now conn ids next out,m.store.connections[cid]?=some conn ∧
          observeConnection obs now conn (ids : I)=.ok (next,out) ∧
          res.store.connections[cid]?=some next ∧ eventsTo cid oc.dispatches=out.events := by
  unfold publish
  dsimp only
  split
  · next error _ => exact .inl ⟨error,rfl⟩
  split
  · exact .inr ⟨_,_,rfl,rfl,fun _ => .inl ⟨rfl,rfl⟩⟩
  split
  · next error _ => exact .inl ⟨error,rfl⟩
  next valid =>
  have recorded := recordPublishedObservation_same m obs.sectionKey
    ⟨obs.pullSequence.get,obs.observationId⟩
  right
  split
  · exact ⟨_,_,rfl,recorded.index,fun c => .inl ⟨by rw [recorded.connections],rfl⟩⟩
  have nodup := nodup_toList (m.connectionsBySection[obs.sectionKey]?.getD ∅)
  obtain ⟨produced,res,hf⟩ := fanOut_total obs (m.recordPublishedObservation obs.sectionKey
      ⟨obs.pullSequence.get,obs.observationId⟩).now.1
    (m.recordPublishedObservation obs.sectionKey
      ⟨obs.pullSequence.get,obs.observationId⟩).now.2.wallNow.1 _ nodup
    m (m.recordPublishedObservation obs.sectionKey
      ⟨obs.pullSequence.get,obs.observationId⟩).now.2.wallNow.2
    recorded.connections valid
  rw [hf]
  obtain ⟨index,skipped,worked⟩ := visitConnections_visited _ _ _ nodup _ _ _ _ hf
  refine ⟨_,_,rfl,index.trans recorded.index,?_⟩
  intro c
  rw [wallNow_store,now_store,recorded.connections] at skipped worked
  by_cases hm : c∈(m.connectionsBySection[obs.sectionKey]?.getD ∅).toList
  · cases hc : m.store.connections[c]? with
    | none => exact .inl (hc▸skipped c (.inr hc))
    | some conn =>
      obtain ⟨ids,next,out,hw,hs,he⟩ := worked c conn hm hc
      exact .inr ⟨_,conn,ids,next,out,rfl,hw,hs,he⟩
  · exact .inl (skipped c (.inl hm))

/-- Where one connection stands after a publish that returned. -/
inductive PublishedAt (observation : OpenObservation) (connectionId : TraceId) (before : Store)
    (after : Store) (events : List CoreEvent) : Prop
  | kept (same : after.connections[connectionId]?=before.connections[connectionId]?)
      (silent : events=[])
  | visited (connection next : CoreConnection)
      (present : before.connections[connectionId]?=some connection)
      (stored : after.connections[connectionId]?=some next)
      (observed : Observed observation connection.watches next.watches events)

/-- A publish either fails on an untouched store or observes every connection. -/
theorem publish_cases (obs : OpenObservation) : (∃error,m.publish obs=(.error error,m)) ∨
    ∃oc res,m.publish obs=(.ok oc,res) ∧
      res.store.connectionsBySection=m.store.connectionsBySection ∧
      ∀cid,PublishedAt obs cid m.store res.store (eventsTo cid oc.dispatches) := by
  refine (publish_visited m obs).imp_right ?_
  rintro ⟨oc,res,hr,index,visited⟩
  refine ⟨oc,res,hr,index,?_⟩
  intro c
  rcases visited c with ⟨hs,he⟩ | ⟨now,conn,ids,next,out,hc,hw,hs,he⟩
  · exact .kept hs he
  · refine .visited conn next hc hs ?_
    rw [he]
    exact observeConnection_observed _ _ _ _ _ _ hw

/-- The store without a connection and its entries in the reverse index. -/
def Store.cleaned (store : Store) (connectionId : TraceId) (connection : CoreConnection) : Store :=
  { store.erase connectionId with
    connectionsBySection := connection.watches.keys.foldl
      (fun index sectionKey => index.unlink connectionId sectionKey) store.connectionsBySection }

theorem cleanupWatches_store (cid : TraceId)
    (ws : List (SectionKey × CoreWatchSession)) (actions : List CoreAction)
    (m : CoreWatchManager C I) :
    (cleanupWatches cid ws actions m).2.store= { m.store with
        connectionsBySection := (ws.map Prod.fst).foldl (fun index sk => index.unlink cid sk)
          m.store.connectionsBySection } := by
  induction ws generalizing actions m with
  | nil => rfl
  | cons entry ws ih => exact ih _ _

theorem cleanup_cases (connectionId : TraceId) (reason : CoreCleanupReason) :
    (∃error result,m.cleanup connectionId reason=(.error error,result) ∧
      m.store.connections[connectionId]?=none ∧ result.store=m.store) ∨
    ∃report result connection,m.cleanup connectionId reason=(.ok report,result) ∧
      m.store.connections[connectionId]?=some connection ∧
      result.store=m.store.cleaned connectionId connection := by
  unfold cleanup
  dsimp only
  rcases m.wallNow.2.takeConnection_cases connectionId with
    ⟨hn,ht⟩ | ⟨connection,taken,hc,ht,hs⟩
  · rw [ht]
    exact .inl ⟨_,_,rfl,hn,rfl⟩
  rw [ht]
  refine .inr ⟨_,_,connection,rfl,hc,?_⟩
  rw [cleanupWatches_store,hs,ExtTreeMap.map_fst_toList_eq_keys]
  rfl

theorem cleanupAll_keeps (P : Store → Prop) (reason : CoreCleanupReason)
    (cids : List TraceId) (reports : List CoreCleanupReport)
    (m : CoreWatchManager C I) (h : P m.store)
    (keeps : ∀store connectionId connection,store.connections[connectionId]?=some connection →
      P store → P (store.cleaned connectionId connection)) :
    P (cleanupAll reason cids reports m).2.store := by
  induction cids generalizing reports m with
  | nil => exact h
  | cons head rest ih =>
    unfold cleanupAll
    rcases cleanup_cases m head reason with
      ⟨error,result,hr,_,hs⟩ | ⟨report,result,connection,hr,hc,hs⟩
    · rw [hr]
      exact ih _ _ (hs▸h)
    · rw [hr]
      exact ih _ _ (hs▸keeps _ _ _ hc h)

theorem cleanupAll_connections (reason : CoreCleanupReason) (cids : List TraceId)
    (reports : List CoreCleanupReport) (m : CoreWatchManager C I) (a : TraceId) :
    (cleanupAll reason cids reports m).2.store.connections[a]?=
      if a∈cids then none else m.store.connections[a]? := by
  induction cids generalizing reports m with
  | nil => simp [cleanupAll]
  | cons head rest ih =>
    unfold cleanupAll
    rcases cleanup_cases m head reason with
      ⟨error,result,hr,hn,hs⟩ | ⟨report,result,connection,hr,hc,hs⟩
    · rw [hr]
      rw [ih,hs]
      by_cases ha : a=head
      · simp [ha,hn]
      · simp [ha]
    · rw [hr]
      rw [ih,hs]
      change (if a∈rest then none else (m.store.connections.erase head)[a]?)=_
      rw [getElem?_erase_eq]
      by_cases ha : a=head
      · simp [ha]
      · simp [ha,Ne.symm ha]

end CoursePlanner.Watch
