import CoursePlanner.Watch.Loop

set_option linter.unusedSectionVars false

namespace CoursePlanner.Watch

open Std Library Contracts CoreWatchManager

variable {C I : Type} [WatchClock C] [TraceIdSource I]

/-- Stopping a watch removes one session and its entry in the reverse index. -/
theorem stopWatch_cases (m : CoreWatchManager C I) (cid watchId : TraceId) :
    (∃error res,m.stopWatch cid watchId=(.error error,res) ∧ res.store=m.store) ∨
    ∃dp res conn sk, m.stopWatch cid watchId=(.ok dp,res) ∧ m.store.connections[cid]?=some conn ∧
      dp.connectionId=cid ∧
      res.store={ m.store.insert cid { conn with
          watches := conn.watches.erase sk } with
        connectionsBySection := m.store.connectionsBySection.unlink cid sk } ∧
      (tally dp.events).opened=[] ∧ (tally dp.events).started=[] ∧
      MixerStep (alarms conn.watches) (alarms (conn.watches.erase sk)) dp.events ∧
      Told conn.watches (conn.watches.erase sk) dp.events := by
  unfold stopWatch
  rcases m.takeConnection_cases cid with ⟨_,ht⟩ | ⟨conn,taken,hc,ht,hs⟩
  · rw [ht]
    exact .inl ⟨_,_,rfl,rfl⟩
  rw [ht]
  dsimp only
  split
  · refine .inl ⟨_,_,rfl,?_⟩
    rw [insertConnection_store,hs,Store.insert_erase, Store.insert_present _ _ _ hc]
  next sk ses found =>
  have closes := pushMixerIfChanged_closes (I := I) conn { conn with
    watches := conn.watches.erase sk } .noUnacknowledgedEpisodes
  refine .inr ⟨_,_,conn,sk,rfl,hc,rfl,?_,?_,?_,?_,?_⟩
  · rw [putBack_store]
    change Store.insert { taken.store with
      connectionsBySection := taken.store.connectionsBySection.unlink cid sk }
      _ _=_
    rw [hs]
    simp [Store.insert,Store.erase]
  · refine (closes _ ?_).opened.trans ?_ <;> simp [Tally.note,Tally.empty]
  · refine (closes _ ?_).started.trans ?_ <;> simp [Tally.note,Tally.empty]
  · exact (closes _ (by simp [Tally.note,Tally.empty])).mixer
  · have located := (find?_toList_some _ _ _ _ found).1
    have base : Told conn.watches conn.watches (Emitter.mk taken.ids []).events :=
      .still _ _ (fun _ _ => rfl)
    have ended := (endSession_announced ses (Emitter.mk taken.ids []) .watchStopped
      taken.wallNow.1 (some .watchStopped) sk).closed (endSession_closed ses _ _ _ _)
    refine (base.erase (by rw [located]; exact ended)).congr ?_
    intro key shown
    refine ((closes _ (by simp [Tally.note,Tally.empty])).shown key shown).trans ?_
    rw [Emitter.shown_push,Emitter.shown_pushAction]
    rfl

/-- What a START message does at one section: nothing, or what its first item
for that section says. -/
inductive StartedAt (specs : List CoreStartSpec) (sectionKey : SectionKey)
    (before after : Option CoreWatchSession) (t : Tally) : Prop
  | untouched (same : after=before) (started : sectionKey∉t.started)
      (opened : sectionKey∉t.opened)
  | created (spec : CoreStartSpec) (initialState : CoreInitialState)
      (initialCursor : Option ObservationCursor) (session : CoreWatchSession)
      (first : specs.find? (fun spec => spec.sectionKey=sectionKey)=some spec)
      (admitted : spec.admission=.admitted initialState initialCursor)
      (stored : after=some session)
      (view : session.view=.start sectionKey initialState initialCursor)
      (started : sectionKey∈t.started)
      (opened : sectionKey∈t.opened ↔ openingOf sectionKey initialState≠[])
      (cues : openingOf sectionKey initialState=[] →
        session.activeCue=none ∧ session.queuedCues=[])

/-- The invariant of the START loop after the items done so far. -/
structure StartInvariant (connectionId : TraceId) (before : Store) (watches : Watches)
    (done : List CoreStartSpec) (loop : StartLoop C I) : Prop where
  connections : loop.manager.store.connections=before.connections
  seen : ∀sectionKey,sectionKey∈loop.inMessage ↔ ∃spec∈done,spec.sectionKey=sectionKey
  mixers : loop.out.tally.mixers=[]
  sessions : ∀sectionKey : SectionKey,StartedAt done sectionKey watches[sectionKey]?
    loop.connection.watches[sectionKey]? loop.out.tally
  listed : ∀a sectionKey,loop.manager.store.connectionsBySection.Listed a sectionKey ↔
    before.connectionsBySection.Listed a sectionKey ∨
      (a=connectionId ∧ watches[sectionKey]?=none ∧ loop.connection.watches[sectionKey]?≠none)
  inhabited : before.connectionsBySection.Inhabited →
    loop.manager.store.connectionsBySection.Inhabited
  told : Told watches loop.connection.watches loop.out.events
  cued : ∀sectionKey∈loop.out.cued,sectionKey∈loop.out.tally.opened

variable {cid : TraceId} {before : Store} {ws : Watches}
  {done : List CoreStartSpec} {loop : StartLoop C I}

theorem StartedAt.extend {specs : List CoreStartSpec} {sk : SectionKey}
    {old current : Option CoreWatchSession} {t : Tally} (spec : CoreStartSpec)
    (h : StartedAt specs sk old current t) :
    StartedAt (specs++[spec]) sk old current t := by
  cases h with
  | untouched same started opened => exact .untouched same started opened
  | created spec st cur ses first admitted stored view started opened cues =>
    exact .created spec st cur ses (by simp [first]) admitted stored
      view started opened cues

theorem StartInvariant.reject (h : StartInvariant cid before ws done loop)
    (spec : CoreStartSpec) (inMessage : ExtTreeSet SectionKey)
    (hm : ∀sk,sk∈inMessage ↔ sk∈loop.inMessage ∨ sk=spec.sectionKey)
    (disposition : CoreStartDisposition) :
    StartInvariant cid before ws (done++[spec])
      (StartLoop.reject { loop with inMessage := inMessage } spec.sectionKey disposition) := by
  have ht : (StartLoop.reject { loop with inMessage := inMessage } spec.sectionKey
      disposition).out.tally=loop.out.tally := by
    simp [StartLoop.reject,Tally.note]
  refine ⟨h.connections,?_,by rw [ht]; exact h.mixers,?_,h.listed,h.inhabited,
    h.told.congr (fun _ _ => by simp [StartLoop.reject,noteFrame]),?_⟩
  · intro key
    change key∈inMessage ↔ _
    rw [hm,h.seen]
    simp [eq_comm]
  · intro key
    rw [ht]
    exact (h.sessions key).extend spec
  · intro key hk
    rw [ht]
    exact h.cued key (by simpa [StartLoop.reject,CoreEvent.cue] using hk)

/-- An admitted item makes the session of its section the one its admission asks for. -/
theorem StartInvariant.create (h : StartInvariant cid before ws done loop)
    (spec : CoreStartSpec) (fresh : spec.sectionKey∉loop.inMessage)
    (initialState : CoreInitialState) (initialCursor : Option ObservationCursor)
    (admitted : spec.admission=.admitted initialState initialCursor)
    (next : StartLoop C I) (ses : CoreWatchSession)
    (connections : next.manager.store.connections=loop.manager.store.connections)
    (inMessage : next.inMessage=loop.inMessage.insert spec.sectionKey)
    (stored : next.connection.watches=loop.connection.watches.insert spec.sectionKey ses)
    (view : ses.view=.start spec.sectionKey initialState initialCursor)
    (ht : next.out.tally=({ loop.out.tally with
      started := loop.out.tally.started++[spec.sectionKey] } : Tally).openings
        (openingOf spec.sectionKey initialState))
    (cues : openingOf spec.sectionKey initialState=[] → ses.activeCue=none ∧ ses.queuedCues=[])
    (announced : Announced spec.sectionKey
      (loop.connection.watches[spec.sectionKey]?.bind CoreWatchSession.episode) ses.episode
      loop.out next.out)
    (cued : ∀sk∈next.out.cued, sk∈loop.out.cued ∨ sk∈openingOf spec.sectionKey initialState)
    (index : ReverseIndex SectionKey TraceId)
    (hi : next.manager.store.connectionsBySection=index)
    (listed : ∀a sk,index.Listed a sk ↔ loop.manager.store.connectionsBySection.Listed a sk ∨
        (a=cid ∧ sk=spec.sectionKey ∧ loop.connection.watches[spec.sectionKey]?=none))
    (inhabited : loop.manager.store.connectionsBySection.Inhabited → index.Inhabited) :
    StartInvariant cid before ws (done++[spec]) next := by
  -- The section is new to the message, so its ses is still the old one.
  have old : loop.connection.watches[spec.sectionKey]?=ws[spec.sectionKey]? ∧
      spec.sectionKey∉loop.out.tally.opened := by
    cases h.sessions spec.sectionKey with
    | untouched same started opened => exact ⟨same,opened⟩
    | created first _ _ _ found =>
      have hm := List.mem_of_find?_eq_some found
      have hk := List.find?_some found
      exact absurd ((h.seen _).mpr ⟨first,hm,by simpa using hk⟩) fresh
  have opening (key : SectionKey) : key∈next.out.tally.opened ↔
      key∈loop.out.tally.opened ∨ (key=spec.sectionKey ∧ openingOf key initialState≠[]) := by
    rw [ht]
    cases initialState <;> simp [Tally.openings,openingOf]
  refine ⟨connections.trans h.connections,?_,by rw [ht]; exact h.mixers,?_,?_,
    fun hb => by rw [hi]; exact inhabited (h.inhabited hb),?_,?_⟩
  · intro key
    rw [inMessage,ExtTreeSet.mem_insert,h.seen]
    simp [or_comm]
  · intro key
    by_cases hk : key=spec.sectionKey
    · subst hk
      refine .created spec initialState initialCursor ses ?_ admitted
        (by rw [stored]; simp) view (by rw [ht]; simp [Tally.openings]) ?_ cues
      · have none : done.find? (fun item => item.sectionKey=spec.sectionKey)=none := by
          rw [List.find?_eq_none]
          intro item hi hs
          exact fresh ((h.seen _).mpr ⟨item,hi,by simpa using hs⟩)
        simp [none]
      · rw [opening]
        simp [old.2]
    · have same : next.connection.watches[key]?=loop.connection.watches[key]? := by
        rw [stored,getElem?_insert_eq,if_neg (Ne.symm hk)]
      cases (h.sessions key).extend spec with
      | untouched hs started opened =>
        refine .untouched (same.trans hs) ?_ ?_
        · rw [ht]
          simp [Tally.openings,started,hk]
        · rw [opening]
          simp [opened,hk]
      | created first st cur found hf ha hs hv started opened cues =>
        refine .created first st cur found hf ha (same.trans hs) hv ?_ ?_ cues
        · rw [ht]
          simp [Tally.openings,started]
        · rw [opening]
          simp [opened,hk]
  · intro a key
    rw [hi,listed,h.listed,stored]
    by_cases hk : spec.sectionKey=key
    · subst hk
      rw [old.1]
      by_cases hn : ws[spec.sectionKey]?=none <;> simp [hn]
    · simp [hk,Ne.symm hk]
  · rw [stored]
    have placed : ses.sectionKey=spec.sectionKey :=
      (congrArg SessionView.sectionKey view).trans (by cases initialState <;> rfl)
    exact h.told.insert (fun _ => ⟨placed,announced⟩)
  · intro key hk
    rw [ht]
    rcases cued key hk with hk | hk
    · exact List.mem_append_left _ (h.cued key hk)
    · exact List.mem_append_right _ hk

theorem seeded_same (m : CoreWatchManager C I) (sk : SectionKey)
    (initialCursor : Option ObservationCursor) :
    SameWatches m.store (match initialCursor with
      | some cur => m.seedObservationWatermark sk cur
      | none => m).store := by
  cases initialCursor with
  | none => exact ⟨rfl,rfl⟩
  | some cur => exact seedObservationWatermark_same m sk cur

theorem startSpec_invariant (now : WatchInstant) (emittedAt : OffsetDateTime)
    (h : StartInvariant cid before ws done loop) (spec : CoreStartSpec) :
    StartInvariant cid before ws (done++[spec]) (startSpec cid now emittedAt loop spec) := by
  unfold startSpec
  split
  · next hm =>
    exact h.reject spec loop.inMessage (fun key => ⟨.inl,(·.elim id (· ▸ hm))⟩) _
  · next fresh =>
    have grown (key : SectionKey) : key∈loop.inMessage.insert spec.sectionKey ↔
        key∈loop.inMessage ∨ key=spec.sectionKey := by
      simp [or_comm,@eq_comm _ key]
    cases ha : spec.admission with
    | sectionNotFound | targetUnavailable | unsupportedTarget | termOutOfRange =>
      exact h.reject spec _ grown _
    | admitted initialState initialCursor =>
      dsimp only
      have seeded (m : CoreWatchManager C I) := seeded_same m spec.sectionKey initialCursor
      split
      · next previous hp =>
        refine h.create spec fresh initialState initialCursor ha _ _ (seeded _).connections rfl rfl
          (startSession_view _ _ _ _ _ _) ?_ (startSession_cues _ _ _ _ _ _) ?_ ?_ _
          (seeded _).index ?_ (fun hb => hb)
        · exact (startSession_tally _ _ _ _ _ _).trans (by rw [endSession_tally])
        · rw [hp]
          exact ((endSession_announced previous loop.out .restarted emittedAt
            (some .watchRestarted) spec.sectionKey).closed
              (endSession_closed previous _ _ _ _)).trans (startSession_announced _ _ _ _ _ _)
        · intro key hk
          have hc := startSession_cued _ _ _ _ _ _ key hk
          rwa [endSession_cued] at hc
        · intro a key
          simp [hp]
      · next hp =>
        split
        · exact h.reject spec _ grown _
        refine h.create spec fresh initialState initialCursor ha _ _
          (seeded (loop.manager.link cid spec.sectionKey)).connections rfl rfl
          (startSession_view _ _ _ _ _ _) (startSession_tally _ _ _ _ _ _)
          (startSession_cues _ _ _ _ _ _)
          (by rw [hp]; exact startSession_announced _ _ _ _ _ _)
          (startSession_cued _ _ _ _ _ _)
          (loop.manager.store.connectionsBySection.link cid spec.sectionKey)
          (seeded _).index ?_ (ReverseIndex.inhabited_link _ _ _)
        intro a key
        rw [ReverseIndex.listed_link]
        simp [hp]

theorem foldl_startSpec_invariant (now : WatchInstant) (emittedAt : OffsetDateTime)
    (specs : List CoreStartSpec) (h : StartInvariant cid before ws done loop) :
    StartInvariant cid before ws (done++specs)
      (specs.foldl (startSpec cid now emittedAt) loop) := by
  induction specs generalizing done loop with
  | nil => simpa using h
  | cons spec specs ih =>
    have hs := ih (startSpec_invariant now emittedAt h spec)
    simpa using hs

/-- What an executed START message does to the watches of its connection. -/
structure Started (specs : List CoreStartSpec) (watches next : Watches)
    (events : List CoreEvent) : Prop where
  sessions : ∀sectionKey : SectionKey,
    StartedAt specs sectionKey watches[sectionKey]? next[sectionKey]? (tally events)
  mixer : MixerStep (alarms watches) (alarms next) events
  told : Told watches next events
  cued : ∀sectionKey∈events.filterMap CoreEvent.cue,sectionKey∈(tally events).opened

theorem StartedAt.congr {specs : List CoreStartSpec} {sk : SectionKey}
    {old current : Option CoreWatchSession} {t u : Tally} (ho : u.opened=t.opened)
    (hs : u.started=t.started) (h : StartedAt specs sk old current t) :
    StartedAt specs sk old current u := by
  cases h with
  | untouched same started opened => exact .untouched same (hs▸started) (ho▸opened)
  | created spec st cur ses first admitted stored view started opened cues =>
    exact .created spec st cur ses first admitted stored view (hs▸started) (ho▸opened) cues

theorem recordReplay_watches (conn : CoreConnection) (mid : TraceId)
    (dp : CoreDispatch) (awc : Nat) :
    (recordReplay conn mid dp awc).watches= conn.watches := by
  unfold recordReplay
  dsimp only
  split
  · split <;> rfl
  · rfl

/-- The START loop as it stands after the items of an executed message. -/
def startLoop (m : CoreWatchManager C I) (cid : TraceId) (conn : CoreConnection)
    (specs : List CoreStartSpec) : StartLoop C I :=
  specs.foldl (startSpec cid m.now.1 m.now.2.wallNow.1)
    ⟨{ m.now.2.wallNow.2 with connections := m.connections.erase cid },
      { conn with lastTouch := m.now.1 },∅,⟨m.ids,[]⟩⟩

theorem startLoop_invariant (m : CoreWatchManager C I) (cid : TraceId) (conn : CoreConnection)
    (specs : List CoreStartSpec) :
    StartInvariant cid (m.store.erase cid) conn.watches specs (startLoop m cid conn specs) := by
  change StartInvariant _ _ _ ([]++specs) _
  refine foldl_startSpec_invariant _ _ specs ⟨rfl,by simp,rfl,?_,?_,fun hi => hi,
    .still _ _ (fun _ _ => rfl),by simp [Emitter.cued]⟩
  · exact fun _ => .untouched rfl (by simp [Tally.empty]) (by simp [Tally.empty])
  · intro a key
    exact ⟨.inl,fun h => h.resolve_right (fun moved => moved.2.2 moved.2.1)⟩

/-- How a START message ends: an unknown connection, a replay, a refused
watermark, or the loop over its items. -/
theorem start_ran (m : CoreWatchManager C I) (cid mid : TraceId) (specs : List CoreStartSpec) :
    (m.connections[cid]?=none ∧ m.start cid mid specs=(.error .unknownConnection,m.now.2)) ∨
    ∃conn,m.connections[cid]?=some conn ∧ ((∃dp count,conn.startReplays[mid]?=some (dp,count) ∧
        m.start cid mid specs=(.ok ⟨dp,true,count⟩,
          m.now.2.insertConnection cid { conn with lastTouch := m.now.1 })) ∨
      conn.startReplays[mid]?=none ∧ ((∃error,m.start cid mid specs=(.error error,m.now.2)) ∨
        ∃loop out dp,loop=startLoop m cid conn specs ∧
          out=pushMixerIfChanged loop.connection conn.activeEpisodeIds
            .noUnacknowledgedEpisodes loop.out ∧
          dp=⟨cid,m.now.2.wallNow.1,out.events⟩ ∧
          m.start cid mid specs=(.ok ⟨dp,false,loop.connection.watches.size⟩,
            loop.manager.putBack cid
              (recordReplay loop.connection mid dp loop.connection.watches.size) out))) := by
  unfold start takeConnection
  dsimp only
  cases hc : m.connections[cid]? with
  | none => exact .inl ⟨rfl,by rw [show m.now.2.connections[cid]?=none from hc]⟩
  | some conn =>
    refine .inr ⟨conn,rfl,?_⟩
    rw [show m.now.2.connections[cid]?=some conn from hc]
    dsimp only
    cases hr : conn.startReplays[mid]? with
    | some entry =>
      refine .inl ⟨_,_,rfl,?_⟩
      simp [insertConnection]
    | none =>
      refine .inr ⟨rfl,?_⟩
      dsimp only
      split
      · next error _ =>
        refine .inl ⟨error,?_⟩
        simp only [insertConnection,insert_erase_self]
        rw [Library.insert_present _ _ _ (show m.now.2.connections[cid]?=some conn from hc)]
      · exact .inr ⟨_,_,_,rfl,rfl,rfl,rfl⟩

/-- A START message is refused, replayed, or executed item by item. -/
theorem start_cases (m : CoreWatchManager C I) (cid mid : TraceId) (specs : List CoreStartSpec) :
    (∃error res,m.start cid mid specs=(.error error,res) ∧ res.store=m.store) ∨
    (∃oc res conn next, m.start cid mid specs=(.ok oc,res) ∧
      oc.replayed=true ∧ m.store.connections[cid]?=some conn ∧
      res.store=m.store.insert cid next ∧
      next.watches=conn.watches) ∨
    ∃oc res conn next, m.start cid mid specs=(.ok oc,res) ∧
      oc.replayed=false ∧ m.store.connections[cid]?=some conn ∧
      oc.dispatch.connectionId=cid ∧
      res.store.connections=m.store.connections.insert cid next ∧
      Started specs conn.watches next.watches oc.dispatch.events ∧
      (∀a sk,res.store.connectionsBySection.Listed a sk ↔ m.store.connectionsBySection.Listed a sk ∨
          (a=cid ∧ conn.watches[sk]?=none ∧ next.watches[sk]?≠none)) ∧
      (m.store.connectionsBySection.Inhabited → res.store.connectionsBySection.Inhabited) := by
  rcases start_ran m cid mid specs with ⟨-,hr⟩ | ⟨conn,hc,⟨dp,count,-,hr⟩ | ⟨-,⟨error,hr⟩ | ran⟩⟩
  · exact .inl ⟨_,_,hr,rfl⟩
  · exact .inr (.inl ⟨_,_,conn,{ conn with lastTouch := m.now.1 },hr,rfl,hc,rfl,rfl⟩)
  · exact .inl ⟨_,_,hr,rfl⟩
  obtain ⟨loop,out,dp,hloop,hout,hdp,hr⟩ := ran
  have final := startLoop_invariant m cid conn specs
  rw [←hloop] at final
  refine .inr (.inr ⟨_,_,conn,recordReplay loop.connection mid dp loop.connection.watches.size,
    hr,rfl,hc,by rw [hdp],?_,?_,?_,?_⟩)
  · rw [putBack_store,Store.insert]
    rw [final.connections]
    exact insert_erase_self _ _ _
  · rw [recordReplay_watches]
    subst hdp hout
    have closes := pushMixerIfChanged_closes conn loop.connection .noUnacknowledgedEpisodes
      loop.out final.mixers
    refine ⟨fun key => (final.sessions key).congr closes.opened closes.started,closes.mixer,
      final.told.congr closes.shown,?_⟩
    intro key hk
    change key∈Tally.opened (Emitter.tally _)
    rw [closes.opened]
    exact final.cued key (closes.cued ▸ hk)
  · rw [recordReplay_watches]
    exact final.listed
  · exact final.inhabited

end CoursePlanner.Watch
