import CoursePlanner.Watch.Start

set_option linter.unusedSectionVars false

namespace CoursePlanner.Watch

open Std Library Contracts CoreWatchManager

variable {C I : Type} [WatchClock C] [TraceIdSource I]

namespace Store

def watches? (store : Store) (connectionId : TraceId) : Option Watches :=
  store.connections[connectionId]?.map CoreConnection.watches

theorem watches?_some {store : Store} {cid : TraceId} {conn : CoreConnection}
    (h : store.connections[cid]?=some conn) :
    store.watches? cid=some conn.watches := by
  simp [watches?,h]

theorem watches?_insert (store : Store) (cid a : TraceId) (conn : CoreConnection) :
    (store.insert cid conn).watches? a= if cid=a then some conn.watches else store.watches? a := by
  unfold watches? insert
  rw [getElem?_insert_eq]
  split <;> rfl

theorem watches?_erase (store : Store) (cid a : TraceId) : (store.erase cid).watches? a=
      if cid=a then none else store.watches? a := by
  unfold watches? erase
  rw [getElem?_erase_eq]
  split <;> rfl

end Store

theorem watches?_of_connection (m : CoreWatchManager C I) {cid : TraceId}
    {conn : CoreConnection} (h : m.connections[cid]?=some conn) :
    m.store.watches? cid=some conn.watches :=
  Store.watches?_some h

theorem session?_eq (m : CoreWatchManager C I) (cid : TraceId)
    (sk : SectionKey) : m.session? cid sk= (m.store.watches? cid).bind (fun ws => ws[sk]?) := by
  unfold CoreWatchManager.session? Store.watches?
  cases h : m.connections[cid]? <;> simp [CoreWatchManager.store,h]

/-- Everything that one operation can do to the watches of one connection, with
the events it addresses to it. -/
inductive Move (operation : Operation) (connectionId : TraceId) :
    Option Watches → Option Watches → List CoreEvent → Prop
  | kept (watches : Option Watches) : Move operation connectionId watches watches []
  | joined (hop : operation=.connect connectionId) :
      Move operation connectionId none (some ∅) []
  | left (watches : Watches) : Move operation connectionId (some watches) none []
  | control (watches next : Watches) (events : List CoreEvent)
      (quiet : ∀observation,operation≠.publish observation)
      (change : Control watches next events) :
      Move operation connectionId (some watches) (some next) events
  | stopped (watches : Watches) (sectionKey : SectionKey) (events : List CoreEvent)
      (opened : (tally events).opened=[]) (started : (tally events).started=[])
      (mixer : MixerStep (alarms watches) (alarms (watches.erase sectionKey)) events)
      (told : Told watches (watches.erase sectionKey) events) :
      Move operation connectionId (some watches) (some (watches.erase sectionKey)) events
  | observed (watches next : Watches) (events : List CoreEvent) (observation : OpenObservation)
      (hop : operation=.publish observation) (change : Observed observation watches next events) :
      Move operation connectionId (some watches) (some next) events
  | started (watches next : Watches) (events : List CoreEvent) (messageId : TraceId)
      (specs : List CoreStartSpec) (hop : operation=.start connectionId messageId specs)
      (change : Started specs watches next events) :
      Move operation connectionId (some watches) (some next) events

variable {op : Operation} {a cid : TraceId}

/-- The usual end of a call: one connection was put back with other watches. -/
theorem move_insert (store after : Store) (conn next : CoreConnection)
    (dp : CoreDispatch) (present : store.connections[cid]?=some conn)
    (addressed : dp.connectionId=cid)
    (stored : after.connections=store.connections.insert cid next)
    (move : a=cid → Move op a (some conn.watches) (some next.watches) dp.events) :
    Move op a (store.watches? a) (after.watches? a) (eventsTo a [dp]) := by
  have look : after.watches? a= if cid=a then some next.watches else store.watches? a := by
    rw [Store.watches?,stored,getElem?_insert_eq]
    split <;> rfl
  by_cases h : cid=a
  · subst h
    rw [look,Store.watches?_some present]
    simpa [eventsTo,addressed] using move rfl
  rw [look,if_neg h]
  have silent : eventsTo a [dp]=[] := by simp [eventsTo,addressed,h]
  rw [silent]
  exact .kept _

theorem Answered.move {store : Store}
    {res : Except CoreManagerError CoreDispatch × CoreWatchManager C I}
    (h : Answered store cid res)
    (quiet : ∀obs,op≠.publish obs) :
    Move op a (store.watches? a) (res.2.store.watches? a)
      ((Outcome.dispatch res.1).eventsFor a) := by
  cases h with
  | refused error m same =>
    rw [same]
    exact .kept _
  | answered dp m conn next present addressed stored control =>
    exact move_insert store _ conn next dp present addressed
      (congrArg Store.connections stored) (fun _ => .control _ _ _ quiet control)

theorem connect_move (m : CoreWatchManager C I) (cid : TraceId) :
    Move (.connect cid) a (m.store.watches? a) ((m.connect cid).2.store.watches? a) [] := by
  unfold CoreWatchManager.connect
  split
  · exact .kept _
  next hm =>
  rw [CoreWatchManager.insertConnection_store,Store.watches?_insert]
  split
  · next heq =>
    subst heq
    have hn : m.store.watches? cid=none := by
      simp [Store.watches?,CoreWatchManager.store,ExtTreeMap.getElem?_eq_none hm]
    rw [hn]
    exact .joined rfl
  · exact .kept _

theorem touch_watches (m : CoreWatchManager C I) (cid a : TraceId) :
    (m.touch cid).2.store.watches? a=m.store.watches? a := by
  unfold CoreWatchManager.touch
  dsimp only
  split
  · rfl
  next conn hc =>
  rw [CoreWatchManager.insertConnection_store,Store.watches?_insert]
  split
  · next heq =>
    subst heq
    exact (watches?_of_connection m hc).symm
  · rfl

theorem cleanup_watches (m : CoreWatchManager C I) (cid : TraceId) (reason : CoreCleanupReason) :
    (m.cleanup cid reason).2.store.watches? a= if cid=a then none else m.store.watches? a := by
  rcases cleanup_cases m cid reason with
    ⟨error,res,hr,hn,hs⟩ | ⟨report,res,conn,hr,hc,hs⟩
  · rw [hr,hs]
    split
    · next heq =>
      subst heq
      simp [Store.watches?,hn]
    · rfl
  · rw [hr,hs]
    exact Store.watches?_erase m.store cid a

theorem Move.leave (ws : Option Watches) : Move op a ws none [] := by
  cases ws with
  | none => exact .kept none
  | some ws => exact .left ws

/-- The alarm of the session is off, or its deadline is still to come. -/
def CoreWatchSession.inTime (session : CoreWatchSession) (now : WatchInstant) : Bool :=
  !session.continuousAlarmActive || session.episode.all (fun episode =>
    episode.deadline.all (fun deadline => now.milliseconds<deadline.milliseconds))

theorem timeoutSettle_inTime (now : WatchInstant) (emittedAt : OffsetDateTime)
    (ses : CoreWatchSession) : CoreWatchSession.inTime (match timeoutSettle now emittedAt ses with
      | some ep => { ses with episode := some ep }
      | none => ses) now=true := by
  unfold timeoutSettle CoreWatchSession.inTime CoreWatchSession.continuousAlarmActive
  by_cases mode : ses.policy.mode=.continuous
  · cases held : ses.episode with
    | none => simp [mode,held]
    | some ep =>
      simp only [mode,if_true,Option.bind_some]
      by_cases quiet : (ep.state≠.unacknowledged ||
          ep.deadline.all (fun deadline => now.milliseconds<deadline.milliseconds))=true
      · rw [if_pos quiet]
        simpa [held,mode] using quiet
      · rw [if_neg quiet]
        simp [CoreEpisode.settle]
  · simp [mode]

variable (m : CoreWatchManager C I)

include m

theorem start_move (cid mid : TraceId) (specs : List CoreStartSpec) :
    Move (.start cid mid specs) a (m.store.watches? a) ((m.start cid mid specs).2.store.watches? a)
      ((Outcome.start (m.start cid mid specs).1).eventsFor a) := by
  rcases start_cases m cid mid specs with
    ⟨error,res,hr,hs⟩ | ⟨oc,res,conn,next,hr,hp,hc,hs,hw⟩ |
    ⟨oc,res,conn,next,hr,hp,hc,hd,hs,started,_,_⟩
  · rw [hr,hs]
    exact .kept _
  · rw [hr,hs,Store.watches?_insert]
    have silent : (Outcome.start (.ok oc)).eventsFor a=[] := by
      simp [Outcome.eventsFor,Outcome.dispatches,hp,eventsTo]
    rw [silent]
    split
    · next heq =>
      subst heq
      rw [Store.watches?_some hc,hw]
      exact .kept _
    · exact .kept _
  · rw [hr]
    have produced : (Outcome.start (.ok oc)).eventsFor a=eventsTo a [oc.dispatch] := by
      simp [Outcome.eventsFor,Outcome.dispatches,hp]
    rw [produced]
    refine move_insert m.store res.store conn next oc.dispatch hc hd hs ?_
    rintro rfl
    exact .started _ _ _ mid specs rfl started

theorem stopWatch_move (cid wid : TraceId) : Move op a (m.store.watches? a)
      ((m.stopWatch cid wid).2.store.watches? a)
      ((Outcome.dispatch (m.stopWatch cid wid).1).eventsFor a) := by
  rcases stopWatch_cases m cid wid with
    ⟨error,res,hr,hs⟩ | ⟨dp,res,conn,key,hr,hc,hd,hs,opened,started,mixer,told⟩
  · rw [hr,hs]
    exact .kept _
  rw [hr]
  exact move_insert m.store res.store conn { conn with watches := conn.watches.erase key } dp hc hd
    (by rw [hs]; rfl) (fun _ => .stopped _ key _ opened started mixer told)

theorem publish_move (obs : OpenObservation) : Move (.publish obs) a (m.store.watches? a)
      ((m.publish obs).2.store.watches? a)
      ((Outcome.publish (m.publish obs).1).eventsFor a) := by
  rcases publish_cases m obs with ⟨error,hr⟩ | ⟨oc,res,hr,_,published⟩
  · rw [hr]
    exact .kept _
  rw [hr]
  change Move _ _ _ _ (eventsTo a oc.dispatches)
  cases published a with
  | kept same silent =>
    rw [silent,Store.watches?,Store.watches?,same]
    exact .kept _
  | visited conn next present stored change =>
    rw [Store.watches?_some present,Store.watches?_some stored]
    exact .observed _ _ _ obs rfl change

/-- A tick removes the silent connections and takes all others through the timer. -/
theorem tick_visited (a : TraceId) :
    (m.tick.2.store.connections[a]?=none ∧ (Outcome.tick m.tick.1).eventsFor a=[]) ∨
    ∃conn ids,m.store.connections[a]?=some conn ∧
      (m.now.1.elapsedSince conn.lastTouch).nanos < m.heartbeatTimeout.nanos ∧
      m.tick.2.store.connections[a]?=
        some (tickConnection m.now.1 m.now.2.wallNow.1 conn (ids : I)).1 ∧
      (Outcome.tick m.tick.1).eventsFor a=
        (tickConnection m.now.1 m.now.2.wallNow.1 conn ids).2.events := by
  unfold tick
  dsimp only
  have listed (conn : CoreConnection) (hc : m.store.connections[a]?=some conn)
      (expired : m.heartbeatTimeout.nanos ≤ (m.now.1.elapsedSince conn.lastTouch).nanos) :
      a∈m.now.2.wallNow.2.expiredConnections m.now.1 := by
    refine List.mem_filterMap.mpr ⟨(a,conn),?_,if_pos expired⟩
    exact ExtTreeMap.mem_toList_iff_getElem?_eq_some.mpr hc
  generalize m.now.2.wallNow.2.expiredConnections m.now.1=expired at listed
  have cleaned := cleanupAll_connections .heartbeatExpired expired [] m.now.2.wallNow.2 a
  generalize (CoreWatchManager.cleanupAll CoreCleanupReason.heartbeatExpired expired []
    m.now.2.wallNow.2)=swept at cleaned ⊢
  obtain ⟨reports,swept⟩ := swept
  have loop := tickConnections_eq m.now.1 m.now.2.wallNow.1 swept.connections.keys [] swept
  obtain ⟨_,skipped,worked⟩ := visitConnections_visited _ _ _ ExtTreeMap.nodup_keys _ _ _ _ loop
  cases hc : swept.store.connections[a]? with
  | none => exact .inl (hc▸skipped a (.inr hc))
  | some conn =>
    have hm : a∈swept.connections.keys := ExtTreeMap.mem_keys.mpr (mem_of_getElem? hc)
    obtain ⟨ids,next,out,hw,hs,he⟩ := worked a conn hm hc
    cases hw
    rw [cleaned] at hc
    split at hc
    · cases hc
    · next kept =>
      exact .inr ⟨conn,ids,hc,Nat.lt_of_not_le (fun late => kept (listed conn hc late)),hs,he⟩

/-- A tick leaves no connection that was silent for too long and no alarm past its deadline. -/
theorem tick_leaves_nothing_overdue (connectionId : TraceId) :
    m.tick.2.connections[connectionId]?.all (fun connection =>
      (m.now.1.elapsedSince connection.lastTouch).nanos < m.heartbeatTimeout.nanos &&
        (orderedValues connection.watches).all (·.inTime m.now.1))=true := by
  change Option.all _ m.tick.2.store.connections[connectionId]?=true
  rcases tick_visited m connectionId with ⟨gone,-⟩ | ⟨conn,ids,-,touched,stored,-⟩
  · rw [gone]
    rfl
  rw [stored,Option.all_some,Bool.and_eq_true,decide_eq_true_eq,List.all_eq_true]
  refine ⟨touched,?_⟩
  intro session listed
  obtain ⟨key,held⟩ := (mem_orderedValues _ _).mp listed
  change (conn.watches.map _)[key]?=_ at held
  rw [ExtTreeMap.getElem?_map] at held
  obtain ⟨old,-,rfl⟩ := Option.map_eq_some_iff.mp held
  exact timeoutSettle_inTime _ _ old

theorem tick_move : Move .tick a (m.store.watches? a) (m.tick.2.store.watches? a)
      ((Outcome.tick m.tick.1).eventsFor a) := by
  rcases tick_visited m a with ⟨hn,he⟩ | ⟨conn,ids,hc,-,hs,he⟩
  · rw [he,Store.watches?,Store.watches?,hn]
    exact .leave _
  · rw [he,Store.watches?_some hc,Store.watches?_some hs]
    exact .control _ _ _ (by simp) (tickConnection_control _ _ _ _)

/-- What a step can do to one connection, for every operation. -/
theorem step_move (op : Operation) (a : TraceId) :
    Move op a (m.store.watches? a) ((m.step op).2.store.watches? a)
      ((m.step op).1.eventsFor a) := by
  cases op with
  | connect cid => exact connect_move m cid
  | touch cid =>
    have hw : (m.step (.touch cid)).2.store.watches? a=m.store.watches? a := touch_watches m cid a
    rw [hw]
    exact .kept _
  | start cid mid specs => exact start_move m cid mid specs
  | stopWatch cid wid => exact stopWatch_move m cid wid
  | publish obs => exact publish_move m obs
  | updatePolicy cid wid policy =>
    exact (updatePolicy_answered m cid wid policy).move (by simp)
  | acknowledgeEpisode cid episodeId =>
    exact (acknowledgeEpisode_answered m cid episodeId).move (by simp)
  | acknowledgeAll cid => exact (acknowledgeAll_answered m cid).move (by simp)
  | resumeEpisode cid episodeId =>
    exact (resumeEpisode_answered m cid episodeId).move (by simp)
  | resetAudibleCount cid wid =>
    exact (resetAudibleCount_answered m cid wid).move (by simp)
  | reportCueOutcome cid cueId oc =>
    exact (reportCueOutcome_answered m cid cueId oc).move (by simp)
  | dismissAlert cid alertId =>
    exact (dismissAlert_answered m cid alertId).move (by simp)
  | disconnect cid =>
    have hw : (m.step (.disconnect cid)).2.store.watches? a=
        if cid=a then none else m.store.watches? a :=
      cleanup_watches m cid .connectionClosed
    rw [hw]
    split
    · exact .leave _
    · exact .kept _
  | tick => exact tick_move m
  | processStop =>
    have hw := cleanupAll_connections .processStopped m.connections.keys [] m a
    change Move _ _ _ (Store.watches? (CoreWatchManager.cleanupAll _ _ _ _).2.store a) []
    rw [Store.watches?,Store.watches?,hw]
    split
    · exact .leave _
    · exact .kept _

end CoursePlanner.Watch
