import CoursePlanner.Application.WatchSocket
import CoursePlanner.Watch.Screen

set_option linter.unusedSectionVars false

namespace CoursePlanner.Application

open Std Library Contracts Watch

variable {C I E : Type} [WatchClock C] [TraceIdSource I] [TraceIdSource E]
  {spared : TraceId → Prop}

theorem eventsTo_append (a : TraceId) (dispatches more : List CoreDispatch) :
    eventsTo a (dispatches++more)=eventsTo a dispatches++eventsTo a more := by
  simp [eventsTo]

/-- The manager was worked on without any connection coming in: the dispatches take
every page along, and no spared connection gets a watch. -/
def Carries (spared : TraceId → Prop) (manager next : WatchManager C I)
    (dispatches : List CoreDispatch) : Prop :=
  ∀a,Continues (manager.core.store.watches? a) (next.core.store.watches? a)
      (eventsTo a dispatches) ∧
    (spared a → Rests (manager.core.store.watches? a) (next.core.store.watches? a)
      (eventsTo a dispatches))

namespace Carries

variable {manager middle next : WatchManager C I} {dispatches more : List CoreDispatch}

theorem still (h : next.core.store=manager.core.store) : Carries spared manager next [] := by
  intro a
  rw [h]
  exact ⟨.still _,fun _ => .still _⟩

theorem trans (h : Carries spared manager middle dispatches) (g : Carries spared middle next more) :
    Carries spared manager next (dispatches++more) := by
  intro a
  rw [eventsTo_append]
  exact ⟨(h a).1.trans (g a).1,fun ha => ((h a).2 ha).trans ((g a).2 ha)⟩

theorem step (core : CoreWatchManager C I) (op : Operation) (hop : ∀a,op≠.connect a)
    (starts : ∀a,spared a → ∀mid specs,op≠.start a mid specs) :
    Carries spared ⟨core⟩ ⟨(core.step op).2⟩ (core.step op).1.dispatches :=
  fun a => ⟨step_continues core op a (hop a), fun ha => step_rests core op a (starts a ha)⟩

end Carries

def dispatched {A : Type} : Except A CoreDispatch → List CoreDispatch
  | .ok dispatch => [dispatch]
  | .error _ => []

/-- Neither connects nor starts watches. -/
def Operation.Plain (op : Operation) : Prop :=
  ∀a,op≠.connect a ∧ ∀mid specs,op≠.start a mid specs

theorem withCore_carries (core : CoreWatchManager C I) (op : Operation) (plain : Operation.Plain op)
    (res : Except CoreManagerError CoreDispatch × CoreWatchManager C I)
    (h : core.step op=(.dispatch res.1,res.2)) :
    Carries spared ⟨core⟩ (WatchManager.withCore res).2
      (dispatched (WatchManager.withCore res).1) := by
  have carried : Carries spared _ _ _ :=
    Carries.step core op (fun a => (plain a).1) (fun a _ => (plain a).2)
  rw [h] at carried
  obtain ⟨answer,after⟩ := res
  cases answer with
  | error | ok => exact carried

theorem checked_carries (manager : WatchManager C I) (matched : Bool) (op : Operation)
    (plain : Operation.Plain op)
    (res : Except CoreManagerError CoreDispatch × CoreWatchManager C I)
    (h : manager.core.step op=(.dispatch res.1,res.2)) :
    Carries spared manager (manager.checked matched res).2
      (dispatched (manager.checked matched res).1) := by
  cases matched with
  | true => exact withCore_carries manager.core op plain res h
  | false => exact .still rfl

theorem touch_carries (manager : WatchManager C I) (cid : TraceId) :
    Carries spared manager (manager.touch cid).2 [] :=
  Carries.step manager.core (.touch cid) (by simp) (by simp)

theorem runCommand_carries (manager : WatchManager C I) (cid : TraceId) (cmd : WatchClientCommand) :
    Carries spared manager (runCommand manager cid cmd).2
      (dispatched (runCommand manager cid cmd).1) := by
  cases cmd with
  | startWatch | heartbeatAck => exact .still rfl
  | stopWatch watch =>
    exact checked_carries manager _ (.stopWatch cid watch.activeWatchId) (by simp [Operation.Plain]) _ rfl
  | updatePolicy watch policy =>
    exact checked_carries manager _ (.updatePolicy cid watch.activeWatchId policy) (by simp [Operation.Plain]) _ rfl
  | acknowledgeEpisode ep =>
    exact checked_carries manager _ (.acknowledgeEpisode cid ep.episodeId) (by simp [Operation.Plain]) _ rfl
  | acknowledgeAllEpisodes =>
    exact withCore_carries manager.core (.acknowledgeAll cid) (by simp [Operation.Plain]) _ rfl
  | resumeTimedOutEpisode ep =>
    exact checked_carries manager _ (.resumeEpisode cid ep.episodeId) (by simp [Operation.Plain]) _ rfl
  | resetAudibleCount watch =>
    exact checked_carries manager _ (.resetAudibleCount cid watch.activeWatchId) (by simp [Operation.Plain]) _ rfl
  | reportCueOutcome report =>
    exact checked_carries manager _ (.reportCueOutcome cid report.cueId report.outcome) (by simp [Operation.Plain]) _ rfl
  | dismissAlert alert =>
    exact checked_carries manager _ (.dismissAlert cid alert.alertId) (by simp [Operation.Plain]) _ rfl

/-- What an answer brings to the pages; one that is not recorded repeats an older
dispatch or has no events. -/
def fresh {A : Type} : Except A (CoreDispatch × Bool) → List CoreDispatch
  | .ok (dispatch,true) => [dispatch]
  | _ => []

theorem routeStart_carries (manager : WatchManager C I) (cid mid : TraceId)
    (items : List (WatchStartItem × WatchStartAdmission)) (starts : ¬spared cid) :
    Carries spared manager (routeStart manager cid mid items).2
      (fresh (routeStart manager cid mid items).1) := by
  unfold routeStart WatchManager.startWithAdmission
  dsimp only
  cases startSpecs manager.core.wallNow.1 items with
  | error error => exact .still rfl
  | ok specs =>
    have carried : Carries spared _ _ _ := Carries.step manager.core.wallNow.2
      (.start cid mid specs) (by simp)
      (fun a ha _ _ hs => starts (by cases hs; exact ha))
    have read : Carries spared manager ⟨manager.core.wallNow.2⟩ [] := .still rfl
    refine read.trans ?_
    change Carries spared _ ⟨(manager.core.wallNow.2.start cid mid specs).2⟩
      (Outcome.start (manager.core.wallNow.2.start cid mid specs).1).dispatches at carried
    dsimp only [WatchManager.withCore]
    generalize manager.core.wallNow.2.start cid mid specs=res at carried ⊢
    obtain ⟨answer,after⟩ := res
    cases answer with
    | error error => exact carried
    | ok out => cases hr : out.replayed <;> simpa [fresh,fromCore,Outcome.dispatches,hr]
        using carried

theorem afterTouch_carries (manager : WatchManager C I) (cid : TraceId)
    (route : WatchManager C I → Except WatchManagerError (CoreDispatch × Bool) × WatchManager C I)
    (h : ∀manager,Carries spared manager (route manager).2 (fresh (route manager).1)) :
    Carries spared manager (afterTouch manager cid route).2
      (fresh (afterTouch manager cid route).1) := by
  have touched : Carries spared _ _ _ := touch_carries manager cid
  unfold afterTouch
  generalize manager.touch cid=res at touched ⊢
  obtain ⟨answer,after⟩ := res
  cases answer with
  | error error => exact touched
  | ok _ => exact touched.trans (h after)

theorem routed_carries (manager : WatchManager C I) (cid : TraceId) (cmd : WatchClientCommand) :
    let result := afterTouch manager cid (fun manager =>
      match runCommand manager cid cmd with
      | (.error error,manager) => (.error error,manager)
      | (.ok dispatch,manager) => (.ok (dispatch,true),manager))
    Carries spared manager result.2 (fresh result.1) := by
  apply afterTouch_carries
  intro manager
  have carried : Carries spared _ _ _ := runCommand_carries manager cid cmd
  generalize runCommand manager cid cmd=result at carried ⊢
  obtain ⟨answer,after⟩ := result
  cases answer with
  | error | ok => exact carried

theorem routeCommand_carries (manager : WatchManager C I) (cid messageId : TraceId)
    (cmd : WatchClientCommand) (addressed : ¬spared cid) :
    Carries spared manager (routeCommand manager cid messageId cmd).2
      (fresh (routeCommand manager cid messageId cmd).1) := by
  cases cmd with
  | startWatch items admissions =>
    unfold routeCommand
    dsimp only
    cases admissionsForItems items admissions with
    | error error => exact .still rfl
    | ok items =>
      exact afterTouch_carries _ _ _ (fun manager => routeStart_carries manager _ _ items addressed)
  | heartbeatAck =>
    apply afterTouch_carries
    intro manager
    exact .still rfl
  | _ => exact routed_carries _ _ _

theorem stopSections_carries (candidates : List (TraceId × SectionKey))
    (manager : WatchManager C I) :
    Carries spared manager (SocketState.stopSections candidates manager).2
      (SocketState.stopSections candidates manager).1 := by
  induction candidates generalizing manager with
  | nil => exact .still rfl
  | cons candidate candidates ih =>
    obtain ⟨cid,sk⟩ := candidate
    have stopped : Carries spared manager (manager.stopSectionWithReason cid sk).2
        (dispatched (manager.stopSectionWithReason cid sk).1) := by
      unfold WatchManager.stopSectionWithReason
      split
      · exact .still rfl
      · next watchId _ =>
        exact withCore_carries manager.core (.stopWatch cid watchId) (by simp [Operation.Plain]) _ rfl
    unfold SocketState.stopSections
    generalize manager.stopSectionWithReason cid sk=res at stopped ⊢
    obtain ⟨answer,after⟩ := res
    cases answer with
    | error | ok => exact stopped.trans (ih after)

def SocketState.watches? (state : SocketState C I E) (connectionId : TraceId) : Option Watches :=
  state.manager.core.store.watches? connectionId

/-- The connections that a call does not start watches on. -/
def SocketCall.Spares (holder : Option TraceId) : SocketCall → TraceId → Prop
  | .receiveText connectionId _ _,a => a≠connectionId
  | .ownerStart _ _,a => holder≠some a
  | _,_ => True

/-- There is no owner, or one that the manager does not know. -/
def SocketState.Unowned (state : SocketState C I E) : Prop :=
  ∀owner,state.owner=some owner → state.watches? owner=none

/-- What a locked call may do: watches go on or a connection comes in empty,
channels stay, leave or are new, and only a newcomer becomes the owner. An owner
that is replaced while a page has its id was not known. -/
structure Mutates (holder : Option TraceId) (call : SocketCall) (state next : SocketState C I E)
    (dispatches : List CoreDispatch) : Prop where
  moved : ∀a,(Continues (state.watches? a) (next.watches? a) (eventsTo a dispatches) ∧
      (call.Spares holder a → Rests (state.watches? a) (next.watches? a) (eventsTo a dispatches))) ∨
    (state.watches? a=none ∧ next.watches? a=some ∅ ∧ eventsTo a dispatches=[] ∧
      (next.owner=some a → call=.ensureOwnerConnection ∧ state.Unowned))
  channels : ∀(transport : TraceId) (channel : ConnectionChannel),
    next.connections[transport]?=some channel →
    state.connections[transport]?=some channel ∨
      (channel.sent=[] ∧ call=.connect transport ∧ next.watches? transport=some ∅)
  owner : ∀a,next.owner=some a →
    state.owner=some a ∨ (state.watches? a=none ∧ next.watches? a≠none)
  resigns : ∀a∈next.connections,state.owner=some a → next.owner=some a ∨
    (call=.ensureOwnerConnection ∧ state.watches? a=none)

variable {holder : Option TraceId} {call : SocketCall}

namespace Mutates

variable {state next : SocketState C I E} {dispatches : List CoreDispatch}

theorem manager (after : WatchManager C I)
    (h : Carries (call.Spares holder) state.manager after dispatches) :
    Mutates holder call state { state with manager := after } dispatches :=
  ⟨fun a => .inl (h a),fun _ _ hc => .inl hc,fun _ ho => .inl ho,fun _ _ ho => .inl ho⟩

theorem idle : Mutates holder call state state [] := manager state.manager (.still rfl)

theorem rests (h : Mutates holder call state next dispatches) {a : TraceId}
    (ha : call.Spares holder a) :
    Rests (state.watches? a) (next.watches? a) (eventsTo a dispatches) := by
  rcases h.moved a with ⟨_,rests⟩ | ⟨_,empty,silent,_⟩
  · exact rests ha
  · intro _
    rw [empty,silent]
    exact ⟨fun held hh => (Option.some.inj hh).symm,rfl⟩

end Mutates

theorem connect_enters (manager : WatchManager C I) (cid : TraceId) :
    ((manager.connect cid).2=manager ∧ ∃error,(manager.connect cid).1=.error error) ∨
    ((manager.connect cid).1=.ok () ∧ manager.core.store.watches? cid=none ∧
      (manager.connect cid).2.core.store.watches? cid=some ∅ ∧
      ∀a,a≠cid → (manager.connect cid).2.core.store.watches? a= manager.core.store.watches? a) := by
  unfold WatchManager.connect CoreWatchManager.connect
  split
  · exact .inl ⟨rfl,_,rfl⟩
  next hm =>
  have absent : manager.core.connections[cid]?=none := ExtTreeMap.getElem?_eq_none hm
  have look (a : TraceId) : (manager.core.now.2.insertConnection cid
      (.new manager.core.now.1)).store.watches? a=
        if cid=a then some ∅ else manager.core.store.watches? a := by
    rw [CoreWatchManager.insertConnection_store,Store.watches?_insert]
    rfl
  refine .inr ⟨rfl,?_,?_,?_⟩
  · simp [Store.watches?,CoreWatchManager.store,absent]
  · exact (look cid).trans (if_pos rfl)
  · intro a ha
    exact (look a).trans (if_neg (Ne.symm ha))

theorem connect_mutates (state : SocketState C I E) (cid : TraceId) :
    Mutates holder (.connect cid) state (state.connect cid).2 [] := by
  unfold SocketState.connect
  split
  · exact .idle
  next admitted =>
  have entered := connect_enters state.manager cid
  generalize state.manager.connect cid=res at entered ⊢
  obtain ⟨answer,after⟩ := res
  rcases entered with ⟨rfl,error,rfl⟩ | ⟨rfl,absent,present,others⟩
  · exact .idle
  refine ⟨?_,?_,fun _ ho => .inl ho,fun _ _ ho => .inl ho⟩
  · intro a
    by_cases ha : a=cid
    · subst ha
      exact .inr ⟨absent,present,rfl,fun ho => absurd (by simp [show state.owner=_ from ho])
        admitted⟩
    · have same : SocketState.watches? { state with manager := after } a=
          state.watches? a := others a ha
      exact .inl ⟨same ▸ .still _,fun _ => same ▸ .still _⟩
  · intro tr ch hc
    rcases of_getElem?_insert hc with ⟨rfl,rfl⟩ | before
    · exact .inr ⟨rfl,rfl,present⟩
    · exact .inl before

theorem connectOwner_mutates (state : SocketState C I E) (gone : state.Unowned) :
    Mutates holder .ensureOwnerConnection state state.connectOwner.2 [] := by
  unfold SocketState.connectOwner
  dsimp only
  generalize (TraceIdSource.nextTraceId state.envelopeIds).1=owner
  have entered := connect_enters state.manager owner
  generalize state.manager.connect owner=res at entered ⊢
  obtain ⟨answer,after⟩ := res
  rcases entered with ⟨rfl,error,rfl⟩ | ⟨rfl,absent,present,others⟩
  · exact ⟨fun a => .inl ⟨.still _,fun _ => .still _⟩,fun _ _ hc => .inl hc,
      fun _ ho => .inl ho,fun _ _ ho => .inl ho⟩
  have same (a : TraceId) (ha : a≠owner) : SocketState.watches? { state with
      manager := after } a=state.watches? a := others a ha
  refine ⟨?_,fun _ _ hc => .inl hc,?_,?_⟩
  · intro a
    by_cases ha : a=owner
    · subst ha
      exact .inr ⟨absent,present,rfl,fun _ => ⟨rfl,gone⟩⟩
    · exact .inl ⟨same a ha ▸ .still _,fun _ => same a ha ▸ .still _⟩
  · intro a ho
    cases ho
    exact .inr ⟨absent,by change after.core.store.watches? owner≠none; simp [present]⟩
  · exact fun a _ ho => .inr ⟨rfl,gone a ho⟩

theorem touch_unknown (manager : WatchManager C I) (cid : TraceId)
    (error : WatchManagerError) (h : (manager.touch cid).1=.error error) :
    manager.core.store.watches? cid=none := by
  cases hc : manager.core.connections[cid]? with
  | none => simp [Store.watches?,CoreWatchManager.store,hc]
  | some connection =>
    have same : manager.core.now.2.connections=manager.core.connections := rfl
    simp [WatchManager.touch,WatchManager.withCore,CoreWatchManager.touch,same,hc,fromCore] at h

theorem ensureOwnerConnection_mutates (state : SocketState C I E) :
    Mutates holder .ensureOwnerConnection state state.ensureOwnerConnection.2 [] := by
  unfold SocketState.ensureOwnerConnection
  split
  · exact .idle
  split
  · next ho =>
    apply connectOwner_mutates state
    intro a ha
    rw [ho] at ha
    cases ha
  · next owner ho =>
    have touched : Carries (fun _ => True) _ _ _ := touch_carries state.manager owner
    have watches (a : TraceId) : (state.manager.touch owner).2.core.store.watches? a=
        state.manager.core.store.watches? a := touch_watches state.manager.core owner a
    have unknown (error : WatchManagerError) : (state.manager.touch owner).1=.error error →
        state.watches? owner=none := touch_unknown state.manager owner error
    generalize state.manager.touch owner=res at touched watches unknown ⊢
    obtain ⟨answer,after⟩ := res
    cases answer with
    | ok _ => exact .manager after touched
    | error error =>
      have same (a : TraceId) : SocketState.watches? { state with manager := after } a=
          state.watches? a := watches a
      have gone : state.Unowned := by
        intro a ha
        cases ho.symm.trans ha
        exact unknown error rfl
      have mutates : Mutates holder _ { state with manager := after } _ [] :=
        connectOwner_mutates _ (fun a ha => (same a).trans (gone a ha))
      obtain ⟨moved,channels,owned,_⟩ := mutates
      simp only [same] at moved owned
      refine ⟨fun a => (moved a).imp_right ?_,channels,owned, fun a _ ha => .inr ⟨rfl,gone a ha⟩⟩
      exact fun ⟨absent,present,silent,_⟩ => ⟨absent,present,silent,fun _ => ⟨rfl,gone⟩⟩

/-- The expired connections leave; nobody new gets a channel or becomes the owner. -/
theorem dropExpired_keeps (reports : List CoreCleanupReport) (state : SocketState C I E) :
    (state.dropExpired reports).manager=state.manager ∧
    (∀(tr : TraceId) (ch : ConnectionChannel),
      (state.dropExpired reports).connections[tr]?=some ch →
      state.connections[tr]?=some ch) ∧
    (∀a,(state.dropExpired reports).owner=some a → state.owner=some a) ∧
    ∀a∈(state.dropExpired reports).connections,state.owner=some a →
      (state.dropExpired reports).owner=some a := by
  induction reports generalizing state with
  | nil => exact ⟨rfl,fun _ _ h => h,fun _ h => h,fun _ _ h => h⟩
  | cons report reports ih =>
    obtain ⟨manager,channels,owner,stays⟩ := ih { state with
      connections := state.connections.erase report.connectionId
      owner := if state.owner=some report.connectionId then none else state.owner }
    refine ⟨manager,?_,?_,?_⟩
    · exact fun tr ch hc => (of_getElem?_erase (channels tr ch hc)).2
    · intro a ha
      have ha := owner a ha
      split at ha
      · cases ha
      · exact ha
    · intro a ha ho
      refine stays a ha ?_
      obtain ⟨ch,hc⟩ := exists_getElem? ha
      simpa [ho] using (of_getElem?_erase (channels a ch hc)).1.symm

theorem touchOwner_carries (state : SocketState C I E) :
    Carries (call.Spares holder) state.manager state.touchOwner.manager [] := by
  unfold SocketState.touchOwner
  cases state.owner with
  | none => exact .still rfl
  | some owner => exact touch_carries state.manager owner

theorem map_dispatch (dispatches : List CoreDispatch) (record : Bool) :
    (dispatches.map (fun dp => (⟨dp,none,record⟩ : Outgoing))).map Outgoing.dispatch=
      dispatches := by
  rw [List.map_map]
  exact List.map_id _

theorem tick_mutates (state : SocketState C I E) (targetSupported termInRange : SectionKey → Bool) :
    Mutates holder call state (state.tick targetSupported termInRange).2
      ((state.tick targetSupported termInRange).1.map Outgoing.dispatch) := by
  have touched : Carries (call.Spares holder) _ _ _ := touchOwner_carries state
  have stopped : Carries (call.Spares holder) _ _ _ := stopSections_carries
    (state.touchOwner.stopCandidates targetSupported termInRange) state.touchOwner.manager
  unfold SocketState.tick
  dsimp only
  generalize SocketState.stopSections (state.touchOwner.stopCandidates targetSupported termInRange)
    state.touchOwner.manager=forced at stopped ⊢
  obtain ⟨forced,after⟩ := forced
  have ticked : Carries (call.Spares holder) after after.tick.2 after.tick.1.dispatches :=
    Carries.step after.core .tick (by simp) (by simp)
  generalize after.tick=out at ticked ⊢
  obtain ⟨out,final⟩ := out
  obtain ⟨manager,channels,owner,stays⟩ := dropExpired_keeps out.expiredConnections
    { state.touchOwner with manager := final }
  have carried := (touched.trans stopped).trans ticked
  rw [map_dispatch]
  refine ⟨?_,fun tr ch hc => .inl (channels tr ch hc),
    fun a ha => .inl (owner a ha),fun a ha ho => .inl (stays a ha ho)⟩
  intro a
  left
  unfold SocketState.watches?
  rw [manager]
  exact carried a

theorem stopConnections_mutates (state : SocketState C I E) (sealing : Bool) :
    Mutates holder call state (state.stopConnections sealing).2 [] := by
  have empty : (state.stopConnections sealing).2.connections=∅ := rfl
  refine ⟨fun a => .inl (Carries.step state.manager.core .processStop (by simp) (by simp) a),
    ?_,?_,?_⟩
  · intro tr ch hc
    simp [empty] at hc
  · intro a ha
    cases ha
  · intro a ha
    simp [empty] at ha

/-- A call that does not answer a START from the replay table. -/
def SocketState.Original (state : SocketState C I E) (owner : Option TraceId)
    (call : SocketCall) : Prop :=
  ∀outgoing∈(state.execute owner call).outgoing,outgoing.record=false →
    outgoing.dispatch.events=[]

theorem eventsTo_silent (a : TraceId) (dp : CoreDispatch) (h : dp.events=[]) :
    eventsTo a [dp]=[] := by
  by_cases ha : dp.connectionId=a <;> simp [eventsTo,h]

theorem fresh_answer {dp : CoreDispatch} {record : Bool}
    (original : record=false → dp.events=[]) (a : TraceId) :
    eventsTo a (fresh (.ok (dp,record) : Except WatchManagerError _))= eventsTo a [dp] := by
  cases record with
  | true => rfl
  | false => exact (eventsTo_silent a dp (original rfl)).symm

/-- What a call tells the pages is what it hands out, replays apart. -/
theorem execute_mutates (state : SocketState C I E) (owner : Option TraceId) (call : SocketCall) :
    ∃told,Mutates owner call state (state.execute owner call).state told ∧
      (state.Original owner call → ∀a,eventsTo a told=
        eventsTo a ((state.execute owner call).outgoing.map Outgoing.dispatch)) := by
  unfold SocketState.Original
  cases call with
  | connect cid => exact ⟨_,connect_mutates state cid,fun _ _ => rfl⟩
  | transportActivity cid =>
    exact ⟨_,.manager _ (touch_carries state.manager cid),fun _ _ => rfl⟩
  | receiveText cid mid cmd =>
    have carried := routeCommand_carries state.manager cid mid cmd
      (fun apart : (SocketCall.receiveText cid mid cmd).Spares owner cid => apart rfl)
    dsimp only [SocketState.execute,SocketState.receiveText]
    generalize routeCommand state.manager cid mid cmd=res at carried ⊢
    obtain ⟨answer,after⟩ := res
    cases answer with
    | error error => exact ⟨_,.manager after carried,fun _ _ => rfl⟩
    | ok answer =>
      obtain ⟨dp,record⟩ := answer
      exact ⟨_,.manager after carried,fun original =>
        fresh_answer (original _ List.mem_cons_self)⟩
  | disconnect cid =>
    refine ⟨[],⟨?_,?_,fun _ ha => .inl ha,fun _ _ ho => .inl ho⟩,fun _ _ => rfl⟩
    · intro a
      exact .inl (Carries.step state.manager.core (.disconnect cid) (by simp) (by simp) a)
    intro tr ch hc
    exact .inl (of_getElem?_erase hc).2
  | publish obs =>
    have carried : Carries (fun _ => True) _ _ _ :=
      Carries.step state.manager.core (.publish obs) (by simp) (by simp)
    change Carries _ _ ⟨(state.manager.core.publish obs).2⟩
      (Outcome.publish (state.manager.core.publish obs).1).dispatches at carried
    dsimp only [SocketState.execute,SocketState.publish,WatchManager.publish, WatchManager.withCore]
    generalize state.manager.core.publish obs=res at carried ⊢
    obtain ⟨answer,after⟩ := res
    cases answer with
    | error error => exact ⟨_,.manager ⟨after⟩ carried,fun _ _ => rfl⟩
    | ok out =>
      dsimp only [fromCore]
      rw [map_dispatch]
      exact ⟨_,.manager ⟨after⟩ carried,fun _ _ => rfl⟩
  | tick targetSupported termInRange =>
    exact ⟨_,tick_mutates state targetSupported termInRange,fun _ _ => rfl⟩
  | ensureOwnerConnection => exact ⟨_,ensureOwnerConnection_mutates state,fun _ _ => rfl⟩
  | ownerStart started admissions =>
    cases owner with
    | none => exact ⟨_,.idle,fun _ _ => rfl⟩
    | some owner =>
      dsimp only [SocketState.execute,SocketState.ownerStart]
      cases ha : admissionsForItems started admissions with
      | error error => exact ⟨_,.idle,fun _ _ => rfl⟩
      | ok items =>
        dsimp only
        have carried := routeStart_carries state.manager owner
          (TraceIdSource.nextTraceId state.envelopeIds).1 items
          (fun apart : (SocketCall.ownerStart started admissions).Spares (some owner) owner =>
            apart rfl)
        generalize routeStart state.manager owner
          (TraceIdSource.nextTraceId state.envelopeIds).1 items=res at carried ⊢
        obtain ⟨answer,after⟩ := res
        have moved (ids : E) : Mutates _ _ state { state with manager := after, envelopeIds := ids }
            (fresh answer) :=
          ⟨fun a => .inl (carried a),fun _ _ hc => .inl hc,fun _ ho => .inl ho,
            fun _ _ ho => .inl ho⟩
        cases answer with
        | error error => exact ⟨_,moved _,fun _ _ => rfl⟩
        | ok answer =>
          obtain ⟨dp,record⟩ := answer
          exact ⟨_,moved _,fun original => fresh_answer (original _ List.mem_cons_self)⟩
  | ownerDispatch cmd =>
    cases owner with
    | none => exact ⟨_,.idle,fun _ _ => rfl⟩
    | some owner =>
      have carried : Carries (fun _ => True) _ _ _ := runCommand_carries state.manager owner cmd
      dsimp only [SocketState.execute,SocketState.ownerDispatch]
      generalize runCommand state.manager owner cmd=res at carried ⊢
      obtain ⟨answer,after⟩ := res
      cases answer with
      | error | ok => exact ⟨_,.manager after carried,fun _ _ => rfl⟩
  | stopConnections sealing => exact ⟨_,stopConnections_mutates state sealing,fun _ _ => rfl⟩

theorem execute_mutates_original (state : SocketState C I E) (owner : Option TraceId)
    (call : SocketCall) (original : state.Original owner call) :
    Mutates owner call state (state.execute owner call).state
      ((state.execute owner call).outgoing.map Outgoing.dispatch) := by
  obtain ⟨told,mutates,same⟩ := execute_mutates state owner call
  refine ⟨?_,mutates.channels,mutates.owner,mutates.resigns⟩
  intro a
  rw [←same original a]
  exact mutates.moved a

end CoursePlanner.Application
