import CoursePlanner.Application.Delivery

set_option linter.unusedSectionVars false
set_option maxRecDepth 8000

namespace CoursePlanner.Application

open Std Library Contracts Watch

variable {C I E : Type} [WatchClock C] [TraceIdSource I] [TraceIdSource E]

/-- Everything that went out to a page since it attached. -/
def ConnectionChannel.heard (channel : ConnectionChannel) : List CoreEvent :=
  channel.sent.flatMap (fun parcel => parcel.frames.map WatchFrame.event)

theorem heard_send (ch : ConnectionChannel) (state : SocketState C I E) (serial : Nat)
    (outgoing : Outgoing) : (ch.send (parcelOf state serial outgoing)).heard=
      ch.heard++outgoing.dispatch.events.filter isFrame := by
  simp [ConnectionChannel.heard,ConnectionChannel.send,parcelOf,envelopes_events]

theorem heard_unsent {ch : ConnectionChannel} (h : ch.sent=[]) : ch.heard=[] := by
  simp [ConnectionChannel.heard,h]

theorem foldMixer_frames (current : List TraceId) (events : List CoreEvent) :
    foldMixer current (events.filter isFrame)=foldMixer current events := by
  have screens := foldl_note_frames events ⟨fun _ => none,current⟩
  rw [Screen.foldl_note,Screen.foldl_note] at screens
  exact congrArg Screen.mixer screens

theorem foldMixer_mute {events : List CoreEvent} (h : (tally events).mixers=[])
    (current : List TraceId) : foldMixer current events=current := by
  rw [foldMixer,h]
  rfl

theorem continues_mixer {before : Option Watches} {ws next : Watches}
    {events : List CoreEvent} (h : Continues before (some next) events)
    (hb : before=some ws) (displayed : ∃screen,Displays ws screen) :
    (∃screen,Displays next screen) ∧ foldMixer (alarms ws) events=alarms next := by
  obtain ⟨held,hh,along⟩ := h next rfl
  cases hb.symm.trans hh
  obtain ⟨screen,displays⟩ := displayed
  have after := along screen displays
  refine ⟨⟨_,after⟩,?_⟩
  rw [Screen.foldl_note,displays.mixer] at after
  exact after.mixer

namespace SharedWatchSocket

/-- Each attached page holds the alarms of the owner. -/
def InTune (socket : SharedWatchSocket C I E) : Prop :=
  ∀(owner page : TraceId) (connection : CoreConnection) (channel : ConnectionChannel),
    socket.state.owner=some owner →
    socket.state.manager.core.connections[owner]?=some connection →
    socket.state.connections[page]?=some channel →
    ∀episodeId,episodeId∈foldMixer [] channel.heard ↔
      ∃(sectionKey : SectionKey) (session : CoreWatchSession) (episode : CoreEpisode),
        connection.watches[sectionKey]?=some session ∧ session.policy.mode=.continuous ∧
        session.episode=some episode ∧ episode.state=.unacknowledged ∧ episode.id=episodeId

/-- One caller after the other, without commands of pages. A page attaches only while
the owner has no alarm, and a new owner comes in only while the pages hold none. -/
def Attends (socket : SharedWatchSocket C I E) : SocketStep → Prop
  | .deliver caller => caller=0
  | .call caller call => caller=0 ∧ socket.state.Original socket.owners[caller]? call ∧
    match call with
    | .receiveText _ _ _ => False
    | .stopConnections _ => False
    | .connect _ => ∀owner watches,socket.state.owner=some owner →
      socket.state.watches? owner=some watches → alarms watches=[]
    | .ensureOwnerConnection =>
      socket.state.Unowned → ∀(page : TraceId) (channel : ConnectionChannel),
        socket.state.connections[page]?=some channel → foldMixer [] channel.heard=[]
    | _ => True

/-- What holds throughout such a run. Pages have no watches of their own, so with what
is still under way each of them holds the alarms of the owner. -/
structure Tuned (socket : SharedWatchSocket C I E) : Prop where
  alone : ∀waiting∈socket.pending,waiting.caller=0
  held : ∀owner,socket.owners[0]?=some owner → socket.state.owner=some owner
  bare : ∀page∈socket.state.connections,socket.state.owner≠some page →
    Bare (socket.state.watches? page)
  mute : ∀waiting∈socket.pending,socket.state.owner≠some waiting.connectionId →
    waiting.connectionId∈socket.state.connections →
    (tally waiting.outgoing.dispatch.events).mixers=[]
  tuned : ∀owner watches,socket.state.owner=some owner →
    socket.state.watches? owner=some watches → (∃screen,Displays watches screen) ∧
    ∀(page : TraceId) (channel : ConnectionChannel),
      socket.state.connections[page]?=some channel →
      foldMixer [] (channel.heard++socket.awaiting owner)=alarms watches

theorem mem_stamp {caller serial : Nat} {outgoing : List Outgoing} {waiting : Pending}
    (h : waiting∈stamp caller serial outgoing) :
    waiting.caller=caller ∧ waiting.outgoing∈outgoing := by
  induction outgoing generalizing serial with
  | nil => cases h
  | cons first outgoing ih =>
    rcases List.mem_cons.mp h with rfl | h
    · exact ⟨rfl,List.mem_cons_self⟩
    · exact ⟨(ih h).1,List.mem_cons_of_mem _ (ih h).2⟩

/-- A caller is told the owner that it finds or makes. -/
theorem execute_owner (state : SocketState C I E) (holder : Option TraceId) (call : SocketCall)
    (owner : TraceId) (h : (state.execute holder call).owner=some owner) :
    (state.execute holder call).state.owner=some owner := by
  cases call with
  | ensureOwnerConnection =>
    have connected (state : SocketState C I E) (h : state.connectOwner.1.toOption=some owner) :
        state.connectOwner.2.owner=some owner := by
      unfold SocketState.connectOwner at h ⊢
      dsimp only at h ⊢
      split at h
      · cases h
      · exact h
    change state.ensureOwnerConnection.1.toOption=some owner at h
    change state.ensureOwnerConnection.2.owner=some owner
    unfold SocketState.ensureOwnerConnection at h ⊢
    split at h
    · cases h
    · next unsealed =>
      rw [if_neg unsealed]
      split at h
      · exact connected state h
      · next found _ =>
        split at h
        · cases h
          assumption
        · exact connected _ h
  | ownerStart | ownerDispatch => cases holder <;> cases h
  | _ => cases h

variable {so : SharedWatchSocket C I E}

theorem fresh_tuned (h : so.Fresh) : so.Tuned := by
  constructor <;> simp [h.pending,h.owners,h.connections,h.owner]

theorem Tuned.deliver (h : so.Tuned) : (so.deliverNext 0).Tuned := by
  cases hn : so.nextOf 0 with
  | none =>
    rw [deliverNext_none hn]
    exact h
  | some next =>
    obtain ⟨rest,split,after⟩ := deliverNext_some hn
    have first : so.overtaken 0=[] := by
      unfold overtaken
      cases hp : so.pending with
      | nil => rfl
      | cons waiting _ => simp [h.alone waiting (by simp [hp])]
    rw [first,List.nil_append] at split after
    have kept (waiting : Pending) (hw : waiting∈rest) : waiting∈so.pending := by
      simp [split,hw]
    have attached (page : TraceId)
        (hp : page∈(so.state.deliver next.serial next.outgoing).connections) :
        page∈so.state.connections := by
      obtain ⟨ch,hc⟩ := exists_getElem? hp
      obtain ⟨bef,hb,_⟩ := deliver_sent hc
      exact mem_of_getElem? hb
    rw [after]
    refine ⟨fun waiting hw => h.alone waiting (kept waiting hw),h.held,
      fun page hp => h.bare page (attached page hp),
      fun waiting hw ho hp => h.mute waiting (kept waiting hw) ho (attached _ hp),?_⟩
    intro owner ws ho hw
    obtain ⟨displayed,pages⟩ := h.tuned owner ws ho hw
    refine ⟨displayed,?_⟩
    intro page ch hc
    obtain ⟨before,hb,reached⟩ := deliver_sent hc
    have alarm : foldMixer [] (before.heard++framesFor owner so.pending)=_ := pages page before hb
    rw [split,framesFor_cons] at alarm
    by_cases hx : next.connectionId=owner
    · -- The owner's frames leave the callers' hands and are on every page.
      rcases reached with ⟨_,rfl⟩ | ⟨missed,_⟩
      · rw [if_pos hx] at alarm
        rw [heard_send,List.append_assoc]
        exact alarm
      · exact absurd (.inl (hx ▸ ho)) missed
    · rw [if_neg hx] at alarm
      rcases reached with ⟨reaches,rfl⟩ | ⟨_,rfl⟩
      · have foreign : so.state.owner≠some next.connectionId :=
          fun same => hx (Option.some.inj (same.symm.trans ho))
        have own := reaches.resolve_left foreign
        have quiet := h.mute next (by simp [split]) foreign (own ▸ mem_of_getElem? hb)
        rw [heard_send,Screen.foldMixer_append,Screen.foldMixer_append,
          foldMixer_frames,foldMixer_mute quiet,←Screen.foldMixer_append]
        exact alarm
      · exact alarm

theorem Tuned.mutate (h : so.Tuned) (quiet : so.pending=[]) (call : SocketCall)
    (attends : so.Attends (.call 0 call)) : (so.mutate 0 call).Tuned := by
  obtain ⟨_,original,allowed⟩ := attends
  have mutates := execute_mutates_original so.state so.owners[0]? call original
  have spared (page : TraceId) (hp : so.state.owner≠some page) :
      call.Spares so.owners[0]? page := by
    cases call with
    | receiveText => exact absurd allowed id
    | ownerStart => exact fun same => hp (h.held page same)
    | _ => trivial
  have produced : (so.mutate 0 call).pending=stamp 0 so.produced
      (so.state.execute so.owners[0]? call).outgoing := by
    simp [SharedWatchSocket.mutate,quiet]
  -- A page that is not the owner was there without a watch, or it has just come in.
  have resting (page : TraceId) (hp : page∈(so.mutate 0 call).state.connections)
      (ho : (so.mutate 0 call).state.owner≠some page) :
      (call.Spares so.owners[0]? page ∧ Bare (so.state.watches? page)) ∨
        (call=.connect page ∧ (so.mutate 0 call).state.watches? page=some ∅) := by
    obtain ⟨ch,hc⟩ := exists_getElem? hp
    rcases mutates.channels page ch hc with old | ⟨_,enters,empty⟩
    · left
      by_cases own : so.state.owner=some page
      · obtain ⟨rfl,unknown⟩ := (mutates.resigns page hp own).resolve_left ho
        rw [unknown]
        exact ⟨trivial,fun held hh => absurd hh (by simp)⟩
      · exact ⟨spared page own,h.bare page (mem_of_getElem? old) own⟩
    · exact .inr ⟨enters,empty⟩
  refine ⟨?_,?_,?_,?_,?_⟩
  · intro waiting hw
    rw [produced] at hw
    exact (mem_stamp hw).1
  · intro owner ho
    apply execute_owner so.state so.owners[0]? call owner
    unfold SharedWatchSocket.mutate at ho
    dsimp only at ho
    split at ho
    · next found hr => simpa [hr] using ho
    · simp at ho
  · intro page hp ho
    rcases resting page hp ho with ⟨spare,bare⟩ | ⟨_,empty⟩
    · exact (mutates.rests spare bare).1
    · rw [empty]
      exact fun held hh => (Option.some.inj hh).symm
  · intro waiting hw ho hp
    rw [produced] at hw
    have member : waiting.outgoing.dispatch∈(so.state.execute so.owners[0]?
        call).outgoing.map Outgoing.dispatch := List.mem_map_of_mem (mem_stamp hw).2
    rcases resting _ hp ho with ⟨spare,bare⟩ | ⟨rfl,_⟩
    · by_contra hm
      exact mixers_of_dispatch _ _ member hm (mutates.rests spare bare).2
    · cases member
  · intro owner ws ho hw
    have waits : (so.mutate 0 call).awaiting owner=
        (eventsTo owner ((so.state.execute so.owners[0]? call).outgoing.map
          Outgoing.dispatch)).filter isFrame := by
      rw [awaiting_mutate]
      simp [SharedWatchSocket.awaiting,quiet]
    rw [waits]
    rcases mutates.moved owner with ⟨continues,_⟩ | ⟨absent,present,silent,entered⟩
    · obtain ⟨before,hb,_⟩ := continues ws hw
      have owned : so.state.owner=some owner := by
        rcases mutates.owner owner ho with same | ⟨absent,_⟩
        · exact same
        · cases absent.symm.trans hb
      obtain ⟨displayed,pages⟩ := h.tuned owner before owned hb
      have moved := continues_mixer (hw ▸ continues) hb displayed
      refine ⟨moved.1,?_⟩
      intro page ch hc
      rw [Screen.foldMixer_append,foldMixer_frames,←moved.2]
      congr 1
      rcases mutates.channels page ch hc with old | ⟨unsent,rfl,_⟩
      · have alarm := pages page ch old
        simpa [SharedWatchSocket.awaiting,quiet] using alarm
      · rw [heard_unsent unsent,allowed owner before owned hb]
        rfl
    · obtain ⟨rfl,unowned⟩ := entered ho
      cases present.symm.trans hw
      refine ⟨⟨_,displays_empty⟩,?_⟩
      intro page ch hc
      rw [silent,List.filter_nil,List.append_nil]
      rcases mutates.channels page ch hc with old | ⟨_,other,_⟩
      · exact allowed unowned page ch old
      · cases other

theorem Tuned.step (h : so.Tuned) (next : SocketStep) (attends : so.Attends next) :
    (so.step next).2.Tuned := by
  cases next with
  | deliver caller =>
    cases (show caller=0 from attends)
    exact h.deliver
  | call caller call =>
    cases attends.1
    unfold SharedWatchSocket.step
    dsimp only
    split
    · exact h
    next idle =>
    refine h.mutate (List.eq_nil_iff_forall_not_mem.mpr ?_) call attends
    intro waiting hw
    exact idle (List.any_eq_true.mpr ⟨waiting,hw,by simp [h.alone waiting hw]⟩)

theorem Tuned.inTune (h : so.Tuned) (quiet : so.pending=[]) : so.InTune := by
  intro owner page connection ch ho hx hc episodeId
  have alarm := (h.tuned owner connection.watches ho (Store.watches?_some hx)).2 page ch hc
  have nothing : so.awaiting owner=[] := by simp [SharedWatchSocket.awaiting,quiet]
  rw [nothing,List.append_nil] at alarm
  rw [alarm,mem_alarms]

/-- Calls run one after the other. If pages attach only while the owner has no alarm and
a new owner finds no page with one, every attached page holds the owner's alarms. -/
theorem pages_in_tune_if_attached_in_silence (initial : SharedWatchSocket C I E)
    (hf : initial.Fresh) (steps : List SocketStep)
    (attends : Along SharedWatchSocket.step Attends initial steps)
    (returned : (run SharedWatchSocket.step initial steps).pending=[]) :
    (run SharedWatchSocket.step initial steps).InTune :=
  (attends.preserves Tuned (fresh_tuned hf) (fun _ next allowed h => h.step next allowed)).inTune
    returned

/-- The owner starts a continuous watch on a section that is open. -/
def alarmSteps : List SocketStep :=
  [.call 0 .ensureOwnerConnection,
    .call 0 (.ownerStart continuousItems
      [.admitted (some (firstObservation (ordinal 1) 11 .opened))]),
    .deliver 0]

def ringing (steps : List SocketStep) : Option (List TraceId) × Option (List TraceId) :=
  let state := (run SharedWatchSocket.step fakeSocket steps).state
  (state.connections[trace 1]?.map (fun channel => foldMixer [] channel.heard),
    state.owner.bind (fun owner => (state.watches? owner).map alarms))

theorem pages_in_tune_if_attached_in_silence_first :
    let steps := [.call 0 (.connect (trace 1))]++alarmSteps
    fakeSocket.Fresh ∧ ringing steps=(some [trace 0x103],some [trace 0x103]) ∧
      (run SharedWatchSocket.step fakeSocket steps).InTune := by
  refine ⟨fakeSocket_fresh,by decide,pages_in_tune_if_attached_in_silence fakeSocket
    fakeSocket_fresh _ ?_ (List.eq_nil_of_length_eq_zero (by decide))⟩
  refine ⟨⟨rfl,original_of_recorded (by decide),?_⟩,⟨rfl,original_of_recorded (by decide),?_⟩,
    ⟨rfl,original_of_recorded (by decide),trivial⟩,rfl,trivial⟩
  · intro owner watches ho
    cases ho
  intro _ page channel hc
  rcases channel_mutate fakeSocket 0 (.connect (trace 1)) hc with old | unsent
  · simp [fakeSocket] at old
  · rw [heard_unsent unsent]
    rfl

/-- A page that attaches to a sounding owner is told nothing. -/
theorem late_page_stays_silent : fakeSocket.Fresh ∧ (run SharedWatchSocket.step fakeSocket
      (alarmSteps++[.call 0 (.connect (trace 1))])).pending=[] ∧
    ringing (alarmSteps++[.call 0 (.connect (trace 1))])=(some [],some [trace 0x103]) ∧
    ¬(run SharedWatchSocket.step fakeSocket
      (alarmSteps++[.call 0 (.connect (trace 1))])).InTune := by
  have rings : ringing (alarmSteps++[.call 0 (.connect (trace 1))])=
      (some [],some [trace 0x103]) := by decide
  refine ⟨fakeSocket_fresh,List.eq_nil_of_length_eq_zero (by decide),rings,?_⟩
  intro tune
  obtain ⟨page,owner⟩ := Prod.mk.inj rings
  obtain ⟨channel,hc,silent⟩ := Option.map_eq_some_iff.mp page
  obtain ⟨owner,ho,held⟩ := Option.bind_eq_some_iff.mp owner
  obtain ⟨watches,hw,sounding⟩ := Option.map_eq_some_iff.mp held
  obtain ⟨connection,hx,rfl⟩ := Option.map_eq_some_iff.mp hw
  have heard := (tune owner (trace 1) connection channel ho hx hc (trace 0x103)).mpr
    ((mem_alarms _ _).mp (by simp [sounding]))
  rw [silent] at heard
  cases heard

end SharedWatchSocket

end CoursePlanner.Application
