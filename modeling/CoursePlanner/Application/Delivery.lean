import CoursePlanner.Application.Mutation

set_option linter.unusedSectionVars false
set_option maxRecDepth 8000

namespace CoursePlanner.Application

open Std Library Contracts Watch

variable {C I E : Type} [WatchClock C] [TraceIdSource I] [TraceIdSource E]

def SocketState.Reaches (state : SocketState C I E) (connectionId transport : TraceId) : Prop :=
  state.owner=some connectionId ∨ connectionId=transport

instance (state : SocketState C I E) (connectionId transport : TraceId) :
    Decidable (state.Reaches connectionId transport) :=
  inferInstanceAs (Decidable (_ ∨ _))

/-- The events of one connection that a transport has received. -/
def ConnectionChannel.eventsFrom (channel : ConnectionChannel) (connectionId : TraceId) :
    List CoreEvent :=
  (channel.sent.filter (fun parcel => parcel.connectionId=connectionId)).flatMap
    (fun parcel => parcel.frames.map WatchFrame.event)

def Pending.connectionId (waiting : Pending) : TraceId := waiting.outgoing.dispatch.connectionId

namespace SharedWatchSocket

def received (socket : SharedWatchSocket C I E) (transport connectionId : TraceId) :
    List CoreEvent :=
  (socket.state.connections[transport]?.map (fun channel =>
    channel.eventsFrom connectionId)).getD []

/-- The events of one connection that are in the hands of the callers. -/
def awaiting (socket : SharedWatchSocket C I E) (connectionId : TraceId) : List CoreEvent :=
  (socket.pending.filter (fun waiting => waiting.connectionId=connectionId)).flatMap
    (fun waiting => waiting.outgoing.dispatch.events.filter isFrame)

/-- Every transport has received its dispatches in the order of production. -/
def InOrder (socket : SharedWatchSocket C I E) : Prop :=
  ∀(transport : TraceId) (channel : ConnectionChannel),
    socket.state.connections[transport]?=some channel →
    (channel.sent.map Parcel.serial).Pairwise (·<·)

/-- Neither a caller nor a page knows the connection. -/
def Unused (socket : SharedWatchSocket C I E) (connectionId : TraceId) : Prop :=
  (∀waiting∈socket.pending,waiting.connectionId≠connectionId) ∧
  ∀(transport : TraceId) (channel : ConnectionChannel),
    socket.state.connections[transport]?=some channel →
    ∀parcel∈channel.sent,parcel.connectionId≠connectionId

/-- The dispatches of other callers that are older than the next one of this caller. -/
def overtaken (socket : SharedWatchSocket C I E) (caller : Nat) : List Pending :=
  socket.pending.takeWhile (fun waiting => waiting.caller≠caller)

/-- The dispatch that a caller delivers next. -/
def nextOf (socket : SharedWatchSocket C I E) (caller : Nat) : Option Pending :=
  (socket.pending.dropWhile (fun waiting => waiting.caller≠caller)).head?

/-- A delivery reaches no transport that already has a later dispatch. -/
def NotLate (socket : SharedWatchSocket C I E) : SocketStep → Prop
  | .call _ _ => True
  | .deliver caller => ∀next,socket.nextOf caller=some next →
    ∀(transport : TraceId) (channel : ConnectionChannel),
      socket.state.connections[transport]?=some channel →
      socket.state.Reaches next.connectionId transport →
      ∀parcel∈channel.sent,parcel.serial<next.serial

/-- A delivery overtakes no older dispatch of its connection and none that would
reach one of its transports; a call answers no START from the replay table, and a
connection comes in under an id of its own. -/
def Orderly (socket : SharedWatchSocket C I E) : SocketStep → Prop
  | .call caller call => socket.state.Original socket.owners[caller]? call ∧
    ∀connectionId,socket.state.watches? connectionId=none →
      (socket.state.execute socket.owners[caller]? call).state.watches? connectionId≠none →
      socket.Unused connectionId
  | .deliver caller => ∀next,socket.nextOf caller=some next →
    ∀older∈socket.overtaken caller,older.connectionId≠next.connectionId ∧
      ∀transport∈socket.state.connections,
        ¬(socket.state.Reaches older.connectionId transport ∧
          socket.state.Reaches next.connectionId transport)

end SharedWatchSocket

theorem envelopes_events (messageId : Option TraceId) (events : List CoreEvent) (ids : E) :
    (envelopes messageId events ids).1.map WatchFrame.event=events := by
  induction events generalizing ids with
  | nil => rfl
  | cons event events ih =>
    unfold envelopes
    simp only [List.map_cons]
    rw [ih]

/-- What deliver hands to each sender. -/
def parcelOf (state : SocketState C I E) (serial : Nat) (outgoing : Outgoing) : Parcel :=
  ⟨serial,outgoing.dispatch.connectionId,
    (envelopes outgoing.messageId (outgoing.dispatch.events.filter isFrame)
      state.envelopeIds).1⟩

theorem deliver_channel (state : SocketState C I E) (serial : Nat) (outgoing : Outgoing)
    (tr : TraceId) :
    (state.deliver serial outgoing).connections[tr]?= state.connections[tr]?.map (fun ch =>
        if state.Reaches outgoing.dispatch.connectionId tr then
          ch.send (parcelOf state serial outgoing)
        else ch) := by
  unfold SocketState.deliver SocketState.Reaches
  by_cases ho : state.owner=some outgoing.dispatch.connectionId
  · simp only [ho,if_true]
    rw [ExtTreeMap.getElem?_map]
    rfl
  simp only [ho,if_false]
  cases hc : state.connections[outgoing.dispatch.connectionId]? with
  | none =>
    by_cases ht : outgoing.dispatch.connectionId=tr
    · subst ht
      simp [hc]
    · simp [ht]
  | some ch =>
    rw [getElem?_insert_eq]
    by_cases ht : outgoing.dispatch.connectionId=tr
    · subst ht
      simp [hc,parcelOf]
    · simp [ht]

theorem eventsFrom_send (ch : ConnectionChannel) (state : SocketState C I E) (serial : Nat)
    (outgoing : Outgoing) (cid : TraceId) :
    (ch.send (parcelOf state serial outgoing)).eventsFrom cid= ch.eventsFrom cid++
        if outgoing.dispatch.connectionId=cid then
          outgoing.dispatch.events.filter isFrame
        else [] := by
  unfold ConnectionChannel.eventsFrom ConnectionChannel.send
  by_cases h : outgoing.dispatch.connectionId=cid
  · simp [parcelOf,h,envelopes_events]
  · simp [parcelOf,h]

theorem stamp_serials (caller serial : Nat) (outgoing : List Outgoing) :
    ((stamp caller serial outgoing).map Pending.serial).Pairwise (·<·) ∧
    ∀waiting∈stamp caller serial outgoing,
      serial ≤ waiting.serial ∧ waiting.serial<serial+outgoing.length := by
  induction outgoing generalizing serial with
  | nil => exact ⟨.nil,nofun⟩
  | cons first outgoing ih =>
    obtain ⟨sorted,bounds⟩ := ih (serial+1)
    simp only [stamp,List.map_cons,List.pairwise_cons,List.forall_mem_map,List.forall_mem_cons,
      List.length_cons]
    refine ⟨⟨fun waiting hw => (bounds waiting hw).1,sorted⟩,by omega,?_⟩
    intro waiting hw
    have := bounds waiting hw
    omega

/-- The frames for one connection among the dispatches of the callers. -/
def framesFor (cid : TraceId) (pending : List Pending) : List CoreEvent :=
  (pending.filter (fun waiting => waiting.connectionId=cid)).flatMap
    (fun waiting => waiting.outgoing.dispatch.events.filter isFrame)

theorem framesFor_append (cid : TraceId) (earlier later : List Pending) :
    framesFor cid (earlier++later)=framesFor cid earlier++framesFor cid later := by
  unfold framesFor
  rw [List.filter_append,List.flatMap_append]

theorem framesFor_cons (cid : TraceId) (next : Pending) (rest : List Pending) :
    framesFor cid (next::rest)=(if next.connectionId=cid then
      next.outgoing.dispatch.events.filter isFrame else [])++framesFor cid rest := by
  by_cases h : next.connectionId=cid <;> simp [framesFor,h]

theorem framesFor_nil {cid : TraceId} {pending : List Pending}
    (h : ∀waiting∈pending,waiting.connectionId≠cid) : framesFor cid pending=[] := by
  unfold framesFor
  rw [List.filter_eq_nil_iff.mpr (by simpa using h)]
  rfl

theorem stamp_framesFor (caller serial : Nat) (outgoing : List Outgoing) (cid : TraceId) :
    framesFor cid (stamp caller serial outgoing)=
      (eventsTo cid (outgoing.map Outgoing.dispatch)).filter isFrame := by
  induction outgoing generalizing serial with
  | nil => rfl
  | cons first outgoing ih =>
    rw [stamp,framesFor_cons,ih]
    by_cases h : first.dispatch.connectionId=cid <;> simp [Pending.connectionId,eventsTo,h]

theorem foldl_note_frames (events : List CoreEvent) (screen : Screen) :
    (events.filter isFrame).foldl Screen.note screen=events.foldl Screen.note screen := by
  induction events generalizing screen with
  | nil => rfl
  | cons event events ih =>
    cases event with
    | action recorded =>
      have quiet : screen.note (.action recorded)=screen := by
        by_cases hk : recorded.kind=.episodeOpened <;>
          simp [Screen.note,noteFrame,foldMixer,tally,Tally.note,Tally.openings,Tally.empty,hk]
      simp only [List.foldl_cons,quiet]
      exact ih screen
    | _ => exact ih _

namespace SharedWatchSocket

/-- What holds throughout an orderly run: numbers grow, whatever is still under way
is later than what its transports have, and every page follows its connections. -/
structure Punctual (socket : SharedWatchSocket C I E) : Prop where
  pending : (socket.pending.map Pending.serial).Pairwise (·<·)
  produced : ∀waiting∈socket.pending,waiting.serial<socket.produced
  sorted : socket.InOrder
  sent : ∀(transport : TraceId) (channel : ConnectionChannel),
    socket.state.connections[transport]?=some channel →
    ∀parcel∈channel.sent,parcel.serial<socket.produced
  ahead : ∀(transport : TraceId) (channel : ConnectionChannel),
    socket.state.connections[transport]?=some channel →
    ∀waiting∈socket.pending,socket.state.Reaches waiting.connectionId transport →
    ∀parcel∈channel.sent,parcel.serial<waiting.serial
  follows : ∀connectionId watches,socket.state.watches? connectionId=some watches →
    ∀transport,socket.state.Reaches connectionId transport →
    Follows Screen.note (Displays watches)
      (socket.received transport connectionId++socket.awaiting connectionId)

variable {socket : SharedWatchSocket C I E}

section Mutate

variable (socket : SharedWatchSocket C I E) (caller : Nat) (call : SocketCall)

theorem awaiting_mutate (cid : TraceId) :
    (socket.mutate caller call).awaiting cid=socket.awaiting cid++
      (eventsTo cid ((socket.state.execute socket.owners[caller]? call).outgoing.map
        Outgoing.dispatch)).filter isFrame := by
  rw [←stamp_framesFor caller socket.produced]
  exact framesFor_append cid _ _

theorem channel_mutate {tr : TraceId} {ch : ConnectionChannel}
    (hc : (socket.mutate caller call).state.connections[tr]?=some ch) :
    socket.state.connections[tr]?=some ch ∨ ch.sent=[] := by
  obtain ⟨_,mutates,_⟩ := execute_mutates socket.state socket.owners[caller]? call
  exact (mutates.channels tr ch hc).imp_right And.left

theorem sent_mutate {tr : TraceId} {ch : ConnectionChannel} {parcel : Parcel}
    (hc : (socket.mutate caller call).state.connections[tr]?=some ch) (hp : parcel∈ch.sent) :
    socket.state.connections[tr]?=some ch := by
  refine (channel_mutate socket caller call hc).resolve_right ?_
  exact List.ne_nil_of_mem hp

theorem received_mutate (tr cid : TraceId) :
    (socket.mutate caller call).received tr cid= socket.received tr cid ∨
      (socket.mutate caller call).received tr cid=[] := by
  unfold received
  cases hc : (socket.mutate caller call).state.connections[tr]? with
  | none => exact .inr rfl
  | some ch =>
    rcases channel_mutate socket caller call hc with old | empty
    · rw [old]
      exact .inl rfl
    · right
      simp [ConnectionChannel.eventsFrom,empty]

theorem inOrder_mutate (h : socket.InOrder) : (socket.mutate caller call).InOrder := by
  intro tr ch hc
  rcases channel_mutate socket caller call hc with old | empty
  · exact h tr ch old
  · rw [empty]
    exact .nil

variable {socket : SharedWatchSocket C I E}

theorem Unused.received {cid : TraceId} (h : socket.Unused cid)
    (tr : TraceId) : socket.received tr cid=[] := by
  unfold SharedWatchSocket.received
  cases hc : socket.state.connections[tr]? with
  | none => rfl
  | some ch =>
    have unsent : ch.sent.filter (fun parcel => parcel.connectionId=cid)=[] :=
      List.filter_eq_nil_iff.mpr (by simpa using h.2 tr ch hc)
    simp [ConnectionChannel.eventsFrom,unsent]

theorem Punctual.mutate (h : socket.Punctual) (orderly : socket.Orderly (.call caller call)) :
    (socket.mutate caller call).Punctual := by
  obtain ⟨original,newcomers⟩ := orderly
  have mutates := execute_mutates_original socket.state socket.owners[caller]? call original
  obtain ⟨stamped,bounds⟩ := stamp_serials caller socket.produced
    (socket.state.execute socket.owners[caller]? call).outgoing
  -- Whoever becomes the owner has nothing under way, so no old dispatch gains readers.
  have reached {cid transport : TraceId}
      (hn : (socket.mutate caller call).state.Reaches cid transport) :
      socket.state.Reaches cid transport ∨
        socket.state.watches? cid=none ∧ socket.Unused cid := by
    rcases hn with ho | ht
    · rcases mutates.owner _ ho with old | ⟨absent,present⟩
      · exact .inl (.inl old)
      · exact .inr ⟨absent,newcomers _ absent present⟩
    · exact .inl (.inr ht)
  refine ⟨?_,?_,inOrder_mutate socket caller call h.sorted,?_,?_,?_⟩
  · unfold SharedWatchSocket.mutate
    rw [List.map_append,List.pairwise_append]
    refine ⟨h.pending,stamped,?_⟩
    intro old ho new hn
    obtain ⟨waiting,hw,rfl⟩ := List.mem_map.mp ho
    obtain ⟨fresh,hf,rfl⟩ := List.mem_map.mp hn
    exact Nat.lt_of_lt_of_le (h.produced waiting hw) (bounds fresh hf).1
  · intro waiting hw
    rcases List.mem_append.mp hw with hw | hw
    · exact Nat.lt_add_right _ (h.produced waiting hw)
    · exact (bounds waiting hw).2
  · intro transport channel hc parcel hp
    exact Nat.lt_add_right _ (h.sent transport channel (sent_mutate _ _ _ hc hp) parcel hp)
  · intro transport channel hc waiting hw hn parcel hp
    have old := sent_mutate _ _ _ hc hp
    rcases List.mem_append.mp hw with hw | hw
    · have reaches := (reached hn).resolve_right (fun newcomer => newcomer.2.1 waiting hw rfl)
      exact h.ahead transport channel old waiting hw reaches parcel hp
    · exact Nat.lt_of_lt_of_le (h.sent transport channel old parcel hp) (bounds waiting hw).1
  · intro connectionId watches hw transport hn
    rw [awaiting_mutate]
    rcases mutates.moved connectionId with ⟨continues,_⟩ | ⟨absent,present,silent,_⟩
    · obtain ⟨before,hb,screens⟩ := continues watches hw
      have reaches := (reached hn).resolve_right (fun newcomer => by simp [hb] at newcomer)
      have extended : Follows Screen.note (Displays watches)
          ((socket.received transport connectionId++socket.awaiting connectionId)++
            (eventsTo connectionId ((socket.state.execute socket.owners[caller]?
              call).outgoing.map Outgoing.dispatch)).filter isFrame) := by
        refine (h.follows connectionId before hb transport reaches).extend ?_
        intro screen displays
        rw [foldl_note_frames]
        exact screens screen displays
      rw [List.append_assoc] at extended
      rcases received_mutate socket caller call transport connectionId with same | gone
      · rw [same]
        exact extended
      · rw [gone]
        exact extended.suffix
    · have unused := newcomers connectionId absent (by rw [present]; simp)
      cases present.symm.trans hw
      have empty : (socket.mutate caller call).received transport connectionId=[] := by
        rcases received_mutate socket caller call transport connectionId with same | gone
        · rw [same,unused.received]
        · exact gone
      have unawaited : socket.awaiting connectionId=[] := framesFor_nil unused.1
      rw [empty,unawaited,silent]
      exact .start displays_empty

end Mutate

section Deliver

variable {socket : SharedWatchSocket C I E} {caller : Nat}

theorem deliverNext_none (h : socket.nextOf caller=none) : socket.deliverNext caller=socket := by
  unfold deliverNext
  rw [List.head?_eq_none_iff.mp h]

theorem deliverNext_some {next : Pending} (h : socket.nextOf caller=some next) :
    ∃rest,socket.pending=socket.overtaken caller++next::rest ∧ socket.deliverNext caller=
        { socket with
          state := socket.state.deliver next.serial next.outgoing
          pending := socket.overtaken caller++rest } := by
  obtain ⟨rest,hr⟩ := List.head?_eq_some_iff.mp h
  refine ⟨rest,?_,?_⟩
  · rw [←hr]
    exact List.takeWhile_append_dropWhile.symm
  · unfold deliverNext
    rw [hr]
    rfl

/-- What a delivery appends to a channel, in the terms of the next dispatch. -/
theorem deliver_sent {next : Pending} {tr : TraceId} {ch : ConnectionChannel}
    (hc : (socket.state.deliver next.serial next.outgoing).connections[tr]?= some ch) :
    ∃bef,socket.state.connections[tr]?=some bef ∧ ((socket.state.Reaches next.connectionId tr ∧
          ch=bef.send (parcelOf socket.state next.serial next.outgoing)) ∨
        (¬socket.state.Reaches next.connectionId tr ∧ bef=ch)) := by
  rw [deliver_channel,Option.map_eq_some_iff] at hc
  obtain ⟨bef,hb,rfl⟩ := hc
  refine ⟨bef,hb,?_⟩
  by_cases hr : socket.state.Reaches next.outgoing.dispatch.connectionId tr
  · exact .inl ⟨hr,if_pos hr⟩
  · exact .inr ⟨hr,(if_neg hr).symm⟩

theorem sorted_send {bef : ConnectionChannel} {parcel : Parcel} :
    ((bef.send parcel).sent.map Parcel.serial).Pairwise (·<·) ↔
      (bef.sent.map Parcel.serial).Pairwise (·<·) ∧
        ∀earlier∈bef.sent,earlier.serial<parcel.serial := by
  simp [ConnectionChannel.send,List.pairwise_append]

theorem inOrder_deliver (h : socket.InOrder) :
    (socket.deliverNext caller).InOrder ↔ socket.NotLate (.deliver caller) := by
  cases hn : socket.nextOf caller with
  | none =>
    rw [deliverNext_none hn]
    refine ⟨fun _ next hs => ?_,fun _ => h⟩
    rw [hn] at hs
    cases hs
  | some next =>
    obtain ⟨rest,_,after⟩ := deliverNext_some hn
    rw [after]
    constructor
    · intro sorted other hs tr ch hc hr
      rw [hn] at hs
      cases hs
      have sent := sorted tr (ch.send (parcelOf socket.state next.serial next.outgoing)) (by
          rw [deliver_channel,hc]
          exact congrArg some (if_pos hr))
      exact (sorted_send.mp sent).2
    · intro timely tr ch hc
      obtain ⟨bef,hb,⟨hr,rfl⟩ | ⟨_,rfl⟩⟩ := deliver_sent hc
      · exact sorted_send.mpr ⟨h tr bef hb,timely next hn tr bef hb hr⟩
      · exact h tr bef hb

theorem received_deliver (next : Pending) (rest : List Pending) (tr connectionId : TraceId)
    (h : connectionId=next.connectionId → socket.state.Reaches connectionId tr) :
    SharedWatchSocket.received { socket with
        state := socket.state.deliver next.serial next.outgoing
        pending := rest } tr connectionId=
      socket.received tr connectionId++
        if connectionId=next.connectionId ∧ tr∈socket.state.connections then
          next.outgoing.dispatch.events.filter isFrame
        else [] := by
  unfold received
  rw [deliver_channel]
  cases hc : socket.state.connections[tr]? with
  | none => simp [mem_iff_getElem?_ne_none,hc]
  | some ch =>
    simp only [Option.map_some,Option.getD_some,mem_of_getElem? hc,and_true]
    by_cases hx : connectionId=next.connectionId
    · have reaches := h hx
      subst hx
      rw [if_pos (show socket.state.Reaches next.outgoing.dispatch.connectionId tr
        from reaches),eventsFrom_send]
      rfl
    · have other : next.outgoing.dispatch.connectionId≠connectionId := Ne.symm hx
      split
      · rw [eventsFrom_send,if_neg other]
      · rw [List.append_nil]

theorem Punctual.deliver (h : socket.Punctual) (orderly : socket.Orderly (.deliver caller)) :
    (socket.deliverNext caller).Punctual := by
  cases hn : socket.nextOf caller with
  | none =>
    rw [deliverNext_none hn]
    exact h
  | some next =>
    obtain ⟨rest,split,after⟩ := deliverNext_some hn
    have apart := orderly next hn
    have nextMember : next∈socket.pending := by simp [split]
    have kept : (socket.overtaken caller++rest).Sublist socket.pending := by
      rw [split]
      exact (List.Sublist.refl _).append (List.sublist_cons_self next rest)
    have later (waiting : Pending) (hw : waiting∈rest) : next.serial<waiting.serial := by
      have sorted := h.pending
      rw [split,List.map_append,List.pairwise_append,List.map_cons,List.pairwise_cons] at sorted
      exact sorted.2.1.1 _ (List.mem_map_of_mem hw)
    have timely : socket.NotLate (.deliver caller) := by
      intro other hs transport channel hc hr
      rw [hn] at hs
      cases hs
      exact h.ahead transport channel hc next nextMember hr
    have sorted := (inOrder_deliver h.sorted).mpr timely
    rw [after] at sorted ⊢
    refine ⟨h.pending.sublist (kept.map _),fun waiting hw => h.produced waiting (kept.subset hw),
      sorted,?_,?_,?_⟩
    · intro transport channel hc parcel hp
      obtain ⟨before,hb,⟨_,rfl⟩ | ⟨_,rfl⟩⟩ := deliver_sent hc
      · rcases List.mem_append.mp hp with hp | hp
        · exact h.sent transport before hb parcel hp
        · cases List.mem_singleton.mp hp
          exact h.produced next nextMember
      · exact h.sent transport before hb parcel hp
    · intro transport channel hc waiting hw hr parcel hp
      have reaches : socket.state.Reaches waiting.connectionId transport := hr
      obtain ⟨before,hb,⟨both,rfl⟩ | ⟨_,rfl⟩⟩ := deliver_sent hc
      · rcases List.mem_append.mp hp with hp | hp
        · exact h.ahead transport before hb waiting (kept.subset hw) reaches parcel hp
        · cases List.mem_singleton.mp hp
          rcases List.mem_append.mp hw with older | younger
          · exact absurd ⟨reaches,both⟩ ((apart waiting older).2 transport (mem_of_getElem? hb))
          · exact later waiting younger
      · exact h.ahead transport before hb waiting (kept.subset hw) reaches parcel hp
    · intro connectionId watches hw transport hr
      have reaches : socket.state.Reaches connectionId transport := hr
      have follows := h.follows connectionId watches hw transport reaches
      rw [received_deliver next _ transport connectionId (fun _ => reaches)]
      change Follows _ _ (_++framesFor connectionId (socket.overtaken caller++rest))
      change Follows _ _ (_++framesFor connectionId socket.pending) at follows
      rw [split,framesFor_append,framesFor_cons] at follows
      rw [framesFor_append]
      by_cases hx : connectionId=next.connectionId
      · -- Nothing of this connection is older, so its oldest frames are the delivered ones.
        have first : framesFor connectionId (socket.overtaken caller)=[] :=
          framesFor_nil (fun waiting older => hx ▸ (apart waiting older).1)
        rw [first,List.nil_append,if_pos hx.symm,←List.append_assoc] at follows
        rw [first]
        by_cases hm : transport∈socket.state.connections
        · rw [if_pos ⟨hx,hm⟩]
          exact follows
        rw [if_neg (fun both => hm both.2)]
        have nothing : socket.received transport connectionId=[] := by
          simp [received,ExtTreeMap.getElem?_eq_none hm]
        rw [nothing]
        exact follows.suffix
      · rw [if_neg (Ne.symm hx)] at follows
        rw [if_neg (fun both => hx both.1),List.append_nil]
        exact follows

end Deliver

theorem Punctual.step (h : socket.Punctual) (next : SocketStep) (orderly : socket.Orderly next) :
    (socket.step next).2.Punctual := by
  cases next with
  | call caller call =>
    unfold SharedWatchSocket.step
    dsimp only
    split
    · exact h
    · exact h.mutate caller call orderly
  | deliver caller => exact h.deliver orderly

theorem original_of_recorded {state : SocketState C I E} {holder : Option TraceId}
    {call : SocketCall}
    (recorded : (state.execute holder call).outgoing.all Outgoing.record=true) :
    state.Original holder call := by
  intro outgoing member unrecorded
  rw [List.all_eq_true.mp recorded outgoing member] at unrecorded
  cases unrecorded

def fakeSocket : SharedWatchSocket FakeClock FakeIds FakeIds :=
  ⟨⟨⟨fakeManager⟩,∅,⟨0x900⟩,false,none⟩,[],0,∅⟩

theorem fakeSocket_fresh : fakeSocket.Fresh := ⟨fakeManager_fresh,rfl,rfl,rfl,rfl⟩

def continuousItems : WatchStartItems := ⟨[continuousItem],by decide,by decide,by decide⟩

end SharedWatchSocket

end CoursePlanner.Application
