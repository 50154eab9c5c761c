import CoursePlanner.Watch.Shown

set_option linter.unusedSectionVars false

namespace CoursePlanner.Watch

open Std Library Contracts

abbrev Watches := ExtTreeMap SectionKey CoreWatchSession

/-- The ids of the sounding continuous alarms, in section order. -/
def alarms (watches : Watches) : List TraceId :=
  (orderedValues watches).filterMap CoreWatchSession.alarmId

theorem activeEpisodeIds_eq (conn : CoreConnection) :
    conn.activeEpisodeIds=alarms conn.watches := by
  unfold CoreConnection.activeEpisodeIds alarms
  rw [List.filterMap_filter]
  rfl

theorem alarms_congr (ws next : Watches)
    (h : ∀sk : SectionKey,next[sk]?.bind CoreWatchSession.alarmId=
      ws[sk]?.bind CoreWatchSession.alarmId) : alarms next=alarms ws :=
  orderedValues_filterMap_congr next ws _ _ h

/-- Each mixer disposition replaces the active set the client had before. -/
def foldMixer (current : List TraceId) (events : List CoreEvent) : List TraceId :=
  (tally events).mixers.foldl (fun _ activeEpisodeIds => activeEpisodeIds) current

/-- The events take the client from one active set to another, and speak of the
mixer only if the two differ. -/
structure MixerStep (before after : List TraceId) (events : List CoreEvent) : Prop where
  fold : foldMixer before events=after
  changed : (tally events).mixers≠[] → after≠before

theorem MixerStep.still (current : List TraceId) (events : List CoreEvent)
    (h : (tally events).mixers=[]) : MixerStep current current events :=
  ⟨by rw [foldMixer,h]; rfl,fun hm => absurd h hm⟩

section Mixer

variable {I : Type} [TraceIdSource I]

variable (conn : CoreConnection) (previous : List TraceId)
    (sr : CoreMixerStopReason)

theorem pushMixerIfChanged_step (out : Emitter I) (h : out.tally.mixers=[]) :
    MixerStep previous (alarms conn.watches) (pushMixerIfChanged conn previous sr out).events := by
  rw [←activeEpisodeIds_eq]
  unfold pushMixerIfChanged
  dsimp only
  split
  · next hne =>
    have ht := Emitter.tally_push out (.audioDisposition (.continuousMixer
      (!conn.activeEpisodeIds.isEmpty) conn.activeEpisodeIds
      (if (!conn.activeEpisodeIds.isEmpty)=true then none else some sr)))
    have hm := congrArg Tally.mixers ht
    simp only [Tally.note,h] at hm
    exact ⟨by rw [foldMixer]; unfold Emitter.tally at hm; rw [hm]; rfl,fun _ => hne⟩
  · next heq =>
    rw [not_not] at heq
    rw [heq]
    exact .still previous _ h

end Mixer

/-- Every session lies under its own section. -/
def Filed (watches : Watches) : Prop :=
  ∀(sectionKey : SectionKey) (session : CoreWatchSession),watches[sectionKey]?=some session →
    session.sectionKey=sectionKey

/-- A client shows the episodes of a connection, section by section. -/
structure Shown (watches : Watches) (latest : SectionKey → Option EpisodeFrame) : Prop where
  filed : Filed watches
  pictures : ∀sectionKey : SectionKey,Pictures sectionKey
    (watches[sectionKey]?.bind CoreWatchSession.episode) (latest sectionKey)

/-- The events take a client that shows one state of a connection to the next. -/
def Told (watches next : Watches) (events : List CoreEvent) : Prop :=
  ∀latest,Shown watches latest →
    Shown next (fun sectionKey => shownAfter sectionKey (latest sectionKey) events)

namespace Told

variable {I : Type} [TraceIdSource I] {ws middle next : Watches}
  {events more : List CoreEvent} {out after : Emitter I} {sk : SectionKey}

theorem still (ws : Watches) (events : List CoreEvent)
    (quiet : ∀sk shown,shownAfter sk shown events=shown) :
    Told ws ws events := by
  intro latest h
  simpa only [quiet] using h

/-- One session was put into the connection and its section announced. -/
theorem insert {ses : CoreWatchSession} (h : Told ws middle out.events)
    (announced : Filed middle → ses.sectionKey=sk ∧
      Announced sk (middle[sk]?.bind CoreWatchSession.episode) ses.episode out after) :
    Told ws (middle.insert sk ses) after.events := by
  intro latest hs
  have hm := h latest hs
  obtain ⟨placed,announced⟩ := announced hm.filed
  refine ⟨?_,?_⟩
  · intro key found hf
    rcases of_getElem?_insert hf with ⟨rfl,rfl⟩ | before
    · exact placed
    · exact hm.filed key found before
  · intro key
    rw [getElem?_insert_eq]
    split
    · next hk =>
      subst hk
      exact announced.own _ (hm.pictures sk)
    next hk =>
    have other := announced.others (hm.pictures sk).homed key (Ne.symm hk) (latest key)
    change Pictures key _ (after.shown key (latest key))
    rw [other]
    exact hm.pictures key

/-- One session was taken out after its episode had been announced as closed. -/
theorem erase (h : Told ws middle out.events)
    (announced : Announced sk (middle[sk]?.bind CoreWatchSession.episode) none out after) :
    Told ws (middle.erase sk) after.events := by
  intro latest hs
  have hm := h latest hs
  refine ⟨fun key found hf => hm.filed key found (of_getElem?_erase hf).2,?_⟩
  intro key
  rw [getElem?_erase_eq]
  split
  · next hk =>
    subst hk
    exact announced.own _ (hm.pictures sk)
  next hk =>
  have other := announced.others (hm.pictures sk).homed key (Ne.symm hk) (latest key)
  change Pictures key _ (after.shown key (latest key))
  rw [other]
  exact hm.pictures key

theorem congr (h : Told ws next out.events)
    (same : ∀sk shown,after.shown sk shown=out.shown sk shown) :
    Told ws next after.events := by
  intro latest hs
  have hn := h latest hs
  change Shown next (fun key => after.shown key (latest key))
  simp only [same]
  exact hn

end Told

/-- What the frame about the mixer adds to the events of a call. -/
structure Closes {I : Type} (watches next : Watches) (out final : Emitter I) : Prop where
  opened : final.tally.opened=out.tally.opened
  started : final.tally.started=out.tally.started
  mixer : MixerStep (alarms watches) (alarms next) final.events
  shown : ∀sectionKey shown,final.shown sectionKey shown=out.shown sectionKey shown
  cued : final.cued=out.cued

theorem pushMixerIfChanged_closes {I : Type} [TraceIdSource I] (conn next : CoreConnection)
    (sr : CoreMixerStopReason) (out : Emitter I) (h : out.tally.mixers=[]) :
    Closes conn.watches next.watches out
      (pushMixerIfChanged next conn.activeEpisodeIds sr out) := by
  have mixer := pushMixerIfChanged_step next conn.activeEpisodeIds sr out h
  rw [activeEpisodeIds_eq] at mixer ⊢
  unfold pushMixerIfChanged at mixer ⊢
  dsimp only at mixer ⊢
  split at mixer
  · constructor <;> simp_all [Tally.note,noteFrame,CoreEvent.cue]
  · constructor <;> simp_all

/-- A connection changed without any observation or START: every session keeps
its view, and the events neither open an episode nor create a session. -/
structure Control (watches next : Watches) (events : List CoreEvent) : Prop where
  views : ∀sectionKey : SectionKey,next[sectionKey]?.map CoreWatchSession.view=
    watches[sectionKey]?.map CoreWatchSession.view
  opened : (tally events).opened=[]
  started : (tally events).started=[]
  mixer : MixerStep (alarms watches) (alarms next) events
  told : Told watches next events

theorem Closes.control {I : Type} [TraceIdSource I] {ws next : Watches} {out final : Emitter I}
    (h : Closes ws next out final) (silent : out.tally=.empty)
    (views : ∀sk : SectionKey,next[sk]?.map CoreWatchSession.view=ws[sk]?.map CoreWatchSession.view)
    (told : Told ws next out.events) : Control ws next final.events := by
  refine ⟨views,h.opened.trans ?_,h.started.trans ?_,h.mixer,told.congr h.shown⟩ <;> rw [silent] <;> rfl

theorem Control.idle (ws : Watches) : Control ws ws [] :=
  ⟨fun _ => rfl,rfl,rfl,.still _ _ rfl,.still _ _ (fun _ _ => rfl)⟩

/-- The part of the manager that outlives a call; clock and id source only move on. -/
structure Store where
  connections : ExtTreeMap TraceId CoreConnection
  connectionsBySection : ReverseIndex SectionKey TraceId
  observationCursors : ExtTreeMap SectionKey SectionObservationWatermark
  observationCursorOrder : List SectionKey

namespace Store

def insert (store : Store) (connectionId : TraceId) (connection : CoreConnection) : Store :=
  { store with connections := store.connections.insert connectionId connection }

def erase (store : Store) (connectionId : TraceId) : Store :=
  { store with connections := store.connections.erase connectionId }

@[simp] theorem insert_erase (store : Store) (cid : TraceId)
    (conn : CoreConnection) :
    (store.erase cid).insert cid conn=
      store.insert cid conn := by
  simp [insert,erase]

theorem insert_present (store : Store) (cid : TraceId) (conn : CoreConnection)
    (h : store.connections[cid]?=some conn) :
    store.insert cid conn=store := by
  rw [insert,Library.insert_present _ _ _ h]

end Store

variable {C I : Type} [WatchClock C] [TraceIdSource I]

namespace CoreWatchManager

def store (manager : CoreWatchManager C I) : Store where
  connections := manager.connections
  connectionsBySection := manager.connectionsBySection
  observationCursors := manager.observationCursors
  observationCursorOrder := manager.observationCursorOrder

variable (m : CoreWatchManager C I) (cid : TraceId)

@[simp] theorem now_store : m.now.2.store=m.store := rfl

@[simp] theorem wallNow_store : m.wallNow.2.store=m.store := rfl

@[simp] theorem insertConnection_store (conn : CoreConnection) :
    (m.insertConnection cid conn).store=
      m.store.insert cid conn := rfl

@[simp] theorem putBack_store (conn : CoreConnection) (out : Emitter I) :
    (m.putBack cid conn out).store=
      m.store.insert cid conn := rfl

theorem takeConnection_cases : (m.store.connections[cid]?=none ∧
      m.takeConnection cid=.error .unknownConnection) ∨
    ∃conn taken,m.store.connections[cid]?=some conn ∧
      m.takeConnection cid=.ok (conn,taken) ∧
      taken.store=m.store.erase cid := by
  change (m.connections[cid]?=none ∧ _) ∨ _
  unfold takeConnection
  cases h : m.connections[cid]? with
  | none => exact .inl ⟨rfl,rfl⟩
  | some conn => exact .inr ⟨conn,_,h,rfl,rfl⟩

end CoreWatchManager

/-- How a command on one connection may answer: an error keeps the store, a
dispatch goes to the connection and reports a control change of its watches. -/
inductive Answered (store : Store) (connectionId : TraceId) :
    Except CoreManagerError CoreDispatch × CoreWatchManager C I → Prop
  | refused (error : CoreManagerError) (manager : CoreWatchManager C I)
      (same : manager.store=store) : Answered store connectionId (.error error,manager)
  | answered (dispatch : CoreDispatch) (manager : CoreWatchManager C I)
      (connection next : CoreConnection)
      (present : store.connections[connectionId]?=some connection)
      (addressed : dispatch.connectionId=connectionId)
      (stored : manager.store=store.insert connectionId next)
      (control : Control connection.watches next.watches dispatch.events) :
      Answered store connectionId (.ok dispatch,manager)

/-- What every command does to the session it located. -/
structure SessionControl (session : CoreWatchSession) (changed : SessionChange C I) : Prop where
  view : changed.session.view=session.view
  tally : changed.out.tally=.empty
  alarmId : changed.mixerStop=none → changed.session.alarmId=session.alarmId
  announced : ∀sectionKey ids,Announced sectionKey session.episode changed.session.episode
    (Emitter.mk ids []) changed.out

/-- A single changed session makes a control change of its connection. -/
theorem SessionControl.control {conn : CoreConnection} {sk : SectionKey}
    {ses : CoreWatchSession} {changed : SessionChange C I}
    (h : SessionControl ses changed) (present : conn.watches[sk]?=some ses) :
    Control conn.watches (conn.watches.insert sk changed.session)
      (match changed.mixerStop with
        | some sr => pushMixerIfChanged
            { conn with watches := conn.watches.insert sk changed.session }
            conn.activeEpisodeIds sr changed.out
        | none => changed.out).events := by
  have views (key : SectionKey) :
      (conn.watches.insert sk changed.session)[key]?.map CoreWatchSession.view=
        conn.watches[key]?.map CoreWatchSession.view := by
    rw [getElem?_insert_eq]
    split
    · next hk => rw [←hk,present]; simp [h.view]
    · rfl
  have told : Told conn.watches (conn.watches.insert sk changed.session)
      changed.out.events := by
    have base : Told conn.watches conn.watches (Emitter.mk changed.out.ids []).events :=
      .still _ _ (fun _ _ => rfl)
    refine base.insert ?_
    intro filed
    rw [present]
    exact ⟨(congrArg SessionView.sectionKey h.view).trans (filed sk ses present),
      h.announced sk _⟩
  cases hm : changed.mixerStop with
  | some sr =>
    exact (pushMixerIfChanged_closes conn { conn with
      watches := conn.watches.insert sk changed.session } sr changed.out
      (by rw [h.tally]; rfl)).control h.tally views told
  | none =>
    have ht : Watch.tally changed.out.events=.empty := h.tally
    have same : alarms (conn.watches.insert sk changed.session)=
        alarms conn.watches := by
      apply alarms_congr
      intro key
      rw [getElem?_insert_eq]
      split
      · next hk => rw [←hk,present]; simp [h.alarmId hm]
      · rfl
    refine ⟨views,by rw [ht]; rfl,by rw [ht]; rfl,?_,told⟩
    rw [same]
    exact .still _ _ (by rw [ht]; rfl)

theorem commandSession_answered (m : CoreWatchManager C I) (store : Store)
    (cid : TraceId) (conn : CoreConnection) (select : CoreWatchSession → Bool)
    (missing : Except CoreManagerError CoreDispatch)
    (change : C → I → SectionKey → CoreWatchSession → Except CoreManagerError (SessionChange C I))
    (present : store.connections[cid]?=some conn)
    (taken : m.store=store.erase cid)
    (hmissing : ∀dispatch,missing=.ok dispatch →
      dispatch.connectionId=cid ∧ dispatch.events=[])
    (hchange : ∀clock ids sk ses changed,
      change clock ids sk ses=.ok changed → SessionControl ses changed) :
    Answered store cid
      (m.commandSession cid conn select missing change) := by
  have back : (m.insertConnection cid conn).store=store := by
    simp [taken,store.insert_present cid conn present]
  unfold CoreWatchManager.commandSession
  split
  · cases missing with
    | error error => exact .refused error _ back
    | ok dispatch =>
      obtain ⟨addressed,events⟩ := hmissing dispatch rfl
      refine .answered dispatch _ conn conn present addressed ?_ ?_
      · rw [back,store.insert_present cid conn present]
      · rw [events]
        exact .idle conn.watches
  · next sk ses found =>
    have located := (find?_toList_some _ _ _ _ found).1
    cases hc : change m.clock m.ids sk ses with
    | error error => exact .refused error _ back
    | ok changed =>
      refine .answered _ _ conn { conn with
        watches := conn.watches.insert sk changed.session } present rfl ?_
        ((hchange _ _ _ _ _ hc).control located)
      change m.store.insert _ _=_
      rw [taken,Store.insert_erase]

variable (now : WatchInstant) (ses : CoreWatchSession) (emittedAt : OffsetDateTime)

theorem updatePolicySession_control (policy : CorePolicy) (ses : CoreWatchSession) (ids : I)
    (clock : C) (emittedAt : OffsetDateTime) (sr : CoreMixerStopReason) :
    SessionControl ses ⟨clock,emittedAt,(updatePolicySession now policy ses ids).1,
      (updatePolicySession now policy ses ids).2,some sr⟩ := by
  refine ⟨?_,?_,by simp,?_⟩
  · cases he : ses.episode <;>
      simp [updatePolicySession,CoreWatchSession.view,CoreWatchSession.takePendingCues,
        CoreEpisode.view,he,apply_ite]
  · have cancelled (wid : TraceId) (sk : SectionKey) (cues : List PendingCue) :
        (Emitter.mk ids (pushCancelledCues [] wid sk cues .notificationModeChanged)).tally=.empty :=
      Emitter.tally_pushCancelledCues ⟨ids,[]⟩ wid sk cues _
    simp [updatePolicySession,cancelled]
  · intro key other
    have cancelled (wid : TraceId) (sk : SectionKey) (cues : List PendingCue)
        (key : SectionKey) (shown : Option EpisodeFrame) :
        (Emitter.mk ids (pushCancelledCues [] wid sk cues
          .notificationModeChanged)).shown key shown=shown :=
      (Emitter.mk ids []).shown_appendMap _ cues key shown (fun _ _ => rfl)
    have kept : (if ses.policy.mode=.oneShot && policy.mode=.continuous then
        ses.takePendingCues else ([],ses)).2.episode=ses.episode := by
      split <;> rfl
    unfold updatePolicySession
    dsimp only
    rw [kept]
    refine .refresh _ ?_ ?_
    · intro ep
      split
      · split <;> rfl
      · rfl
    · intro key shown
      cases ses.episode <;> simp [cancelled,Emitter.pushEpisode]

theorem acknowledgeSession_control (emittedAt : OffsetDateTime) (ses : CoreWatchSession)
    (ids : I) (clock : C) (sr : CoreMixerStopReason) :
    SessionControl ses ⟨clock,emittedAt,(acknowledgeSession emittedAt ses ids).1,
      (acknowledgeSession emittedAt ses ids).2,some sr⟩ := by
  unfold acknowledgeSession
  cases he : ses.episode with
  | none => exact ⟨rfl,rfl,by simp,fun _ _ => .silent rfl (fun _ _ => rfl)⟩
  | some ep =>
    by_cases hs : ep.state=.unacknowledged
    · refine ⟨?_,by simp [hs,Tally.note],by simp,?_⟩
      · simp [CoreWatchSession.view,CoreEpisode.view,CoreEpisode.settle,he,hs]
      · intro key other
        simp only [hs]
        exact .update (ep.settle .acknowledged emittedAt) (fun homed => homed ep he)
          (fun _ _ => by simp [noteFrame])
    · refine ⟨by simp [hs],by simp [hs],by simp,?_⟩
      intro key other
      simp only [hs]
      exact .silent rfl (fun _ _ => rfl)

theorem resumeSession_control (ses : CoreWatchSession) (ep : CoreEpisode) (ids : I)
    (clock : C) (sr : CoreMixerStopReason) (he : ses.episode=some ep)
    (hs : ep.state=.timedOut) :
    SessionControl ses ⟨clock,emittedAt,(resumeSession now emittedAt ses ep ids).1,
      (resumeSession now emittedAt ses ep ids).2,some sr⟩ := by
  refine ⟨?_,by simp [resumeSession,Tally.note],by simp,?_⟩
  · simp [resumeSession,CoreWatchSession.view,CoreEpisode.view,he,hs]
  · intro key other
    exact .update _ (fun homed => homed ep he) (fun _ _ => by simp [resumeSession,noteFrame])

/-- Rewriting the audible counters keeps view and alarm. -/
theorem audibleCount_frame (active : Option PendingCue) (audibleCount : Nat)
    (next : CoreWatchSession) (h : next={ ses with
      activeCue := active
      audibleCount := audibleCount
      episode := ses.episode.map (fun ep => { ep with
        audibleCount := audibleCount }) }) :
    next.view=ses.view ∧ next.alarmId=ses.alarmId := by
  subst h
  cases he : ses.episode <;>
    simp [CoreWatchSession.view,CoreWatchSession.alarmId_eq,CoreEpisode.view,he]

theorem resetSession_control (ids : I) (clock : C) (emittedAt : OffsetDateTime) :
    SessionControl ses ⟨clock,emittedAt,(resetSession ses ids).1,
      (resetSession ses ids).2,none⟩ := by
  have frame := audibleCount_frame ses ses.activeCue 0 _ rfl
  have cues := driveOneShot_cues (I := I) { ses with
    audibleCount := 0
    episode := ses.episode.map (fun ep => { ep with audibleCount := 0 }) }
  refine ⟨(cues _).view.trans frame.1,by simp [resetSession],
    fun _ => (cues _).alarmId.trans frame.2,?_⟩
  intro key other
  refine Announced.trans (.refresh (fun ep => { ep with audibleCount := 0 })
    (fun _ => rfl) ?_) (driveOneShot_announced { ses with
      audibleCount := 0
      episode := ses.episode.map (fun ep => { ep with audibleCount := 0 }) } _ key)
  intro key shown
  cases ses.episode <;> simp [Emitter.pushEpisode]

theorem reportCueSession_control (oc : CoreCueOutcome) (cue : PendingCue)
    (sk : SectionKey) (ses : CoreWatchSession) (ids : I) (clock : C)
    (emittedAt : OffsetDateTime) :
    SessionControl ses ⟨clock,emittedAt,(reportCueSession oc cue sk ses ids).1,
      (reportCueSession oc cue sk ses ids).2,none⟩ := by
  have kind : cueActionKind oc≠.episodeOpened := by cases oc <;> decide
  have frame : ∃counted,(∃out : Emitter I,reportCueSession oc cue sk ses ids=
      driveOneShot counted out ∧ out.tally=.empty ∧
      ∀key other,Announced key ses.episode counted.episode (Emitter.mk other []) out) ∧
      counted.view=ses.view ∧ counted.alarmId=ses.alarmId := by
    by_cases ho : oc=.started
    · refine ⟨_,⟨_,rfl,?_,?_⟩,?_⟩
      · simp [ho,Tally.note,cueActionKind]
      · intro key other
        simp only [ho]
        refine .refresh (fun ep => { ep with
          audibleCount := saturatingAdd ses.audibleCount 1 }) (fun _ => rfl) ?_
        intro key shown
        cases ses.episode <;> simp [Emitter.pushEpisode,noteFrame]
      · rw [if_pos ho]
        exact audibleCount_frame ses none (saturatingAdd ses.audibleCount 1) _ rfl
    · refine ⟨_,⟨_,rfl,?_,?_⟩,?_⟩
      · simp [ho,kind,Tally.note]
      · intro key other
        simp only [ho]
        exact .silent rfl (fun _ _ => by simp [noteFrame])
      · rw [if_neg ho]
        exact ⟨rfl,rfl⟩
  obtain ⟨counted,⟨out,heq,ht,hn⟩,hv,ha⟩ := frame
  rw [heq]
  have cues := driveOneShot_cues counted out
  exact ⟨cues.view.trans hv,by simpa using ht,fun _ => cues.alarmId.trans ha,
    fun key other => (hn key other).trans (driveOneShot_announced counted out key)⟩

theorem dismissSession_control (ep : CoreEpisode) (ids : I) (clock : C)
    (emittedAt : OffsetDateTime) (he : ses.episode=some ep) :
    SessionControl ses ⟨clock,emittedAt,(dismissSession ses ep ids).1,
      (dismissSession ses ep ids).2,none⟩ := by
  refine ⟨?_,by simp [dismissSession,Tally.note],?_,?_⟩
  · simp [dismissSession,CoreWatchSession.view,CoreEpisode.view,he]
  · simp [dismissSession,CoreWatchSession.alarmId_eq,he]
  -- The flag is part of the alert, not of the ep frame.
  · intro key other
    refine .silent ?_ (fun _ _ => by simp [dismissSession,noteFrame])
    rw [he]
    rfl

theorem foldl_pushAction {A : Type} (read : Emitter I → A) (kind : CoreActionKind)
    (h : ∀out sk wid eid,read (out.pushAction kind sk wid eid)=read out)
    (settled : List (CoreWatchSession × CoreEpisode)) (out : Emitter I) :
    read (settled.foldl (fun out en => out.pushAction kind (some en.1.sectionKey)
      (some en.1.id) (some en.2.id)) out)=read out := by
  induction settled generalizing out with
  | nil => rfl
  | cons en settled ih => rw [List.foldl_cons,ih,h]

/-- A sweep rewrites current episodes without moving or ending them. -/
def Settles (settle : CoreWatchSession → Option CoreEpisode) : Prop :=
  ∀session episode,settle session=some episode → ∃current,session.episode=some current ∧
    episode.view=current.view ∧ episode.sectionKey=current.sectionKey

variable (settle : CoreWatchSession → Option CoreEpisode)

/-- The first loop of a sweep tells the clients of each settled section once. -/
theorem settled_shown (ws : Watches) (h : Settles settle)
    (homed : ∀key : SectionKey,Homed key (ws[key]?.bind CoreWatchSession.episode))
    (key : SectionKey) (shown : Option EpisodeFrame) :
    shownAfter key shown (((orderedValues ws).filterMap (fun ses =>
      (settle ses).map (fun ep => (ses,ep)))).map (fun en => .episodeUpdated en.2))=
      match ws[key]?.bind settle with
      | some ep => some ep.frame
      | none => shown := by
  have placed (other : SectionKey) (ses : CoreWatchSession) (ep : CoreEpisode)
      (hs : ws[other]?=some ses) (he : settle ses=some ep) :
      ep.sectionKey=other := by
    obtain ⟨current,hc,_,hk⟩ := h ses ep he
    exact hk.trans (homed other current (by rw [hs]; exact hc))
  have skip (entries : List (SectionKey × CoreWatchSession)) (shown : Option EpisodeFrame)
      (hl : ∀en∈entries,ws[en.1]?=some en.2 ∧ en.1≠key) :
      shownAfter key shown (((entries.map Prod.snd).filterMap (fun ses =>
        (settle ses).map (fun ep => (ses,ep)))).map (fun en => .episodeUpdated en.2))=shown := by
    apply shownAfter_quiet
    intro event hm
    simp only [List.mem_map,List.mem_filterMap,Option.map_eq_some_iff] at hm
    obtain ⟨_,⟨_,⟨⟨other,ses⟩,hl',rfl⟩,ep,he,rfl⟩,rfl⟩ := hm
    obtain ⟨hs,hne⟩ := hl _ hl'
    exact if_neg (by rw [placed other ses ep hs he]; exact hne)
  unfold orderedValues
  cases hw : ws[key]? with
  | none =>
    apply skip
    intro en hm
    have hs := ExtTreeMap.mem_toList_iff_getElem?_eq_some.mp hm
    refine ⟨hs,?_⟩
    rintro rfl
    rw [hw] at hs
    cases hs
  | some ses =>
    obtain ⟨front,rest,hl,around⟩ := toList_split ws key ses hw
    have before := skip front shown (fun en hm => around en (List.mem_append_left _ hm))
    have after (shown : Option EpisodeFrame) := skip rest shown
      (fun en hm => around en (List.mem_append_right _ hm))
    rw [hl,List.map_append,List.filterMap_append,List.map_append,shownAfter_append,before,
      List.map_cons,List.filterMap_cons]
    cases he : settle ses with
    | none => simpa [he] using after shown
    | some ep =>
      simp only [Option.bind_some,he]
      change shownAfter key (noteFrame key shown (.episodeUpdated ep)) _=_
      rw [after]
      exact if_pos (placed key ses ep hw he)

theorem sweepSessions_told (kind : CoreActionKind) (conn : CoreConnection) (ids : I)
    (h : Settles settle) :
    Told conn.watches (sweepSessions settle kind conn (Emitter.mk ids [])).1.watches
      (sweepSessions settle kind conn (Emitter.mk ids [])).2.events := by
  intro latest hs
  refine ⟨?_,?_⟩
  · intro key ses hm
    change (conn.watches.map _)[key]?=some ses at hm
    rw [ExtTreeMap.getElem?_map] at hm
    obtain ⟨old,ho,rfl⟩ := Option.map_eq_some_iff.mp hm
    have placed := hs.filed key old ho
    split <;> exact placed
  · intro key
    have actions := foldl_pushAction (fun out : Emitter I => out.shown key (latest key)) kind
      (fun out _ _ _ => out.shown_pushAction _ _ _ _ _ _)
    change Pictures key ((conn.watches.map _)[key]?.bind _) (Emitter.shown _ key _)
    unfold sweepSessions
    rw [actions,ExtTreeMap.getElem?_map]
    change Pictures key _ (shownAfter key (latest key) (List.map _ _))
    rw [settled_shown settle conn.watches h (fun other => (hs.pictures other).homed)]
    have old := hs.pictures key
    cases hw : conn.watches[key]? with
    | none => simpa [hw] using old
    | some ses =>
      rw [hw] at old
      cases he : settle ses with
      | none => simpa [he] using old
      | some ep =>
        obtain ⟨current,hc,_,hk⟩ := h ses ep he
        simp only [Option.map_some,Option.bind_some,he]
        exact ⟨hk.trans (old.homed current hc),rfl⟩

/-- A sweep that keeps the view of each episode it settles is a control change. -/
theorem sweepSessions_control (kind : CoreActionKind) (conn : CoreConnection) (ids : I)
    (sr : CoreMixerStopReason) (hkind : kind≠.episodeOpened) (h : Settles settle) :
    Control conn.watches (sweepSessions settle kind conn (Emitter.mk ids [])).1.watches
      (pushMixerIfChanged (sweepSessions settle kind conn (Emitter.mk ids [])).1
        conn.activeEpisodeIds sr
        (sweepSessions settle kind conn (Emitter.mk ids [])).2).events := by
  have silent : (sweepSessions settle kind conn (Emitter.mk ids [])).2.tally=.empty :=
    (foldl_pushAction Emitter.tally kind (by simp [hkind]) _ _).trans
      (tally_append_map [] _ _ (fun _ _ => rfl))
  refine (pushMixerIfChanged_closes conn _ sr _ (by rw [silent]; rfl)).control silent ?_
    (sweepSessions_told settle kind conn ids h)
  intro key
  change (conn.watches.map _)[key]?.map CoreWatchSession.view=_
  rw [ExtTreeMap.getElem?_map,Option.map_map]
  apply Option.map_congr
  intro ses _
  cases hs : settle ses with
  | none => simp [hs]
  | some ep =>
    obtain ⟨current,hc,hv,_⟩ := h ses ep hs
    simp [hs,CoreWatchSession.view,hc,hv]

theorem settle_view (ep : CoreEpisode) (state : CoreEpisodeState)
    (emittedAt : OffsetDateTime) (h : ep.state=.unacknowledged) (hs : state≠.closed) :
    (ep.settle state emittedAt).view=ep.view := by
  simp [CoreEpisode.settle,CoreEpisode.view,h,hs]

theorem acknowledgeAllSettle_settles (emittedAt : OffsetDateTime) :
    Settles (acknowledgeAllSettle emittedAt) := by
  intro ses ep h
  unfold acknowledgeAllSettle at h
  split at h
  · obtain ⟨current,hc,he⟩ := Option.bind_eq_some_iff.mp h
    split at he
    · next hu =>
      cases he
      exact ⟨current,hc,settle_view current _ emittedAt hu (by decide),rfl⟩
    · cases he
  · cases h

theorem timeoutSettle_settles : Settles (timeoutSettle now emittedAt) := by
  intro ses ep h
  unfold timeoutSettle at h
  split at h
  · obtain ⟨current,hc,he⟩ := Option.bind_eq_some_iff.mp h
    split at he
    · cases he
    · next hu =>
      cases he
      exact ⟨current,hc,settle_view current _ emittedAt (by simp_all) (by decide),rfl⟩
  · cases h

theorem tickConnection_control (conn : CoreConnection) (ids : I) : Control conn.watches
      (CoreWatchManager.tickConnection now emittedAt conn ids).1.watches
      (CoreWatchManager.tickConnection now emittedAt conn ids).2.events :=
  sweepSessions_control _ _ conn ids _ (by decide) (timeoutSettle_settles now emittedAt)

section Commands

variable (m : CoreWatchManager C I) (cid : TraceId)

/-- Every command starts by taking its connection; the rest works on a
manager without it. -/
theorem answered_of_taken (command : CoreConnection → CoreWatchManager C I →
      Except CoreManagerError CoreDispatch × CoreWatchManager C I)
    (h : ∀conn taken,m.store.connections[cid]?=some conn → taken.store=m.store.erase cid →
      Answered m.store cid (command conn taken)) :
    Answered m.store cid (match m.takeConnection cid with
      | .error error => (.error error,m)
      | .ok (conn,taken) => command conn taken) := by
  rcases m.takeConnection_cases cid with ⟨_,ht⟩ | ⟨conn,taken,hc,ht,hs⟩
  · rw [ht]
    exact .refused _ m rfl
  · rw [ht]
    exact h conn taken hc hs

theorem updatePolicy_answered (wid : TraceId) (policy : CorePolicy) :
    Answered m.store cid (m.updatePolicy cid wid policy) := by
  apply answered_of_taken
  intro conn taken hc hs
  apply commandSession_answered taken.now.2.wallNow.2 _ _ _ _ _ _ hc hs (by simp)
  intro clock ids sk ses changed h
  cases h
  exact updatePolicySession_control _ _ _ _ _ _ _

theorem acknowledgeEpisode_answered (episodeId : TraceId) :
    Answered m.store cid (m.acknowledgeEpisode cid episodeId) := by
  apply answered_of_taken
  intro conn taken hc hs
  apply commandSession_answered _ _ _ _ _ _ _ hc hs (by simp)
  intro clock ids sk ses changed h
  split at h
  · cases h
  · cases h
    exact acknowledgeSession_control _ _ _ _ _

theorem acknowledgeAll_answered : Answered m.store cid (m.acknowledgeAll cid) := by
  apply answered_of_taken
  intro conn taken hc hs
  refine .answered _ _ conn _ hc rfl ?_ (sweepSessions_control _ _ conn taken.ids _
    (by decide) (acknowledgeAllSettle_settles taken.wallNow.1))
  exact (congrArg (Store.insert · cid _) hs).trans (Store.insert_erase _ _ _)

theorem resumeEpisode_answered (episodeId : TraceId) :
    Answered m.store cid (m.resumeEpisode cid episodeId) := by
  apply answered_of_taken m.now.2
  intro conn taken hc hs
  apply commandSession_answered _ _ _ _ _ _ _ hc hs (by simp)
  intro clock ids sk ses changed h
  cases he : ses.episode with
  | none => simp [he] at h
  | some ep =>
    simp only [he] at h
    split at h
    · cases h
    · next hr =>
      cases h
      exact resumeSession_control _ _ _ _ _ _ _ he (by simp_all)

theorem resetAudibleCount_answered (wid : TraceId) :
    Answered m.store cid (m.resetAudibleCount cid wid) := by
  apply answered_of_taken
  intro conn taken hc hs
  apply commandSession_answered _ _ _ _ _ _ _ hc hs (by simp)
  intro clock ids sk ses changed h
  cases h
  exact resetSession_control _ _ _ _

theorem reportCueOutcome_answered (cueId : TraceId) (oc : CoreCueOutcome) :
    Answered m.store cid (m.reportCueOutcome cid cueId oc) := by
  apply answered_of_taken
  intro conn taken hc hs
  apply commandSession_answered taken.wallNow.2 _ _ _ _ _ _ hc hs
  · intro dp h
    cases h
    exact ⟨rfl,rfl⟩
  intro clock ids sk ses changed h
  cases ha : ses.activeCue with
  | none =>
    simp only [ha] at h
    cases h
    exact ⟨rfl,rfl,fun _ => rfl,fun _ _ => .silent rfl (fun _ _ => rfl)⟩
  | some cue =>
    simp only [ha] at h
    cases h
    exact reportCueSession_control _ _ _ _ _ _ _

theorem dismissAlert_answered (alertId : TraceId) :
    Answered m.store cid (m.dismissAlert cid alertId) := by
  apply answered_of_taken
  intro conn taken hc hs
  apply commandSession_answered _ _ _ _ _ _ _ hc hs (by simp)
  intro clock ids sk ses changed h
  cases he : ses.episode with
  | none => simp [he] at h
  | some ep =>
    simp only [he] at h
    cases h
    exact dismissSession_control _ _ _ _ _ he

end Commands

end CoursePlanner.Watch
