import CoursePlanner.Watch.View

set_option linter.unusedSectionVars false

namespace CoursePlanner.Watch

open Std Library Contracts

/-- What project_episode puts on the wire of an episode. -/
structure EpisodeFrame where
  episodeId : TraceId
  activeWatchId : TraceId
  sectionKey : SectionKey
  state : CoreEpisodeState
  policy : CorePolicy
  audibleCount : Nat
  firstObservedAt : OffsetDateTime
  lastObservedAt : OffsetDateTime
  observationCount : Nat
  latestObservationId : TraceId
  stateChangedAt : OffsetDateTime
  closedAt : Option OffsetDateTime
  deriving DecidableEq

def CoreEpisode.frame (episode : CoreEpisode) : EpisodeFrame where
  episodeId := episode.id
  activeWatchId := episode.watchId
  sectionKey := episode.sectionKey
  state := episode.state
  policy := episode.policy
  audibleCount := episode.audibleCount
  firstObservedAt := episode.firstObservedAt
  lastObservedAt := episode.lastObservedAt
  observationCount := episode.observationCount
  latestObservationId := episode.lastObservationId
  stateChangedAt := episode.stateChangedAt
  closedAt := episode.closedAt

/-- The episode that a client shows for a section, after one more event. -/
def noteFrame (sectionKey : SectionKey) (shown : Option EpisodeFrame) :
    CoreEvent → Option EpisodeFrame
  | .episodeUpdated episode =>
    if episode.sectionKey=sectionKey then some episode.frame else shown
  | _ => shown

def shownAfter (sectionKey : SectionKey) (shown : Option EpisodeFrame)
    (events : List CoreEvent) : Option EpisodeFrame :=
  events.foldl (noteFrame sectionKey) shown

theorem shownAfter_append (sk : SectionKey) (shown : Option EpisodeFrame)
    (evts more : List CoreEvent) : shownAfter sk shown (evts++more)=
      shownAfter sk (shownAfter sk shown evts) more :=
  List.foldl_append

theorem shownAfter_quiet (sk : SectionKey) (shown : Option EpisodeFrame) (evts : List CoreEvent)
    (h : ∀event∈evts,noteFrame sk shown event=shown) :
    shownAfter sk shown evts=shown := by
  induction evts with
  | nil => rfl
  | cons event evts ih =>
    change shownAfter sk (noteFrame sk shown event) evts=shown
    rw [h event List.mem_cons_self]
    exact ih (fun other hm => h other (List.mem_cons_of_mem _ hm))

/-- The client shows the current episode of a section; where there is none, it
shows at most one that has been closed. -/
def Pictures (sectionKey : SectionKey) (current : Option CoreEpisode)
    (shown : Option EpisodeFrame) : Prop :=
  match current with
  | some episode => episode.sectionKey=sectionKey ∧ shown=some episode.frame
  | none => ∀frame,shown=some frame → frame.state=.closed

def Homed (sectionKey : SectionKey) (current : Option CoreEpisode) : Prop :=
  ∀episode,current=some episode → episode.sectionKey=sectionKey

theorem Pictures.homed {sk : SectionKey} {current : Option CoreEpisode}
    {shown : Option EpisodeFrame} (h : Pictures sk current shown) :
    Homed sk current := by
  rintro episode rfl
  exact h.1

theorem Pictures.congr {sk : SectionKey} {current next : Option CoreEpisode}
    {shown : Option EpisodeFrame} (h : Pictures sk current shown)
    (same : next.map CoreEpisode.frame=current.map CoreEpisode.frame) :
    Pictures sk next shown := by
  cases next with
  | none =>
    rw [Option.map_none,eq_comm,Option.map_eq_none_iff] at same
    exact same▸h
  | some episode =>
    obtain ⟨old,rfl,hf⟩ := Option.map_eq_some_iff.mp same.symm
    exact ⟨(congrArg EpisodeFrame.sectionKey hf).symm.trans h.1,hf▸h.2⟩

namespace Emitter

variable {I : Type} [TraceIdSource I]

def shown (out : Emitter I) (sectionKey : SectionKey) (before : Option EpisodeFrame) :
    Option EpisodeFrame :=
  shownAfter sectionKey before out.events

@[simp] theorem shown_new (ids : I) (sectionKey : SectionKey) (bef : Option EpisodeFrame) :
    (Emitter.mk ids []).shown sectionKey bef=bef := rfl

@[simp] theorem shown_nextTraceId (out : Emitter I) (sectionKey : SectionKey)
    (bef : Option EpisodeFrame) :
    out.nextTraceId.2.shown sectionKey bef=out.shown sectionKey bef := rfl

@[simp] theorem shown_push (out : Emitter I) (event : CoreEvent) (sk : SectionKey)
    (bef : Option EpisodeFrame) : (out.push event).shown sk bef=
      noteFrame sk (out.shown sk bef) event := by
  simp [shown,shownAfter,push]

@[simp] theorem shown_pushEpisode (out : Emitter I) (episode : CoreEpisode)
    (sk : SectionKey) (bef : Option EpisodeFrame) :
    (out.pushEpisode (some episode)).shown sk bef=
      if episode.sectionKey=sk then some episode.frame
      else out.shown sk bef :=
  shown_push _ _ _ _

@[simp] theorem shown_pushAction (out : Emitter I) (kind : CoreActionKind)
    (recorded : Option SectionKey) (watchId episodeId : Option TraceId)
    (sk : SectionKey) (bef : Option EpisodeFrame) :
    (out.pushAction kind recorded watchId episodeId).shown sk bef= out.shown sk bef :=
  shown_push _ _ _ _

theorem shown_appendMap {A : Type} (out : Emitter I) (f : A → CoreEvent) (l : List A)
    (sk : SectionKey) (bef : Option EpisodeFrame)
    (h : ∀shown x,noteFrame sk shown (f x)=shown) :
    Emitter.shown { out with events := out.events++l.map f } sk bef= out.shown sk bef := by
  unfold shown
  rw [shownAfter_append]
  apply shownAfter_quiet
  intro event hm
  obtain ⟨x,_,rfl⟩ := List.mem_map.mp hm
  exact h _ x

end Emitter

variable {I : Type} [TraceIdSource I]

/-- What the events pushed between two emitters tell the clients about the
episode of a section, and about no other section. -/
structure Announced (sectionKey : SectionKey) (before after : Option CoreEpisode)
    (out next : Emitter I) : Prop where
  homed : Homed sectionKey before → Homed sectionKey after
  own : ∀shown,Pictures sectionKey before (out.shown sectionKey shown) →
    Pictures sectionKey after (next.shown sectionKey shown)
  others : Homed sectionKey before → ∀other,other≠sectionKey →
    ∀shown,next.shown other shown=out.shown other shown

namespace Announced

variable {sk : SectionKey} {bef middle after : Option CoreEpisode}
  {out between next : Emitter I}

/-- No frame is needed when nothing that a frame shows has changed. -/
theorem silent (same : after.map CoreEpisode.frame=bef.map CoreEpisode.frame)
    (quiet : ∀key shown,next.shown key shown=out.shown key shown) :
    Announced sk bef after out next := by
  refine ⟨?_,?_,fun _ key _ shown => quiet key shown⟩
  · rintro homed episode rfl
    obtain ⟨old,rfl,hf⟩ := Option.map_eq_some_iff.mp same.symm
    exact (congrArg EpisodeFrame.sectionKey hf).symm.trans (homed old rfl)
  · intro shown h
    rw [quiet]
    exact h.congr same

theorem update (episode : CoreEpisode) (homed : Homed sk bef → episode.sectionKey=sk)
    (frame : ∀key shown,next.shown key shown=
      if episode.sectionKey=key then some episode.frame else out.shown key shown) :
    Announced sk bef (some episode) out next := by
  refine ⟨?_,?_,?_⟩
  · rintro hb _ ⟨⟩
    exact homed hb
  · intro shown h
    have hk := homed h.homed
    exact ⟨hk,by rw [frame,if_pos hk]⟩
  · intro hb key hne shown
    rw [frame,if_neg (by rw [homed hb]; exact Ne.symm hne)]

theorem refresh (f : CoreEpisode → CoreEpisode)
    (kept : ∀episode,(f episode).sectionKey=episode.sectionKey)
    (frame : ∀key shown,next.shown key shown=(out.pushEpisode (bef.map f)).shown key shown) :
    Announced sk bef (bef.map f) out next := by
  cases bef with
  | none => exact .silent rfl frame
  | some episode =>
    refine .update (f episode) (fun homed => (kept episode).trans (homed episode rfl)) ?_
    intro key shown
    rw [frame]
    exact out.shown_pushEpisode (f episode) key shown

theorem trans (h : Announced sk bef middle out between)
    (g : Announced sk middle after between next) :
    Announced sk bef after out next :=
  ⟨fun hb => g.homed (h.homed hb),fun shown hp => g.own shown (h.own shown hp),
    fun hb key hne shown => (g.others (h.homed hb) key hne shown).trans (h.others hb key hne shown)⟩

/-- A closed episode may stay on the screen after its session has gone. -/
theorem closed (h : Announced sk bef after out next)
    (ended : ∀episode,after=some episode → episode.state=.closed) :
    Announced sk bef none out next := by
  refine ⟨?_,?_,h.others⟩
  · rintro _ _ ⟨⟩
  intro shown hp frame hf
  have ha := h.own shown hp
  cases after with
  | none => exact ha frame hf
  | some episode =>
    cases ha.2.symm.trans hf
    exact ended episode rfl

end Announced

section Session

variable (ses : CoreWatchSession) (out : Emitter I)

theorem queueOneShot_shown (oid : TraceId) (sk : SectionKey) (shown : Option EpisodeFrame) :
    (queueOneShot ses oid out).2.shown sk shown= out.shown sk shown := by
  unfold queueOneShot
  dsimp only
  split
  · simp [noteFrame]
  · split
    · simp
    · split <;> simp [requestCue,noteFrame]

theorem CuesOnly.episode {ses next : CoreWatchSession} (h : CuesOnly ses next) :
    next.episode=ses.episode := by
  obtain ⟨active,queued,rfl⟩ := h
  rfl

theorem ite_queueOneShot_announced (p : Prop) [Decidable p] (oid : TraceId) (sk : SectionKey) :
    Announced sk ses.episode (if p then queueOneShot ses oid out else (ses,out)).1.episode out
      (if p then queueOneShot ses oid out else (ses,out)).2 := by
  refine .silent (by rw [(ite_queueOneShot_cues p ses oid out).episode]) ?_
  intro key shown
  split
  · exact queueOneShot_shown ses out oid key shown
  · rfl

theorem driveOneShot_announced (sk : SectionKey) :
    Announced sk ses.episode (driveOneShot ses out).1.episode out (driveOneShot ses out).2 := by
  refine .silent (by rw [(driveOneShot_cues ses out).episode]) ?_
  intro key shown
  unfold driveOneShot
  dsimp only
  split
  · rfl
  split
  · exact out.shown_appendMap _ _ key shown (fun _ _ => rfl)
  · split
    · rfl
    · simp [requestCue,noteFrame]

theorem openEpisode_announced (oid : TraceId) (observedAt : OffsetDateTime)
    (now : WatchInstant) (bef : Option CoreEpisode) :
    Announced ses.sectionKey bef (openEpisode ses oid observedAt now out).1.episode out
      (openEpisode ses oid observedAt now out).2 := by
  refine .update _ (fun _ => rfl) ?_
  intro key shown
  simp only [openEpisode,Emitter.shown_push,Emitter.shown_pushAction]
  rfl

section

variable (reason : CoreEpisodeEndReason) (closedAt : OffsetDateTime)

include reason closedAt

theorem endEpisode_announced (sk : SectionKey) :
    Announced sk ses.episode (endEpisode ses reason closedAt out).1.episode out
      (endEpisode ses reason closedAt out).2 := by
  unfold endEpisode
  split
  · exact .silent rfl (fun _ _ => rfl)
  next episode he =>
  split
  · exact .silent rfl (fun _ _ => rfl)
  · refine .update (closeEpisode episode reason closedAt) (fun homed => homed episode he) ?_
    intro key shown
    simp [noteFrame]

theorem endSession_announced (cr : Option CoreCueCancellationReason) (sk : SectionKey) :
    Announced sk ses.episode (endSession ses reason closedAt cr out).1.episode out
      (endSession ses reason closedAt cr out).2 := by
  cases cr with
  | none => exact endEpisode_announced ses out reason closedAt sk
  | some cr =>
    have cancelled : Announced sk ses.episode ses.takePendingCues.2.episode out { out with
          events := pushCancelledCues out.events ses.id ses.sectionKey ses.takePendingCues.1 cr } :=
      .silent rfl (fun key shown => out.shown_appendMap _ _ key shown (fun _ _ => rfl))
    exact cancelled.trans (endEpisode_announced _ _ reason closedAt sk)

theorem endSession_closed (cr : Option CoreCueCancellationReason) (episode : CoreEpisode)
    (h : (endSession ses reason closedAt cr out).1.episode=some episode) :
    episode.state=.closed := by
  have ended (ses : CoreWatchSession) (out : Emitter I)
      (he : (endEpisode ses reason closedAt out).1.episode=some episode) :
      episode.state=.closed := by
    have hv := congrArg SessionView.episode (endEpisode_view ses reason closedAt out)
    cases hs : ses.episode with
    | none => simp [CoreWatchSession.view,SessionView.endRun,he,hs] at hv
    | some old =>
      simp only [CoreWatchSession.view,SessionView.endRun,he,hs,Option.map_some,
        Option.some.injEq] at hv
      have hc := congrArg EpisodeView.closed hv
      simpa [CoreEpisode.view] using hc
  cases cr with
  | none => exact ended ses out h
  | some cr => exact ended _ _ h

end

theorem applyObservation_announced (obs : OpenObservation) (now : WatchInstant)
    (sk : SectionKey) (h : ses.sectionKey=sk) :
    Announced sk ses.episode (applyObservation ses obs now out).1.episode out
      (applyObservation ses obs now out).2 := by
  subst h
  unfold applyObservation
  cases obs.state with
  | unknown => exact .silent rfl (fun _ _ => rfl)
  | closed => exact endSession_announced { ses with reliableState := some .closed } out _ _ _ _
  | opened =>
    dsimp only
    refine Announced.trans ?_ (ite_queueOneShot_announced _ _ _ _ _)
    split
    · exact openEpisode_announced { ses with reliableState := some .opened } out _ _ _ _
    cases he : ses.episode with
    | none => exact .silent (by simp) (fun _ _ => rfl)
    | some episode =>
      exact .update (episode.observeOpen obs.observationId obs.observedAt)
        (fun homed => homed episode rfl) (fun key shown => by simp [noteFrame])

/-- The session that a START item creates, told to clients that show none or a
closed one. -/
theorem startSession_announced (restarted : Bool) (now : WatchInstant) (spec : CoreStartSpec)
    (initialState : CoreInitialState) (initialCursor : Option ObservationCursor) :
    Announced spec.sectionKey none
      (startSession restarted now spec initialState initialCursor out).1.episode out
      (startSession restarted now spec initialState initialCursor out).2 := by
  unfold startSession
  cases initialState with
  | unknown | closed => exact .silent rfl (fun _ _ => by simp [noteFrame])
  | opened oid observedAt =>
    dsimp only
    refine Announced.trans ?_ (ite_queueOneShot_announced _ _ _ _ _)
    have answered (out next : Emitter I) (h : ∀key shown,next.shown key shown=out.shown key shown) :
        Announced spec.sectionKey none none out next := .silent rfl h
    refine (answered out _ ?_).trans (openEpisode_announced (CoreWatchSession.new _ spec.sectionKey
      spec.policy (.opened oid observedAt) initialCursor) _ _ _ _ _)
    intro key shown
    simp [noteFrame]

end Session

def CoreEvent.cue : CoreEvent → Option SectionKey
  | .audioDisposition (.oneShot _ sectionKey _ _ _ _ _) => some sectionKey
  | _ => none

namespace Emitter

def cued (out : Emitter I) : List SectionKey := out.events.filterMap CoreEvent.cue

@[simp] theorem cued_push (out : Emitter I) (event : CoreEvent) :
    (out.push event).cued=out.cued++event.cue.toList := by
  cases h : event.cue <;> simp [cued,push,h]

@[simp] theorem cued_nextTraceId (out : Emitter I) : out.nextTraceId.2.cued=out.cued := rfl

@[simp] theorem cued_pushAction (out : Emitter I) (kind : CoreActionKind)
    (sk : Option SectionKey) (watchId episodeId : Option TraceId) :
    (out.pushAction kind sk watchId episodeId).cued=out.cued := by
  simp [pushAction,CoreEvent.cue]

theorem cued_pushCancelledCues (out : Emitter I) (watchId : TraceId) (sk : SectionKey)
    (cues : List PendingCue) (reason : CoreCueCancellationReason) :
    Emitter.cued { out with
      events := pushCancelledCues out.events watchId sk cues reason }=out.cued := by
  simp [cued,pushCancelledCues,CoreEvent.cue]

end Emitter

theorem endEpisode_cued (ses : CoreWatchSession) (reason : CoreEpisodeEndReason)
    (closedAt : OffsetDateTime) (out : Emitter I) :
    (endEpisode ses reason closedAt out).2.cued=out.cued := by
  unfold endEpisode
  split
  · rfl
  · split
    · rfl
    · simp [CoreEvent.cue]

theorem endSession_cued (ses : CoreWatchSession) (reason : CoreEpisodeEndReason)
    (closedAt : OffsetDateTime) (cr : Option CoreCueCancellationReason)
    (out : Emitter I) :
    (endSession ses reason closedAt cr out).2.cued=out.cued := by
  cases cr with
  | none => exact endEpisode_cued ses reason closedAt out
  | some cr =>
    exact (endEpisode_cued _ _ _ _).trans (Emitter.cued_pushCancelledCues _ _ _ _ _)

theorem queueOneShot_cued (ses : CoreWatchSession) (oid : TraceId)
    (out : Emitter I) (key : SectionKey)
    (h : key∈(queueOneShot ses oid out).2.cued) :
    key∈out.cued ∨ key=ses.sectionKey := by
  unfold queueOneShot at h
  dsimp only at h
  split at h
  · simpa [CoreEvent.cue] using h
  · split at h
    · exact .inl (by simpa using h)
    · split at h <;> simpa [requestCue,CoreEvent.cue] using h

theorem ite_queueOneShot_cued (p : Prop) [Decidable p] (ses : CoreWatchSession)
    (oid : TraceId) (out : Emitter I) (key : SectionKey)
    (h : key∈(if p then queueOneShot ses oid out else (ses,out)).2.cued) :
    key∈out.cued ∨ key=ses.sectionKey := by
  split at h
  · exact queueOneShot_cued ses oid out key h
  · exact .inl h

variable (restarted : Bool) (now : WatchInstant) (spec : CoreStartSpec)
  (initialState : CoreInitialState) (initialCursor : Option ObservationCursor) (out : Emitter I)

include restarted now spec initialState initialCursor out

/-- A START item asks for a cue only from an observation that opens an episode. -/
theorem startSession_cued (key : SectionKey)
    (h : key∈(startSession restarted now spec initialState initialCursor out).2.cued) :
    key∈out.cued ∨ key∈openingOf spec.sectionKey initialState := by
  unfold startSession at h
  cases initialState with
  | unknown | closed => exact .inl (by simpa [CoreEvent.cue] using h)
  | opened =>
    dsimp only at h
    rcases ite_queueOneShot_cued _ _ _ _ _ h with hk | hk
    · exact .inl (by simpa [openEpisode,CoreEvent.cue] using hk)
    · exact .inr (by simpa [openEpisode,CoreWatchSession.new,openingOf] using hk)

theorem startSession_cues (h : openingOf spec.sectionKey initialState=[]) :
    (startSession restarted now spec initialState initialCursor out).1.activeCue=none ∧
      (startSession restarted now spec initialState initialCursor out).1.queuedCues=[] := by
  cases initialState with
  | unknown | closed => exact ⟨rfl,rfl⟩
  | opened => cases h

end CoursePlanner.Watch
