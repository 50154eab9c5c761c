import CoursePlanner.Watch.Operation

set_option linter.unusedSectionVars false

namespace CoursePlanner.Watch

open Std Library Contracts

/-- What observations determine of an episode. -/
structure EpisodeView where
  sequence : Nat
  observationCount : Nat
  firstObservationId : TraceId
  lastObservationId : TraceId
  closed : Bool
  deriving DecidableEq

def CoreEpisode.view (episode : CoreEpisode) : EpisodeView where
  sequence := episode.sequence
  observationCount := episode.observationCount
  firstObservationId := episode.firstObservationId
  lastObservationId := episode.lastObservationId
  closed := episode.state=.closed

/-- What observations determine of a session: neither policy, audio, clock nor
acknowledgement enters. -/
structure SessionView where
  sectionKey : SectionKey
  reliableState : Option ReliableState
  episodeSequence : Nat
  episode : Option EpisodeView
  observationCursor : Option ObservationCursor
  deriving DecidableEq

def CoreWatchSession.view (session : CoreWatchSession) : SessionView where
  sectionKey := session.sectionKey
  reliableState := session.reliableState
  episodeSequence := session.episodeSequence
  episode := session.episode.map CoreEpisode.view
  observationCursor := session.observationCursor

/-- The id that a session contributes to the continuous mixer of its connection. -/
def CoreWatchSession.alarmId (session : CoreWatchSession) : Option TraceId :=
  if session.continuousAlarmActive then session.episode.map CoreEpisode.id else none

theorem CoreWatchSession.alarmId_eq (ses : CoreWatchSession) :
    ses.alarmId=ses.episode.bind (fun ep =>
      if ses.policy.mode=.continuous ∧ ep.state=.unacknowledged then some ep.id
      else none) := by
  cases he : ses.episode <;> simp [alarmId,continuousAlarmActive,he]

namespace SessionView

/-- A fresh OPEN run: the next episode, with one observation in it. -/
def openRun (v : SessionView) (observationId : TraceId) : SessionView :=
  { v with
    episodeSequence := saturatingAdd v.episodeSequence 1
    episode := some ⟨saturatingAdd v.episodeSequence 1,1,observationId,observationId,false⟩ }

def extendRun (v : SessionView) (observationId : TraceId) : SessionView :=
  { v with episode := v.episode.map (fun e => { e with
      observationCount := saturatingAdd e.observationCount 1
      lastObservationId := observationId }) }

def endRun (v : SessionView) : SessionView :=
  { v with episode := v.episode.map (fun e => { e with closed := true }) }

/-- An OPEN observation starts a run unless one is already under way. -/
def rearmed (v : SessionView) : Bool :=
  v.reliableState≠some .opened || v.episode.all EpisodeView.closed

def observe (v : SessionView) (observation : OpenObservation) : SessionView :=
  match observation.state with
  | .opened =>
    let w := { v with reliableState := some .opened }
    if v.rearmed then w.openRun observation.observationId
    else w.extendRun observation.observationId
  | .closed => { v with reliableState := some .closed }.endRun
  | .unknown => v

/-- The cursor moves on before the observation takes effect. -/
def accept (v : SessionView) (observation : OpenObservation) : SessionView :=
  { v with
    observationCursor := some ⟨observation.pullSequence.get,observation.observationId⟩ }.observe
      observation

def start (sectionKey : SectionKey) (initialState : CoreInitialState)
    (initialCursor : Option ObservationCursor) : SessionView :=
  match initialState with
  | .unknown => ⟨sectionKey,none,0,none,initialCursor⟩
  | .closed => ⟨sectionKey,some .closed,0,none,initialCursor⟩
  | .opened observationId _ =>
    openRun ⟨sectionKey,some .opened,0,none,initialCursor⟩ observationId

theorem accept_sectionKey (v : SessionView) (obs : OpenObservation) :
    (v.accept obs).sectionKey=v.sectionKey := by
  unfold accept observe
  cases obs.state with
  | opened =>
    dsimp only
    split <;> rfl
  | closed => rfl
  | unknown => rfl

end SessionView

/-- What a list of events says about episodes opened, sessions created and
active sets of the continuous mixer, each in order. -/
structure Tally where
  opened : List SectionKey
  started : List SectionKey
  mixers : List (List TraceId)
  deriving DecidableEq

namespace Tally

def empty : Tally := ⟨[],[],[]⟩

def openings (t : Tally) (sectionKeys : List SectionKey) : Tally :=
  { t with opened := t.opened++sectionKeys }

def note (t : Tally) : CoreEvent → Tally
  | .action recorded =>
    if recorded.kind=.episodeOpened then t.openings recorded.sectionKey.toList else t
  | .startResult result =>
    if result.watchId.isSome then { t with started := t.started++[result.sectionKey] } else t
  | .audioDisposition (.continuousMixer _ activeEpisodeIds _) =>
    { t with mixers := t.mixers++[activeEpisodeIds] }
  | _ => t

@[simp] theorem openings_nil (t : Tally) : t.openings []=t := by
  simp [openings]

end Tally

def tally (events : List CoreEvent) : Tally := events.foldl Tally.note .empty

theorem tally_append_map {A : Type} (events : List CoreEvent) (f : A → CoreEvent) (l : List A)
    (h : ∀t x,Tally.note t (f x)=t) : tally (events++l.map f)=tally events := by
  rw [tally,List.foldl_append]
  induction l with
  | nil => rfl
  | cons x l ih => rw [List.map_cons,List.foldl_cons,h,ih]

theorem tally_append (events more : List CoreEvent) : tally (events++more)=
    ⟨(tally events).opened++(tally more).opened,(tally events).started++(tally more).started,
      (tally events).mixers++(tally more).mixers⟩ := by
  induction more using List.reverseRecOn with
  | nil => simp [tally,Tally.empty]
  | append_singleton more event ih =>
    have snoc (l : List CoreEvent) : tally (l++[event])=(tally l).note event := by simp [tally]
    rw [←List.append_assoc,snoc,snoc,ih]
    cases event with
    | action recorded =>
      by_cases h : recorded.kind=.episodeOpened <;> simp [Tally.note,Tally.openings,h]
    | startResult result =>
      by_cases h : result.watchId.isSome <;> simp [Tally.note,h]
    | audioDisposition audio => cases audio <;> simp [Tally.note]
    | _ => rfl

namespace Emitter

variable {I : Type} [TraceIdSource I]

def tally (out : Emitter I) : Tally := Watch.tally out.events

variable (out : Emitter I)

@[simp] theorem tally_new (ids : I) : (Emitter.mk ids []).tally=.empty := rfl

@[simp] theorem tally_nextTraceId : out.nextTraceId.2.tally=out.tally := rfl

@[simp] theorem tally_push (event : CoreEvent) : (out.push event).tally=out.tally.note event := by
  simp [tally,Watch.tally,push]

@[simp] theorem tally_pushEpisode (ep : Option CoreEpisode) :
    (out.pushEpisode ep).tally=out.tally := by
  cases ep with
  | none => rfl
  | some ep => simp [pushEpisode,Tally.note]

@[simp] theorem tally_pushAction (kind : CoreActionKind) (sk : Option SectionKey)
    (watchId episodeId : Option TraceId) :
    (out.pushAction kind sk watchId episodeId).tally=
      if kind=.episodeOpened then out.tally.openings sk.toList else out.tally :=
  tally_push _ _

theorem tally_pushCancelledCues (watchId : TraceId) (sk : SectionKey)
    (cues : List PendingCue) (reason : CoreCueCancellationReason) :
    Emitter.tally { out with
      events := pushCancelledCues out.events watchId sk cues reason }=out.tally :=
  tally_append_map _ _ _ (fun _ _ => rfl)

end Emitter

section Session

variable {I : Type} [TraceIdSource I]

/-- Requesting, queueing and draining cues touch nothing else of the session. -/
def CuesOnly (session next : CoreWatchSession) : Prop :=
  ∃active queued,next={ session with activeCue := active, queuedCues := queued }

theorem CuesOnly.view {ses next : CoreWatchSession} (h : CuesOnly ses next) :
    next.view=ses.view := by
  obtain ⟨active,queued,rfl⟩ := h
  rfl

theorem CuesOnly.alarmId {ses next : CoreWatchSession} (h : CuesOnly ses next) :
    next.alarmId=ses.alarmId := by
  obtain ⟨active,queued,rfl⟩ := h
  rfl

variable (ses : CoreWatchSession) (oid : TraceId) (reason : CoreEpisodeEndReason)
    (closedAt : OffsetDateTime)

theorem queueOneShot_cues (out : Emitter I) : CuesOnly ses (queueOneShot ses oid out).1 := by
  unfold queueOneShot
  dsimp only
  split
  · exact ⟨_,_,rfl⟩
  · split
    · exact ⟨_,_,rfl⟩
    · split <;> exact ⟨_,_,rfl⟩

theorem queueOneShot_tally (out : Emitter I) : (queueOneShot ses oid out).2.tally=out.tally := by
  unfold queueOneShot
  dsimp only
  split
  · simp [Tally.note]
  · split
    · simp
    · split <;> simp [requestCue,Tally.note]

/-- Both callers queue a cue only in one-shot mode. -/
theorem ite_queueOneShot_cues (p : Prop) [Decidable p] (ses : CoreWatchSession)
    (oid : TraceId) (out : Emitter I) :
    CuesOnly ses (if p then queueOneShot ses oid out else (ses,out)).1 := by
  split
  · exact queueOneShot_cues ses oid out
  · exact ⟨_,_,rfl⟩

@[simp] theorem ite_queueOneShot_tally (p : Prop) [Decidable p] (ses : CoreWatchSession)
    (oid : TraceId) (out : Emitter I) :
    (if p then queueOneShot ses oid out else (ses,out)).2.tally=out.tally := by
  split
  · exact queueOneShot_tally ses oid out
  · rfl

theorem driveOneShot_cues (out : Emitter I) : CuesOnly ses (driveOneShot ses out).1 := by
  unfold driveOneShot
  dsimp only
  split
  · exact ⟨_,_,rfl⟩
  · split
    · exact ⟨_,_,rfl⟩
    · split <;> exact ⟨_,_,rfl⟩

@[simp] theorem driveOneShot_tally (out : Emitter I) :
    (driveOneShot ses out).2.tally=out.tally := by
  unfold driveOneShot
  dsimp only
  split
  · rfl
  split
  · exact tally_append_map _ _ _ (fun _ _ => rfl)
  · split
    · rfl
    · simp [requestCue,Tally.note]

@[simp] theorem openEpisode_tally (observedAt : OffsetDateTime) (now : WatchInstant)
    (out : Emitter I) :
    (openEpisode ses oid observedAt now out).2.tally= out.tally.openings [ses.sectionKey] := by
  simp [openEpisode,Tally.note]

theorem endEpisode_view (out : Emitter I) :
    (endEpisode ses reason closedAt out).1.view=ses.view.endRun := by
  unfold endEpisode
  cases he : ses.episode with
  | none => simp [CoreWatchSession.view,SessionView.endRun,he]
  | some ep =>
    by_cases hc : ep.state=.closed
    · simp [CoreWatchSession.view,SessionView.endRun,CoreEpisode.view,he,hc]
    · simp [CoreWatchSession.view,SessionView.endRun,CoreEpisode.view,closeEpisode,he,hc]

@[simp] theorem endEpisode_tally (out : Emitter I) :
    (endEpisode ses reason closedAt out).2.tally=out.tally := by
  unfold endEpisode
  split
  · rfl
  · split
    · rfl
    · simp [Tally.note]

@[simp] theorem endSession_tally (cr : Option CoreCueCancellationReason) (out : Emitter I) :
    (endSession ses reason closedAt cr out).2.tally=out.tally := by
  cases cr with
  | none => exact endEpisode_tally ses reason closedAt out
  | some cr =>
    exact (endEpisode_tally _ _ _ _).trans (Emitter.tally_pushCancelledCues _ _ _ _ _)

/-- The loop body of a START item creates the abstract session of its admission. -/
theorem startSession_view (restarted : Bool) (now : WatchInstant) (spec : CoreStartSpec)
    (st : CoreInitialState) (initialCursor : Option ObservationCursor)
    (out : Emitter I) :
    (startSession restarted now spec st initialCursor out).1.view=
      .start spec.sectionKey st initialCursor := by
  cases st with
  | unknown => rfl
  | closed => rfl
  | opened =>
    exact (ite_queueOneShot_cues _ _ _ _).view

/-- The sections whose START observation opens an episode at once. -/
def openingOf (sectionKey : SectionKey) : CoreInitialState → List SectionKey
  | .opened _ _ => [sectionKey]
  | _ => []

theorem startSession_tally (restarted : Bool) (now : WatchInstant) (spec : CoreStartSpec)
    (st : CoreInitialState) (initialCursor : Option ObservationCursor)
    (out : Emitter I) :
    (startSession restarted now spec st initialCursor out).2.tally=
      ({ out.tally with started := out.tally.started++[spec.sectionKey] } : Tally).openings
        (openingOf spec.sectionKey st) := by
  have kind : (if restarted then CoreActionKind.watchRestarted else .watchStarted)≠
      .episodeOpened := by cases restarted <;> decide
  cases st with
  | unknown | closed => simp [startSession,Tally.note,openingOf,kind]
  | opened =>
    unfold startSession
    rw [ite_queueOneShot_tally]
    simp [Tally.note,openingOf,kind,CoreWatchSession.new]

theorem session_rearmed : ses.view.rearmed=(decide (ses.reliableState≠some .opened) ||
      ses.episode.all (fun ep => ep.state=.closed)) := by
  cases h : ses.episode <;>
    simp [SessionView.rearmed,CoreWatchSession.view,CoreEpisode.view,h]

/-- An accepted observation acts on the session as on its abstract view. -/
theorem applyObservation_view (observation : OpenObservation) (now : WatchInstant) (out : Emitter I) :
    (applyObservation ses observation now out).1.view=ses.view.observe observation := by
  unfold applyObservation SessionView.observe
  cases observation.state with
  | unknown => rfl
  | closed => exact endEpisode_view _ _ _ _
  | opened =>
    dsimp only
    rw [session_rearmed]
    refine (ite_queueOneShot_cues _ _ _ _).view.trans ?_
    split
    · rfl
    cases he : ses.episode with
    | none => simp [CoreWatchSession.view,SessionView.extendRun,he]
    | some episode =>
      simp [CoreWatchSession.view,SessionView.extendRun,he,CoreEpisode.view,CoreEpisode.observeOpen]

theorem applyObservation_tally (obs : OpenObservation) (now : WatchInstant) (out : Emitter I) :
    (applyObservation ses obs now out).2.tally=out.tally.openings
      (if obs.state=.opened && ses.view.rearmed then [ses.sectionKey] else []) := by
  unfold applyObservation
  cases obs.state with
  | unknown => simp
  | closed => simp
  | opened =>
    rw [ite_queueOneShot_tally,←session_rearmed]
    cases hr : ses.view.rearmed with
    | true => simp
    | false => cases ses.episode <;> simp [Tally.note]

end Session

end CoursePlanner.Watch
