import CoursePlanner.Library.Runs
import CoursePlanner.Watch.Index

set_option linter.unusedSectionVars false
set_option maxRecDepth 8000

namespace CoursePlanner.Watch

open Std Library Contracts

variable {C I : Type} [WatchClock C] [TraceIdSource I]

/-- The admission under which a START message creates a session of the section. -/
def admission? (operation : Operation) (sectionKey : SectionKey) :
    Option (CoreInitialState × Option ObservationCursor) :=
  match operation with
  | .start _ _ specs =>
    (specs.find? (fun spec => spec.sectionKey=sectionKey)).bind (fun spec =>
      match spec.admission with
      | .admitted initialState initialCursor => some (initialState,initialCursor)
      | _ => none)
  | _ => none

inductive SessionMove (operation : Operation) (sectionKey : SectionKey)
    (old : Option CoreWatchSession) : Option CoreWatchSession → Tally → Prop
  | gone (t : Tally) : SessionMove operation sectionKey old none t
  | kept (new : Option CoreWatchSession) (t : Tally)
      (same : new.map CoreWatchSession.view=old.map CoreWatchSession.view)
      (started : sectionKey∉t.started) (opened : sectionKey∉t.opened)
      (unobserved : ∀observation,operation=.publish observation → new=old) :
      SessionMove operation sectionKey old new t
  | applied (observation : OpenObservation) (session next : CoreWatchSession) (t : Tally)
      (hop : operation=.publish observation) (present : old=some session)
      (newer : ∀cursor,session.observationCursor=some cursor →
        cursor.pullSequence<observation.pullSequence.get)
      (view : next.view=session.view.accept observation) (started : sectionKey∉t.started)
      (opened : sectionKey∈t.opened ↔ observation.state=.opened ∧ session.view.rearmed=true) :
      SessionMove operation sectionKey old (some next) t
  | created (initialState : CoreInitialState) (initialCursor : Option ObservationCursor)
      (session : CoreWatchSession) (t : Tally)
      (admitted : admission? operation sectionKey=some (initialState,initialCursor))
      (view : session.view=.start sectionKey initialState initialCursor)
      (started : sectionKey∈t.started) : SessionMove operation sectionKey old (some session) t

theorem Observed.sessionMove {obs : OpenObservation} {ws next : Watches}
    {events : List CoreEvent} (h : Observed obs ws next events)
    (filed : Filed ws) (sk : SectionKey) :
    SessionMove (.publish obs) sk ws[sk]? next[sk]? (tally events) := by
  cases h with
  | ignored _ silent =>
    exact .kept _ _ rfl (by simp [silent,Tally.empty]) (by simp [silent,Tally.empty])
      (fun _ _ => rfl)
  | applied ses next _ present newer view opened started mixer =>
    have own := filed _ ses present
    rw [getElem?_insert_eq]
    split
    · next hk =>
      subst hk
      refine .applied obs ses next _ rfl present newer view (by simp [started]) ?_
      rw [opened,own]
      by_cases hr : obs.state=.opened ∧ ses.view.rearmed=true <;> simp [hr]
    · next hk =>
      refine .kept _ _ rfl (by simp [started]) ?_ (fun _ _ => rfl)
      rw [opened,own]
      split <;> simp [Ne.symm hk]

theorem Move.sessionMove {op : Operation} {cid : TraceId}
    {before after : Option Watches} {events : List CoreEvent}
    (h : Move op cid before after events)
    (filed : ∀ws,before=some ws → Filed ws) (sk : SectionKey) :
    SessionMove op sk (before.bind (fun ws => ws[sk]?))
      (after.bind (fun ws => ws[sk]?)) (tally events) := by
  cases h with
  | kept ws =>
    exact .kept _ _ rfl (by simp [tally,Tally.empty]) (by simp [tally,Tally.empty]) (fun _ _ => rfl)
  | joined hop =>
    refine .kept _ _ (by simp) (by simp [tally,Tally.empty]) (by simp [tally,Tally.empty]) ?_
    simp
  | left ws => exact .gone _
  | control ws next _ quiet change =>
    exact .kept _ _ (change.views sk) (by simp [change.started]) (by simp [change.opened])
      (fun obs hop => absurd hop (quiet obs))
  | stopped ws removed _ opened started mixer =>
    change SessionMove _ _ _ (ws.erase removed)[sk]? _
    rw [getElem?_erase_eq]
    split
    · exact .gone _
    · exact .kept _ _ rfl (by simp [started]) (by simp [opened]) (fun _ _ => rfl)
  | observed ws next _ obs hop change =>
    subst hop
    exact change.sessionMove (filed ws rfl) sk
  | started ws next _ messageId specs hop change =>
    change SessionMove _ _ _ next[sk]? _
    cases change.sessions sk with
    | untouched same started opened =>
      refine .kept _ _ (by rw [same]; rfl) started opened ?_
      rw [hop]
      simp
    | created spec st cur ses first admitted stored view started =>
      rw [stored]
      exact .created st cur ses _ (by simp [hop,admission?,first,admitted]) view started

theorem step_session (m : CoreWatchManager C I) (op : Operation)
    (cid : TraceId) (sk : SectionKey) (inverse : Inverse m.store) :
    SessionMove op sk (m.session? cid sk) ((m.step op).2.session? cid sk)
      (tally ((m.step op).1.eventsFor cid)) := by
  rw [session?_eq,session?_eq]
  exact (step_move m op cid).sessionMove
    (fun ws hw key ses => inverse.sections cid ws key ses hw) sk

/-- The past of a session: the sequence numbers of the observations that changed
it, its reliable readings (an OPEN one carries its observation, a CLOSED one
nothing) and its episodes as it last showed them. -/
structure History where
  sequences : List Nat
  reliable : List (Option TraceId)
  episodes : List CoreEpisode

def reading (observation : OpenObservation) : List (Option TraceId) :=
  match observation.state with
  | .opened => [some observation.observationId]
  | .closed => [none]
  | .unknown => []

def initialReading : CoreInitialState → List (Option TraceId)
  | .opened observationId _ => [some observationId]
  | .closed => [none]
  | .unknown => []

/-- A new episode goes to the end of the list; otherwise the current one is
seen again. -/
def trackEpisode {E : Type} (opens : Bool) (current : Option E) (episodes : List E) : List E :=
  if opens then episodes++current.toList
  else match current with
    | some episode => episodes.dropLast++[episode]
    | none => episodes

/-- The published observation, if it changed the session. -/
def appliedObservations (operation : Operation) (before after : Option CoreWatchSession) :
    List OpenObservation :=
  match operation with
  | .publish observation => if after=before then [] else [observation]
  | _ => []

def noteSessions (manager : CoreWatchManager C I) (operation : Operation) (outcome : Outcome)
    (after : CoreWatchManager C I) (histories : TraceId → SectionKey → History) :
    TraceId → SectionKey → History := fun connectionId sectionKey =>
  let t := tally (outcome.eventsFor connectionId)
  let session := after.session? connectionId sectionKey
  let current := session.bind CoreWatchSession.episode
  if sectionKey∈t.started then
    match admission? operation sectionKey with
    | some (initialState,initialCursor) =>
      ⟨initialCursor.toList.map ObservationCursor.pullSequence,initialReading initialState,
        current.toList⟩
    | none => ⟨[],[],current.toList⟩
  else
    let history := histories connectionId sectionKey
    let applied :=
      appliedObservations operation (manager.session? connectionId sectionKey) session
    ⟨history.sequences++applied.map (fun observation => observation.pullSequence.get),
      history.reliable++applied.flatMap reading,
      trackEpisode (sectionKey∈t.opened) current history.episodes⟩

/-- A run of the manager together with the past of every session. -/
abbrev remembering : CoreWatchManager C I × (TraceId → SectionKey → History) → Operation →
    Outcome × (CoreWatchManager C I × (TraceId → SectionKey → History)) :=
  traced CoreWatchManager.step noteSessions

def noHistory : TraceId → SectionKey → History := fun _ _ => ⟨[],[],[]⟩

/-- Sequence number, length so far, first and last observation. -/
abbrev Summary := Nat × Nat × Option TraceId × Option TraceId

def EpisodeView.summary (e : EpisodeView) : Summary :=
  (e.sequence,e.observationCount,some e.firstObservationId,some e.lastObservationId)

def runSummary (i : Nat) (run : List TraceId) : Summary :=
  (i+1,min run.length u64Max,run.head?,run.getLast?)

def readState (reading : Option TraceId) : ReliableState :=
  if reading.isSome then .opened else .closed

structure Ledger (v : SessionView) (reliable : List (Option TraceId))
    (episodes : List EpisodeView) : Prop where
  summaries : episodes.map EpisodeView.summary=(runs reliable).mapIdx runSummary
  current : v.episode=episodes.getLast?
  older : ∀e∈episodes.dropLast,e.closed=true
  state : v.reliableState=reliable.getLast?.map readState
  live : v.episode.any (fun e => !e.closed)=reliable.getLast?.join.isSome
  sequence : v.episodeSequence=(runs reliable).length
  bound : reliable.length ≤ 1+min (v.observationCursor.elim 0 ObservationCursor.pullSequence) u64Max

theorem trackEpisode_map {E F : Type} (f : E → F) (opens : Bool) (current : Option E)
    (episodes : List E) : (trackEpisode opens current episodes).map f=
      trackEpisode opens (current.map f) (episodes.map f) := by
  cases opens <;> cases current <;> simp [trackEpisode]

theorem trackEpisode_last {E : Type} (episodes : List E) :
    trackEpisode false episodes.getLast? episodes=episodes := by
  cases episodes using List.reverseRecOn with
  | nil => rfl
  | append_singleton episodes e => simp [trackEpisode]

theorem SessionView.accept_of_opened (v : SessionView) (obs : OpenObservation)
    (hs : obs.state=.opened) :
    v.accept obs=
      let w := { v with
        observationCursor := some ⟨obs.pullSequence.get,obs.observationId⟩
        reliableState := some .opened }
      if v.rearmed then w.openRun obs.observationId
      else w.extendRun obs.observationId := by
  unfold accept observe
  rw [hs]
  rfl

namespace Ledger

theorem started (sk : SectionKey) (initialState : CoreInitialState)
    (initialCursor : Option ObservationCursor) :
    Ledger (.start sk initialState initialCursor) (initialReading initialState)
      (SessionView.start sk initialState initialCursor).episode.toList := by
  cases initialState with
  | unknown | closed =>
    exact ⟨rfl,rfl,by simp [SessionView.start],rfl,rfl,rfl,by simp [initialReading]⟩
  | opened =>
    refine ⟨?_,rfl,by simp [SessionView.start,SessionView.openRun],rfl,rfl,?_,
      by simp [initialReading]⟩
    · rw [initialReading]
      rfl
    · rw [initialReading]
      rfl

variable {v : SessionView} {reliable : List (Option TraceId)} {episodes : List EpisodeView}

variable (h : Ledger v reliable episodes)

include h

/-- The session rearms exactly when no OPEN run is under way. -/
theorem rearmed_iff :
    v.rearmed=true ↔ reliable.getLast?.join=none := by
  have live := h.live
  have state := h.state
  constructor
  · intro hr
    by_contra hn
    obtain ⟨a,ha⟩ := Option.ne_none_iff_exists'.mp hn
    rw [Option.join_eq_some_iff] at ha
    rw [ha] at live state
    cases he : v.episode with
    | none => simp [he] at live
    | some e => simp_all [SessionView.rearmed,readState]
  · intro hn
    rw [hn] at live
    cases he : v.episode with
    | none => simp [SessionView.rearmed,he]
    | some e =>
      have hc : e.closed=true := by simpa [he] using live
      simp [SessionView.rearmed,he,hc]

/-- Fewer runs than sequence numbers: the ordinal never saturates. -/
theorem ordinal_lt : saturatingAdd v.episodeSequence 1=(runs reliable).length+1 := by
  have two := two_mul_length_runs reliable
  have bound := h.bound
  have small : (runs reliable).length+1 ≤ u64Max := by
    unfold u64Max at bound ⊢
    split at two <;> omega
  rw [h.sequence]
  exact Nat.min_eq_left small

theorem bound_accept (obs : OpenObservation) (newer : ∀cur,v.observationCursor=some cur →
      cur.pullSequence<obs.pullSequence.get) :
    reliable.length+1 ≤ 1+min obs.pullSequence.get u64Max := by
  have bound := h.bound
  have positive := obs.pullSequence.positive
  have bounded := obs.pullSequence.bounded
  cases hc : v.observationCursor with
  | none =>
    simp only [hc,Option.elim_none] at bound
    omega
  | some cur =>
    have lt := newer cur hc
    simp only [hc,Option.elim_some] at bound
    omega

theorem all_closed (hn : reliable.getLast?.join=none) : ∀e∈episodes,e.closed=true := by
  intro e he
  have live := h.live
  rw [hn,h.current] at live
  have older := h.older
  cases episodes using List.reverseRecOn with
  | nil => simp at he
  | append_singleton front last =>
    rcases List.mem_append.mp he with hf | hl
    · exact older e (by simpa using hf)
    · have hc : last.closed=true := by simpa using live
      rw [List.mem_singleton.mp hl]
      exact hc

variable (obs : OpenObservation)
  (newer : ∀cursor,v.observationCursor=some cursor → cursor.pullSequence<obs.pullSequence.get)

include obs newer

/-- A reading that starts a run: the next episode begins. -/
theorem accept_opening (hs : obs.state=.opened) (hr : v.rearmed=true) :
    Ledger (v.accept obs) (reliable++[some obs.observationId])
      (episodes++(v.accept obs).episode.toList) := by
  have hn := h.rearmed_iff.mp hr
  have ordinal := h.ordinal_lt
  have hv : v.accept obs={ v with
      observationCursor := some ⟨obs.pullSequence.get,obs.observationId⟩
      reliableState := some .opened
      episodeSequence := (runs reliable).length+1
      episode := some ⟨(runs reliable).length+1,1,obs.observationId,
        obs.observationId,false⟩ } := by
    rw [v.accept_of_opened obs hs]
    simp [hr,SessionView.openRun,ordinal]
  have hruns : runs (reliable++[some obs.observationId])= runs reliable++[[obs.observationId]] := by
    rcases runs_snoc_some reliable obs.observationId with ⟨_,hr⟩ | ⟨_,_,hne,_⟩
    · exact hr
    · exact absurd hn hne
  rw [hv]
  refine ⟨?_,by simp,?_,by simp [readState],by simp,by simp [hruns],?_⟩
  · rw [hruns,List.map_append,h.summaries]
    simp [EpisodeView.summary,runSummary,u64Max]
  · intro e he
    exact h.all_closed hn e (by simpa using he)
  · simpa using h.bound_accept obs newer

/-- A reading inside a run: the current episode grows by one observation. -/
theorem accept_extending (hs : obs.state=.opened) (hr : v.rearmed=false) :
    Ledger (v.accept obs) (reliable++[some obs.observationId])
      (trackEpisode false (v.accept obs).episode episodes) := by
  have hne : reliable.getLast?.join≠none := by
    intro hn
    rw [h.rearmed_iff.mpr hn] at hr
    cases hr
  have live := h.live
  rw [Option.isSome_iff_ne_none.mpr hne] at live
  obtain ⟨e,he,hopen⟩ : ∃e,v.episode=some e ∧ e.closed=false := by
    cases he : v.episode with
    | none => simp [he] at live
    | some e => exact ⟨e,rfl,by simpa [he] using live⟩
  have hv : v.accept obs={ v with
      observationCursor := some ⟨obs.pullSequence.get,obs.observationId⟩
      reliableState := some .opened
      episode := some { e with
        observationCount := saturatingAdd e.observationCount 1
        lastObservationId := obs.observationId } } := by
    rw [v.accept_of_opened obs hs]
    simp [hr,SessionView.extendRun,he]
  obtain ⟨front,last,hl,hlast,hruns⟩ : ∃front last,runs reliable=front++[last] ∧ last≠[] ∧
      runs (reliable++[some obs.observationId])= front++[last++[obs.observationId]] := by
    rcases runs_snoc_some reliable obs.observationId with ⟨hn,_⟩ | ⟨front,last,_,hl,hn,hr⟩
    · exact absurd hn hne
    · exact ⟨front,last,hl,hn,hr⟩
  obtain ⟨older,rfl⟩ : ∃older,episodes=older++[e] := by
    have hc := h.current
    rw [he] at hc
    obtain ⟨older,ho⟩ := List.getLast?_eq_some_iff.mp hc.symm
    exact ⟨older,ho⟩
  have summaries := h.summaries
  rw [hl,List.mapIdx_concat,List.map_append] at summaries
  obtain ⟨hfront,hcur⟩ := List.append_inj' summaries rfl
  have hcur : e.summary=runSummary front.length last := by simpa using hcur
  have sequence := h.sequence
  rw [hv]
  refine ⟨?_,by simp [trackEpisode],?_,by simp [readState],by simp [hopen],?_,?_⟩
  · rw [hruns,List.mapIdx_concat]
    simp only [EpisodeView.summary,runSummary,Prod.mk.injEq] at hcur
    obtain ⟨hseq,hcount,hfirst,_⟩ := hcur
    have count : saturatingAdd e.observationCount 1=
        min (last++[obs.observationId]).length u64Max := by
      rw [List.length_append,List.length_singleton]
      unfold saturatingAdd
      omega
    simp only [trackEpisode,Bool.false_eq_true,if_false,List.dropLast_concat,List.map_append,hfront,
      List.map_cons,EpisodeView.summary,runSummary,hseq,count,hfirst,
      List.head?_append_of_ne_nil _ hlast]
    simp
  · intro old ho
    exact h.older old (by simpa [trackEpisode] using ho)
  · rw [hruns]
    rw [hl] at sequence
    simpa using sequence
  · simpa using h.bound_accept obs newer

theorem accept_closing (hs : obs.state=.closed) : Ledger (v.accept obs) (reliable++[none])
      (trackEpisode false (v.accept obs).episode episodes) := by
  have hv : v.accept obs={ v with
      observationCursor := some ⟨obs.pullSequence.get,obs.observationId⟩
      reliableState := some .closed
      episode := v.episode.map (fun e => { e with closed := true }) } := by
    simp [SessionView.accept,SessionView.observe,hs,SessionView.endRun]
  have bound := h.bound_accept obs newer
  rw [hv]
  cases episodes using List.reverseRecOn with
  | nil =>
    have hc : v.episode=none := by simpa using h.current
    refine ⟨?_,by simp [hc,trackEpisode],by simp [hc,trackEpisode],by simp [readState],
      by simp [hc],?_,by simpa using bound⟩
    · rw [runs_snoc_none]
      simpa [hc,trackEpisode] using h.summaries
    · rw [runs_snoc_none]
      exact h.sequence
  | append_singleton older e =>
    have hc : v.episode=some e := by simpa using h.current
    have summaries := h.summaries
    refine ⟨?_,by simp [hc,trackEpisode],?_,by simp [readState],by simp [hc],?_,
      by simpa using bound⟩
    · rw [runs_snoc_none,←summaries]
      simp [hc,trackEpisode,EpisodeView.summary]
    · intro old ho
      exact h.older old (by simpa [hc,trackEpisode] using ho)
    · rw [runs_snoc_none]
      exact h.sequence

theorem accept_unknown (hs : obs.state=.unknown) : Ledger (v.accept obs) reliable
      (trackEpisode false (v.accept obs).episode episodes) := by
  have hv : v.accept obs={ v with
      observationCursor := some ⟨obs.pullSequence.get,obs.observationId⟩ } := by
    simp [SessionView.accept,SessionView.observe,hs]
  have bound := h.bound_accept obs newer
  rw [hv]
  rw [h.current,trackEpisode_last]
  refine ⟨h.summaries,rfl,h.older,h.state,by rw [←h.live,h.current],h.sequence,?_⟩
  simp only [Option.elim_some]
  omega

theorem accept : Ledger (v.accept obs) (reliable++reading obs)
      (trackEpisode (obs.state=.opened && v.rearmed) (v.accept obs).episode episodes) := by
  unfold reading
  cases hs : obs.state with
  | opened =>
    cases hr : v.rearmed with
    | true => exact h.accept_opening obs newer hs hr
    | false => exact h.accept_extending obs newer hs hr
  | closed => exact h.accept_closing obs newer hs
  | unknown =>
    rw [List.append_nil]
    exact h.accept_unknown obs newer hs

end Ledger

/-- A live session agrees with its past. -/
structure Remembered (session : CoreWatchSession) (history : History) : Prop where
  increasing : history.sequences.Pairwise (·<·)
  last : history.sequences.getLast?=
    session.observationCursor.map ObservationCursor.pullSequence
  ledger : Ledger session.view history.reliable (history.episodes.map CoreEpisode.view)
  current : session.episode=history.episodes.getLast?

theorem trackEpisode_current {E : Type} (opens : Bool) (current : Option E) (episodes : List E)
    (h : current=none → opens=false ∧ episodes.getLast?=none) :
    current=(trackEpisode opens current episodes).getLast? := by
  cases current with
  | none =>
    obtain ⟨rfl,he⟩ := h rfl
    exact he.symm
  | some ep => cases opens <;> simp [trackEpisode]

variable {next ses : CoreWatchSession}

theorem Remembered.kept {hist : History} (h : Remembered ses hist) (view : next.view=ses.view) :
    Remembered next ⟨hist.sequences,hist.reliable,
      trackEpisode false next.episode hist.episodes⟩ := by
  have ep : next.episode.map CoreEpisode.view=ses.episode.map CoreEpisode.view :=
    congrArg SessionView.episode view
  refine ⟨h.increasing,?_,?_,?_⟩
  · rw [h.last]
    exact (congrArg (·.observationCursor.map ObservationCursor.pullSequence) view).symm
  · have hl : ses.view.episode=_ := h.ledger.current
    rw [view]
    rw [trackEpisode_map,ep]
    change Ledger _ _ (trackEpisode false ses.view.episode _)
    rw [hl,trackEpisode_last]
    exact h.ledger
  · refine trackEpisode_current false _ _ ?_
    intro hn
    rw [hn] at ep
    refine ⟨rfl,?_⟩
    rw [←h.current]
    simpa using ep.symm

theorem pairwise_snoc (l : List Nat) (a : Nat) (h : l.Pairwise (·<·))
    (hl : ∀b,l.getLast?=some b → b<a) : (l++[a]).Pairwise (·<·) := by
  cases l using List.reverseRecOn with
  | nil => simp
  | append_singleton front last =>
    have hlast : last<a := hl last (by simp)
    have hf := (List.pairwise_append.mp h).2.2
    refine List.pairwise_append.mpr ⟨h,by simp,?_⟩
    intro b hb c hc
    rw [List.mem_singleton.mp hc]
    rcases List.mem_append.mp hb with hm | hm
    · exact (hf b hm last (by simp)).trans hlast
    · rw [List.mem_singleton.mp hm]
      exact hlast

/-- An observation that is newer than the cursor extends the past of the session. -/
theorem Remembered.applied {hist : History} (h : Remembered ses hist)
    (obs : OpenObservation) (newer : ∀cur,ses.observationCursor=some cur →
      cur.pullSequence<obs.pullSequence.get)
    (view : next.view=ses.view.accept obs) :
    Remembered next ⟨hist.sequences++[obs.pullSequence.get], hist.reliable++reading obs,
      trackEpisode (obs.state=.opened && ses.view.rearmed) next.episode hist.episodes⟩ := by
  have cur : next.observationCursor= some ⟨obs.pullSequence.get,obs.observationId⟩ := by
    refine (congrArg SessionView.observationCursor view).trans ?_
    unfold SessionView.accept SessionView.observe
    cases obs.state with
    | opened =>
      dsimp only
      split <;> rfl
    | closed => rfl
    | unknown => rfl
  have ledger := h.ledger.accept obs newer
  refine ⟨?_,by simp [cur],?_,?_⟩
  · apply pairwise_snoc _ _ h.increasing
    intro b hb
    rw [h.last] at hb
    obtain ⟨held,hc,rfl⟩ := Option.map_eq_some_iff.mp hb
    exact newer held hc
  · rw [trackEpisode_map]
    change Ledger _ _ (trackEpisode _ next.view.episode _)
    rw [view]
    exact ledger
  · refine trackEpisode_current _ _ _ ?_
    intro hn
    have none : (ses.view.accept obs).episode=none := by
      rw [←view]
      simp [CoreWatchSession.view,hn]
    -- Without an ep afterwards the ledger was empty and nothing was opened.
    have empty := ledger.current
    rw [none] at empty
    have track := List.getLast?_eq_none_iff.mp empty.symm
    cases ho : (decide (obs.state=.opened) && ses.view.rearmed) with
    | true =>
      simp only [Bool.and_eq_true,decide_eq_true_eq] at ho
      rw [ses.view.accept_of_opened obs ho.1,ho.2] at none
      simp [SessionView.openRun] at none
    | false =>
      refine ⟨rfl,?_⟩
      have hm : hist.episodes=[] := by simpa [trackEpisode] using track
      rw [hm]
      rfl

theorem Remembered.created {sk : SectionKey} {initialState : CoreInitialState}
    {initialCursor : Option ObservationCursor}
    (view : ses.view=.start sk initialState initialCursor) :
    Remembered ses ⟨initialCursor.toList.map ObservationCursor.pullSequence,
      initialReading initialState,ses.episode.toList⟩ := by
  have cur : ses.observationCursor=initialCursor := by
    refine (congrArg SessionView.observationCursor view).trans ?_
    cases initialState <;> rfl
  refine ⟨?_,?_,?_,?_⟩
  · cases initialCursor <;> simp
  · rw [cur]
    cases initialCursor <;> rfl
  · have ledger := Ledger.started sk initialState initialCursor
    rw [←view] at ledger
    have hl : ses.episode.toList.map CoreEpisode.view=ses.view.episode.toList := by
      cases he : ses.episode <;> simp [CoreWatchSession.view,he]
    rw [hl]
    exact ledger
  · cases ses.episode <;> rfl

def Consistent (s : CoreWatchManager C I × (TraceId → SectionKey → History)) : Prop :=
  Inverse s.1.store ∧ ∀connectionId sectionKey session,
    s.1.session? connectionId sectionKey=some session →
    Remembered session (s.2 connectionId sectionKey)

theorem remembering_consistent (s : CoreWatchManager C I × (TraceId → SectionKey → History))
    (op : Operation) (h : Consistent s) : Consistent (remembering s op).2 := by
  refine ⟨step_inverse s.1 op h.1,?_⟩
  intro c key ses hs
  change (s.1.step op).2.session? c key=some ses at hs
  change Remembered ses (noteSessions s.1 op (s.1.step op).1 (s.1.step op).2 s.2 c key)
  have move := step_session s.1 op c key h.1
  unfold noteSessions
  rw [hs] at move ⊢
  generalize tally ((s.1.step op).1.eventsFor c)=t at move ⊢
  cases move with
  | kept _ _ same started opened unobserved =>
    obtain ⟨old,ho,hv⟩ := Option.map_eq_some_iff.mp same.symm
    have none : appliedObservations op (s.1.session? c key) (some ses)=[] := by
      unfold appliedObservations
      split
      · next obs => exact if_pos (unobserved obs rfl)
      · rfl
    rw [if_neg started,none]
    simpa [opened] using (h.2 c key old ho).kept hv.symm
  | applied obs old _ _ hop present newer view started opened =>
    have changed : some ses≠s.1.session? c key := by
      rw [present]
      intro heq
      have hs : ses=old := Option.some.inj heq
      have cursor := ((h.2 c key old present).applied obs newer view).last
      rw [hs] at cursor
      have hc : old.observationCursor.map ObservationCursor.pullSequence=
          some obs.pullSequence.get := by
        rw [←cursor]
        simp
      obtain ⟨held,hh,hp⟩ := Option.map_eq_some_iff.mp hc
      have lt := newer held hh
      omega
    have one : appliedObservations op (s.1.session? c key) (some ses)= [obs] := by
      rw [hop]
      exact if_neg changed
    have opens : decide (key∈t.opened)= (decide (obs.state=.opened) && old.view.rearmed) := by
      rw [Bool.eq_iff_iff]
      simpa using opened
    rw [if_neg started,one,opens]
    simpa using (h.2 c key old present).applied obs newer view
  | created _ _ _ _ admitted view started =>
    rw [if_pos started,admitted]
    exact .created view

theorem fresh_consistent (m : CoreWatchManager C I) (fresh : m.Fresh) :
    Consistent (m,noHistory) := by
  refine ⟨fresh_inverse m fresh,?_⟩
  intro c key ses hs
  have hc : m.connections=∅ := fresh.connections
  simp [CoreWatchManager.session?,hc] at hs

theorem reachable_consistent {initial : CoreWatchManager C I} (fresh : initial.Fresh)
    {s : CoreWatchManager C I × (TraceId → SectionKey → History)}
    (h : Reachable remembering (initial,noHistory) s) : Consistent s :=
  h.invariant Consistent (fresh_consistent initial fresh) remembering_consistent

/-- The observations that changed a session, with the one it started from, have
strictly increasing sequence numbers, in every run. -/
theorem applied_sequences_increase (initial : CoreWatchManager C I) (fresh : initial.Fresh)
    (s : CoreWatchManager C I × (TraceId → SectionKey → History))
    (h : Reachable remembering (initial,noHistory) s) (connectionId : TraceId)
    (sectionKey : SectionKey) (ses : CoreWatchSession)
    (live : s.1.session? connectionId sectionKey=some ses) :
    (s.2 connectionId sectionKey).sequences.Pairwise (·<·) ∧
    (s.2 connectionId sectionKey).sequences.getLast?=
      ses.observationCursor.map ObservationCursor.pullSequence :=
  let remembered := (reachable_consistent fresh h).2 connectionId sectionKey ses live
  ⟨remembered.increasing,remembered.last⟩

/-- A START from sequence 1, then 3, a late 2 and 3 again. -/
def raceOperations : List Operation :=
  [.connect (trace 1),
    .start (trace 1) (trace 2) [⟨firstSection,default,.admitted .closed (some ⟨1,trace 11⟩)⟩],
    .publish (firstObservation (ordinal 3) 13 .opened),
    .publish (firstObservation (ordinal 2) 12 .closed),
    .publish (firstObservation (ordinal 3) 13 .opened)]

theorem applied_sequences_increase_race :
    let s := run remembering (fakeManager,noHistory) raceOperations
    (s.2 (trace 1) firstSection).sequences=[1,3] ∧
      (s.2 (trace 1) firstSection).sequences.Pairwise (·<·) := by
  have live : ((run remembering (fakeManager,noHistory) raceOperations).1.session? (trace 1)
      firstSection).isSome=true := by decide
  obtain ⟨ses,hs⟩ := Option.isSome_iff_exists.mp live
  exact ⟨by decide,(applied_sequences_increase fakeManager fakeManager_fresh _
    (reachable_run remembering (fakeManager,noHistory) raceOperations) (trace 1) firstSection
    ses hs).1⟩

def CoreEpisode.summary (episode : CoreEpisode) : Summary :=
  (episode.sequence,episode.observationCount,some episode.firstObservationId,
    some episode.lastObservationId)

/-- START and a published OPEN or CLOSED are the only operations that may open
or end an episode of a session that stays. -/
def Operation.quiet : Operation → Bool
  | .start _ _ _ => false
  | .publish observation => observation.state=.unknown
  | _ => true

theorem SessionMove.quiet {op : Operation} {sk : SectionKey} {t : Tally}
    (h : SessionMove op sk (some ses) (some next) t) (hq : op.quiet=true) :
    sk∉t.opened ∧ next.view.episode=ses.view.episode := by
  cases h with
  | kept _ _ same started opened => exact ⟨opened,congrArg SessionView.episode (by simpa using same)⟩
  | applied obs old _ _ hop present newer view started opened =>
    cases present
    rw [hop] at hq
    have unknown : obs.state=.unknown := by simpa [Operation.quiet] using hq
    refine ⟨by simp [opened,unknown],?_⟩
    rw [view]
    simp [SessionView.accept,SessionView.observe,unknown]
  | created _ _ _ _ admitted =>
    cases op <;> simp [Operation.quiet,admission?] at hq admitted

/-- The episodes of a live session are the maximal OPEN runs of its reliable
readings, one for each in order, and only readings open or end them. -/
theorem episodes_are_open_runs (initial : CoreWatchManager C I) (fresh : initial.Fresh)
    (s : CoreWatchManager C I × (TraceId → SectionKey → History))
    (h : Reachable remembering (initial,noHistory) s) (connectionId : TraceId)
    (sectionKey : SectionKey) (ses : CoreWatchSession)
    (live : s.1.session? connectionId sectionKey=some ses) :
    let history := s.2 connectionId sectionKey
    history.episodes.map CoreEpisode.summary=(runs history.reliable).mapIdx runSummary ∧
    ses.episode=history.episodes.getLast? ∧
    ses.episodeSequence=(runs history.reliable).length ∧
    (∀episode∈history.episodes.dropLast,episode.state=.closed) ∧
    ((∃episode,ses.episode=some episode ∧ episode.state≠.closed) ↔
      ∃observationId,history.reliable.getLast?=some (some observationId)) ∧
    ∀operation next,operation.quiet=true →
      (s.1.step operation).2.session? connectionId sectionKey=some next →
      sectionKey∉(tally ((s.1.step operation).1.eventsFor connectionId)).opened ∧
      next.episode.map CoreEpisode.view=ses.episode.map CoreEpisode.view := by
  have consistent := reachable_consistent fresh h
  have remembered := consistent.2 connectionId sectionKey ses live
  have ledger := remembered.ledger
  refine ⟨?_,remembered.current,ledger.sequence,?_,?_,?_⟩
  · have summaries := ledger.summaries
    rw [List.map_map] at summaries
    exact summaries
  · intro episode he
    have closed := ledger.older episode.view (by
      rw [←List.map_dropLast]
      exact List.mem_map_of_mem he)
    simpa [CoreEpisode.view] using closed
  · have hl := ledger.live
    constructor
    · rintro ⟨episode,he,hne⟩
      have hj : (s.2 connectionId sectionKey).reliable.getLast?.join.isSome=true := by
        rw [←hl]
        simp [CoreWatchSession.view,he,CoreEpisode.view,hne]
      obtain ⟨observationId,ho⟩ := Option.isSome_iff_exists.mp hj
      exact ⟨observationId,Option.join_eq_some_iff.mp ho⟩
    · rintro ⟨observationId,ho⟩
      rw [ho] at hl
      cases he : ses.episode with
      | none => simp [CoreWatchSession.view,he] at hl
      | some episode => exact ⟨episode,rfl,by simpa [CoreWatchSession.view,he,CoreEpisode.view] using hl⟩
  · intro operation next hq hn
    have move := step_session s.1 operation connectionId sectionKey consistent.1
    rw [live,hn] at move
    exact move.quiet hq

/-- CLOSED, two OPEN, an UNKNOWN, CLOSED and OPEN again: two episodes. -/
def twoRunOperations : List Operation :=
  [.connect (trace 1),
    .start (trace 1) (trace 2) [⟨firstSection,default,.admitted .closed (some ⟨1,trace 11⟩)⟩],
    .publish (firstObservation (ordinal 2) 12 .opened),
    .publish (firstObservation (ordinal 3) 13 .opened),
    .publish (firstObservation (ordinal 4) 14 .unknown),
    .publish (firstObservation (ordinal 5) 15 .closed),
    .publish (firstObservation (ordinal 6) 16 .opened)]

theorem episodes_are_open_runs_two :
    let s := run remembering (fakeManager,noHistory) twoRunOperations
    (s.2 (trace 1) firstSection).episodes.map CoreEpisode.summary=
      [(1,2,some (trace 12),some (trace 13)),(2,1,some (trace 16),some (trace 16))] := by
  have live : ((run remembering (fakeManager,noHistory) twoRunOperations).1.session? (trace 1)
      firstSection).isSome=true := by decide
  obtain ⟨ses,hs⟩ := Option.isSome_iff_exists.mp live
  have runs := (episodes_are_open_runs fakeManager fakeManager_fresh _
    (reachable_run remembering (fakeManager,noHistory) twoRunOperations) (trace 1) firstSection
    ses hs).1
  exact runs.trans (by decide)

end CoursePlanner.Watch
