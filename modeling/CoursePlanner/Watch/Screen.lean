import CoursePlanner.Library.Follower
import CoursePlanner.Watch.Mixer

set_option linter.unusedSectionVars false

namespace CoursePlanner.Watch

open Std Library Contracts

variable {C I : Type} [WatchClock C] [TraceIdSource I]

/-- What a page holds of one connection: the last episode of each section and
the active set of the continuous mixer. -/
structure Screen where
  shown : SectionKey → Option EpisodeFrame
  mixer : List TraceId

namespace Screen

def note (screen : Screen) (event : CoreEvent) : Screen where
  shown := fun sectionKey => noteFrame sectionKey (screen.shown sectionKey) event
  mixer := foldMixer screen.mixer [event]

theorem foldMixer_append (current : List TraceId) (evts more : List CoreEvent) :
    foldMixer current (evts++more)=foldMixer (foldMixer current evts) more := by
  simp [foldMixer,tally_append]

theorem foldl_note (screen : Screen) (evts : List CoreEvent) : evts.foldl note screen=
      ⟨fun sk => shownAfter sk (screen.shown sk) evts, foldMixer screen.mixer evts⟩ := by
  induction evts using List.reverseRecOn with
  | nil => rfl
  | append_singleton evts event ih =>
    rw [List.foldl_append,ih,foldMixer_append]
    simp only [shownAfter_append]
    rfl

end Screen

structure Displays (watches : Watches) (screen : Screen) : Prop where
  shown : Shown watches screen.shown
  mixer : screen.mixer=alarms watches

theorem displays_empty : Displays ∅ ⟨fun _ => none,[]⟩ := by
  refine ⟨⟨?_,?_⟩,rfl⟩
  · intro key session hs
    simp at hs
  · intro key
    simp [Pictures]

/-- A connection that is there afterwards was there before, and its events take
every page along. -/
def Continues (before after : Option Watches) (events : List CoreEvent) : Prop :=
  ∀next,after=some next → ∃watches,before=some watches ∧
    ∀screen,Displays watches screen → Displays next (events.foldl Screen.note screen)

theorem Continues.still (ws : Option Watches) : Continues ws ws [] :=
  fun next h => ⟨next,h,fun _ shown => shown⟩

variable {after before : Option Watches} {events evts : List CoreEvent} {cid : TraceId}
    {op : Operation}

theorem Continues.trans {middle : Option Watches} {more : List CoreEvent}
    (h : Continues before middle evts) (g : Continues middle after more) :
    Continues before after (evts++more) := by
  intro next hn
  obtain ⟨between,hb,second⟩ := g next hn
  obtain ⟨ws,hw,first⟩ := h between hb
  refine ⟨ws,hw,?_⟩
  intro screen shown
  rw [List.foldl_append]
  exact second _ (first screen shown)

theorem Move.told {ws next : Watches} (h : Move op cid (some ws) (some next) events) :
    Told ws next events := by
  cases h with
  | kept => exact .still _ _ (fun _ _ => rfl)
  | control _ _ _ _ change | started _ _ _ _ _ _ change => exact change.told
  | stopped _ _ _ _ _ _ told => exact told
  | observed _ _ _ observation _ change =>
    cases change with
    | ignored _ _ told | applied _ _ _ _ _ _ _ _ _ told => exact told

/-- Only connect brings a connection in; everything else goes on from where it was. -/
theorem Move.continues (h : Move op cid before after events)
    (hop : op≠.connect cid) : Continues before after events := by
  intro next hn
  subst hn
  cases before with
  | none =>
    cases h with
    | joined joins => exact absurd joins hop
  | some ws =>
    refine ⟨ws,rfl,?_⟩
    intro screen displays
    rw [Screen.foldl_note]
    exact ⟨h.told _ displays.shown,by rw [displays.mixer]; exact h.mixerStep.fold⟩

def Bare (watches : Option Watches) : Prop := ∀held,watches=some held → held=∅

/-- A connection without a watch stays so and hears nothing of the mixer. -/
def Rests (before after : Option Watches) (events : List CoreEvent) : Prop :=
  Bare before → Bare after ∧ (tally events).mixers=[]

theorem Rests.still (ws : Option Watches) : Rests ws ws [] := fun bare => ⟨bare,rfl⟩

theorem Rests.trans {middle : Option Watches} {more : List CoreEvent}
    (h : Rests before middle evts) (g : Rests middle after more) :
    Rests before after (evts++more) := by
  intro bare
  obtain ⟨between,first⟩ := h bare
  obtain ⟨later,second⟩ := g between
  exact ⟨later,by simp [tally_append,first,second]⟩

/-- Only START gives a connection a watch. -/
theorem Move.rests (h : Move op cid before after events)
    (hop : ∀mid specs,op≠.start cid mid specs) :
    Rests before after events := by
  intro bare
  have remains : Bare after := by
    rintro next rfl
    cases h with
    | kept => exact bare next rfl
    | joined => rfl
    | control ws next events quiet change =>
      cases bare ws rfl
      apply ExtTreeMap.ext_getElem?
      intro sk
      simpa using change.views sk
    | stopped ws sk =>
      cases bare ws rfl
      simp
    | observed ws next events observation hop change =>
      cases bare ws rfl
      cases change with
      | ignored => rfl
      | applied session next events present => simp at present
    | started ws next events mid specs starts => exact absurd starts (hop mid specs)
  refine ⟨remains,?_⟩
  by_contra hm
  obtain ⟨ws,next,rfl,rfl⟩ := h.live hm
  refine h.mixerStep.changed hm ?_
  rw [bare ws rfl,remains next rfl]

theorem step_continues (m : CoreWatchManager C I) (op : Operation) (a : TraceId)
    (hop : op≠.connect a) :
    Continues (m.store.watches? a) ((m.step op).2.store.watches? a) ((m.step op).1.eventsFor a) :=
  (step_move m op a).continues hop

theorem step_rests (m : CoreWatchManager C I) (op : Operation) (a : TraceId)
    (hop : ∀mid specs,op≠.start a mid specs) :
    Rests (m.store.watches? a) ((m.step op).2.store.watches? a) ((m.step op).1.eventsFor a) :=
  (step_move m op a).rests hop

end CoursePlanner.Watch
