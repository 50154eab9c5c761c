import CoursePlanner.Open.Moves

set_option maxRecDepth 8000

namespace CoursePlanner.Open

open Std Library Contracts

/-- The scheduler with the events of its circuit, newest first. -/
def noteCircuit (scheduler : OriginEdfScheduler) (operation : SchedulerOperation)
    (outcome : SchedulerOutcome) (_ : OriginEdfScheduler) (events : List CircuitEvent) :
    List CircuitEvent :=
  (circuitEvent scheduler operation outcome).toList++events

abbrev observing : OriginEdfScheduler × List CircuitEvent → SchedulerOperation →
    SchedulerOutcome × (OriginEdfScheduler × List CircuitEvent) :=
  traced OriginEdfScheduler.step noteCircuit

/-- Every dispatch under a fatal circuit directly follows an authorization of its job,
so no authorization is spent twice and none survives a completion. -/
def Spent (events : List CircuitEvent) : Prop :=
  ∀newer older job now,events=newer++.dispatched job true now::older →
    ∃recheckAfter earlier,older=.authorized job recheckAfter::earlier ∧ recheckAfter ≤ now

theorem spent_cons (event : CircuitEvent) (events : List CircuitEvent) (h : Spent events)
    (covered : ∀job now,event=.dispatched job true now →
      ∃ra earlier,events=.authorized job ra::earlier ∧ ra ≤ now) :
    Spent (event::events) := by
  intro newer older job now split
  cases newer with
  | nil =>
    obtain ⟨rfl,rfl⟩ := List.cons.inj split
    exact covered job now rfl
  | cons first newer => exact h newer older job now (List.cons.inj split).2

/-- The three facts carry each other: a probe runs only under its own fatal circuit, an
authorized circuit has just been authorized, and dispatches spend authorizations. -/
structure Guarded (s : OriginEdfScheduler × List CircuitEvent) : Prop where
  running : ∀inFlight,s.1.inFlight=some inFlight →
    (inFlight.diagnosticProbe=false ∧ s.1.circuit=.closed) ∨
    (inFlight.diagnosticProbe=true ∧ ∃recheckAfter authorized,
      s.1.circuit=.fatalDiagnostic inFlight.key recheckAfter authorized)
  granted : ∀job recheckAfter,s.1.circuit=.fatalDiagnostic job recheckAfter true →
    s.2.head?=some (.authorized job recheckAfter)
  spent : Spent s.2

theorem completedCircuit_unauthorized (cir : OriginCircuit) (fl : InFlight)
    (nextDue : MonotonicTime) (cp : CompletionSchedule)
    (ordinary : fl.diagnosticProbe=false → cir=.closed) (job : OriginJobKey)
    (ra : MonotonicTime) :
    completedCircuit cir fl nextDue cp≠.fatalDiagnostic job ra true := by
  cases probe : fl.diagnosticProbe with
  | false =>
    rw [ordinary probe]
    unfold completedCircuit
    split <;> simp only [probe] <;> (try split) <;> simp
  | true =>
    unfold completedCircuit
    split <;> simp only [probe,if_true]
    · simp
    · simp
    split
    · split <;> simp
    · simp
    · simp

theorem observing_guarded (s : OriginEdfScheduler × List CircuitEvent)
    (op : SchedulerOperation) (h : Guarded s) : Guarded (observing s op).2 := by
  have move := step_controlled s.1 op
  suffices goal : ∀cir fl event,ControlMove s.1 op cir fl event →
      ∀next : OriginEdfScheduler,next.circuit=cir → next.inFlight=fl →
        Guarded (next,event.toList++s.2) from goal _ _ _ move _ rfl rfl
  intro cir fl event move next hc hf
  cases move with
  | kept => exact ⟨by rw [hc,hf]; exact h.running,by rw [hc]; exact h.granted,h.spent⟩
  | expired => exact ⟨by simp [hf],by simp [hc],h.spent⟩
  | retried =>
    exact ⟨by simp [hf],by simp [hc],spent_cons _ _ h.spent (by simp)⟩
  | authorized _ _ _ _ fatal =>
    refine ⟨?_,by simp [hc],spent_cons _ _ h.spent (by simp)⟩
    intro running hr
    rw [hf] at hr
    obtain ⟨_,closed⟩|⟨probe,_,_,same⟩ := h.running running hr
    · rw [fatal] at closed
      cases closed
    · rw [fatal] at same
      cases same
      exact .inr ⟨probe,_,_,hc⟩
  | started _ _ _ _ _ _ _ notProbe =>
    refine ⟨?_,by simp [hc],spent_cons _ _ h.spent (by simp)⟩
    intro started hr
    rw [hf] at hr
    cases hr
    exact .inl ⟨notProbe,hc⟩
  | probed now running ra idle fatal cooled isProbe =>
    refine ⟨?_,by simp [hc],spent_cons _ _ h.spent ?_⟩
    · intro started hr
      rw [hf] at hr
      cases hr
      exact .inr ⟨isProbe,_,_,hc⟩
    · -- The flag that let the probe through was set by the newest event.
      intro job at_ hd
      cases hd
      obtain ⟨earlier,he⟩ := List.head?_eq_some_iff.mp (h.granted _ _ fatal)
      exact ⟨ra,earlier,he,cooled⟩
  | finished running _ _ _ active =>
    refine ⟨by simp [hf],?_,spent_cons _ _ h.spent (by simp)⟩
    have ordinary : running.diagnosticProbe=false → s.1.circuit=.closed := by
      intro ordinary
      obtain ⟨_,closed⟩|⟨probe,_⟩ := h.running running active
      · exact closed
      · rw [ordinary] at probe
        cases probe
    intro job ra hs
    exact absurd (hc.symm.trans hs) (completedCircuit_unauthorized _ _ _ _ ordinary _ _)
  | lost => exact ⟨by simp [hf],by rw [hc]; exact h.granted,h.spent⟩

theorem reachable_guarded {s : OriginEdfScheduler × List CircuitEvent}
    (h : Reachable observing (.new,[]) s) : Guarded s := by
  refine h.invariant Guarded ⟨?_,?_,?_⟩ observing_guarded
  · intro fl hf
    cases hf
  · intro job ra hc
    cases hc
  · intro newer older job now split
    cases newer <;> cases split

/-- The completions that let the circuit leave its fatal state, with where they lead. -/
def Recovers (completion : CompletionSchedule) (circuit : OriginCircuit) : Prop :=
  (circuit=.closed ∧ (completion=.success ∨ completion=.catalogRace ∨
    ∃directive,completion=.retry directive ∧ directive.mode=.automatic ∧
      directive.clearsFatalDiagnostic=true)) ∨
  ∃directive wait,completion=.retry directive ∧ directive.mode=.originCircuit ∧
    circuit=.retryAfter wait

theorem completedCircuit_recovers (cir : OriginCircuit) (fl : InFlight)
    (nextDue : MonotonicTime) (cp : CompletionSchedule)
    (probe : fl.diagnosticProbe=true)
    (left : ∀ra authorized,completedCircuit cir fl nextDue cp≠
      .fatalDiagnostic fl.key ra authorized) :
    Recovers cp (completedCircuit cir fl nextDue cp) := by
  unfold completedCircuit at left ⊢
  cases cp with
  | success => exact .inl ⟨by simp [probe],.inl rfl⟩
  | catalogRace => exact .inl ⟨by simp [probe],.inr (.inl rfl)⟩
  | retry directive =>
    cases mode : directive.mode with
    | automatic =>
      simp only [mode,probe,if_true] at left ⊢
      split
      · next clears => exact .inl ⟨rfl,.inr (.inr ⟨directive,rfl,mode,clears⟩)⟩
      · next stays =>
        rw [if_neg stays] at left
        exact absurd rfl (left nextDue false)
    | originCircuit => exact .inr ⟨directive,nextDue,rfl,mode,by simp only [mode]⟩
    | explicitDiagnosticRecheck =>
      simp only [mode] at left
      exact absurd rfl (left nextDue false)

/-- A retry circuit holds every dispatch back; a fatal one lets through single authorized
probes of the failed job and is left only by the completion of such a probe. -/
theorem circuit_guards_dispatch (s : OriginEdfScheduler × List CircuitEvent)
    (h : Reachable observing (.new,[]) s) :
    (∀wait now,s.1.circuit=.retryAfter wait → now<wait → (s.1.startNext now).1=none) ∧
    (∀job recheckAfter authorized now dispatch,
      s.1.circuit=.fatalDiagnostic job recheckAfter authorized →
      (s.1.startNext now).1=some dispatch →
        dispatch.key=job ∧ authorized=true ∧ recheckAfter ≤ now ∧
        s.2.head?=some (.authorized job recheckAfter)) ∧
    Spent s.2 ∧
    (∀job recheckAfter authorized inFlight,
      s.1.circuit=.fatalDiagnostic job recheckAfter authorized →
      s.1.inFlight=some inFlight → inFlight.key=job ∧ inFlight.diagnosticProbe=true) ∧
    ∀job recheckAfter authorized operation,
      s.1.circuit=.fatalDiagnostic job recheckAfter authorized →
      (∀later granted,(s.1.step operation).2.circuit≠.fatalDiagnostic job later granted) →
      ∃inFlight completedAt completion,s.1.inFlight=some inFlight ∧ inFlight.key=job ∧
        inFlight.diagnosticProbe=true ∧ inFlight.startedAt ≤ completedAt ∧
        operation=.finish inFlight.token completedAt completion ∧
        Recovers completion (s.1.step operation).2.circuit := by
  have guarded := reachable_guarded h
  have probing : ∀job recheckAfter authorized inFlight,
      s.1.circuit=.fatalDiagnostic job recheckAfter authorized →
      s.1.inFlight=some inFlight → inFlight.key=job ∧ inFlight.diagnosticProbe=true := by
    intro job recheckAfter authorized inFlight fatal running
    obtain ⟨_,closed⟩|⟨probe,_,_,same⟩ := guarded.running inFlight running
    · rw [fatal] at closed
      cases closed
    · rw [fatal] at same
      cases same
      exact ⟨rfl,probe⟩
  refine ⟨?_,?_,guarded.spent,probing,?_⟩
  · intro wait now waiting early
    have move := startNext_move s.1 now
    generalize (s.1.startNext now).1=dispatched,(s.1.startNext now).2=next at move ⊢
    cases move with
    | refused => rfl
    | expired => rfl
    | ordinary _ _ _ _ _ passed =>
      obtain closed|⟨until_,same,elapsed⟩ := passed
      · rw [waiting] at closed
        cases closed
      · rw [waiting] at same
        cases same
        exact absurd elapsed (Nat.not_le_of_lt early)
    | probe _ _ _ _ _ _ fatal =>
      rw [waiting] at fatal
      cases fatal
  · intro job recheckAfter authorized now dispatch fatal started
    have move := startNext_move s.1 now
    generalize (s.1.startNext now).1=dispatched,(s.1.startNext now).2=next at move started
    cases move with
    | refused | expired => cases started
    | ordinary _ _ _ _ _ passed =>
      obtain closed|⟨until_,same,_⟩ := passed
      · rw [fatal] at closed
        cases closed
      · rw [fatal] at same
        cases same
    | probe _ _ _ _ _ _ same cooled _ key =>
      cases started
      rw [fatal] at same
      cases same
      exact ⟨key,rfl,cooled,guarded.granted _ _ fatal⟩
  · intro job recheckAfter authorized operation fatal left
    have move := step_controlled s.1 operation
    unfold Controlled at move
    generalize (s.1.step operation).2.circuit=circuit,(s.1.step operation).2.inFlight=flight,
      circuitEvent s.1 operation (s.1.step operation).1=event at move left ⊢
    cases move with
    | kept | lost => exact absurd fatal (left _ _)
    | expired _ wait idle waiting =>
      rw [fatal] at waiting
      cases waiting
    | retried _ _ _ _ _ _ again | authorized now same recheck granted again
    | probed now inFlight recheck idle again =>
      rw [fatal] at again
      cases again
      exact absurd rfl (left _ _)
    | started now inFlight schedule idle passed =>
      obtain closed|⟨until_,same,_⟩ := passed
      · rw [fatal] at closed
        cases closed
      · rw [fatal] at same
        cases same
    | finished inFlight completedAt nextDue completion running ordered =>
      obtain ⟨rfl,probe⟩ := probing job recheckAfter authorized inFlight fatal running
      exact ⟨inFlight,completedAt,completion,running,rfl,probe,ordered,rfl,
        completedCircuit_recovers _ _ _ _ probe left⟩

/-- An Open request fails fatally, and its recheck is authorized after the cooldown. -/
def fatalOperations : List SchedulerOperation :=
  [.registerOpen nbFall2026 .fixed 1 ⟨0⟩ ⟨0⟩,.startNext ⟨0⟩,
    .finish 1 ⟨5⟩ (.retry ⟨.fromMillis 100,.explicitDiagnosticRecheck,1,false⟩),
    .authorizeDiagnosticRecheck ⟨105⟩,.startNext ⟨110⟩]

theorem circuit_guards_dispatch_probe :
    (run observing (.new,[]) fatalOperations).2=[.dispatched (.open nbFall2026) true ⟨110⟩,
      .authorized (.open nbFall2026) ⟨105⟩,.finished,
      .dispatched (.open nbFall2026) false ⟨0⟩] ∧
    Spent (run observing (.new,[]) fatalOperations).2 :=
  ⟨by decide,(circuit_guards_dispatch _ (reachable_run observing (.new,[]) fatalOperations)).2.2.1⟩

end CoursePlanner.Open
