import CoursePlanner.Open.Dispatch

set_option maxRecDepth 8000

namespace CoursePlanner.Open

open Std Library Contracts OriginEdfScheduler

/-- The circuit is bound to the job. -/
def OriginCircuit.Blames (circuit : OriginCircuit) (key : OriginJobKey) : Prop :=
  ∃recheckAfter authorized,circuit=.fatalDiagnostic key recheckAfter authorized

/-- The operations after which the lane of an Open job agrees with its watch count. Clearing
the count leaves the lane of a pending one-shot, demoting leaves that of a job without
pending work, which only a diagnostic probe dispatches, and a request names any lane. -/
def SchedulerOperation.KeepsLane (scheduler : OriginEdfScheduler) : SchedulerOperation → Prop
  | .setOpenWatchCount target _ count _ => count=0 → ∀job,
      scheduler.jobs[OriginJobKey.open target]?=some job → job.oneShotPending=true →
      job.lane≠.openActiveWatch
  | .demoteOpen target _ count _ => count=0 → scheduler.circuit.Blames (.open target) → ∀job,
      scheduler.jobs[OriginJobKey.open target]?=some job → job.oneShotPending=false →
      job.lane≠.openActiveWatch
  | .requestOpenDue target _ lane => lane=.openActiveWatch → ∀job,
      scheduler.jobs[OriginJobKey.open target]?=some job → 0<job.activeWatchCount
  | _ => True

/-- A job that may be dispatched is in the active-watch lane only for a watched Open target,
and so is the normal lane of any job. -/
structure LaneKept (circuit : OriginCircuit) (key : OriginJobKey) (job : JobSchedule) : Prop where
  normal : job.normalLane=.openActiveWatch → key.kind=.open ∧ 0<job.activeWatchCount
  lane : job.active=true ∨ circuit.Blames key → job.lane=.openActiveWatch →
    key.kind=.open ∧ 0<job.activeWatchCount

def LanesKept (scheduler : OriginEdfScheduler) : Prop :=
  ∀key job,scheduler.jobs[key]?=some job → LaneKept scheduler.circuit key job

theorem LaneKept.returned {circuit : OriginCircuit} {key : OriginJobKey} {job : JobSchedule}
    (normal : job.normalLane=.openActiveWatch → key.kind=.open ∧ 0<job.activeWatchCount)
    (lane : job.lane=job.normalLane) : LaneKept circuit key job :=
  ⟨normal,fun _ watched => normal (lane ▸ watched)⟩

theorem openLane_watched {count : Nat}
    (h : JobSchedule.openLane (0<count)=.openActiveWatch) : 0<count := by
  unfold JobSchedule.openLane at h
  split at h
  · next watched => simpa using watched
  · cases h

variable {s : OriginEdfScheduler} {op : SchedulerOperation} {key : OriginJobKey}
    {job : JobSchedule}

theorem JobMove.laneKept (move : JobMove s op key job) (h : LanesKept s) (keeps : op.KeepsLane s)
    (runs : ∀token ca cp,op≠.finish token ca cp) :
    LaneKept s.circuit key job := by
  have registered : ∀t ivs count fd recurring now,
      (JobSchedule.upsertedOpen s.jobs[OriginJobKey.open t]?
        (openRegistration ivs count fd recurring) now).normalLane=.openActiveWatch →
      0<count := by
    intro t ivs count fd recurring now
    rw [(upsertedOpen_registered _ _ _).2.1]
    exact openLane_watched
  cases move with
  | registerCatalog t | registerCatalogInitial t | registerCatalogOneShot t =>
    cases s.jobs[OriginJobKey.catalog t]? <;> exact ⟨nofun,fun _ => nofun⟩
  | activateCatalog => exact ⟨nofun,fun _ => nofun⟩
  | demoteCatalog _ maintenance =>
    unfold JobSchedule.demoteCatalog
    cases maintenance with
    | none => exact ⟨nofun,fun _ => nofun⟩
    | some interval =>
      dsimp only
      split <;> exact ⟨nofun,fun _ => nofun⟩
  | registerOpen t ivs count now fd =>
    obtain ⟨lane,normal,counted⟩ := upsertedOpen_registered
      s.jobs[OriginJobKey.open t]? (openRegistration ivs count fd true) now
    refine .returned (fun watched => ⟨rfl,?_⟩) (lane.trans normal.symm)
    rw [counted]
    exact registered _ _ _ _ _ _ watched
  | registerOpenInitial t ivs count now fd job written =>
    obtain ⟨lane,normal,counted⟩ := upsertedOpen_registered
      s.jobs[OriginJobKey.open t]? (openRegistration ivs count fd false) now
    have kept := registered t ivs count fd false now
    rw [← written] at lane normal counted kept
    rw [← show job.activeWatchCount=count from counted] at kept
    split
    · exact ⟨fun watched => ⟨rfl,kept watched⟩,fun _ => nofun⟩
    · exact .returned (fun watched => ⟨rfl,kept watched⟩) (lane.trans normal.symm)
  | setCatalogWatchCount t count sd known =>
    have old := h _ sd known
    exact ⟨fun watched => absurd (old.normal watched).1 nofun,
      fun reached watched => absurd (old.lane reached watched).1 nofun⟩
  | activateOpen t ivs now sd known =>
    refine ⟨fun watched => ⟨rfl,openLane_watched watched⟩,fun _ watched => ⟨rfl,?_⟩⟩
    unfold JobSchedule.activateOpen at watched
    dsimp only at watched
    split at watched
    · exact openLane_watched watched
    · next kept =>
      simp only [Bool.or_eq_true,Bool.not_eq_true',not_or,Bool.not_eq_false] at kept
      exact ((h _ sd known).lane (.inl kept.2) watched).2
  | demoteOpen t ivs count now sd known =>
    unfold JobSchedule.demoteOpen
    split
    · next watched => exact .returned (fun _ => ⟨rfl,watched⟩) rfl
    next unwatched =>
    refine ⟨nofun,fun reached watched => ?_⟩
    cases pending : sd.oneShotPending with
    | true => simp [pending] at watched
    | false =>
      simp only [pending,Bool.false_eq_true,false_or] at reached watched
      exact absurd watched (keeps (by simpa using unwatched) reached sd known pending)
  | setOpenWatchCount t ivs count now sd known =>
    unfold JobSchedule.setOpenWatchCount
    dsimp only
    have lane : (if decide (0<count) || !sd.oneShotPending then
        JobSchedule.openLane (0<count) else sd.lane)=.openActiveWatch → 0<count := by
      split
      · exact openLane_watched
      next pending =>
      simp only [Bool.or_eq_true,decide_eq_true_eq,Bool.not_eq_true',not_or,
        Bool.not_eq_false] at pending
      exact fun watched => absurd watched (keeps (by omega) sd known pending.2)
    split
    · exact ⟨fun watched => ⟨rfl,openLane_watched watched⟩,fun _ watched => ⟨rfl,lane watched⟩⟩
    · split <;>
        exact ⟨fun watched => ⟨rfl,openLane_watched watched⟩,fun _ watched => ⟨rfl,lane watched⟩⟩
  | requestOpenDue t due lane sd known =>
    refine ⟨(h _ sd known).normal,fun _ watched => ⟨rfl,?_⟩⟩
    unfold JobSchedule.requestDue at watched ⊢
    dsimp only at watched
    split at watched
    · assumption
    · exact keeps watched sd known
  | requestManualTargetRetry _ now key _ sd _ known =>
    refine ⟨(h _ sd known).normal,fun _ watched => ?_⟩
    unfold JobSchedule.manualRetry at watched ⊢
    cases kind : key.kind with
    | catalog => simp [kind] at watched
    | «open» =>
      refine ⟨rfl,?_⟩
      simp only [kind] at watched
      split at watched
      · assumption
      · cases watched
  | completeOpenBootstrap _ _ sd known | adoptExternalOpenState _ _ _ _ sd known =>
    exact .returned (h _ sd known).normal rfl
  | startNext _ key sd known =>
    have old := h _ sd known
    exact ⟨old.normal,old.lane⟩
  | finish fl ca cp => exact absurd rfl (runs _ ca cp)

/-- Only a completion blames a job that was not blamed before. -/
theorem blames_of_step (runs : ∀token ca cp,op≠.finish token ca cp)
    (blamed : (s.step op).2.circuit.Blames key) : s.circuit.Blames key := by
  have move := step_controlled s op
  unfold Controlled at move
  generalize (s.step op).2.circuit=circuit, (s.step op).2.inFlight=fl,
    circuitEvent s op (s.step op).1=event at move blamed
  obtain ⟨recheckAfter,authorized,same⟩ := blamed
  cases move with
  | kept => exact ⟨_,_,same⟩
  | expired | started => cases same
  | retried _ _ _ _ _ _ fatal | authorized _ _ _ _ fatal | probed _ _ _ _ fatal =>
    cases same
    exact ⟨_,_,fatal⟩
  | finished _ ca _ cp => exact absurd rfl (runs _ ca cp)
  | lost token ca cp => exact absurd rfl (runs token ca cp)

theorem finish_lanesKept (h : LanesKept s) (token : Nat) (ca : MonotonicTime)
    (cp : CompletionSchedule) :
    LanesKept (s.finish token ca cp).2 := by
  unfold OriginEdfScheduler.finish
  cases running : s.inFlight with
  | none => exact h
  | some fl =>
    dsimp only
    split
    · exact h
    split
    · exact h
    cases known : s.jobs[fl.key]? with
    | none => exact h
    | some sd =>
      intro key job found
      simp only [getElem?_insert_eq] at found
      split at found
      · next same =>
        subst same
        cases found
        have normal := (h _ sd known).normal
        unfold JobSchedule.complete
        cases cp with
        | success =>
          dsimp only
          split <;> exact .returned normal rfl
        | catalogRace | retry => exact .returned normal rfl
      · next other =>
        have old := h key job found
        refine ⟨old.normal,fun reached => old.lane (reached.imp_right ?_)⟩
        rintro ⟨recheckAfter,authorized,blamed⟩
        by_contra unblamed
        exact completedCircuit_blames _ _ _ _ key other
          (fun later granted same => unblamed ⟨later,granted,same⟩) _ _ blamed

theorem step_lanesKept (keeps : op.KeepsLane s) (h : LanesKept s) : LanesKept (s.step op).2 := by
  by_cases runs : ∀token ca cp,op≠.finish token ca cp
  · intro key job found
    have kept : LaneKept s.circuit key job := by
      obtain same | ⟨written,now,move⟩ := (step_moved s op).lookup key
      · exact h key job (same.symm.trans found)
      · rw [now] at found
        cases found
        exact move.laneKept h keeps runs
    exact ⟨kept.normal,fun reached => kept.lane (reached.imp_right (blames_of_step runs))⟩
  · push Not at runs
    obtain ⟨token,ca,cp,rfl⟩ := runs
    exact finish_lanesKept h token ca cp

/-- In a run whose operations keep the lanes, the active-watch lane belongs to watched targets:
no other target has an active job in it, or is hinted or dispatched in it. -/
theorem active_watch_lane_is_watched (operations : List SchedulerOperation)
    (kept : Along step (fun s op => op.KeepsLane s) .new operations)
    (now : MonotonicTime) :
    (∀t job,(run step .new operations).jobs[OriginJobKey.open t]?=some job →
      job.active=true → job.activeWatchCount=0 → job.lane≠.openActiveWatch) ∧
    (∀hint,(run step .new operations).nextDispatchHint now=some hint →
      hint.activeWatchCount=0 → hint.lane≠.openActiveWatch) ∧
    ∀dispatch job,((run step .new operations).startNext now).1=some dispatch →
      (run step .new operations).jobs[dispatch.key]?=some job → job.activeWatchCount=0 →
      dispatch.lane≠.openActiveWatch := by
  have lanes : LanesKept (run step .new operations) :=
    kept.preserves LanesKept (by intro key job found; simp [OriginEdfScheduler.new] at found)
      (fun s op keeps h => step_lanesKept keeps h)
  generalize run step .new operations=s at lanes
  have chosen : ∀probe key job,s.choice now=some (probe,key,job) →
      s.jobs[key]?=some job ∧ (job.activeWatchCount=0 → job.lane≠.openActiveWatch) := by
    intro probe key job choice
    obtain ⟨-,known,-,reached⟩ := choice_cases s now choice
    have reached := reached.imp (fun least => least.2.active) id
    exact ⟨known,fun unwatched watched =>
      absurd ((lanes key job known).lane reached watched).2 (by omega)⟩
  refine ⟨?_,?_,?_⟩
  · intro t job known active unwatched watched
    exact absurd ((lanes _ job known).lane (.inl active) watched).2 (by omega)
  · intro hint hinted
    rw [nextDispatchHint_choice] at hinted
    obtain ⟨⟨probe,key,job⟩,choice,rfl⟩ := Option.map_eq_some_iff.mp hinted
    exact (chosen probe key job choice).2
  · intro dispatch job started known
    obtain ⟨circuit,answer⟩ := startNext_choice s now
    rcases choice : s.choice now with _ | ⟨probe,key,chosenJob⟩ <;> rw [choice] at answer
    · simp [answer] at started
    obtain ⟨same,begun,-,rfl,lane,-⟩ := answer
    rw [begun] at started
    cases started
    obtain ⟨found,watched⟩ := chosen probe _ chosenJob choice
    rw [known] at found
    cases found
    rw [lane]
    exact watched

theorem active_watch_lane_is_watched_pull :
    ((run step .new watchedPull).startNext ⟨10000⟩).1.map OriginDispatch.lane=
      some .openActiveWatch ∧
    ∀hint,(run step .new watchedPull).nextDispatchHint ⟨10000⟩=some hint →
      hint.activeWatchCount=0 → hint.lane≠.openActiveWatch :=
  ⟨by decide,(active_watch_lane_is_watched watchedPull ⟨trivial,trivial,trivial,trivial⟩
    ⟨10000⟩).2.1⟩

/-- A pending one-shot keeps the lane of the watch that is gone. -/
theorem active_watch_lane_is_unwatched :
    let s := run step .new [.registerOpenInitial nbFall2026 .fixed 1 ⟨0⟩ ⟨0⟩,
      .setOpenWatchCount nbFall2026 .fixed 0 ⟨0⟩]
    (s.jobs[OriginJobKey.open nbFall2026]?.map fun job =>
      (job.active,job.activeWatchCount,job.lane))=some (true,0,.openActiveWatch) ∧
    (s.nextDispatchHint ⟨30000⟩).map (fun hint => (hint.activeWatchCount,hint.lane))=
      some (0,.openActiveWatch) ∧
    (s.startNext ⟨30000⟩).1.map OriginDispatch.lane=some .openActiveWatch := by
  decide

end CoursePlanner.Open
