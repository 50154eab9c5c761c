import CoursePlanner.Open.Dispatch

set_option maxRecDepth 8000

namespace CoursePlanner.Open

open Std Library Contracts OriginEdfScheduler

/-- Some point of the grid after the completion is within the clock. -/
def Unsaturated (scheduledDue completedAt : MonotonicTime) (interval : Nat) : Prop :=
  ∃k,completedAt.millis < scheduledDue.millis+k*interval ∧ scheduledDue.millis+k*interval≤u64Max

/-- The first point of the grid after the completion. -/
structure FirstAfter (scheduledDue completedAt : MonotonicTime) (interval : Nat)
    (next : MonotonicTime) : Prop where
  later : completedAt<next
  point : ∃k,next.millis=scheduledDue.millis+k*interval
  least : ∀k,completedAt.millis < scheduledDue.millis+k*interval →
    next.millis ≤ scheduledDue.millis+k*interval

variable {due ca : MonotonicTime} {i : Nat}

theorem firstFutureDue_firstAfter (positive : 0 < i) (fits : Unsaturated due ca i) :
    FirstAfter due ca i (firstFutureDue due (.fromMillis i) ca) := by
  obtain ⟨k,later,within⟩ := fits
  by_cases early : ca<due
  · unfold firstFutureDue
    rw [if_pos early]
    exact ⟨early,⟨0,by simp⟩,fun _ _ => Nat.le_add_right _ _⟩
  have ordered : due.millis≤ca.millis := Nat.le_of_not_lt early
  have below := Nat.lt_div_mul_add (a := ca.millis-due.millis) positive
  have above := Nat.div_mul_le_self (ca.millis-due.millis) i
  have next : firstFutureDue due (.fromMillis i) ca=
      ⟨Contracts.saturatingAdd due.millis (saturatingMul
        (((ca.millis-due.millis)/max (millisOrMax (.fromMillis i)) 1+1)%2^64)
        (max (millisOrMax (.fromMillis i)) 1))⟩ := by
    unfold firstFutureDue
    rw [if_neg early]
  have first : ∀j,ca.millis<due.millis+j*i → (ca.millis-due.millis)/i+1≤j := by
    intro j after
    exact Nat.lt_of_mul_lt_mul_right (a := i) (by omega)
  have few := Nat.mul_le_mul_right i (first k later)
  rw [Nat.add_mul] at few
  have millis : max (millisOrMax (.fromMillis i)) 1=i := by
    unfold millisOrMax Duration.asMillis Duration.fromMillis
    dsimp only
    omega
  have steps := Nat.le_mul_of_pos_right ((ca.millis-due.millis)/i) positive
  rw [millis,Nat.mod_eq_of_lt (by unfold u64Max at within; omega)] at next
  unfold Contracts.saturatingAdd saturatingMul at next
  rw [Nat.add_mul,Nat.one_mul,Nat.min_eq_left (by omega),Nat.min_eq_left (by omega)] at next
  rw [next]
  refine ⟨?_,⟨(ca.millis-due.millis)/i+1,by rw [Nat.add_mul,Nat.one_mul]⟩,?_⟩
  · change ca.millis<due.millis+_
    omega
  intro j after
  have least := Nat.mul_le_mul_right i (first j after)
  rw [Nat.add_mul,Nat.one_mul] at least
  exact Nat.add_le_add_left least _

/-- The dispatches of a job, oldest first. -/
def noteDispatches (key : OriginJobKey) (_ : OriginEdfScheduler) (operation : SchedulerOperation)
    (outcome : SchedulerOutcome) (_ : OriginEdfScheduler) (log : List OriginDispatch) :
    List OriginDispatch :=
  match operation,outcome with
  | .startNext _,.dispatch (some dispatch) => if dispatch.key=key then log++[dispatch] else log
  | _,_ => log

abbrev pacing (key : OriginJobKey) : OriginEdfScheduler × List OriginDispatch →
    SchedulerOperation → SchedulerOutcome × OriginEdfScheduler × List OriginDispatch :=
  traced OriginEdfScheduler.step (noteDispatches key)

/-- The dispatches of the job complete without a retry or a saturation, and nothing else
writes its next due or its interval. -/
def SchedulerOperation.Steady (key : OriginJobKey) (interval : Nat)
    (scheduler : OriginEdfScheduler) : SchedulerOperation → Prop
  | .startNext _ => True
  | .finish token completedAt completion => ∀inFlight,scheduler.inFlight=some inFlight →
      inFlight.key=key → inFlight.token=token → (∀directive,completion≠.retry directive) ∧
        Unsaturated inFlight.scheduledDue completedAt interval
  | operation => ((scheduler.step operation).2.jobs[key]?.map fun job =>
      (job.nextDue,job.interval))=scheduler.jobs[key]?.map fun job => (job.nextDue,job.interval)

/-- The dispatches so far are behind the next due, or behind the start of the one in flight. -/
structure Paced (key : OriginJobKey) (interval base : Nat) (inFlight : Option InFlight)
    (nextDue : MonotonicTime) (log : List OriginDispatch) : Prop where
  next : ∃k,nextDue.millis=base+k*interval
  points : ∀dispatch∈log,(∃k,dispatch.scheduledDue.millis=base+k*interval) ∧
    dispatch.scheduledDue ≤ dispatch.startedAt
  apart : log.Pairwise (fun a b => a.scheduledDue<b.scheduledDue ∧ a.startedAt<b.scheduledDue)
  running : ∀running,inFlight=some running → running.key=key → nextDue=running.scheduledDue ∧
    ∀dispatch∈log,dispatch.scheduledDue ≤ running.startedAt ∧
      dispatch.startedAt ≤ running.startedAt
  idle : (∀running,inFlight=some running → running.key≠key) →
    ∀dispatch∈log,dispatch.scheduledDue<nextDue ∧ dispatch.startedAt<nextDue

def OnGrid (key : OriginJobKey) (interval base : Nat)
    (s : OriginEdfScheduler × List OriginDispatch) : Prop :=
  ∃job,s.1.jobs[key]?=some job ∧ job.interval=.fromMillis interval ∧
    Paced key interval base s.1.inFlight job.nextDue s.2

section Paced

variable {key : OriginJobKey} {base : Nat} {fl : Option InFlight} {log : List OriginDispatch}

theorem Paced.elsewhere (h : Paced key i base fl due log) {other : Option InFlight}
    (before : ∀running,fl=some running → running.key≠key)
    (after : ∀running,other=some running → running.key≠key) : Paced key i base other due log :=
  ⟨h.next,h.points,h.apart,fun running here same => absurd same (after running here),
    fun _ => h.idle before⟩

theorem Paced.started (h : Paced key i base none due log) {dp : OriginDispatch}
    {running : InFlight} (scheduled : dp.scheduledDue=due)
    (ready : due ≤ dp.startedAt) (here : running.key=key)
    (same : running.scheduledDue=due ∧ running.startedAt=dp.startedAt) :
    Paced key i base (some running) due (log++[dp]) := by
  have behind := h.idle nofun
  refine ⟨h.next,?_,?_,?_,fun elsewhere => absurd here (elsewhere _ rfl)⟩
  · intro later member
    rcases List.mem_append.mp member with old | new
    · exact h.points later old
    · rw [List.mem_singleton.mp new,scheduled]
      exact ⟨h.next,ready⟩
  · refine List.pairwise_append.mpr ⟨h.apart,List.pairwise_singleton _ _,?_⟩
    intro earlier member later new
    rw [List.mem_singleton.mp new,scheduled]
    exact behind earlier member
  · rintro _ ⟨⟩ -
    refine ⟨same.1.symm,?_⟩
    rw [same.2]
    intro later member
    rcases List.mem_append.mp member with old | new
    · obtain ⟨before,begun⟩ := behind later old
      exact ⟨Nat.le_of_lt (Nat.lt_of_lt_of_le before ready),
        Nat.le_of_lt (Nat.lt_of_lt_of_le begun ready)⟩
    · rw [List.mem_singleton.mp new,scheduled]
      exact ⟨ready,Nat.le_refl _⟩

theorem Paced.completed {running : InFlight} {next : MonotonicTime}
    (h : Paced key i base (some running) due log) (here : running.key=key)
    (ordered : running.startedAt ≤ ca)
    (first : FirstAfter running.scheduledDue ca i next) :
    Paced key i base none next log := by
  obtain ⟨same,behind⟩ := h.running running rfl here
  refine ⟨?_,h.points,h.apart,nofun,?_⟩
  · obtain ⟨m,point⟩ := h.next
    obtain ⟨k,later⟩ := first.point
    refine ⟨m+k,?_⟩
    rw [later,← same,point,Nat.add_mul,Nat.add_assoc]
  · intro _ dp member
    obtain ⟨scheduled,begun⟩ := behind dp member
    have passed : running.startedAt<next := Nat.lt_of_le_of_lt ordered first.later
    exact ⟨Nat.lt_of_le_of_lt scheduled passed,Nat.lt_of_le_of_lt begun passed⟩

end Paced

theorem complete_firstAfter (positive : 0 < i) {job : JobSchedule} {fl : InFlight}
    {cp : CompletionSchedule} (iv : job.interval=.fromMillis i)
    (settles : ∀directive,cp≠.retry directive)
    (fits : Unsaturated fl.scheduledDue ca i) :
    (job.complete fl ca cp).interval=.fromMillis i ∧ FirstAfter fl.scheduledDue ca i
        (job.complete fl ca cp).nextDue := by
  have first := firstFutureDue_firstAfter positive fits
  rw [← iv] at first ⊢
  unfold JobSchedule.complete
  cases cp with
  | success =>
    dsimp only
    split <;> exact ⟨rfl,first⟩
  | catalogRace => exact ⟨rfl,first⟩
  | retry directive => exact absurd rfl (settles directive)

variable {key : OriginJobKey} {base : Nat} {s : OriginEdfScheduler × List OriginDispatch}

theorem OnGrid.step (positive : 0 < i) (h : OnGrid key i base s) (op : SchedulerOperation)
    (steady : op.Steady key i s.1) : OnGrid key i base (pacing key s op).2 := by
  obtain ⟨job,known,iv,paced⟩ := h
  have frame := step_frame s.1 op
  cases op with
  | startNext now =>
    obtain ⟨circuit,answer⟩ := startNext_choice s.1 now
    rcases choice : s.1.choice now with _ | ⟨probe,other,chosen⟩ <;> rw [choice] at answer
    · have next : (pacing key s (.startNext now)).2=({ s.1 with circuit := circuit },s.2) := by
        simp [traced,OriginEdfScheduler.step,answer,noteDispatches]
      rw [next]
      exact ⟨job,known,iv,paced⟩
    · obtain ⟨dp,started,-,rfl,-,due,begun,-⟩ := answer
      obtain ⟨free,found,ready,-⟩ := choice_cases s.1 now choice
      rw [free] at paced
      have next : (pacing key s (.startNext now)).2=((s.1.startNext now).2,
          if dp.key=key then s.2++[dp] else s.2) := by
        simp [traced,OriginEdfScheduler.step,started,noteDispatches]
      rw [next,started]
      by_cases same : dp.key=key
      · subst same
        cases known.symm.trans found
        rw [if_pos rfl]
        exact ⟨{ job with lastStart := some now },by simp,iv,
          paced.started due (begun ▸ ready) rfl ⟨rfl,begun.symm⟩⟩
      · rw [if_neg same]
        refine ⟨job,by simp [getElem?_insert_eq,same,known],iv,paced.elsewhere (by simp) ?_⟩
        rintro _ ⟨⟩
        exact same
  | finish token ca cp =>
    change OnGrid key i base ((s.1.finish token ca cp).2,s.2)
    unfold OriginEdfScheduler.finish
    cases running : s.1.inFlight with
    | none => exact ⟨job,known,iv,paced⟩
    | some fl =>
      dsimp only
      split
      · exact ⟨job,known,iv,paced⟩
      next named =>
      split
      · exact ⟨job,known,iv,paced⟩
      next ordered =>
      rw [running] at paced
      by_cases here : fl.key=key
      · obtain ⟨settles,fits⟩ := steady fl running here (Decidable.not_not.mp named)
        obtain ⟨same,first⟩ := complete_firstAfter positive iv settles fits
        rw [here,known]
        exact ⟨_,by simp,same,paced.completed here (Nat.le_of_not_lt ordered) first⟩
      · have kept : Paced key i base none job.nextDue s.2 :=
          paced.elsewhere (by rintro _ ⟨⟩; exact here) (by simp)
        cases found : s.1.jobs[fl.key]? with
        | none => exact ⟨job,known,iv,kept⟩
        | some other => exact ⟨job,by simp [getElem?_insert_eq,here,known],iv,kept⟩
  | _ =>
    obtain ⟨jobs,circuit,left⟩ := frame (by simp) (by simp)
    obtain ⟨after,found,same⟩ := Option.map_eq_some_iff.mp (steady.trans (by rw [known]; rfl))
    obtain ⟨nextDue,unchanged⟩ := Prod.mk.inj same
    refine ⟨after,found,unchanged.trans iv,?_⟩
    change Paced key i base (s.1.step _).2.inFlight after.nextDue s.2
    rw [left,nextDue]
    exact paced

/-- A completion moves the job to the first point of its grid after it. While nothing else moves
the job, its dispatches are rising points of one grid, each due after the start of the one before. -/
theorem completions_follow_the_grid (positive : 0 < i) :
    (∀(s : OriginEdfScheduler) fl job cp ca,s.inFlight=some fl →
      s.jobs[fl.key]?=some job → job.interval=.fromMillis i →
      fl.startedAt ≤ ca → (∀directive,cp≠.retry directive) →
      Unsaturated fl.scheduledDue ca i →
      ∃next,(s.step (.finish fl.token ca cp)).2.jobs[fl.key]?=
          some next ∧ FirstAfter fl.scheduledDue ca i next.nextDue) ∧
    ∀key (s : OriginEdfScheduler) job ops,s.jobs[key]?=some job →
      job.interval=.fromMillis i → (∀running,s.inFlight=some running → running.key≠key) →
      Along (pacing key) (fun s operation => operation.Steady key i s.1) (s,[]) ops →
      (∀dp∈(run (pacing key) (s,[]) ops).2, (∃k,dp.scheduledDue.millis=job.nextDue.millis+k*i) ∧
          dp.scheduledDue ≤ dp.startedAt) ∧
      (run (pacing key) (s,[]) ops).2.Pairwise (fun a b =>
        a.scheduledDue<b.scheduledDue ∧ a.startedAt<b.scheduledDue) := by
  refine ⟨?_,?_⟩
  · intro s fl job cp ca running known interval ordered settles fits
    rw [finish_done s fl ca cp job running ordered known]
    exact ⟨_,by simp,(complete_firstAfter positive interval settles fits).2⟩
  intro key s job ops known interval idle steady
  have start : OnGrid key i job.nextDue.millis (s,[]) :=
    ⟨job,known,interval,⟨0,by simp⟩,nofun,.nil,fun running here same =>
      absurd same (idle running here),fun _ => nofun⟩
  obtain ⟨_,-,-,paced⟩ := steady.preserves (OnGrid key i job.nextDue.millis) start
    (fun s op steady h => h.step positive op steady)
  exact ⟨paced.points,paced.apart⟩

/-- A pull that ends two intervals late is not caught up on. -/
theorem completions_follow_the_grid_late :
    let s := run step .new [.registerOpen nbFall2026 .fixed 1 ⟨0⟩ ⟨0⟩]
    let log := (run (pacing (.open nbFall2026)) (s,[])
      [.startNext ⟨0⟩,.finish 1 ⟨25000⟩ .success,.startNext ⟨30000⟩]).2
    log.map (fun dp => dp.scheduledDue.millis)=[0,30000] ∧
      log.Pairwise (fun a b => a.scheduledDue<b.scheduledDue ∧ a.startedAt<b.scheduledDue) := by
  intro s log
  refine ⟨by decide,?_⟩
  have known : s.jobs[OriginJobKey.open nbFall2026]?.map JobSchedule.interval=
    some (.fromMillis 10000) := by decide
  obtain ⟨job,known,interval⟩ := Option.map_eq_some_iff.mp known
  refine ((completions_follow_the_grid (by decide)).2 _ s job
    [.startNext ⟨0⟩,.finish 1 ⟨25000⟩ .success,.startNext ⟨30000⟩] known interval ?_
    ⟨trivial,?_,trivial,trivial⟩).2
  · rw [show s.inFlight=none by decide]
    nofun
  · intro fl running _ _
    obtain rfl : fl=⟨1,.open nbFall2026,⟨0⟩,⟨0⟩,false⟩ :=
      Option.some.inj (running.symm.trans (by decide))
    exact ⟨fun _ => nofun,3,by decide,by decide⟩

end CoursePlanner.Open
