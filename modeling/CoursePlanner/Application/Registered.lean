import CoursePlanner.Application.ProductDemand
import CoursePlanner.Open.Dispatch

set_option maxRecDepth 8000

namespace CoursePlanner.Application

open Std Library Contracts Open SharedRefreshCoordinator

def JobSchedule.Steady (job : JobSchedule) : Prop := job.recurring=true ∧ job.active=true

/-- The Catalog job of a target, if there is one, keeps coming up. -/
def Steady (scheduler : OriginEdfScheduler) (target : TermCampusKey) : Prop :=
  ∀job,scheduler.jobs[OriginJobKey.catalog target]?=some job → JobSchedule.Steady job

section Scheduler

variable {s : OriginEdfScheduler} {op : SchedulerOperation} {t : TermCampusKey}

theorem catalog_move {job : JobSchedule} (move : JobMove s op (.catalog t) job)
    (h : catalogTarget op≠some t) : ∃old,s.jobs[OriginJobKey.catalog t]?=some old ∧
      (JobSchedule.Steady old → JobSchedule.Steady job) := by
  generalize hk : OriginJobKey.catalog t=key at move
  cases move with
  | registerCatalog | registerCatalogInitial | registerCatalogOneShot | activateCatalog
  | demoteCatalog =>
    cases hk
    exact absurd rfl h
  | registerOpen | registerOpenInitial | activateOpen | demoteOpen | setOpenWatchCount
  | requestOpenDue | completeOpenBootstrap | adoptExternalOpenState =>
    cases hk
  | setCatalogWatchCount _ _ sd known | startNext _ _ sd known => exact ⟨sd,known,id⟩
  | requestManualTargetRetry _ _ _ _ sd _ known => exact ⟨sd,known,fun old => ⟨old.1,rfl⟩⟩
  | finish fl ca cp sd _ _ known =>
    refine ⟨sd,known,?_⟩
    rintro ⟨recurring,active⟩
    unfold JobSchedule.complete JobSchedule.Steady
    cases cp with
    | success =>
      dsimp only
      split <;> simp [recurring,active]
    | catalogRace | retry => exact ⟨recurring,active⟩

theorem run_catalog (ops : List SchedulerOperation) (h : ∀op∈ops,catalogTarget op≠some t) :
    let after := run OriginEdfScheduler.step s ops
    (after.jobs[OriginJobKey.catalog t]?≠none → s.jobs[OriginJobKey.catalog t]?≠none) ∧
      (Steady s t → Steady after t) := by
  refine run_invariant (fun after : OriginEdfScheduler =>
    (after.jobs[OriginJobKey.catalog t]?≠none → s.jobs[OriginJobKey.catalog t]?≠none) ∧
      (Steady s t → Steady after t)) ⟨id,id⟩ ops ?_
  rintro after op mem ⟨present,kept⟩
  obtain same | ⟨job,written,move⟩ := (step_moved after op).lookup (.catalog t)
  · unfold Steady at kept ⊢
    rw [same]
    exact ⟨present,kept⟩
  obtain ⟨old,known,steady⟩ := catalog_move move (h op mem)
  refine ⟨fun _ => present (by simp [known]),?_⟩
  intro before found same
  rw [written] at same
  cases same
  exact steady (kept before old known)

theorem upsert_steady {reg : JobRegistration} (h : reg.mode=.recurring)
    (nonzero : reg.interval.isZero=false) : Steady (s.upsert (.catalog t) reg).2 t := by
  intro job found
  rw [upsert_of_nonzero s _ reg nonzero] at found
  simp only [ExtTreeMap.getElem?_insert_self,Option.some.injEq] at found
  subst found
  cases s.jobs[OriginJobKey.catalog t]? <;>
    simp [JobSchedule.Steady,JobSchedule.upserted,JobSchedule.register,JobSchedule.ofRegistration,h]

theorem activateCatalog_steady {iv : Duration} (now : MonotonicTime) (nonzero : iv.isZero=false)
    (h : s.jobs[OriginJobKey.catalog t]?≠none) : Steady (s.activateCatalog t iv now).2 t := by
  obtain ⟨old,known⟩ := Option.ne_none_iff_exists'.mp h
  intro job found
  unfold OriginEdfScheduler.activateCatalog at found
  rw [nonzero,if_neg Bool.false_ne_true,(updateJob_lookup s _ known).1] at found
  cases found
  exact ⟨rfl,rfl⟩

theorem demoteCatalog_steady {iv : Duration} (now : MonotonicTime) (nonzero : iv.isZero=false)
    (h : s.jobs[OriginJobKey.catalog t]?≠none) :
    Steady (s.demoteCatalog t (some iv) now).2 t := by
  obtain ⟨old,known⟩ := Option.ne_none_iff_exists'.mp h
  intro job found
  rw [(demoteCatalog_lookup s t (some iv) now known).1] at found
  cases found
  simp [JobSchedule.demoteCatalog,JobSchedule.Steady,nonzero]

end Scheduler

/-- Every Catalog job belongs to a target, and the one of a target that is not manual keeps
coming up. -/
structure Maintained (co : SharedRefreshCoordinator) : Prop where
  cadenced : ∃releasedWatched,Cadenced (co,releasedWatched)
  known : ∀target,co.scheduler.jobs[OriginJobKey.catalog target]?≠none → target∈co.targets
  steady : ∀target,target∉co.manualOneShotTargets ∨ target∈co.activatedTargets →
    Steady co.scheduler target

/-- A manual target is reclassified while its policy cannot be read: the mode is changed, the
Catalog job is not activated. -/
def SharedRefreshCoordinator.Strands (coordinator : SharedRefreshCoordinator) :
    CoordinatorOperation → Prop
  | .setManualOneShotMode reading target false => reading.policy=none ∧
    target∈coordinator.targets ∧ target∈coordinator.manualOneShotTargets ∧
    target∉coordinator.activatedTargets
  | _ => False

namespace Maintained

variable {co after : SharedRefreshCoordinator}

theorem registered (h : Maintained co) (t : TermCampusKey) (mem : t∈co.targets) :
    co.scheduler.jobs[OriginJobKey.catalog t]?≠none ∧
      co.scheduler.jobs[OriginJobKey.open t]?≠none :=
  h.cadenced.elim (fun _ cadenced => cadenced.registered t mem)

theorem new : Maintained .new := by
  refine ⟨⟨_,.new⟩,?_,?_⟩
  · intro t present
    simp [SharedRefreshCoordinator.new,OriginEdfScheduler.new] at present
  · intro t _ job found
    simp [SharedRefreshCoordinator.new,OriginEdfScheduler.new] at found

theorem call (h : Maintained co) (cadenced : ∃releasedWatched,Cadenced (after,releasedWatched))
    (t : TermCampusKey) (ops : List SchedulerOperation)
    (ran : after.scheduler=run OriginEdfScheduler.step co.scheduler ops)
    (own : ∀op∈ops,catalogTarget op=none ∨ catalogTarget op=some t)
    (targets : ∀other,other∈after.targets ↔ t=other ∨ other∈co.targets)
    (modes : ∀other,t≠other →
      other∉after.manualOneShotTargets ∨ other∈after.activatedTargets →
      other∉co.manualOneShotTargets ∨ other∈co.activatedTargets)
    (steady : t∉after.manualOneShotTargets ∨ t∈after.activatedTargets →
      Steady after.scheduler t) : Maintained after := by
  have frame (other : TermCampusKey) (ho : t≠other) : ∀op∈ops,catalogTarget op≠some other := by
    intro op mem
    rcases own op mem with calm | decides
    · simp [calm]
    · simpa [decides] using ho
  refine ⟨cadenced,?_,?_⟩
  · intro other known
    refine (targets other).mpr (or_iff_not_imp_left.mpr fun ho => h.known other ?_)
    exact (run_catalog ops (frame other ho)).1 (ran ▸ known)
  · intro other mode
    by_cases same : t=other
    · exact same ▸ steady (same ▸ mode)
    · rw [ran]
      exact (run_catalog ops (frame other same)).2 (h.steady other (modes other same mode))

theorem upkept (h : Maintained co) (g : Upkept co after) : Maintained after := by
  obtain ⟨ops,upkeep,rfl⟩ := g
  refine run_invariant (fun sch => Maintained { co with scheduler := sch }) h ops ?_
  intro sch op mem kept
  have allowed := upkeep op mem
  have cadenced := kept.cadenced.imp (fun _ held => held.quiet
    (Upkept.quiet ⟨[op],by simpa using allowed,rfl⟩))
  by_cases decides : ∃t,catalogTarget op=some t
  · obtain ⟨t,decides⟩ := decides
    cases op with
    | registerCatalog u iv fd =>
      cases decides
      refine kept.call cadenced t [.registerCatalog t iv fd] rfl (by simp [catalogTarget])
        (mem_targets allowed) (fun _ _ => id) ?_
      intro mode
      cases zero : iv.isZero with
      | false => exact upsert_steady rfl zero
      | true =>
        change Steady (sch.upsert _ _).2 t
        unfold OriginEdfScheduler.upsert
        rw [if_pos zero]
        exact kept.steady t mode
    | registerCatalogInitial | registerCatalogOneShot | activateCatalog | demoteCatalog =>
      exact absurd allowed id
    | _ => cases decides
  · push Not at decides
    have frame (t : TermCampusKey) := run_catalog (s := sch) (t := t) [op]
      (by simpa using decides t)
    exact ⟨cadenced,fun t present => kept.known t ((frame t).1 present),
      fun t mode => (frame t).2 (kept.steady t mode)⟩

theorem step (h : Maintained co) (op : CoordinatorOperation) (safe : ¬co.Strands op) :
    Maintained (co.step op).2 := by
  have move := step_move h.registered op
  have cadenced : ∃releasedWatched,Cadenced ((co.step op).2,releasedWatched) :=
    h.cadenced.elim (fun _ held => ⟨_,held.move move⟩)
  generalize co.step op=result at move cadenced ⊢
  cases move with
  | upkept _ _ _ work => exact h.upkept work
  | activated rd t pol mem =>
    have known := step_registered co.scheduler (.activateOpen t pol.openIntervals rd.now) _
      (h.registered t mem).1
    refine h.call cadenced t _ rfl (by simp [catalogTarget]) (mem_targets mem) ?_
      (fun _ => activateCatalog_steady rd.now pol.positive known)
    intro other ho
    simp [ho]
  | demoted _ rd t pol first activated manual mem _ kind gone others =>
    have own : catalogTarget first=some t := by rcases kind with ⟨-,rfl⟩ | rfl | rfl <;> rfl
    refine h.call cadenced t _ rfl (List.forall_mem_cons.mpr ⟨.inr own,by simp [catalogTarget]⟩)
      (mem_targets mem) ?_ ?_
    · intro other ho
      rw [(others other ho).1,(others other ho).2]
      exact id
    · intro mode
      refine (run_catalog [.demoteOpen t pol.openIntervals (rd.activeWatchCount t) rd.now]
        (by simp [catalogTarget])).2 ?_
      have cat := (h.registered t mem).1
      rcases kind with ⟨member,-⟩ | rfl | rfl
      · exact absurd member (mode.resolve_right gone)
      · exact demoteCatalog_steady rd.now lowFrequencyMaintenanceInterval_positive cat
      · exact activateCatalog_steady rd.now lowFrequencyMaintenanceInterval_positive cat
  | moded rd t mos _ mem changed kept =>
    refine h.call cadenced t [] rfl (by simp) (mem_targets mem) ?_ ?_
    · intro other ho
      cases mos <;> simp [ho]
    · intro mode
      rcases kept with active | ⟨idle,unread⟩
      · exact h.steady t (.inr active)
      cases mos with
      | true => exact absurd (mode.resolve_right idle) (by simp)
      | false => exact absurd ⟨unread,mem,by simpa using changed,idle⟩ safe
  | enrolled rd t mos ready pol first reg more stranger _ own positive mode same bootstrap =>
    have calm : ∀op∈SchedulerOperation.registerOpenInitial t pol.openIntervals
        (rd.activeWatchCount t) rd.now
        (rd.now.saturatingAdd lowFrequencyMaintenanceInterval)::more,catalogTarget op=none := by
      refine List.forall_mem_cons.mpr ⟨rfl,fun op mem => ?_⟩
      rw [bootstrap op mem]
      rfl
    refine h.call cadenced t _ rfl (List.forall_mem_cons.mpr ⟨.inr own,fun op mem =>
      .inl (calm op mem)⟩) (by simp) ?_ ?_
    · intro other ho
      cases mos && !ready <;> simp [ho]
    · intro listed
      refine (run_catalog (s := (co.scheduler.step first).2) _
        (fun op mem => by simp [calm op mem])).2 ?_
      rw [same]
      refine upsert_steady (mode.resolve_right fun manual => ?_) positive
      rw [manual] at listed
      obtain ⟨_,held⟩ := h.cadenced
      exact stranger (held.activated t (listed.resolve_left (by simp)))

end Maintained

section Calls

variable {co : SharedRefreshCoordinator} {rd : Reading} {t : TermCampusKey} (h : Maintained co)

include h

theorem refreshTarget_done (pol : RefreshPolicy) (mem : t∈co.targets) :
    (co.refreshTarget rd pol t).1=.ok () := by
  obtain ⟨cat,isOpen⟩ := h.registered t mem
  obtain ⟨_,known⟩ := Option.ne_none_iff_exists'.mp isOpen
  refine (refreshTarget_open rd pol cat known ?_).1
  by_contra idle
  push Not at idle
  obtain ⟨job,found⟩ := Option.ne_none_iff_exists'.mp cat
  have steady := h.steady t (.inl idle.2.1) job found
  simp [nextDue,found,steady.2] at idle

theorem refreshTargets_done (pol : RefreshPolicy) (targets : List TermCampusKey)
    (mem : ∀t∈targets,t∈co.targets) : (refreshTargets rd pol targets co).1=.ok () := by
  induction targets generalizing co with
  | nil => rfl
  | cons t targets ih =>
    have own := mem t (by simp)
    have first := refreshTarget_upkept co rd t pol own
    rw [refreshTargets,attempt_ok (refreshTarget_done h pol own)]
    refine ih (h.upkept first) ?_
    rw [first.targets]
    exact fun other rest => mem other (by simp [rest])

theorem refreshRegisteredPolicy_done {pol : RefreshPolicy} (hp : rd.policy=some pol) :
    (co.refreshRegisteredPolicy rd).1=.ok pol := by
  unfold refreshRegisteredPolicy
  rw [hp]
  dsimp only
  rw [attempt_ok (refreshTargets_done h pol _ (by simp))]

theorem open_of_job {key : OriginJobKey} (present : co.scheduler.jobs[key]?≠none) :
    co.scheduler.jobs[OriginJobKey.open key.target]?≠none := by
  obtain ⟨kind,target⟩ := key
  cases kind with
  | catalog => exact (h.registered target (h.known target present)).2
  | «open» => exact present

theorem execute_known {dp : OriginDispatch} (execution : Execution)
    (present : co.scheduler.jobs[dp.key]?≠none) :
    (co.execute dp execution).1≠.error (.scheduler .unknownJob) := by
  unfold execute
  split
  · split
    · rw [attempt_ok (by exact schedule_known (open_of_job h present))]
      nofun
    · nofun
    · nofun
    · nofun
  · split <;> nofun

theorem finish_known (token : Nat) (ca : MonotonicTime) (cp : CompletionSchedule) :
    (co.schedule (fun sch => sch.finish token ca cp)).1≠.error (.scheduler .unknownJob) := by
  obtain ⟨_,cadenced⟩ := h.cadenced
  have reached := cadenced.reached
  unfold SharedRefreshCoordinator.schedule
  rcases finish_cases co.scheduler token ca cp (reachable_running _ reached) with
    ⟨_,_,_,-,-,-,done⟩ | ⟨-,error,refused,known⟩
  · simp [done,Except.mapError]
  · simpa [refused,Except.mapError] using known

theorem completeDispatch_known {dp : OriginDispatch} (execution : Execution)
    (present : co.scheduler.jobs[dp.key]?≠none) :
    (co.completeDispatch dp execution).1≠.error (.scheduler .unknownJob) := by
  have executed := execute_upkept co dp execution
  have known := execute_known h execution present
  have kept := executed.quiet.scheduler.registered _ (open_of_job h present)
  unfold completeDispatch
  generalize co.execute dp execution=result at executed known kept ⊢
  obtain ⟨answer,after⟩ := result
  have maintained := h.upkept executed
  cases answer with
  | error error => exact attempt_avoids (finish_known maintained _ _ _) (fun _ _ same =>
      known (congrArg Except.error (Except.error.inj same)))
  | ok answer =>
    refine attempt_avoids (finish_known maintained _ _ _) (fun _ _ => ?_)
    unfold requestRecheck
    split
    · nofun
    split
    · have stays := step_registered after.scheduler (.finish dp.token execution.completedAt answer.1)
        _ kept
      exact fun failed => nomatch (schedule_known (by exact stays)).symm.trans failed
    · nofun

theorem runNext_known (execution : Execution) :
    (co.runNext rd execution).1≠.error (.scheduler .unknownJob) := by
  unfold runNext
  cases hp : rd.policy with
  | none => simp [refreshRegisteredPolicy,hp,attempt]
  | some pol =>
    rw [attempt_ok (refreshRegisteredPolicy_done h hp)]
    have maintained := h.upkept (refreshRegisteredPolicy_upkept co rd)
    generalize (co.refreshRegisteredPolicy rd).2=co at maintained ⊢
    have started : Upkept co { co with scheduler := (co.scheduler.startNext rd.now).2 } :=
      ⟨[.startNext rd.now],by simp [Upkeep],rfl⟩
    have move := startNext_move co.scheduler rd.now
    generalize co.scheduler.startNext rd.now=result at started move ⊢
    obtain ⟨dp,sch⟩ := result
    cases dp with
    | none => simp
    | some dp =>
      refine attempt_avoids (completeDispatch_known (maintained.upkept started) execution ?_)
        (by simp)
      cases move with
      | ordinary _ _ _ _ _ _ _ _ same | probe _ _ _ _ _ _ _ _ _ same =>
        rw [same]
        simp

end Calls

/-- As long as no reclassification fails half way, every registered target has both its jobs,
the policy refresh reaches every target, and no call misses a job. -/
theorem SharedRefreshCoordinator.jobs_never_unknown (operations : List CoordinatorOperation)
    (h : Along step (fun co op => ¬co.Strands op) .new operations) :
    let co := run SharedRefreshCoordinator.step .new operations
    (∀t∈co.targets,co.scheduler.jobs[OriginJobKey.catalog t]?≠none ∧
      co.scheduler.jobs[OriginJobKey.open t]?≠none) ∧
    ∀rd : Reading,
      (∀pol,rd.policy=some pol → (co.refreshRegisteredPolicy rd).1=.ok pol) ∧
      (∀execution,(co.runNext rd execution).1≠.error (.scheduler .unknownJob)) ∧
      (∀t manualOneShot ready,(co.registerTargetWithSnapshotState rd t manualOneShot ready).1≠
        .error (.scheduler .unknownJob)) ∧
      ∀t∈co.targets,∀schedule,(co.adoptConcurrentOpenSchedule rd t schedule).1=.ok () := by
  have kept := h.preserves Maintained .new (fun co op safe held => held.step op safe)
  refine ⟨kept.registered,fun rd => ⟨fun pol hp => refreshRegisteredPolicy_done kept hp,
    runNext_known kept,fun t manualOneShot ready =>
      (registerTarget_move rd t manualOneShot ready).1,?_⟩⟩
  intro t mem schedule
  exact schedule_known (kept.registered t mem).2

/-- A manual target whose Catalog has been published. -/
def manualPublication : List CoordinatorOperation :=
  [.register (publicReading 0 0) nbFall2026 true false,.runNext (publicReading 0 0) publishedCatalog]

theorem jobs_never_unknown_manual : ∃pol,(publicReading 0 2).policy=some pol ∧
    ((run SharedRefreshCoordinator.step .new manualPublication).refreshRegisteredPolicy
      (publicReading 0 2)).1=.ok pol :=
  ⟨_,rfl,((jobs_never_unknown manualPublication ⟨id,id,trivial⟩).2 _).1 _ rfl⟩

/-- The target becomes an ordinary one while the policy cannot be read. Every later refresh
fails, also after the call has been repeated. -/
theorem failed_reclassification_blocks_refresh :
    ((run SharedRefreshCoordinator.step .new (manualPublication++
      [.setManualOneShotMode { publicReading 0 2 with policy := none } nbFall2026 false,
        .setManualOneShotMode (publicReading 0 3) nbFall2026 false])).step
          (.nextDispatchHint (publicReading 0 4))).1=.error (.scheduler .unknownJob) := by
  decide

end CoursePlanner.Application
