import CoursePlanner.Application.RefreshCoordinator
import CoursePlanner.Open.Cadence

set_option maxRecDepth 8000

namespace CoursePlanner.Application

open Std Library Contracts Open SharedRefreshCoordinator

/-- The Open demotion that a call carries out, with the watch count it samples. -/
def SharedRefreshCoordinator.demotes (coordinator : SharedRefreshCoordinator) :
    CoordinatorOperation → Option (TermCampusKey × Nat)
  | .releaseProductDemandTarget reading target =>
    if target∈coordinator.targets ∧ reading.policy.isSome then
      some (target,reading.activeWatchCount target)
    else none
  | .setManualOneShotMode reading target manualOneShot =>
    if target∈coordinator.targets ∧
        coordinator.manualOneShotTargets.contains target≠manualOneShot ∧
        target∉coordinator.activatedTargets ∧ reading.policy.isSome then
      some (target,reading.activeWatchCount target)
    else none
  | _ => none

/-- Which targets were watched when they were last demoted. -/
def noteDemoted (releasedWatched : TermCampusKey → Bool) :
    Option (TermCampusKey × Nat) → TermCampusKey → Bool
  | some (demoted,count),target => if demoted=target then 0<count else releasedWatched target
  | none,target => releasedWatched target

@[simp] theorem noteDemoted_none (releasedWatched : TermCampusKey → Bool) :
    noteDemoted releasedWatched none=releasedWatched := rfl

def noteDemotion (coordinator : SharedRefreshCoordinator) (operation : CoordinatorOperation)
    (_ : Except CoordinatorError Unit) (_ : SharedRefreshCoordinator)
    (releasedWatched : TermCampusKey → Bool) : TermCampusKey → Bool :=
  noteDemoted releasedWatched (coordinator.demotes operation)

abbrev demoting : SharedRefreshCoordinator × (TermCampusKey → Bool) → CoordinatorOperation →
    Except CoordinatorError Unit × (SharedRefreshCoordinator × (TermCampusKey → Bool)) :=
  traced SharedRefreshCoordinator.step noteDemotion

/-- The target whose Catalog job an operation introduces, activates or demotes. -/
def catalogTarget : SchedulerOperation → Option TermCampusKey
  | .registerCatalog target _ _ | .registerCatalogInitial target _ _ _
  | .registerCatalogOneShot target _ _ | .activateCatalog target _ _
  | .demoteCatalog target _ _ => some target
  | _ => none

/-- A call that leaves the Open cadence, the targets and their activation alone. -/
structure Quiet (before after : SharedRefreshCoordinator) : Prop where
  scheduler : Undisturbed before.scheduler after.scheduler
  targets : after.targets=before.targets
  activated : after.activatedTargets=before.activatedTargets

/-- What the coordinator does to keep its jobs going: no job is introduced, activated or
demoted. -/
def Upkeep (targets : ExtTreeSet TermCampusKey) : SchedulerOperation → Prop
  | .registerCatalog target _ _ => target∈targets
  | .registerCatalogInitial _ _ _ _ | .registerCatalogOneShot _ _ _ | .registerOpen _ _ _ _ _
  | .registerOpenInitial _ _ _ _ _ | .activateCatalog _ _ _ | .demoteCatalog _ _ _
  | .activateOpen _ _ _ | .demoteOpen _ _ _ _ => False
  | _ => True

/-- A call that only does such work. -/
def Upkept (before after : SharedRefreshCoordinator) : Prop :=
  ∃operations,(∀operation∈operations,Upkeep before.targets operation) ∧
    after={ before with
      scheduler := run OriginEdfScheduler.step before.scheduler operations }

namespace Upkept

variable {co middle after : SharedRefreshCoordinator}

theorem refl (co : SharedRefreshCoordinator) : Upkept co co := ⟨[],nofun,rfl⟩

theorem trans (h : Upkept co middle) (g : Upkept middle after) : Upkept co after := by
  obtain ⟨first,upkeep,rfl⟩ := h
  obtain ⟨second,more,rfl⟩ := g
  refine ⟨first++second,?_,by rw [run_append]⟩
  intro op mem
  exact (List.mem_append.mp mem).elim (upkeep op) (more op)

theorem targets (h : Upkept co after) : after.targets=co.targets := by
  obtain ⟨_,-,rfl⟩ := h
  rfl

theorem attempt {A B : Type} {result : Except CoordinatorError A × SharedRefreshCoordinator}
    {next : A → SharedRefreshCoordinator → Except CoordinatorError B × SharedRefreshCoordinator}
    (h : Upkept co result.2) (hnext : ∀answer co,Upkept co (next answer co).2) :
    Upkept co (attempt result next).2 :=
  attempt_keeps (Upkept co) h (fun answer _ => h.trans (hnext answer _))

theorem schedule {A : Type} (co : SharedRefreshCoordinator)
    {call : OriginEdfScheduler → Except SchedulerError A × OriginEdfScheduler}
    (op : SchedulerOperation) (h : Upkeep co.targets op)
    (same : ∀sch : OriginEdfScheduler,(call sch).2=(sch.step op).2) :
    Upkept co (co.schedule call).2 := by
  refine ⟨[op],by simpa using h,?_⟩
  exact congrArg (fun sch => { co with scheduler := sch }) (same co.scheduler)

theorem quiet (h : Upkept co after) : Quiet co after := by
  obtain ⟨ops,upkeep,rfl⟩ := h
  refine ⟨?_,rfl,rfl⟩
  refine run_invariant (Undisturbed co.scheduler) (.refl _) ops ?_
  intro sch op mem before
  refine before.trans (.step sch op ?_)
  have allowed := upkeep op mem
  cases op with
  | registerOpen | registerOpenInitial | activateOpen | demoteOpen => exact absurd allowed id
  | _ => rfl

end Upkept

section Upkeep

variable (co : SharedRefreshCoordinator) (rd : Reading)

variable (t : TermCampusKey) (pol : RefreshPolicy)

theorem refreshCatalogCadence_upkept (mem : t∈co.targets) :
    Upkept co (co.refreshCatalogCadence rd pol t).2 := by
  unfold refreshCatalogCadence
  split
  · exact .schedule _ (.registerCatalog t _ _) mem (fun _ => rfl)
  split
  · exact .refl _
  split
  · exact .refl _
  · next due _ =>
    exact .schedule _ (.registerCatalog t lowFrequencyMaintenanceInterval due) mem (fun _ => rfl)

theorem refreshTarget_upkept (mem : t∈co.targets) : Upkept co (co.refreshTarget rd pol t).2 := by
  refine .attempt (refreshCatalogCadence_upkept co rd t pol mem) ?_
  intro _ co
  refine .attempt (.schedule _ (.setCatalogWatchCount t _) trivial (fun _ => rfl)) ?_
  intro _ co
  exact .schedule _ (.setOpenWatchCount t _ _ _) trivial (fun _ => rfl)

theorem refreshTargets_upkept (targets : List TermCampusKey) (mem : ∀t∈targets,t∈co.targets) :
    Upkept co (refreshTargets rd pol targets co).2 := by
  induction targets generalizing co with
  | nil => exact .refl _
  | cons t targets ih =>
    have first := refreshTarget_upkept co rd t pol (mem t (by simp))
    refine attempt_keeps (Upkept co) first (fun _ _ => first.trans (ih _ ?_))
    rw [first.targets]
    exact fun other rest => mem other (by simp [rest])

theorem refreshRegisteredPolicy_upkept : Upkept co (co.refreshRegisteredPolicy rd).2 := by
  unfold refreshRegisteredPolicy
  split
  · exact .refl _
  · exact .attempt (refreshTargets_upkept co rd _ _ (by simp)) (fun _ _ => .refl _)

theorem execute_upkept (dp : OriginDispatch) (execution : Execution) :
    Upkept co (co.execute dp execution).2 := by
  unfold execute
  split
  · split
    · exact .attempt (.schedule _ (.completeOpenBootstrap _ _) trivial (fun _ => rfl))
        (fun _ _ => .refl _)
    · exact .refl _
    · exact .refl _
    · exact .refl _
  · split <;> exact .refl _

theorem completeDispatch_upkept (dp : OriginDispatch) (execution : Execution) :
    Upkept co (co.completeDispatch dp execution).2 := by
  have executed := execute_upkept co dp execution
  unfold completeDispatch
  generalize co.execute dp execution=result at executed ⊢
  obtain ⟨answer,after⟩ := result
  refine executed.trans ?_
  cases answer with
  | error error =>
    exact .attempt (.schedule _ (.finish dp.token _ _) trivial (fun _ => rfl)) (fun _ _ => .refl _)
  | ok answer =>
    refine .attempt (.schedule _ (.finish dp.token _ _) trivial (fun _ => rfl)) ?_
    intro _ co
    unfold requestRecheck
    split
    · exact .refl _
    · split
      · exact .schedule _ (.requestOpenDue _ _ _) trivial (fun _ => rfl)
      · exact .refl _

theorem runNext_upkept (execution : Execution) : Upkept co (co.runNext rd execution).2 := by
  refine .attempt (refreshRegisteredPolicy_upkept co rd) ?_
  intro _ co
  have started : Upkept co { co with
      scheduler := (co.scheduler.startNext rd.now).2 } :=
    ⟨[.startNext rd.now],by simp [Upkeep],rfl⟩
  generalize co.scheduler.startNext rd.now=result at started ⊢
  obtain ⟨dp,sch⟩ := result
  cases dp with
  | none => exact started
  | some dp =>
    exact started.trans (.attempt (completeDispatch_upkept _ dp execution) (fun _ _ => .refl _))

theorem requestManualTargetRetry_upkept : Upkept co (co.requestManualTargetRetry rd t).2 := by
  unfold SharedRefreshCoordinator.requestManualTargetRetry
  split
  · exact .refl _
  · exact .attempt (.schedule _ (.requestManualTargetRetry t rd.now) trivial (fun _ => rfl))
      (fun _ _ => .refl _)

theorem nextDispatchHint_upkept : Upkept co (co.nextDispatchHint rd).2 :=
  .attempt (refreshRegisteredPolicy_upkept co rd) (fun _ _ => .refl _)

theorem concurrentOpenSchedule_upkept : Upkept co (co.concurrentOpenSchedule rd t).2 := by
  refine .attempt (refreshRegisteredPolicy_upkept co rd) ?_
  intro pol co
  split
  · exact .refl _
  · split <;> exact .refl _

end Upkeep

theorem lowFrequencyMaintenanceInterval_positive :
    lowFrequencyMaintenanceInterval.isZero=false := by decide

theorem mem_targets {targets : ExtTreeSet TermCampusKey} {t : TermCampusKey} (h : t∈targets)
    (other : TermCampusKey) : other∈targets ↔ t=other ∨ other∈targets :=
  ⟨.inr,fun either => either.elim (fun same => same ▸ h) id⟩

/-- A job has a cadence exactly if its target is activated or was last demoted while
it was watched. -/
structure Cadenced (s : SharedRefreshCoordinator × (TermCampusKey → Bool)) : Prop where
  reached : Reachable OriginEdfScheduler.step .new s.1.scheduler
  registered : ∀target∈s.1.targets,
    s.1.scheduler.jobs[OriginJobKey.catalog target]?≠none ∧
    s.1.scheduler.jobs[OriginJobKey.open target]?≠none
  known : ∀target,s.1.scheduler.cadence target≠none → target∈s.1.targets
  activated : ∀target∈s.1.activatedTargets,target∈s.1.targets
  released : ∀target,s.2 target=true → target∈s.1.targets
  recurring : ∀target recurring,s.1.scheduler.cadence target=some recurring →
    recurring=(decide (target∈s.1.activatedTargets) || s.2 target)

namespace Cadenced

variable {co after : SharedRefreshCoordinator} {releasedWatched : TermCampusKey → Bool}

theorem new : Cadenced (.new,fun _ => false) := by
  refine ⟨.start,?_,?_,?_,nofun,?_⟩
  · intro t mem
    simp [SharedRefreshCoordinator.new] at mem
  · intro t present
    simp [SharedRefreshCoordinator.new,OriginEdfScheduler.new,OriginEdfScheduler.cadence] at present
  · intro t mem
    simp [SharedRefreshCoordinator.new] at mem
  · intro t recurring present
    simp [SharedRefreshCoordinator.new,OriginEdfScheduler.new,OriginEdfScheduler.cadence] at present

theorem quiet (h : Cadenced (co,releasedWatched)) (g : Quiet co after) :
    Cadenced (after,releasedWatched) := by
  obtain ⟨undisturbed,targets,activated⟩ := g
  refine ⟨h.reached.trans undisturbed.reached,?_,?_,?_,?_,?_⟩
  · intro t mem
    have jobs := h.registered t (targets ▸ mem)
    exact ⟨undisturbed.registered _ jobs.1,undisturbed.registered _ jobs.2⟩
  · intro t present
    rw [undisturbed.cadence] at present
    rw [targets]
    exact h.known t present
  · intro t mem
    exact targets ▸ h.activated t (activated ▸ mem)
  · intro t watched
    exact targets ▸ h.released t watched
  · intro t recurring present
    rw [undisturbed.cadence] at present
    rw [activated]
    exact h.recurring t recurring present

theorem governed {t : TermCampusKey} {recurring : Bool} {noted : TermCampusKey → Bool}
    (h : Cadenced (co,releasedWatched))
    (g : Governed co.scheduler after.scheduler t recurring)
    (cat : after.scheduler.jobs[OriginJobKey.catalog t]?≠none)
    (targets : ∀other,other∈after.targets ↔ t=other ∨ other∈co.targets)
    (decided : recurring=(decide (t∈after.activatedTargets) || noted t))
    (others : ∀other,t≠other → (other∈after.activatedTargets ↔ other∈co.activatedTargets) ∧
      noted other=releasedWatched other) : Cadenced (after,noted) := by
  -- Only the governed t needs more than what held before.
  have other (other : TermCampusKey) (hp : t≠other → other∈co.targets) : other∈after.targets :=
    (targets other).mpr (or_iff_not_imp_left.mpr hp)
  refine ⟨h.reached.trans g.reached,?_,?_,?_,?_,?_⟩
  · intro other mem
    rcases (targets other).mp mem with rfl | mem
    · exact ⟨cat,g.present⟩
    · have jobs := h.registered other mem
      exact ⟨g.registered _ jobs.1,g.registered _ jobs.2⟩
  · intro name known
    refine other name (fun ho => h.known name ?_)
    rwa [← g.others name (Ne.symm ho)]
  · intro name mem
    exact other name (fun ho => h.activated name ((others name ho).1.mp mem))
  · intro name watched
    exact other name (fun ho => h.released name ((others name ho).2.symm.trans watched))
  · intro name cadence known
    by_cases ho : t=name
    · subst ho
      rw [g.decided] at known
      rw [← decided]
      exact (Option.some.inj known).symm
    · obtain ⟨activated,same⟩ := others name ho
      rw [g.others name (Ne.symm ho)] at known
      simpa only [activated,same] using h.recurring name cadence known

end Cadenced

section Moves

variable {co : SharedRefreshCoordinator} (rd : Reading) (t : TermCampusKey)

theorem schedule_done {A : Type} {answer : A}
    {call : OriginEdfScheduler → Except SchedulerError A × OriginEdfScheduler}
    (h : (call co.scheduler).1=.ok answer) :
    (co.schedule call).1=.ok answer := by
  unfold SharedRefreshCoordinator.schedule
  rw [h]
  rfl

theorem schedule_known {change : JobSchedule → JobSchedule} {key : OriginJobKey}
    (present : co.scheduler.jobs[key]?≠none) :
    (co.schedule (fun sch => sch.updateJob key change)).1=.ok () := by
  obtain ⟨_,known⟩ := Option.ne_none_iff_exists'.mp present
  exact schedule_done (congrArg Prod.fst (updateJob_known _ _ known))

def catalogMaintenance (coordinator : SharedRefreshCoordinator) (target : TermCampusKey) :
    Option Duration :=
  if target∈coordinator.manualOneShotTargets then none else some lowFrequencyMaintenanceInterval

theorem catalogMaintenance_positive (iv : Duration)
    (h : catalogMaintenance co t=some iv) : iv.isZero=false := by
  unfold catalogMaintenance at h
  split at h
  · cases h
  · cases h
    exact lowFrequencyMaintenanceInterval_positive

/-- The release of a registered target never fails half way. -/
theorem releaseProductDemandTarget_eq {pol : RefreshPolicy} (hp : rd.policy=some pol)
    (mem : t∈co.targets)
    (cat : co.scheduler.jobs[OriginJobKey.catalog t]?≠none)
    (isOpen : co.scheduler.jobs[OriginJobKey.open t]?≠none) :
    co.releaseProductDemandTarget rd t= (.ok (),{ ((co.schedule (fun sch => sch.demoteCatalog t
          (catalogMaintenance co t) rd.now)).2.demoteOpen rd pol t).2 with
        activatedTargets := co.activatedTargets.erase t }) := by
  have demoted := demoteCatalog_done co.scheduler t (catalogMaintenance co t) rd.now cat
    (catalogMaintenance_positive t)
  have quiet := Undisturbed.step co.scheduler (.demoteCatalog t
    (catalogMaintenance co t) rd.now) rfl
  have done := (demoteOpen_governs _ t pol.openIntervals (rd.activeWatchCount t)
    rd.now (quiet.registered _ isOpen)).1
  unfold SharedRefreshCoordinator.releaseProductDemandTarget SharedRefreshCoordinator.demoteOpen
  rw [if_neg (not_not.mpr mem),hp]
  dsimp only
  rw [attempt_ok (schedule_done demoted), attempt_ok (schedule_done done)]
  rfl

/-- One operation registers the Catalog job; only a one-shot makes its target a manual one. -/
theorem registerCatalogJob_eq (co : SharedRefreshCoordinator) (mos ready : Bool) : ∃op reg,
    op.governed=none ∧ catalogTarget op=some t ∧ reg.interval.isZero=false ∧
    (reg.mode=.recurring ∨ (mos && !ready)=true) ∧
    (co.scheduler.step op).2=(co.scheduler.upsert (.catalog t) reg).2 ∧
    co.registerCatalogJob rd t mos ready=(.ok (),{ co with
      scheduler := (co.scheduler.step op).2
      manualOneShotTargets := if mos && !ready then co.manualOneShotTargets.insert t
        else co.manualOneShotTargets }) := by
  have done (reg : JobRegistration) (h : reg.interval.isZero=false) :
      (co.schedule (fun sch => sch.upsert (.catalog t) reg)).1=.ok () :=
    schedule_done (upsert_registers co.scheduler (.catalog t) reg h).1
  have low := lowFrequencyMaintenanceInterval_positive
  have oneShot : catalogOneShotInterval.isZero=false := by decide
  cases ready with
  | true =>
    rw [Bool.not_true,Bool.and_false]
    let due := rd.now.saturatingAdd lowFrequencyMaintenanceInterval
    exact ⟨.registerCatalog t lowFrequencyMaintenanceInterval due,
      ⟨lowFrequencyMaintenanceInterval,due,.catalog,0,.recurring,false⟩,
      rfl,rfl,low,.inl rfl,rfl,Prod.ext (done _ low) rfl⟩
  | false =>
    cases mos with
    | true =>
      let reg : JobRegistration :=
        ⟨catalogOneShotInterval,rd.now,.catalog,rd.activeWatchCount t,.oneShot,true⟩
      refine ⟨.registerCatalogOneShot t (rd.activeWatchCount t) rd.now,reg,
        rfl,rfl,oneShot,.inr rfl,rfl,?_⟩
      rfl
    | false => exact ⟨.registerCatalogInitial t lowFrequencyMaintenanceInterval
          (rd.activeWatchCount t) rd.now,
        ⟨lowFrequencyMaintenanceInterval,rd.now,.catalog,rd.activeWatchCount t,.recurring,true⟩,
        rfl,rfl,low,.inl rfl,rfl,Prod.ext (done _ low) rfl⟩

/-- Every effect of a call: upkeep, a new target, an activation, a demotion (after the Catalog
job has been demoted or put on maintenance), or a mode that no job follows. -/
inductive CoordinatorMove (co : SharedRefreshCoordinator) : CoordinatorOperation →
    Except CoordinatorError Unit × SharedRefreshCoordinator → Prop
  | upkept (operation : CoordinatorOperation) (answer : Except CoordinatorError Unit)
      (after : SharedRefreshCoordinator) (work : Upkept co after)
      (calm : co.demotes operation=none) : CoordinatorMove co operation (answer,after)
  | enrolled (reading : Reading) (target : TermCampusKey) (manualOneShot ready : Bool)
      (policy : RefreshPolicy) (first : SchedulerOperation) (registration : JobRegistration)
      (more : List SchedulerOperation) (stranger : target∉co.targets)
      (calm : first.governed=none) (own : catalogTarget first=some target)
      (positive : registration.interval.isZero=false)
      (mode : registration.mode=.recurring ∨ (manualOneShot && !ready)=true)
      (same : (co.scheduler.step first).2=(co.scheduler.upsert (.catalog target) registration).2)
      (bootstrap : ∀operation∈more,operation=.completeOpenBootstrap target reading.now) :
      CoordinatorMove co (.register reading target manualOneShot ready) (.ok (),{ co with
        scheduler := run OriginEdfScheduler.step co.scheduler (first::.registerOpenInitial target
          policy.openIntervals (reading.activeWatchCount target) reading.now
          (reading.now.saturatingAdd lowFrequencyMaintenanceInterval)::more)
        targets := co.targets.insert target
        manualOneShotTargets := if manualOneShot && !ready then
            co.manualOneShotTargets.insert target
          else co.manualOneShotTargets })
  | activated (reading : Reading) (target : TermCampusKey) (policy : RefreshPolicy)
      (mem : target∈co.targets) :
      CoordinatorMove co (.activateOpenTarget reading target) (.ok (),{ co with
        scheduler := run OriginEdfScheduler.step co.scheduler
          [.activateOpen target policy.openIntervals reading.now,
            .activateCatalog target policy.catalogInterval reading.now]
        activatedTargets := co.activatedTargets.insert target })
  | demoted (operation : CoordinatorOperation) (reading : Reading) (target : TermCampusKey)
      (policy : RefreshPolicy) (first : SchedulerOperation)
      (activated manual : ExtTreeSet TermCampusKey) (mem : target∈co.targets)
      (noted : co.demotes operation=some (target,reading.activeWatchCount target))
      (kind : target∈manual ∧ first=.demoteCatalog target none reading.now ∨
        first=.demoteCatalog target (some lowFrequencyMaintenanceInterval) reading.now ∨
        first=.activateCatalog target lowFrequencyMaintenanceInterval reading.now)
      (gone : target∉activated)
      (others : ∀other,target≠other → (other∈activated ↔ other∈co.activatedTargets) ∧
        (other∈manual ↔ other∈co.manualOneShotTargets)) :
      CoordinatorMove co operation (.ok (),{ co with
        scheduler := run OriginEdfScheduler.step co.scheduler [first,.demoteOpen target
          policy.openIntervals (reading.activeWatchCount target) reading.now]
        activatedTargets := activated
        manualOneShotTargets := manual })
  | moded (reading : Reading) (target : TermCampusKey) (manualOneShot : Bool)
      (answer : Except CoordinatorError Unit) (mem : target∈co.targets)
      (changed : co.manualOneShotTargets.contains target≠manualOneShot)
      (kept : target∈co.activatedTargets ∨ target∉co.activatedTargets ∧ reading.policy=none) :
      CoordinatorMove co (.setManualOneShotMode reading target manualOneShot) (answer,{ co with
        manualOneShotTargets := if manualOneShot then co.manualOneShotTargets.insert target
          else co.manualOneShotTargets.erase target })

variable (h : ∀target∈co.targets,co.scheduler.jobs[OriginJobKey.catalog target]?≠none ∧
  co.scheduler.jobs[OriginJobKey.open target]?≠none)

include h

theorem activateOpenTarget_move :
    CoordinatorMove co (.activateOpenTarget rd t) (co.activateOpenTarget rd t) := by
  unfold SharedRefreshCoordinator.activateOpenTarget
  split
  · exact .upkept _ _ _ (.refl co) rfl
  next mem =>
  cases rd.policy with
  | none => exact .upkept _ _ _ (.refl co) rfl
  | some pol =>
    rw [not_not] at mem
    obtain ⟨cat,isOpen⟩ := h t mem
    obtain ⟨opened,governs⟩ := activateOpen_governs co.scheduler t pol.openIntervals rd.now isOpen
    have done := activateCatalog_done _ t pol.catalogInterval rd.now
      (governs.registered _ cat) pol.positive
    dsimp only
    rw [attempt_ok (schedule_done opened),attempt_ok (schedule_done done)]
    exact .activated rd t pol mem

theorem releaseProductDemandTarget_move : CoordinatorMove co (.releaseProductDemandTarget rd t)
    (co.releaseProductDemandTarget rd t) := by
  by_cases known : t∈co.targets ∧ rd.policy.isSome
  · obtain ⟨mem,hp⟩ := known
    obtain ⟨pol,hp⟩ := Option.isSome_iff_exists.mp hp
    rw [releaseProductDemandTarget_eq rd t hp mem (h t mem).1 (h t mem).2]
    refine .demoted _ rd t pol (.demoteCatalog t (catalogMaintenance co t) rd.now) _ _ mem
      (if_pos ⟨mem,by simp [hp]⟩) ?_ (by simp) (fun other ho => ⟨by simp [ho],.rfl⟩)
    unfold catalogMaintenance
    split
    · next manual => exact .inl ⟨manual,rfl⟩
    · exact .inr (.inl rfl)
  · have refused : (co.releaseProductDemandTarget rd t).2=co := by
      unfold SharedRefreshCoordinator.releaseProductDemandTarget
      split
      · rfl
      · next mem =>
        cases hp : rd.policy with
        | none => rfl
        | some pol => exact absurd ⟨not_not.mp mem,by simp [hp]⟩ known
    exact .upkept _ _ _ (refused.symm ▸ .refl co) (if_neg known)

theorem setManualOneShotMode_move (mos : Bool) : CoordinatorMove co
    (.setManualOneShotMode rd t mos) (co.setManualOneShotMode rd t mos) := by
  unfold SharedRefreshCoordinator.setManualOneShotMode
  split
  · next stranger => exact .upkept _ _ _ (.refl co) (if_neg (fun both => stranger both.1))
  next mem =>
  rw [not_not] at mem
  split
  · next same => exact .upkept _ _ _ (.refl co) (if_neg (fun both => both.2.1 same))
  next changed =>
  dsimp only
  split
  · next active => exact .moded rd t mos _ mem changed (.inl active)
  next idle =>
  cases hp : rd.policy with
  | none => exact .moded rd t mos _ mem changed (.inr ⟨idle,hp⟩)
  | some pol =>
    have noted : co.demotes (.setManualOneShotMode rd t mos)=some (t,rd.activeWatchCount t) :=
      if_pos ⟨mem,changed,idle,by simp [hp]⟩
    obtain ⟨cat,isOpen⟩ := h t mem
    have finished (first : SchedulerOperation) (manual : ExtTreeSet TermCampusKey)
        (kind : t∈manual ∧ first=.demoteCatalog t none rd.now ∨
          first=.demoteCatalog t (some lowFrequencyMaintenanceInterval) rd.now ∨
          first=.activateCatalog t lowFrequencyMaintenanceInterval rd.now)
        (others : ∀other,t≠other → (other∈manual ↔ other∈co.manualOneShotTargets)) :
        CoordinatorMove co (.setManualOneShotMode rd t mos) ({ co with
          scheduler := (co.scheduler.step first).2
          manualOneShotTargets := manual }.demoteOpen rd pol t) := by
      have present := step_registered co.scheduler first _ isOpen
      have answered : { co with
          scheduler := (co.scheduler.step first).2
          manualOneShotTargets := manual }.demoteOpen rd pol t=(.ok (),_) :=
        Prod.ext (schedule_known present) rfl
      rw [answered]
      exact .demoted _ rd t pol first _ _ mem noted kind idle
        (fun other ho => ⟨.rfl,others other ho⟩)
    cases mos with
    | true =>
      have done := demoteCatalog_done co.scheduler t none rd.now cat (by simp)
      dsimp only
      rw [attempt_ok (schedule_done (by exact done))]
      exact finished _ _ (.inl ⟨by simp,rfl⟩) (fun other ho => by simp [ho])
    | false =>
      have done := activateCatalog_done co.scheduler t _ rd.now cat
        lowFrequencyMaintenanceInterval_positive
      dsimp only
      rw [attempt_ok (schedule_done (by exact done))]
      exact finished _ _ (.inr (.inr rfl)) (fun other ho => by simp [ho])

omit h in
theorem registerTarget_move (mos ready : Bool) :
    (co.registerTargetWithSnapshotState rd t mos ready).1≠.error (.scheduler .unknownJob) ∧
      CoordinatorMove co (.register rd t mos ready)
        (co.registerTargetWithSnapshotState rd t mos ready) := by
  unfold registerTargetWithSnapshotState
  split
  · exact ⟨nofun,.upkept _ _ _ (.refl co) rfl⟩
  next stranger =>
  cases rd.policy with
  | none => exact ⟨nofun,.upkept _ _ _ (.refl co) rfl⟩
  | some pol =>
    obtain ⟨first,reg,calm,own,positive,mode,same,ran⟩ := registerCatalogJob_eq rd t co mos ready
    have registered := registerOpenInitial_eq (co.scheduler.step first).2 t pol.openIntervals
      (rd.activeWatchCount t) rd.now (rd.now.saturatingAdd lowFrequencyMaintenanceInterval) _ rfl
    have enrolled (more : List SchedulerOperation) := CoordinatorMove.enrolled rd t mos
      ready pol first reg more stranger calm own positive mode same
    dsimp only
    rw [ran,attempt_ok rfl,attempt_ok (schedule_done (by exact congrArg Prod.fst registered))]
    cases ready with
    | false => exact ⟨nofun,enrolled [] nofun⟩
    | true =>
      have present : ((co.scheduler.step first).2.registerOpenInitial t pol.openIntervals
          (rd.activeWatchCount t) rd.now
          (rd.now.saturatingAdd lowFrequencyMaintenanceInterval)).2.jobs[OriginJobKey.open t]?≠none := by
        simp [registered]
      rw [if_pos rfl,attempt_ok (by exact schedule_known present)]
      exact ⟨nofun,enrolled [.completeOpenBootstrap t rd.now] (by simp)⟩

theorem step_move (op : CoordinatorOperation) : CoordinatorMove co op (co.step op) := by
  cases op with
  | register rd t mos ready => exact (registerTarget_move rd t mos ready).2
  | activateOpenTarget rd t => exact activateOpenTarget_move rd t h
  | releaseProductDemandTarget rd t => exact releaseProductDemandTarget_move rd t h
  | setManualOneShotMode rd t mos => exact setManualOneShotMode_move rd t h mos
  | requestManualTargetRetry rd t =>
    exact .upkept _ _ _ (requestManualTargetRetry_upkept co rd t) rfl
  | nextDispatchHint rd => exact .upkept _ _ _ (nextDispatchHint_upkept co rd) rfl
  | concurrentOpenSchedule rd t => exact .upkept _ _ _ (concurrentOpenSchedule_upkept co rd t) rfl
  | adoptConcurrentOpenSchedule rd t schedule =>
    exact .upkept _ _ _ (.schedule _ (.adoptExternalOpenState t _ _ _) trivial (fun _ => rfl)) rfl
  | runNext rd execution => exact .upkept _ _ _ (runNext_upkept co rd execution) rfl

end Moves

theorem Cadenced.move {co : SharedRefreshCoordinator} {op : CoordinatorOperation}
    {result : Except CoordinatorError Unit × SharedRefreshCoordinator}
    {releasedWatched : TermCampusKey → Bool} (h : Cadenced (co,releasedWatched))
    (move : CoordinatorMove co op result) :
    Cadenced (result.2,noteDemoted releasedWatched (co.demotes op)) := by
  cases move with
  | upkept _ _ _ work calm =>
    rw [calm]
    exact h.quiet work.quiet
  | moded rd t mos _ _ _ kept =>
    have calm : co.demotes (.setManualOneShotMode rd t mos)=none := by
      refine if_neg ?_
      rintro ⟨-,-,idle,policy⟩
      rcases kept with active | ⟨-,unread⟩
      · exact idle active
      · simp [unread] at policy
    rw [calm]
    exact h.quiet ⟨.refl _,rfl,rfl⟩
  | activated rd t pol mem =>
    obtain ⟨cat,isOpen⟩ := h.registered t mem
    have governs := (activateOpen_governs co.scheduler t pol.openIntervals rd.now isOpen).2.followed
      (.step _ (.activateCatalog t pol.catalogInterval rd.now) rfl)
    refine h.governed governs (governs.registered _ cat) (mem_targets mem) (by simp) ?_
    exact fun other ho => ⟨by simp [ho],rfl⟩
  | demoted _ rd t pol first activated manual mem noted kind gone others =>
    obtain ⟨cat,isOpen⟩ := h.registered t mem
    have calm : first.governed=none := by rcases kind with ⟨-,rfl⟩ | rfl | rfl <;> rfl
    have quiet := Undisturbed.step co.scheduler first calm
    have governs := (demoteOpen_governs _ t pol.openIntervals (rd.activeWatchCount t) rd.now
      (quiet.registered _ isOpen)).2.preceded quiet
    rw [noted]
    refine h.governed governs (governs.registered _ cat) (mem_targets mem)
      (by simp [noteDemoted,gone]) ?_
    exact fun other ho => ⟨(others other ho).1,if_neg ho⟩
  | enrolled rd t mos ready pol first reg more stranger calm own positive mode same bootstrap =>
    have idle : t∉co.activatedTargets := fun mem => stranger (h.activated t mem)
    have unreleased : releasedWatched t=false := by
      by_contra watched
      exact stranger (h.released t (by simpa using watched))
    have quiet := Undisturbed.step co.scheduler first calm
    have cat := same ▸ (upsert_registers co.scheduler (.catalog t) reg positive).2.1
    have unknown : (co.scheduler.step first).2.jobs[OriginJobKey.open t]?=none := by
      have cadence : (co.scheduler.step first).2.cadence t=none := by
        rw [quiet.cadence]
        by_contra known
        exact stranger (h.known t known)
      simpa [OriginEdfScheduler.cadence] using cadence
    have governs := (registerOpenInitial_governs _ t pol.openIntervals (rd.activeWatchCount t) rd.now
      (rd.now.saturatingAdd lowFrequencyMaintenanceInterval) unknown).2
    have finished := governs.followed (run_invariant (Undisturbed _) (.refl _) more
      (fun sch op listed before => before.trans
        (.step sch op (by rw [bootstrap op listed]; rfl))))
    refine h.governed (finished.preceded quiet) (finished.registered _ cat) (by simp) ?_
      (fun other _ => ⟨.rfl,rfl⟩)
    simp [demotes,unreleased,idle]

theorem demoting_cadenced (operations : List CoordinatorOperation) :
    Cadenced (run demoting (.new,fun _ => false) operations) := by
  refine run_invariant Cadenced .new operations ?_
  rintro ⟨co,releasedWatched⟩ op - h
  exact h.move (step_move h.registered op)

section Orders

variable {co : SharedRefreshCoordinator} {releasedWatched : TermCampusKey → Bool}
  {t : TermCampusKey} {job : JobSchedule} {pol : RefreshPolicy} {rd : Reading}

/-- The Catalog half of the policy refresh only fails for a dormant Catalog job of a
target that is neither activated nor manual. -/
theorem refreshCatalogCadence_done (rd : Reading) (pol : RefreshPolicy)
    (cat : co.scheduler.jobs[OriginJobKey.catalog t]?≠none)
    (due : t∈co.activatedTargets ∨ t∈co.manualOneShotTargets ∨ co.nextDue (.catalog t)≠none) :
    (co.refreshCatalogCadence rd pol t).1=.ok () ∧
      (co.refreshCatalogCadence rd pol t).2.scheduler.jobs[OriginJobKey.catalog t]?≠none ∧
      (co.refreshCatalogCadence rd pol t).2.scheduler.jobs[
        OriginJobKey.open t]?=co.scheduler.jobs[OriginJobKey.open t]? := by
  have upserted (iv : Duration) (fd : MonotonicTime) (h : iv.isZero=false) :=
    upsert_registers co.scheduler (.catalog t) ⟨iv,fd,.catalog,0,.recurring, false⟩ h
  unfold refreshCatalogCadence
  split
  · obtain ⟨done,registered,others⟩ := upserted pol.catalogInterval ((co.nextDue (.catalog t)).getD
        (rd.now.saturatingAdd pol.catalogInterval)) pol.positive
    exact ⟨schedule_done done,registered,others _ (open_ne_catalog _ _)⟩
  next idle =>
  split
  · exact ⟨rfl,cat,rfl⟩
  next recurring =>
  have known := (due.resolve_left idle).resolve_left recurring
  split
  · contradiction
  next fd _ =>
  obtain ⟨done,registered,others⟩ := upserted lowFrequencyMaintenanceInterval fd
    lowFrequencyMaintenanceInterval_positive
  exact ⟨schedule_done done,registered,others _ (open_ne_catalog _ _)⟩

theorem refreshTarget_open (rd : Reading) (pol : RefreshPolicy)
    (cat : co.scheduler.jobs[OriginJobKey.catalog t]?≠none)
    (known : co.scheduler.jobs[OriginJobKey.open t]?=some job)
    (due : t∈co.activatedTargets ∨ t∈co.manualOneShotTargets ∨ co.nextDue (.catalog t)≠none) :
    (co.refreshTarget rd pol t).1=.ok () ∧ (co.refreshTarget rd pol t).2.scheduler.jobs[
      OriginJobKey.open t]?=some (job.setOpenWatchCount pol.openIntervals
        (rd.activeWatchCount t) rd.now) := by
  obtain ⟨done,registered,same⟩ := refreshCatalogCadence_done rd pol cat due
  unfold refreshTarget
  rw [attempt_ok done]
  generalize (co.refreshCatalogCadence rd pol t).2=after at registered same
  obtain ⟨schedule,present⟩ := Option.ne_none_iff_exists'.mp registered
  have kept := (updateJob_lookup after.scheduler (fun schedule =>
    { schedule with activeWatchCount := rd.activeWatchCount t }) present).2 _ (open_ne_catalog t t)
  rw [attempt_ok (by exact schedule_known registered)]
  have found := (kept.trans same).trans known
  exact ⟨schedule_done (congrArg Prod.fst (updateJob_known _ _ found)),
    (updateJob_lookup _ _ found).1⟩

theorem releaseProductDemandTarget_jobs {catalogJob : JobSchedule}
    (hp : rd.policy=some pol) (mem : t∈co.targets)
    (cat : co.scheduler.jobs[OriginJobKey.catalog t]?=some catalogJob)
    (known : co.scheduler.jobs[OriginJobKey.open t]?=some job) :
    let after := (co.releaseProductDemandTarget rd t).2
    after.scheduler.jobs[OriginJobKey.open t]?=some (job.demoteOpen pol.openIntervals
        (rd.activeWatchCount t) rd.now) ∧
      after.scheduler.jobs[OriginJobKey.catalog t]?=
        some (catalogJob.demoteCatalog (catalogMaintenance co t) rd.now).2 ∧
      after.manualOneShotTargets=co.manualOneShotTargets := by
  rw [releaseProductDemandTarget_eq rd t hp mem (by simp [cat]) (by simp [known])]
  obtain ⟨demoted,others⟩ := demoteCatalog_lookup co.scheduler t
    (catalogMaintenance co t) rd.now cat
  obtain ⟨updated,kept⟩ := updateJob_lookup _ (fun schedule =>
    schedule.demoteOpen pol.openIntervals (rd.activeWatchCount t) rd.now)
    ((others _ (open_ne_catalog t t)).trans known)
  exact ⟨updated,(kept _ (open_ne_catalog t t).symm).trans demoted,rfl⟩

/-- After a release the Catalog job of a target that is not manual is due again. -/
theorem releaseProductDemandTarget_due {catalogJob : JobSchedule}
    (hp : rd.policy=some pol) (mem : t∈co.targets)
    (cat : co.scheduler.jobs[OriginJobKey.catalog t]?=some catalogJob)
    (known : co.scheduler.jobs[OriginJobKey.open t]?=some job) :
    let after := (co.releaseProductDemandTarget rd t).2
    t∈after.manualOneShotTargets ∨ after.nextDue (.catalog t)≠none := by
  obtain ⟨-,demoted,manual⟩ := releaseProductDemandTarget_jobs hp mem cat known
  dsimp only
  rw [manual]
  by_cases oneShot : t∈co.manualOneShotTargets
  · exact .inl oneShot
  refine .inr ?_
  unfold nextDue
  rw [demoted,catalogMaintenance,if_neg oneShot]
  simp [JobSchedule.demoteCatalog,lowFrequencyMaintenanceInterval_positive]

/-- Releasing a watched target and then dropping its last watch leaves the Open job
active. -/
theorem release_then_drop {released dropped : Reading}
    (h : Cadenced (co,releasedWatched)) (hp : released.policy.isSome)
    (watched : 0<released.activeWatchCount t)
    (unwatched : dropped.activeWatchCount t=0) (mem : t∈co.targets)
    (known : co.scheduler.jobs[OriginJobKey.open t]?=some job) :
    ((co.releaseProductDemandTarget released t).2.refreshTarget dropped pol
      t).2.scheduler.isActive (.open t)=true := by
  obtain ⟨releasePolicy,hp⟩ := Option.isSome_iff_exists.mp hp
  obtain ⟨catalogJob,cat⟩ := Option.ne_none_iff_exists'.mp (h.registered t mem).1
  obtain ⟨demoted,demotedCatalog,-⟩ := releaseProductDemandTarget_jobs hp mem cat known
  have due := releaseProductDemandTarget_due hp mem cat known
  unfold OriginEdfScheduler.isActive
  rw [(refreshTarget_open dropped pol (by simp [demotedCatalog]) demoted (.inr due)).2,unwatched]
  simp [JobSchedule.demoteOpen,JobSchedule.setOpenWatchCount,watched]

/-- In the other order only a pending observation keeps it active. -/
theorem drop_then_release {dropped last : Reading}
    (h : Cadenced (co,releasedWatched)) (hp : last.policy.isSome)
    (gone : last.activeWatchCount t=0)
    (activated : t∈co.activatedTargets)
    (known : co.scheduler.jobs[OriginJobKey.open t]?=some job) :
    ((co.refreshTarget dropped pol t).2.releaseProductDemandTarget last
      t).2.scheduler.isActive (.open t)=job.oneShotPending := by
  obtain ⟨releasePolicy,hp⟩ := Option.isSome_iff_exists.mp hp
  have member := h.activated t activated
  have refreshed := (refreshTarget_open dropped pol (h.registered t member).1 known
    (.inl activated)).2
  have quiet := (refreshTarget_upkept co dropped t pol member).quiet
  have registered := quiet.scheduler.registered _ (h.registered t member).1
  obtain ⟨catalogJob,cat⟩ := Option.ne_none_iff_exists'.mp registered
  obtain ⟨demoted,-,-⟩ := releaseProductDemandTarget_jobs hp (quiet.targets ▸ member) cat refreshed
  have pending : (job.setOpenWatchCount pol.openIntervals (dropped.activeWatchCount t)
      dropped.now).oneShotPending=job.oneShotPending := by
    unfold JobSchedule.setOpenWatchCount
    dsimp only
    split
    · rfl
    · split <;> rfl
  unfold OriginEdfScheduler.isActive
  rw [demoted,gone]
  simpa [JobSchedule.demoteOpen] using pending

end Orders

/-- An idle target that nobody asks for keeps an active Open job exactly if it was
watched when it was last demoted. So the release and the end of the last watch only
commute while an observation is pending anyway. -/
theorem SharedRefreshCoordinator.open_inactive_iff_demoted_unwatched
    (operations : List CoordinatorOperation) (t : TermCampusKey) (job : JobSchedule)
    (known : (run demoting (.new,fun _ => false) operations).1.scheduler.jobs[
      OriginJobKey.open t]?=some job) :
    let reached := run demoting (.new,fun _ => false) operations
    (t∉reached.1.activatedTargets → job.activeWatchCount=0 → job.oneShotPending=false →
      (job.active=false ↔ reached.2 t=false)) ∧
    (t∈reached.1.activatedTargets → ∀(released dropped last : Reading)
      (pol : RefreshPolicy),released.policy.isSome → last.policy.isSome →
      0<released.activeWatchCount t → dropped.activeWatchCount t=0 →
      last.activeWatchCount t=0 →
      (((reached.1.releaseProductDemandTarget released t).2.refreshTarget dropped pol
          t).2.scheduler.isActive (.open t)=
        ((reached.1.refreshTarget dropped pol t).2.releaseProductDemandTarget last
          t).2.scheduler.isActive (.open t) ↔ job.oneShotPending=true)) := by
  have cadenced := demoting_cadenced operations
  generalize run demoting (.new,fun _ => false) operations=reached at known cadenced ⊢
  obtain ⟨coordinator,releasedWatched⟩ := reached
  refine ⟨?_,?_⟩
  · intro idle unwatched settled
    have active := reachable_settled cadenced.reached t job known
    have recurring := cadenced.recurring t job.recurring (by
      simp [OriginEdfScheduler.cadence,known])
    rw [active,recurring,unwatched,settled,decide_eq_false idle]
    simp
  · intro activated released dropped last pol hr hl watched unwatched gone
    have member := cadenced.activated t activated
    rw [release_then_drop cadenced hr watched unwatched member known,
      drop_then_release cadenced hl gone activated known,eq_comm]

/-- The public policy, read with so many watches of every target. -/
def publicReading (watches seconds : Nat) : Reading :=
  ⟨some ⟨.fromSecs 60,.fixed,by decide⟩,⟨1000*seconds⟩,fun _ => watches⟩

def publishedCatalog : Execution :=
  ⟨.published ⟨1000⟩,.error,⟨.fromSecs 1,.automatic,1,false⟩,⟨1000⟩⟩

/-- A target is registered and activated, its Catalog is published, and it is released
while it is watched. Then the last watch ends. -/
def watchedRelease : List CoordinatorOperation :=
  [.register (publicReading 0 0) nbFall2026 false false,
    .activateOpenTarget (publicReading 1 0) nbFall2026,
    .runNext (publicReading 1 0) publishedCatalog,
    .releaseProductDemandTarget (publicReading 1 2) nbFall2026,
    .nextDispatchHint (publicReading 0 3)]

theorem open_inactive_iff_demoted_unwatched_watched_release :
    (run demoting (.new,fun _ => false) watchedRelease).2 nbFall2026=true ∧
    ∃job,(run demoting (.new,fun _ => false) watchedRelease).1.scheduler.jobs[
      OriginJobKey.open nbFall2026]?=some job ∧ ¬job.active=false := by
  have known := (Option.some_get (x := (run demoting (.new,fun _ => false)
    watchedRelease).1.scheduler.jobs[OriginJobKey.open nbFall2026]?) (by decide)).symm
  have noted : (run demoting (.new,fun _ => false) watchedRelease).2 nbFall2026=true := by decide
  refine ⟨noted,_,known,fun inactive => ?_⟩
  have unwatched := ((open_inactive_iff_demoted_unwatched watchedRelease
    nbFall2026 _ known).1 (by decide) (by decide) (by decide)).mp inactive
  simp [noted] at unwatched

theorem watched_release_stays_active :
    let reached := run SharedRefreshCoordinator.step .new watchedRelease
    nbFall2026∉reached.activatedTargets ∧
    reached.scheduler.jobs[OriginJobKey.open nbFall2026]?.map (fun job =>
      (job.activeWatchCount,job.oneShotPending,job.active))=some (0,false,true) := by
  decide

end CoursePlanner.Application
