import CoursePlanner.Open.Moves

namespace CoursePlanner.Open

open Std Library Contracts

/-- An Open job is active exactly for its cadence, a pending observation or a watch. -/
def JobSchedule.Settled (schedule : JobSchedule) : Prop :=
  schedule.active=(schedule.recurring || schedule.oneShotPending || 0<schedule.activeWatchCount)

namespace JobSchedule.Settled

variable {sd : JobSchedule}

theorem upserted (known : Option JobSchedule) (ivs : OpenRefreshIntervals) (count : Nat)
    (fd : MonotonicTime) (recurring : Bool) :
    (JobSchedule.upserted known (openRegistration ivs count fd recurring)).Settled := by
  unfold Settled
  cases known <;> cases recurring <;>
    simp [JobSchedule.upserted,JobSchedule.register,JobSchedule.ofRegistration,openRegistration]

theorem upsertedOpen (known : Option JobSchedule) (ivs : OpenRefreshIntervals) (count : Nat)
    (now fd : MonotonicTime) (recurring : Bool) :
    (JobSchedule.upsertedOpen known (openRegistration ivs count fd recurring) now).Settled := by
  have settled := upserted known ivs count fd recurring
  unfold JobSchedule.upsertedOpen JobSchedule.updateDueForIntervalChange
  split
  · split
    · exact settled
    · split <;> exact settled
  · exact settled

theorem demoteOpen (ivs : OpenRefreshIntervals) (count : Nat) (now : MonotonicTime) :
    (sd.demoteOpen ivs count now).Settled := by
  unfold JobSchedule.demoteOpen Settled
  split
  · simp
  · next unwatched => simp [unwatched]

theorem setOpenWatchCount (h : sd.Settled) (ivs : OpenRefreshIntervals) (count : Nat)
    (now : MonotonicTime) : (sd.setOpenWatchCount ivs count now).Settled := by
  unfold Settled at h
  unfold JobSchedule.setOpenWatchCount Settled
  dsimp only
  split
  · next begins => simp_all
  split
  · next ends => simp_all
  next same =>
  -- Watched before and after, or neither: the activity stays what it was.
  cases hw : decide (0<count) <;> cases hp : decide (0<sd.activeWatchCount) <;>
    simp_all

theorem complete {fl : InFlight} (h : sd.Settled) (isOpen : fl.key.kind=.open)
    (ca : MonotonicTime) (cp : CompletionSchedule) :
    (sd.complete fl ca cp).Settled := by
  unfold JobSchedule.complete Settled
  cases cp with
  | success =>
    dsimp only
    split
    · simp [isOpen]
    · exact h
  | catalogRace | retry => exact h

end JobSchedule.Settled

variable {sch : OriginEdfScheduler}

theorem JobMove.settled {op : SchedulerOperation} {key : OriginJobKey} {job : JobSchedule}
    (move : JobMove sch op key job) (isOpen : key.kind=.open)
    (h : ∀sd,sch.jobs[key]?=some sd → sd.Settled) : job.Settled := by
  cases move with
  | registerCatalog | registerCatalogInitial | registerCatalogOneShot | setCatalogWatchCount
  | activateCatalog | demoteCatalog =>
    cases isOpen
  | registerOpen t ivs count now fd =>
    exact .upsertedOpen _ ivs count now fd true
  | registerOpenInitial t ivs count now fd job written =>
    have settled := JobSchedule.Settled.upsertedOpen sch.jobs[OriginJobKey.open t]?
      ivs count now fd false
    rw [← written] at settled
    split <;> exact settled
  | activateOpen => simp [JobSchedule.Settled,JobSchedule.activateOpen]
  | demoteOpen _ ivs count now => exact .demoteOpen ivs count now
  | setOpenWatchCount t ivs count now sd known =>
    exact (h sd known).setOpenWatchCount ivs count now
  | requestOpenDue t due lane sd known =>
    cases hr : sd.recurring <;> simp [JobSchedule.Settled,JobSchedule.requestDue,hr]
  | requestManualTargetRetry _ _ _ _ sd =>
    cases hr : sd.recurring <;> simp [JobSchedule.Settled,JobSchedule.manualRetry,hr]
  | completeOpenBootstrap _ ca sd
  | adoptExternalOpenState _ now nextDue streak sd =>
    exact congrArg (· || _) (Bool.or_false sd.recurring).symm
  | startNext now key sd known => exact h sd known
  | finish fl ca cp sd running ordered known =>
    exact (h sd known).complete isOpen ca cp

theorem reachable_settled (h : Reachable OriginEdfScheduler.step .new sch)
    (t : TermCampusKey) (job : JobSchedule)
    (found : sch.jobs[OriginJobKey.open t]?=some job) : job.Settled := by
  refine h.invariant (fun sch => ∀job,
    sch.jobs[OriginJobKey.open t]?=some job → job.Settled) ?_ ?_ job found
  · intro job found
    simp [OriginEdfScheduler.new] at found
  intro sch op settled job found
  obtain same|⟨written,hw,move⟩ := (step_moved sch op).lookup (.open t)
  · exact settled job (same.symm.trans found)
  · rw [hw] at found
    cases found
    exact move.settled rfl settled

/-- The target whose Open cadence an operation decides. -/
def SchedulerOperation.governed : SchedulerOperation → Option TermCampusKey
  | .registerOpen target _ _ _ _ => some target
  | .registerOpenInitial target _ _ _ _ => some target
  | .activateOpen target _ _ => some target
  | .demoteOpen target _ _ _ => some target
  | _ => none

/-- Whether the Open job of a target has a cadence of its own, once it is registered. -/
def OriginEdfScheduler.cadence (scheduler : OriginEdfScheduler) (target : TermCampusKey) :
    Option Bool :=
  scheduler.jobs[OriginJobKey.open target]?.map JobSchedule.recurring

theorem JobMove.recurring {op : SchedulerOperation} {t : TermCampusKey}
    {job : JobSchedule} (move : JobMove sch op (.open t) job)
    (h : op.governed≠some t) :
    ∃sd,sch.jobs[OriginJobKey.open t]?=some sd ∧ job.recurring=sd.recurring := by
  generalize hk : OriginJobKey.open t=key at move
  cases move with
  | registerCatalog | registerCatalogInitial | registerCatalogOneShot | setCatalogWatchCount
  | activateCatalog | demoteCatalog =>
    cases hk
  | registerOpen | registerOpenInitial | activateOpen | demoteOpen => cases hk; exact absurd rfl h
  | setOpenWatchCount _ ivs count now sd known =>
    refine ⟨sd,known,?_⟩
    unfold JobSchedule.setOpenWatchCount
    dsimp only
    split
    · rfl
    · split <;> rfl
  | requestOpenDue _ due lane sd known
  | requestManualTargetRetry _ now _ circuit sd chosen known
  | completeOpenBootstrap _ ca sd known
  | adoptExternalOpenState _ now nextDue streak sd known | startNext now _ sd known =>
    exact ⟨sd,known,rfl⟩
  | finish _ _ cp sd _ _ known =>
    refine ⟨sd,known,?_⟩
    unfold JobSchedule.complete
    cases cp with
    | success =>
      dsimp only
      split <;> rfl
    | catalogRace | retry => rfl

theorem step_cadence (sch : OriginEdfScheduler) (operation : SchedulerOperation)
    (t : TermCampusKey) (h : operation.governed≠some t) :
    (sch.step operation).2.cadence t=sch.cadence t := by
  unfold OriginEdfScheduler.cadence
  obtain same|⟨job,written,move⟩ := (step_moved sch operation).lookup (.open t)
  · rw [same]
  · obtain ⟨sd,known,same⟩ := move.recurring h
    rw [written,known,Option.map_some,Option.map_some,same]

/-- Work of the scheduler that leaves the Open cadence of every target alone. -/
structure Undisturbed (before after : OriginEdfScheduler) : Prop where
  reached : Reachable OriginEdfScheduler.step before after
  cadence : ∀target,after.cadence target=before.cadence target
  registered : ∀key : OriginJobKey,before.jobs[key]?≠none → after.jobs[key]?≠none

namespace Undisturbed

theorem refl (sch : OriginEdfScheduler) : Undisturbed sch sch :=
  ⟨.start,fun _ => rfl,fun _ h => h⟩

theorem trans {before middle after : OriginEdfScheduler} (h : Undisturbed before middle)
    (g : Undisturbed middle after) : Undisturbed before after := by
  refine ⟨h.reached.trans g.reached,?_,?_⟩
  · intro t
    rw [g.cadence,h.cadence]
  · intro key present
    exact g.registered key (h.registered key present)

theorem step (sch : OriginEdfScheduler) (op : SchedulerOperation)
    (h : op.governed=none) : Undisturbed sch (sch.step op).2 := by
  refine ⟨.step _ op .start,?_,step_registered sch op⟩
  intro t
  exact step_cadence sch op t (by rw [h]; exact nofun)

end Undisturbed

/-- Work of the scheduler that decides the Open cadence of one target. -/
structure Governed (before after : OriginEdfScheduler) (target : TermCampusKey)
    (recurring : Bool) : Prop where
  reached : Reachable OriginEdfScheduler.step before after
  decided : after.cadence target=some recurring
  others : ∀other,other≠target → after.cadence other=before.cadence other
  registered : ∀key : OriginJobKey,before.jobs[key]?≠none → after.jobs[key]?≠none

namespace Governed

variable {before middle after : OriginEdfScheduler} {t : TermCampusKey} {recurring : Bool}

theorem step (sch : OriginEdfScheduler) (op : SchedulerOperation) (h : op.governed=some t)
    (decided : (sch.step op).2.cadence t=some recurring) :
    Governed sch (sch.step op).2 t recurring := by
  refine ⟨.step _ op .start,decided,?_,step_registered sch op⟩
  intro other ho
  refine step_cadence sch op other ?_
  rw [h]
  exact fun same => ho (Option.some.inj same).symm

theorem followed (h : Governed before middle t recurring) (g : Undisturbed middle after) :
    Governed before after t recurring :=
  ⟨h.reached.trans g.reached,(g.cadence t).trans h.decided,
    fun other ho => (g.cadence other).trans (h.others other ho),
    fun key present => g.registered key (h.registered key present)⟩

theorem preceded (h : Governed middle after t recurring) (g : Undisturbed before middle) :
    Governed before after t recurring :=
  ⟨g.reached.trans h.reached,h.decided,fun other ho => (h.others other ho).trans (g.cadence other),
    fun key present => h.registered key (g.registered key present)⟩

theorem present (h : Governed before after t recurring) :
    after.jobs[OriginJobKey.open t]?≠none := by
  intro absent
  have decided := h.decided
  simp [OriginEdfScheduler.cadence,absent] at decided

end Governed

theorem open_ne_catalog (t other : TermCampusKey) :
    OriginJobKey.open t≠OriginJobKey.catalog other :=
  fun same => nomatch congrArg OriginJobKey.kind same

section Decisions

variable (sch : OriginEdfScheduler) (t : TermCampusKey)

variable {job : JobSchedule}

theorem updateJob_known {key : OriginJobKey} (change : JobSchedule → JobSchedule)
    (h : sch.jobs[key]?=some job) :
    sch.updateJob key change= (.ok (),{ sch with jobs := sch.jobs.insert key (change job) }) := by
  unfold OriginEdfScheduler.updateJob
  rw [h]

theorem updateJob_lookup {key : OriginJobKey} (change : JobSchedule → JobSchedule)
    (h : sch.jobs[key]?=some job) :
    (sch.updateJob key change).2.jobs[key]?=some (change job) ∧
      ∀other,other≠key → (sch.updateJob key change).2.jobs[other]?= sch.jobs[other]? := by
  rw [updateJob_known sch change h]
  refine ⟨by simp,fun other ho => ?_⟩
  simp [ExtTreeMap.getElem?_insert,Ne.symm ho]

variable (ivs : OpenRefreshIntervals)

theorem activateOpen_governs (now : MonotonicTime) (h : sch.jobs[OriginJobKey.open t]?≠none) :
    (sch.activateOpen t ivs now).1=.ok () ∧ Governed sch (sch.activateOpen t ivs now).2 t true := by
  obtain ⟨job,known⟩ := Option.ne_none_iff_exists'.mp h
  have updated := updateJob_known sch (fun sd => sd.activateOpen ivs now) known
  refine ⟨congrArg Prod.fst updated,.step _ (.activateOpen t ivs now) rfl ?_⟩
  change (sch.updateJob (.open t) _).2.cadence t=some true
  rw [updated]
  simp [OriginEdfScheduler.cadence,JobSchedule.activateOpen]

theorem demoteOpen_governs (count : Nat) (now : MonotonicTime)
    (h : sch.jobs[OriginJobKey.open t]?≠none) :
    (sch.demoteOpen t ivs count now).1=.ok () ∧
      Governed sch (sch.demoteOpen t ivs count now).2 t (0<count) := by
  obtain ⟨job,known⟩ := Option.ne_none_iff_exists'.mp h
  have updated := updateJob_known sch (fun sd => sd.demoteOpen ivs count now) known
  refine ⟨congrArg Prod.fst updated,.step _ (.demoteOpen t ivs count now) rfl ?_⟩
  change (sch.updateJob (.open t) _).2.cadence t=some _
  rw [updated]
  unfold OriginEdfScheduler.cadence JobSchedule.demoteOpen
  by_cases hc : 0<count <;> simp [hc]

theorem registerOpenInitial_governs (count : Nat) (now fd : MonotonicTime)
    (h : sch.jobs[OriginJobKey.open t]?=none) :
    (sch.registerOpenInitial t ivs count now fd).1=.ok () ∧
      Governed sch (sch.registerOpenInitial t ivs count now fd).2 t false := by
  have registered := registerOpenInitial_eq sch t ivs count now fd _ rfl
  refine ⟨congrArg Prod.fst registered, .step _ (.registerOpenInitial t ivs count now fd) rfl ?_⟩
  change (sch.registerOpenInitial t ivs count now fd).2.cadence t=_
  rw [registered]
  unfold OriginEdfScheduler.cadence
  rw [h]
  by_cases hc : count=0 <;>
    simp [hc,JobSchedule.upsertedOpen,JobSchedule.upserted,JobSchedule.ofRegistration,
      openRegistration]

theorem upsert_registers (key : OriginJobKey) (reg : JobRegistration)
    (h : reg.interval.isZero=false) :
    (sch.upsert key reg).1=.ok () ∧ (sch.upsert key reg).2.jobs[key]?≠none ∧
      ∀other,other≠key → (sch.upsert key reg).2.jobs[other]?= sch.jobs[other]? := by
  rw [upsert_of_nonzero sch key reg h]
  refine ⟨rfl,by simp,fun other ho => ?_⟩
  simp [ExtTreeMap.getElem?_insert,Ne.symm ho]

theorem demoteCatalog_lookup (mnt : Option Duration) (now : MonotonicTime)
    (h : sch.jobs[OriginJobKey.catalog t]?=some job) :
    (sch.demoteCatalog t mnt now).2.jobs[OriginJobKey.catalog t]?=
        some (job.demoteCatalog mnt now).2 ∧
      ∀other,other≠OriginJobKey.catalog t → (sch.demoteCatalog t mnt now).2.jobs[other]?=
          sch.jobs[other]? := by
  unfold OriginEdfScheduler.demoteCatalog
  rw [h]
  refine ⟨by simp,fun other ho => ?_⟩
  simp [ExtTreeMap.getElem?_insert,Ne.symm ho]

theorem demoteCatalog_done (mnt : Option Duration) (now : MonotonicTime)
    (h : sch.jobs[OriginJobKey.catalog t]?≠none)
    (positive : ∀iv,mnt=some iv → iv.isZero=false) :
    (sch.demoteCatalog t mnt now).1=.ok () := by
  obtain ⟨job,known⟩ := Option.ne_none_iff_exists'.mp h
  unfold OriginEdfScheduler.demoteCatalog
  rw [known]
  unfold JobSchedule.demoteCatalog
  cases mnt with
  | none => rfl
  | some iv => simp [positive iv rfl]

theorem activateCatalog_done (iv : Duration) (now : MonotonicTime)
    (h : sch.jobs[OriginJobKey.catalog t]?≠none)
    (positive : iv.isZero=false) :
    (sch.activateCatalog t iv now).1=.ok () := by
  obtain ⟨job,known⟩ := Option.ne_none_iff_exists'.mp h
  unfold OriginEdfScheduler.activateCatalog
  rw [positive,updateJob_known sch _ known]
  rfl

end Decisions

end CoursePlanner.Open
