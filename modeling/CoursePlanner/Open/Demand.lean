import CoursePlanner.Open.Circuit

set_option maxRecDepth 8000

namespace CoursePlanner.Open

open Std Library Contracts JobSchedule OriginEdfScheduler

/-- Something still asks for the job. -/
def JobSchedule.demanded (schedule : JobSchedule) (kind : OriginJobKind) : Bool :=
  schedule.recurring || schedule.oneShotPending || schedule.generationPending ||
    (kind=.open && 0<schedule.activeWatchCount)

@[simp] theorem demanded_eq_true (sd : JobSchedule) (kind : OriginJobKind) :
    sd.demanded kind=true ↔ sd.recurring=true ∨ sd.oneShotPending=true ∨
      sd.generationPending=true ∨ kind=.open ∧ 0<sd.activeWatchCount := by
  simp [JobSchedule.demanded,or_assoc]

/-- The job invariant. That a pending Open generation is also a pending one-shot is what
keeps it active through demote_open and set_open_watch_count, which look at the latter only. -/
structure JobKept (kind : OriginJobKind) (schedule : JobSchedule) : Prop where
  active : schedule.demanded kind=true → schedule.active=true
  lanes : kind=.open → 0<schedule.activeWatchCount →
    schedule.lane=.openActiveWatch ∧ schedule.normalLane=.openActiveWatch
  hydrating : kind=.open → schedule.generationPending=true → schedule.oneShotPending=true

namespace JobKept

theorem upserted_catalog (sd : Option JobSchedule) (reg : JobRegistration) :
    JobKept .catalog (.upserted sd reg) := by
  refine ⟨fun _ => ?_,nofun,nofun⟩
  cases sd <;> rfl

variable {sd : JobSchedule}

theorem updateDue {kind : OriginJobKind} (h : JobKept kind sd) (now : MonotonicTime) :
    JobKept kind (sd.updateDueForIntervalChange now) := by
  unfold updateDueForIntervalChange
  split
  · exact ⟨h.active,h.lanes,h.hydrating⟩
  · split
    · exact ⟨h.active,h.lanes,h.hydrating⟩
    · exact h

theorem upserted_open (sd : Option JobSchedule) (ivs : OpenRefreshIntervals)
    (count : Nat) (fd : MonotonicTime) (recurring : Bool)
    (h : ∀known,sd=some known → JobKept .open known) :
    JobKept .open (.upserted sd (openRegistration ivs count fd recurring)) := by
  have lane : 0<count → openLane (0<count)=.openActiveWatch := by
    intro watched
    simp [openLane,watched]
  cases sd with
  | none =>
    refine ⟨fun _ => rfl,fun _ watched => ⟨lane watched,lane watched⟩,fun _ => ?_⟩
    cases recurring <;> simp [upserted,ofRegistration,openRegistration]
  | some known =>
    refine ⟨fun _ => rfl,fun _ watched => ⟨lane watched,lane watched⟩,fun _ => ?_⟩
    have hydrating := (h known rfl).hydrating rfl
    cases recurring <;> simp [upserted,register,openRegistration]
    exact hydrating

theorem upsertedOpen {sd : Option JobSchedule} {reg : JobRegistration}
    (h : JobKept .open (.upserted sd reg)) (now : MonotonicTime) :
    JobKept .open (.upsertedOpen sd reg now) := by
  unfold JobSchedule.upsertedOpen
  split
  · exact h.updateDue now
  · exact h

section

variable (h : JobKept .open sd) (ivs : OpenRefreshIntervals)

include h ivs

theorem activateOpen (now : MonotonicTime) : JobKept .open (sd.activateOpen ivs now) := by
  refine ⟨fun _ => rfl,fun _ watched => ?_,h.hydrating⟩
  have hw : 0<sd.activeWatchCount := watched
  obtain ⟨lane,_⟩ := h.lanes rfl watched
  simp [JobSchedule.activateOpen,openLane,hw,lane]

theorem demoteOpen (count : Nat)
    (now : MonotonicTime) : JobKept .open (sd.demoteOpen ivs count now) := by
  have hydrating := h.hydrating rfl
  unfold JobSchedule.demoteOpen
  split
  · exact ⟨fun _ => rfl,fun _ _ => ⟨rfl,rfl⟩,h.hydrating⟩
  next unwatched =>
  refine ⟨?_,fun _ watched => absurd watched unwatched,h.hydrating⟩
  simp only [demanded_eq_true]
  grind

theorem setOpenWatchCount (count : Nat) (now : MonotonicTime) :
    JobKept .open (sd.setOpenWatchCount ivs count now) := by
  have hydrating := h.hydrating rfl
  have active := h.active
  simp only [demanded_eq_true] at active
  unfold JobSchedule.setOpenWatchCount
  dsimp only
  split
  · next begins =>
    refine ⟨fun _ => rfl,fun _ watched => ?_,h.hydrating⟩
    have hw : 0<count := watched
    simp [openLane,hw]
  · split
    · next ends =>
      refine ⟨?_,?_,h.hydrating⟩ <;> simp only [demanded_eq_true] <;> grind
    · refine ⟨?_,?_,h.hydrating⟩ <;> simp only [demanded_eq_true,openLane] <;> grind

end

/-- demote_catalog drops the cadence and stays active for what is pending. -/
theorem demoteCatalog (h : JobKept .catalog sd) (maintenanceInterval : Option Duration)
    (now : MonotonicTime) :
    JobKept .catalog (sd.demoteCatalog maintenanceInterval now).2 := by
  refine ⟨?_,nofun,nofun⟩
  have active := h.active
  simp only [demanded_eq_true] at active ⊢
  unfold JobSchedule.demoteCatalog
  split
  · split
    · exact active
    · exact fun _ => rfl
  · simp only [reduceCtorEq,false_and,or_false,false_or,Bool.or_eq_true]
    exact Or.symm

theorem requestDue (h : JobKept .open sd) (due : MonotonicTime) (lane : OriginSchedulerLane) :
    JobKept .open (sd.requestDue due lane) := by
  refine ⟨fun _ => rfl,fun _ watched => ?_,fun _ pending => ?_⟩
  · have hw : 0<sd.activeWatchCount := watched
    simp [JobSchedule.requestDue,hw,(h.lanes rfl watched).2]
  · simp [JobSchedule.requestDue,h.hydrating rfl pending]

theorem manualRetry {kind : OriginJobKind} (h : JobKept kind sd) (now : MonotonicTime) :
    JobKept kind (sd.manualRetry kind now) := by
  refine ⟨fun _ => rfl,fun isOpen watched => ?_,fun isOpen pending => ?_⟩
  · subst isOpen
    have hw : 0<sd.activeWatchCount := watched
    simp [JobSchedule.manualRetry,hw,(h.lanes rfl watched).2]
  · simp [JobSchedule.manualRetry,h.hydrating isOpen pending]

theorem completeOpenBootstrap (h : JobKept .open sd) (ca : MonotonicTime) :
    JobKept .open (sd.completeOpenBootstrap ca) := by
  refine ⟨?_,fun _ watched => ?_,nofun⟩
  · simp [JobSchedule.completeOpenBootstrap]
  · exact ⟨(h.lanes rfl watched).2,(h.lanes rfl watched).2⟩

theorem adoptExternalOpenState (h : JobKept .open sd) (now nextDue : MonotonicTime)
    (failureStreak : Nat) :
    JobKept .open (sd.adoptExternalOpenState now nextDue failureStreak) := by
  refine ⟨?_,fun _ watched => ?_,nofun⟩
  · simp [JobSchedule.adoptExternalOpenState]
  · exact ⟨(h.lanes rfl watched).2,(h.lanes rfl watched).2⟩

theorem complete {fl : InFlight} (h : JobKept fl.key.kind sd)
    (ca : MonotonicTime) (cp : CompletionSchedule) :
    JobKept fl.key.kind (sd.complete fl ca cp) := by
  have active := h.active
  have lanes := h.lanes
  simp only [demanded_eq_true] at active
  unfold JobSchedule.complete
  cases cp with
  | success =>
    dsimp only
    split <;> refine ⟨?_,?_,nofun⟩ <;> simp only [demanded_eq_true] <;> grind
  | catalogRace | retry =>
    exact ⟨h.active,fun isOpen watched => ⟨(lanes isOpen watched).2,(lanes isOpen watched).2⟩,
      h.hydrating⟩

end JobKept

variable {sch : OriginEdfScheduler}

theorem JobMove.jobKept {op : SchedulerOperation} {key : OriginJobKey} {job : JobSchedule}
    (move : JobMove sch op key job)
    (h : ∀sd,sch.jobs[key]?=some sd → JobKept key.kind sd) :
    JobKept key.kind job := by
  cases move with
  | registerCatalog | registerCatalogInitial | registerCatalogOneShot =>
    exact JobKept.upserted_catalog _ _
  | registerOpen t ivs count now fd =>
    exact (JobKept.upserted_open _ ivs count fd true h).upsertedOpen now
  | registerOpenInitial t ivs count now fd job written =>
    have kept := (JobKept.upserted_open _ ivs count fd false h).upsertedOpen now
    have counted := (upsertedOpen_registered sch.jobs[OriginJobKey.open t]?
      (openRegistration ivs count fd false) now).2.2
    rw [← written] at kept counted
    split
    · next none_ =>
      refine ⟨kept.active,fun _ watched => ?_,kept.hydrating⟩
      have hw : 0<job.activeWatchCount := watched
      rw [counted] at hw
      exact absurd hw (by simp [openRegistration,none_])
    · exact kept
  | setCatalogWatchCount t count sd known =>
    have old := (h sd known).active
    exact ⟨fun demanded => old (by simpa [OriginJobKey.catalog] using demanded),nofun,nofun⟩
  | activateCatalog => exact ⟨fun _ => rfl,nofun,nofun⟩
  | demoteCatalog t maintenance now sd known =>
    exact (h sd known).demoteCatalog maintenance now
  | activateOpen t ivs now sd known =>
    exact (h sd known).activateOpen ivs now
  | demoteOpen t ivs count now sd known =>
    exact (h sd known).demoteOpen ivs count now
  | setOpenWatchCount t ivs count now sd known =>
    exact (h sd known).setOpenWatchCount ivs count now
  | requestOpenDue t due lane sd known => exact (h sd known).requestDue due lane
  | requestManualTargetRetry t now key circuit sd chosen known =>
    exact (h sd known).manualRetry now
  | completeOpenBootstrap t ca sd known =>
    exact (h sd known).completeOpenBootstrap ca
  | adoptExternalOpenState t now nextDue streak sd known =>
    exact (h sd known).adoptExternalOpenState now nextDue streak
  | startNext now key sd known =>
    exact ⟨(h sd known).active,(h sd known).lanes,(h sd known).hydrating⟩
  | finish fl ca cp sd running ordered known =>
    exact (h sd known).complete ca cp

/-- Every registered job keeps the job invariant. -/
def JobsKept (scheduler : OriginEdfScheduler) : Prop :=
  ∀(key : OriginJobKey) schedule,scheduler.jobs[key]?=some schedule → JobKept key.kind schedule

theorem step_jobsKept (sch : OriginEdfScheduler) (op : SchedulerOperation)
    (h : JobsKept sch) : JobsKept (sch.step op).2 := by
  intro key sd found
  obtain same|⟨job,written,move⟩ := (step_moved sch op).lookup key
  · exact h key sd (same.symm.trans found)
  · rw [written] at found
    cases found
    exact move.jobKept (h key)

theorem reachable_jobsKept (h : Reachable step .new sch) : JobsKept sch := by
  refine h.invariant JobsKept ?_ step_jobsKept
  intro key sd found
  simp [OriginEdfScheduler.new] at found

/-- The operations that end the pending work of a job: its accepted success, and for an
Open job also an observation made elsewhere. -/
def Clears (scheduler : OriginEdfScheduler) (key : OriginJobKey)
    (operation : SchedulerOperation) : Prop :=
  (∃inFlight completedAt,scheduler.inFlight=some inFlight ∧ inFlight.key=key ∧
    inFlight.startedAt ≤ completedAt ∧
    operation=.finish inFlight.token completedAt .success) ∨
  ∃target,key=.open target ∧
    ((∃completedAt,operation=.completeOpenBootstrap target completedAt) ∨
      ∃now nextDue failureStreak,
        operation=.adoptExternalOpenState target now nextDue failureStreak)

/-- No pending mark of the earlier schedule is lost in the later one. -/
structure StillPending (earlier later : JobSchedule) : Prop where
  oneShot : earlier.oneShotPending=true → later.oneShotPending=true
  generation : earlier.generationPending=true → later.generationPending=true

theorem stillPending_upserted (sd : JobSchedule) (reg : JobRegistration) :
    StillPending sd (.upserted (some sd) reg) := by
  refine ⟨?_,?_⟩ <;> intro pending <;> simp [upserted,register,pending]

theorem stillPending_upsertedOpen (sd : JobSchedule) (reg : JobRegistration) (now : MonotonicTime) :
    StillPending sd (.upsertedOpen (some sd) reg now) := by
  have kept := stillPending_upserted sd reg
  unfold JobSchedule.upsertedOpen updateDueForIntervalChange
  simp only [Option.isSome_some,if_true]
  split
  · exact ⟨kept.oneShot,kept.generation⟩
  · split
    · exact ⟨kept.oneShot,kept.generation⟩
    · exact kept

theorem JobMove.stillPending {op : SchedulerOperation} {key : OriginJobKey}
    {job sd : JobSchedule} (move : JobMove sch op key job)
    (known : sch.jobs[key]?=some sd) (h : ¬Clears sch key op) :
    StillPending sd job := by
  cases move with
  | registerCatalog | registerCatalogInitial | registerCatalogOneShot =>
    rw [known]; exact stillPending_upserted _ _
  | registerOpen _ _ _ now =>
    rw [known]
    exact stillPending_upsertedOpen _ _ now
  | registerOpenInitial t ivs count now fd job written =>
    have kept := stillPending_upsertedOpen sd (openRegistration ivs count fd false) now
    rw [known] at written
    rw [← written] at kept
    split
    · exact ⟨kept.oneShot,kept.generation⟩
    · exact kept
  | setCatalogWatchCount t count old same | activateCatalog t interval now old same
  | activateOpen t ivs now old same | startNext now key old same =>
    cases known.symm.trans same
    exact ⟨id,id⟩
  | demoteCatalog t maintenance now old same =>
    cases known.symm.trans same
    unfold JobSchedule.demoteCatalog
    split
    · split <;> exact ⟨id,id⟩
    · exact ⟨id,id⟩
  | demoteOpen _ _ _ _ _ same =>
    cases known.symm.trans same
    unfold JobSchedule.demoteOpen
    split <;> exact ⟨id,id⟩
  | setOpenWatchCount _ _ _ _ _ same =>
    cases known.symm.trans same
    unfold JobSchedule.setOpenWatchCount
    dsimp only
    split
    · exact ⟨id,id⟩
    · split <;> exact ⟨id,id⟩
  | requestOpenDue t due lane old same =>
    cases known.symm.trans same
    exact ⟨fun pending => by simp [JobSchedule.requestDue,pending],id⟩
  | requestManualTargetRetry _ _ _ _ _ _ same =>
    cases known.symm.trans same
    exact ⟨fun pending => by simp [JobSchedule.manualRetry,pending],id⟩
  | completeOpenBootstrap t ca =>
    exact absurd (.inr ⟨t,rfl,.inl ⟨ca,rfl⟩⟩) h
  | adoptExternalOpenState t now nextDue streak =>
    exact absurd (.inr ⟨t,rfl,.inr ⟨now,nextDue,streak,rfl⟩⟩) h
  | finish fl ca cp old running ordered same =>
    cases known.symm.trans same
    cases cp with
    | success => exact absurd (.inl ⟨fl,ca,running,rfl,ordered,rfl⟩) h
    | catalogRace | retry => exact ⟨id,id⟩

theorem run_stillPending (sch : OriginEdfScheduler) (key : OriginJobKey)
    (sd : JobSchedule) (known : sch.jobs[key]?=some sd)
    (ops : List SchedulerOperation)
    (h : Along step (fun s op => ¬Clears s key op) sch ops) :
    ∃later,(run step sch ops).jobs[key]?=some later ∧ StillPending sd later := by
  refine h.preserves (fun s => ∃later,s.jobs[key]?=some later ∧ StillPending sd later)
    ⟨sd,known,id,id⟩ ?_
  rintro s op uncleared ⟨later,found,kept⟩
  obtain same|⟨job,written,move⟩ := (step_moved s op).lookup key
  · exact ⟨later,same.trans found,kept⟩
  · have next := move.stillPending found uncleared
    exact ⟨job,written,fun pending => next.oneShot (kept.oneShot pending),
      fun pending => next.generation (kept.generation pending)⟩

/-- The registrations that ask for a first observation of their job. -/
def SchedulerOperation.hydrates : SchedulerOperation → Option OriginJobKey
  | .registerCatalogInitial target _ _ _ => some (.catalog target)
  | .registerCatalogOneShot target _ _ => some (.catalog target)
  | .registerOpenInitial target _ _ _ _ => some (.open target)
  | _ => none

theorem upserted_generation (sd : Option JobSchedule) (reg : JobRegistration)
    (h : reg.generationPending=true) :
    (upserted sd reg).generationPending=true := by
  cases sd <;> simp [upserted,register,ofRegistration,h]

theorem upsert_generation (sch : OriginEdfScheduler) (key : OriginJobKey)
    (reg : JobRegistration) (h : reg.generationPending=true)
    (acc : (sch.upsert key reg).1=.ok ()) :
    ∃sd,(sch.upsert key reg).2.jobs[key]?=some sd ∧ sd.generationPending=true := by
  unfold upsert at acc ⊢
  split at acc
  · cases acc
  · next nonzero =>
    rw [if_neg nonzero]
    exact ⟨_,by rw [getElem?_insert_eq,if_pos rfl],upserted_generation _ _ h⟩

theorem hydrates_pending (sch : OriginEdfScheduler) (op : SchedulerOperation)
    (key : OriginJobKey) (h : op.hydrates=some key)
    (acc : (sch.step op).1=.done (.ok ())) :
    ∃sd,(sch.step op).2.jobs[key]?=some sd ∧ sd.generationPending=true := by
  cases op with
  | registerCatalogInitial =>
    cases h
    exact upsert_generation _ _ _ rfl (SchedulerOutcome.done.inj acc)
  | registerCatalogOneShot t count fd =>
    cases h
    exact upsert_generation sch (.catalog t)
      ⟨catalogOneShotInterval,fd,.catalog,count,.oneShot,true⟩ rfl
      (SchedulerOutcome.done.inj acc)
  | registerOpenInitial t ivs count now fd =>
    cases h
    change ∃sd,(sch.registerOpenInitial t ivs count now fd).2.jobs[OriginJobKey.open t]?=some sd ∧ _
    rw [registerOpenInitial_eq sch t ivs count now fd _ rfl]
    refine ⟨_,by rw [getElem?_insert_eq,if_pos rfl],?_⟩
    have pending := upserted_generation sch.jobs[OriginJobKey.open t]?
      (openRegistration ivs count fd false) rfl
    have kept : (JobSchedule.upsertedOpen sch.jobs[OriginJobKey.open t]?
        (openRegistration ivs count fd false) now).generationPending=true := by
      unfold JobSchedule.upsertedOpen updateDueForIntervalChange
      split
      · split
        · exact pending
        · split <;> exact pending
      · exact pending
    split <;> exact kept
  | _ => cases h

theorem pending_stays_active (h : Reachable step .new sch)
    (key : OriginJobKey) (sd : JobSchedule) (known : sch.jobs[key]?=some sd)
    (pending : sd.oneShotPending=true ∨ sd.generationPending=true)
    (ops : List SchedulerOperation)
    (uncleared : Along step (fun s op => ¬Clears s key op) sch ops) :
    ∃later,(run step sch ops).jobs[key]?=some later ∧
      later.active=true ∧ StillPending sd later := by
  obtain ⟨later,found,still⟩ := run_stillPending sch key sd known ops uncleared
  refine ⟨later,found,(reachable_jobsKept (h.run ops) key later found).active ?_,still⟩
  rw [demanded_eq_true]
  obtain oneShot|generation := pending
  · exact .inr (.inl (still.oneShot oneShot))
  · exact .inr (.inr (.inl (still.generation generation)))

/-- Every demanded job is active and every watched Open job sits in the watch lane. Work
that is pending, as it is after an initial registration, stays active through any run that
does not complete it. -/
theorem demanded_jobs_active (scheduler : OriginEdfScheduler) (h : Reachable step .new scheduler) :
    (∀(key : OriginJobKey) schedule,scheduler.jobs[key]?=some schedule →
      (schedule.demanded key.kind=true → schedule.active=true) ∧
      (key.kind=.open → 0<schedule.activeWatchCount →
        schedule.lane=.openActiveWatch ∧ schedule.normalLane=.openActiveWatch)) ∧
    (∀operation key,operation.hydrates=some key → (scheduler.step operation).1=.done (.ok ()) →
      ∃schedule,(scheduler.step operation).2.jobs[key]?=some schedule ∧
        schedule.generationPending=true) ∧
    ∀(key : OriginJobKey) schedule,scheduler.jobs[key]?=some schedule →
      schedule.oneShotPending=true ∨ schedule.generationPending=true →
      ∀operations,Along step (fun s operation => ¬Clears s key operation) scheduler operations →
        ∃later,(run step scheduler operations).jobs[key]?=some later ∧
          later.active=true ∧ (schedule.oneShotPending=true → later.oneShotPending=true) ∧
          (schedule.generationPending=true → later.generationPending=true) := by
  refine ⟨?_,hydrates_pending scheduler,?_⟩
  · intro key schedule known
    have kept := reachable_jobsKept h key schedule known
    exact ⟨kept.active,kept.lanes⟩
  intro key schedule known pending operations uncleared
  obtain ⟨later,found,active,still⟩ :=
    pending_stays_active h key schedule known pending operations uncleared
  exact ⟨later,found,active,still.oneShot,still.generation⟩

/-- A first Open observation that failed once and lost its watchers. -/
def failedFirstLoad : List SchedulerOperation :=
  [.registerOpenInitial nbFall2026 .fixed 1 ⟨0⟩ ⟨0⟩,.startNext ⟨0⟩,
    .finish 1 ⟨5⟩ (.retry ⟨.fromMillis 100,.automatic,1,false⟩),
    .demoteOpen nbFall2026 .fixed 0 ⟨6⟩]

theorem demanded_jobs_active_first_load : ∃schedule,(run step .new failedFirstLoad).jobs[
        OriginJobKey.open nbFall2026]?=some schedule ∧
      schedule.recurring=false ∧ schedule.demanded .open=true ∧ schedule.active=true := by
  have present : ((run step .new failedFirstLoad).jobs[
      OriginJobKey.open nbFall2026]?.any (fun schedule =>
        !schedule.recurring && schedule.demanded .open))=true := by decide
  obtain ⟨schedule,known,flags⟩ := (Option.any_eq_true _ _).mp present
  simp only [Bool.and_eq_true,Bool.not_eq_true'] at flags
  exact ⟨schedule,known,flags.1,flags.2,((demanded_jobs_active _
    (reachable_run step .new failedFirstLoad)).1 _ schedule known).1 flags.2⟩

end CoursePlanner.Open
