import CoursePlanner.Open.Scheduler

set_option linter.unusedSectionVars false

namespace CoursePlanner.Open

open Std Library Contracts OriginEdfScheduler

/-- What register_open leaves of its job; a known job is moved to the new cadence. -/
def JobSchedule.upsertedOpen (schedule : Option JobSchedule) (registration : JobRegistration)
    (now : MonotonicTime) : JobSchedule :=
  if schedule.isSome then (JobSchedule.upserted schedule registration).updateDueForIntervalChange now
  else .upserted schedule registration

/-- The registration that register_open_with_mode passes on. -/
def openRegistration (intervals : OpenRefreshIntervals) (activeWatchCount : Nat)
    (firstDue : MonotonicTime) (recurring : Bool) : JobRegistration :=
  ⟨intervals.effective (0<activeWatchCount),firstDue,JobSchedule.openLane (0<activeWatchCount),
    activeWatchCount,if recurring then .recurring else .oneShot,!recurring⟩

theorem upsertedOpen_registered (sd : Option JobSchedule) (reg : JobRegistration)
    (now : MonotonicTime) :
    (JobSchedule.upsertedOpen sd reg now).lane=reg.normalLane ∧
      (JobSchedule.upsertedOpen sd reg now).normalLane=reg.normalLane ∧
      (JobSchedule.upsertedOpen sd reg now).activeWatchCount= reg.activeWatchCount := by
  unfold JobSchedule.upsertedOpen JobSchedule.updateDueForIntervalChange
  cases sd with
  | none => exact ⟨rfl,rfl,rfl⟩
  | some known =>
    simp only [Option.isSome_some,if_true]
    split
    · exact ⟨rfl,rfl,rfl⟩
    · split <;> exact ⟨rfl,rfl,rfl⟩

/-- Every way in which an operation writes a job. -/
inductive JobMove (scheduler : OriginEdfScheduler) :
    SchedulerOperation → OriginJobKey → JobSchedule → Prop where
  | registerCatalog (target : TermCampusKey) (interval : Duration) (firstDue : MonotonicTime) :
      JobMove scheduler (.registerCatalog target interval firstDue) (.catalog target)
        (.upserted scheduler.jobs[OriginJobKey.catalog target]?
          ⟨interval,firstDue,.catalog,0,.recurring,false⟩)
  | registerCatalogInitial (target : TermCampusKey) (interval : Duration)
      (activeWatchCount : Nat) (firstDue : MonotonicTime) :
      JobMove scheduler (.registerCatalogInitial target interval activeWatchCount firstDue)
        (.catalog target) (.upserted scheduler.jobs[OriginJobKey.catalog target]?
          ⟨interval,firstDue,.catalog,activeWatchCount,.recurring,true⟩)
  | registerCatalogOneShot (target : TermCampusKey) (activeWatchCount : Nat)
      (firstDue : MonotonicTime) :
      JobMove scheduler (.registerCatalogOneShot target activeWatchCount firstDue)
        (.catalog target) (.upserted scheduler.jobs[OriginJobKey.catalog target]?
          ⟨catalogOneShotInterval,firstDue,.catalog,activeWatchCount,.oneShot,true⟩)
  | registerOpen (target : TermCampusKey) (intervals : OpenRefreshIntervals)
      (activeWatchCount : Nat) (now firstDue : MonotonicTime) :
      JobMove scheduler (.registerOpen target intervals activeWatchCount now firstDue)
        (.open target) (.upsertedOpen scheduler.jobs[OriginJobKey.open target]?
          (openRegistration intervals activeWatchCount firstDue true) now)
  | registerOpenInitial (target : TermCampusKey) (intervals : OpenRefreshIntervals)
      (activeWatchCount : Nat) (now firstDue : MonotonicTime) (job : JobSchedule)
      (written : job=.upsertedOpen scheduler.jobs[OriginJobKey.open target]?
        (openRegistration intervals activeWatchCount firstDue false) now) :
      JobMove scheduler (.registerOpenInitial target intervals activeWatchCount now firstDue)
        (.open target) (if activeWatchCount=0 then { job with lane := .openFirstLoad } else job)
  | setCatalogWatchCount (target : TermCampusKey) (activeWatchCount : Nat)
      (schedule : JobSchedule) (known : scheduler.jobs[OriginJobKey.catalog target]?=some schedule) :
      JobMove scheduler (.setCatalogWatchCount target activeWatchCount) (.catalog target)
        { schedule with activeWatchCount := activeWatchCount }
  | activateCatalog (target : TermCampusKey) (interval : Duration) (now : MonotonicTime)
      (schedule : JobSchedule) (known : scheduler.jobs[OriginJobKey.catalog target]?=some schedule) :
      JobMove scheduler (.activateCatalog target interval now) (.catalog target)
        (schedule.activateCatalog interval now)
  | demoteCatalog (target : TermCampusKey) (maintenanceInterval : Option Duration)
      (now : MonotonicTime) (schedule : JobSchedule)
      (known : scheduler.jobs[OriginJobKey.catalog target]?=some schedule) :
      JobMove scheduler (.demoteCatalog target maintenanceInterval now) (.catalog target)
        (schedule.demoteCatalog maintenanceInterval now).2
  | activateOpen (target : TermCampusKey) (intervals : OpenRefreshIntervals)
      (now : MonotonicTime) (schedule : JobSchedule)
      (known : scheduler.jobs[OriginJobKey.open target]?=some schedule) :
      JobMove scheduler (.activateOpen target intervals now) (.open target)
        (schedule.activateOpen intervals now)
  | demoteOpen (target : TermCampusKey) (intervals : OpenRefreshIntervals)
      (activeWatchCount : Nat) (now : MonotonicTime) (schedule : JobSchedule)
      (known : scheduler.jobs[OriginJobKey.open target]?=some schedule) :
      JobMove scheduler (.demoteOpen target intervals activeWatchCount now) (.open target)
        (schedule.demoteOpen intervals activeWatchCount now)
  | setOpenWatchCount (target : TermCampusKey) (intervals : OpenRefreshIntervals)
      (activeWatchCount : Nat) (now : MonotonicTime) (schedule : JobSchedule)
      (known : scheduler.jobs[OriginJobKey.open target]?=some schedule) :
      JobMove scheduler (.setOpenWatchCount target intervals activeWatchCount now) (.open target)
        (schedule.setOpenWatchCount intervals activeWatchCount now)
  | requestOpenDue (target : TermCampusKey) (due : MonotonicTime) (lane : OriginSchedulerLane)
      (schedule : JobSchedule) (known : scheduler.jobs[OriginJobKey.open target]?=some schedule) :
      JobMove scheduler (.requestOpenDue target due lane) (.open target)
        (schedule.requestDue due lane)
  | requestManualTargetRetry (target : TermCampusKey) (now : MonotonicTime) (key : OriginJobKey)
      (circuit : OriginCircuit) (schedule : JobSchedule)
      (chosen : scheduler.manualRetryJob target now=some (key,circuit))
      (known : scheduler.jobs[key]?=some schedule) :
      JobMove scheduler (.requestManualTargetRetry target now) key (schedule.manualRetry key.kind now)
  | completeOpenBootstrap (target : TermCampusKey) (completedAt : MonotonicTime)
      (schedule : JobSchedule) (known : scheduler.jobs[OriginJobKey.open target]?=some schedule) :
      JobMove scheduler (.completeOpenBootstrap target completedAt) (.open target)
        (schedule.completeOpenBootstrap completedAt)
  | adoptExternalOpenState (target : TermCampusKey) (now nextDue : MonotonicTime)
      (failureStreak : Nat) (schedule : JobSchedule)
      (known : scheduler.jobs[OriginJobKey.open target]?=some schedule) :
      JobMove scheduler (.adoptExternalOpenState target now nextDue failureStreak) (.open target)
        (schedule.adoptExternalOpenState now nextDue failureStreak)
  | startNext (now : MonotonicTime) (key : OriginJobKey) (schedule : JobSchedule)
      (known : scheduler.jobs[key]?=some schedule) :
      JobMove scheduler (.startNext now) key { schedule with lastStart := some now }
  | finish (inFlight : InFlight) (completedAt : MonotonicTime) (completion : CompletionSchedule)
      (schedule : JobSchedule) (running : scheduler.inFlight=some inFlight)
      (ordered : inFlight.startedAt ≤ completedAt)
      (known : scheduler.jobs[inFlight.key]?=some schedule) :
      JobMove scheduler (.finish inFlight.token completedAt completion) inFlight.key
        (schedule.complete inFlight completedAt completion)

/-- At most one job is written, and only in one of the ways above. -/
def Moved (scheduler : OriginEdfScheduler) (operation : SchedulerOperation)
    (next : OriginEdfScheduler) : Prop :=
  next.jobs=scheduler.jobs ∨
    ∃key job,next.jobs=scheduler.jobs.insert key job ∧ JobMove scheduler operation key job

theorem Moved.lookup {s next : OriginEdfScheduler} {op : SchedulerOperation}
    (h : Moved s op next) (key : OriginJobKey) :
    next.jobs[key]?=s.jobs[key]? ∨ ∃job,next.jobs[key]?=some job ∧ JobMove s op key job := by
  obtain same|⟨written,job,same,move⟩ := h
  · exact .inl (by rw [same])
  rw [same,getElem?_insert_eq]
  by_cases hk : written=key
  · subst hk
    exact .inr ⟨job,by rw [if_pos rfl],move⟩
  · exact .inl (by rw [if_neg hk])

variable (s : OriginEdfScheduler) (op : SchedulerOperation) (key : OriginJobKey)
    (t : TermCampusKey)

/-- An answer that leaves all but the jobs as it was. -/
def Writes (answer : Except SchedulerError Unit × OriginEdfScheduler) : Prop :=
  ∃jobs,answer.2={ s with jobs := jobs } ∧ Moved s op { s with jobs := jobs }

theorem writes_updateJob (change : JobSchedule → JobSchedule)
    (h : ∀sd,s.jobs[key]?=some sd → JobMove s op key (change sd)) :
    Writes s op (s.updateJob key change) := by
  unfold updateJob
  cases known : s.jobs[key]? with
  | none => exact ⟨_,rfl,.inl rfl⟩
  | some sd => exact ⟨_,rfl,.inr ⟨key,_,rfl,h sd known⟩⟩

theorem writes_upsert (reg : JobRegistration)
    (h : JobMove s op key (.upserted s.jobs[key]? reg)) :
    Writes s op (s.upsert key reg) := by
  unfold upsert
  split
  · exact ⟨_,rfl,.inl rfl⟩
  · exact ⟨_,rfl,.inr ⟨key,_,rfl,h⟩⟩

theorem upsert_of_nonzero (reg : JobRegistration) (h : reg.interval.isZero=false) :
    s.upsert key reg=(.ok (),{ s with
      jobs := s.jobs.insert key (.upserted s.jobs[key]? reg) }) := by
  unfold upsert
  rw [h]
  rfl

/-- Registering an Open job always succeeds: its interval is never zero. -/
theorem registerOpenWithMode_eq (ivs : OpenRefreshIntervals) (awc : Nat)
    (now fd : MonotonicTime) (recurring : Bool) :
    s.registerOpenWithMode t ivs awc now fd recurring= (.ok (),{ s with
        jobs := s.jobs.insert (.open t) (.upsertedOpen s.jobs[OriginJobKey.open t]?
            (openRegistration ivs awc fd recurring) now) }) := by
  unfold registerOpenWithMode
  dsimp only
  have nonzero := ivs.effective_not_zero (0<awc)
  rw [upsert_of_nonzero _ _ _ nonzero,ExtTreeMap.contains_eq_isSome_getElem?]
  unfold JobSchedule.upsertedOpen openRegistration
  cases s.jobs[OriginJobKey.open t]? with
  | none => rfl
  | some sd => simp [updateJob,insert_insert_self]

theorem registerOpenInitial_eq (ivs : OpenRefreshIntervals) (awc : Nat)
    (now fd : MonotonicTime) (job : JobSchedule)
    (written : job=.upsertedOpen s.jobs[OriginJobKey.open t]?
      (openRegistration ivs awc fd false) now) :
    s.registerOpenInitial t ivs awc now fd= (.ok (),{ s with
        jobs := s.jobs.insert (.open t)
          (if awc=0 then { job with lane := .openFirstLoad } else job) }) := by
  unfold OriginEdfScheduler.registerOpenInitial
  rw [registerOpenWithMode_eq,← written]
  dsimp only
  split <;> simp [updateJob,insert_insert_self]

/-- Every outcome of start_next. -/
inductive StartMove (scheduler : OriginEdfScheduler) (now : MonotonicTime) :
    Option OriginDispatch → OriginEdfScheduler → Prop where
  | refused : StartMove scheduler now none scheduler
  | expired (wait : MonotonicTime) (idle : scheduler.inFlight=none)
      (waiting : scheduler.circuit=.retryAfter wait) (elapsed : wait ≤ now) :
      StartMove scheduler now none { scheduler with circuit := .closed }
  | ordinary (dispatch : OriginDispatch) (inFlight : InFlight) (schedule : JobSchedule)
      (nextToken : Nat) (idle : scheduler.inFlight=none)
      (passed : scheduler.circuit=.closed ∨ ∃wait,scheduler.circuit=.retryAfter wait ∧ wait ≤ now)
      (known : scheduler.jobs[inFlight.key]?=some schedule) (active : schedule.active=true)
      (same : dispatch.key=inFlight.key) (notProbe : inFlight.diagnosticProbe=false) :
      StartMove scheduler now (some dispatch)
        ⟨scheduler.jobs.insert inFlight.key { schedule with lastStart := some now },some inFlight,
          .closed,nextToken⟩
  | probe (dispatch : OriginDispatch) (inFlight : InFlight) (schedule : JobSchedule)
      (nextToken : Nat) (recheckAfter : MonotonicTime) (idle : scheduler.inFlight=none)
      (fatal : scheduler.circuit=.fatalDiagnostic inFlight.key recheckAfter true)
      (cooled : recheckAfter ≤ now)
      (known : scheduler.jobs[inFlight.key]?=some schedule)
      (same : dispatch.key=inFlight.key) (isProbe : inFlight.diagnosticProbe=true) :
      StartMove scheduler now (some dispatch)
        ⟨scheduler.jobs.insert inFlight.key { schedule with lastStart := some now },some inFlight,
          .fatalDiagnostic inFlight.key recheckAfter false,nextToken⟩

theorem minDueJob_mem (jobs : List (OriginJobKey × JobSchedule))
    (en : OriginJobKey × JobSchedule) (h : minDueJob jobs=some en) :
    en∈jobs := by
  cases jobs with
  | nil => cases h
  | cons first rest =>
    cases h
    -- The fold keeps one of the two entries that it compares.
    induction rest generalizing first with
    | nil => exact List.mem_singleton.mpr rfl
    | cons next rest ih =>
      rw [List.foldl_cons]
      split
      · exact List.mem_cons_of_mem first (ih next)
      · have h := ih first
        rw [List.mem_cons] at h ⊢
        exact h.imp_right (List.mem_cons_of_mem next)

instance : TransCmp compareDueJobs := inferInstanceAs (TransCmp (compareLex
  (compareOn (fun entry : OriginJobKey × JobSchedule =>
    (dispatchPriority entry.1 entry.2).ctorIdx))
  (compareLex (compareOn (fun entry => entry.2.nextDue.millis)) (compareOn Prod.fst))))

theorem minDueJob_least (jobs : List (OriginJobKey × JobSchedule))
    (least : OriginJobKey × JobSchedule) (h : OriginEdfScheduler.minDueJob jobs=some least)
    (other : OriginJobKey × JobSchedule) (listed : other∈jobs) :
    (compareDueJobs least other).isLE := by
  cases jobs with
  | nil => cases h
  | cons first rest =>
    cases h
    induction rest generalizing first other with
    | nil =>
      rw [List.mem_singleton.mp listed]
      exact ReflCmp.isLE_rfl
    | cons next rest ih =>
      rw [List.foldl_cons]
      -- Whichever of the two the fold goes on with is not after the other.
      split
      · next later =>
        have before : (compareDueJobs next first).isLE := by
          rw [OrientedCmp.gt_iff_lt.mp (Ordering.isGT_iff_eq_gt.mp later)]
          rfl
        rcases List.mem_cons.mp listed with rfl | listed
        · exact TransCmp.isLE_trans (ih next next (by simp)) before
        · exact ih other next listed
      · next early =>
        have before : (compareDueJobs first next).isLE :=
          Ordering.isLE_iff_ne_gt.mpr (by simpa using early)
        rcases List.mem_cons.mp listed with rfl | listed
        · exact ih _ _ (by simp)
        · rcases List.mem_cons.mp listed with rfl | listed
          · exact TransCmp.isLE_trans (ih first first (by simp)) before
          · exact ih other first (List.mem_cons_of_mem first listed)

variable (now : MonotonicTime)

/-- The job is active and due, and comes before every other active job that is due. -/
structure LeastDue (scheduler : OriginEdfScheduler) (now : MonotonicTime) (key : OriginJobKey)
    (schedule : JobSchedule) : Prop where
  known : scheduler.jobs[key]?=some schedule
  active : schedule.active=true
  due : schedule.nextDue ≤ now
  least : ∀other job,scheduler.jobs[other]?=some job → job.active=true → job.nextDue ≤ now →
    other≠key → compareDueJobs (key,schedule) (other,job)=.lt

theorem dueJob_ordinary (key : OriginJobKey) (schedule : JobSchedule)
    (h : s.dueJob none now=some (key,schedule)) : LeastDue s now key schedule := by
  obtain ⟨member,due⟩ := List.mem_filter.mp (minDueJob_mem _ _ h)
  simp only [Bool.and_eq_true,decide_eq_true_eq] at due
  refine ⟨ExtTreeMap.mem_toList_iff_getElem?_eq_some.mp member,due.1,due.2,?_⟩
  intro other job known active ready apart
  have listed := ExtTreeMap.mem_toList_iff_getElem?_eq_some.mpr known
  have first := minDueJob_least _ _ h (other,job)
    (List.mem_filter.mpr ⟨listed,by simp [active,ready]⟩)
  cases order : compareDueJobs (key,schedule) (other,job) with
  | lt => rfl
  | gt => simp [order] at first
  | eq =>
    have same : compare key other=.eq := (Ordering.then_eq_eq.mp (Ordering.then_eq_eq.mp order).2).2
    exact absurd (LawfulEqOrd.eq_of_compare same).symm apart

theorem dueJob_probe (job key : OriginJobKey) (sd : JobSchedule)
    (h : s.dueJob (some job) now=some (key,sd)) :
    key=job ∧ s.jobs[job]?=some sd ∧ sd.nextDue ≤ now := by
  unfold OriginEdfScheduler.dueJob at h
  cases known : s.jobs[job]? with
  | none => simp [known] at h
  | some found =>
    simp only [known] at h
    split at h
    · cases h
    · next ready =>
      cases h
      exact ⟨rfl,rfl,Nat.le_of_not_lt ready⟩

theorem startNext_move : StartMove s now (s.startNext now).1 (s.startNext now).2 := by
  unfold OriginEdfScheduler.startNext
  split
  · exact .refused
  next busy =>
  have idle : s.inFlight=none := by simpa using busy
  unfold diagnosticJob
  cases hc : s.circuit with
  | closed =>
    dsimp only
    cases due : s.dueJob none now with
    | none => exact .refused
    | some en =>
      obtain ⟨key,sd⟩ := en
      obtain ⟨known,active,-,-⟩ := dueJob_ordinary s now key sd due
      simp only [hc]
      exact .ordinary _ ⟨_,key,sd.nextDue,now,false⟩ sd _ idle (.inl hc) known active
        rfl rfl
  | retryAfter wait =>
    by_cases elapsed : wait ≤ now
    · simp only [elapsed,if_true]
      cases due : { s with circuit := OriginCircuit.closed }.dueJob none now with
      | none => exact .expired wait idle hc elapsed
      | some en =>
        obtain ⟨key,sd⟩ := en
        obtain ⟨known,active,-,-⟩ := dueJob_ordinary _ now key sd due
        exact .ordinary _ ⟨_,key,sd.nextDue,now,false⟩ sd _ idle (.inr ⟨wait,hc,elapsed⟩)
          known active rfl rfl
    · simp only [elapsed]
      exact .refused
  | fatalDiagnostic job ra authorized =>
    by_cases open_ : (authorized && decide (ra ≤ now))=true
    · simp only [open_,if_true]
      cases due : s.dueJob (some job) now with
      | none => exact .refused
      | some en =>
        obtain ⟨key,sd⟩ := en
        obtain ⟨rfl,known,-⟩ := dueJob_probe s now job key sd due
        simp only [Bool.and_eq_true,decide_eq_true_eq] at open_
        obtain ⟨rfl,cooled⟩ := open_
        simp only [hc]
        exact .probe _ ⟨_,key,sd.nextDue,now,true⟩ sd _ ra idle hc cooled known rfl rfl
    · simp only [open_]
      exact .refused

theorem manualRetry_refused (h : s.manualRetryJob t now=none) :
    s.requestManualTargetRetry t now=(.ok none,s) := by
  unfold OriginEdfScheduler.requestManualTargetRetry
  rw [h]

/-- A manual retry writes the circuit whether or not its job is known. -/
theorem manualRetry_chosen (cir : OriginCircuit)
    (chosen : s.manualRetryJob t now=some (key,cir)) :
    ∃jobs,(s.requestManualTargetRetry t now).2={ s with jobs := jobs, circuit := cir } ∧
      Moved s (.requestManualTargetRetry t now) { s with jobs := jobs } := by
  unfold OriginEdfScheduler.requestManualTargetRetry
  rw [chosen]
  unfold updateJob
  cases known : s.jobs[key]? with
  | none => simp only [known]; exact ⟨_,rfl,.inl rfl⟩
  | some sd =>
    simp only [known]
    exact ⟨_,rfl,.inr ⟨key,_,rfl,.requestManualTargetRetry t now key cir sd chosen known⟩⟩

theorem manualRetry_writes : ∃jobs cir,
    (s.requestManualTargetRetry t now).2={ s with jobs := jobs, circuit := cir } ∧
      Moved s (.requestManualTargetRetry t now) { s with jobs := jobs } := by
  cases chosen : s.manualRetryJob t now with
  | none => exact ⟨_,_,by rw [manualRetry_refused s t now chosen],.inl rfl⟩
  | some choice =>
    obtain ⟨jobs,left,moved⟩ := manualRetry_chosen s choice.1 t now choice.2 chosen
    exact ⟨jobs,_,left,moved⟩

theorem finish_moved (token : Nat) (ca : MonotonicTime) (cp : CompletionSchedule) :
    Moved s (.finish token ca cp) (s.finish token ca cp).2 := by
  unfold OriginEdfScheduler.finish
  cases running : s.inFlight with
  | none => exact .inl rfl
  | some fl =>
    dsimp only
    split
    · exact .inl rfl
    next same =>
    obtain rfl := Decidable.not_not.mp same
    split
    · exact .inl rfl
    next ordered =>
    cases known : s.jobs[fl.key]? with
    | none => exact .inl rfl
    | some sd =>
      exact .inr ⟨_,_,rfl,.finish fl ca cp sd running (Nat.le_of_not_lt ordered) known⟩

theorem finish_done (fl : InFlight) (ca : MonotonicTime)
    (cp : CompletionSchedule) (sd : JobSchedule)
    (running : s.inFlight=some fl) (ordered : fl.startedAt ≤ ca)
    (known : s.jobs[fl.key]?=some sd) :
    s.step (.finish fl.token ca cp)=(.done (.ok ()), { s with
        jobs := s.jobs.insert fl.key (sd.complete fl ca cp)
        inFlight := none
        circuit := completedCircuit s.circuit fl (sd.complete fl ca cp).nextDue cp }) := by
  have late : ¬ca < fl.startedAt := Nat.not_lt_of_le ordered
  simp [OriginEdfScheduler.step,OriginEdfScheduler.finish,running,late,known]

/-- The operations that read no circuit and no record of a job in flight. -/
def isPlain : SchedulerOperation → Bool
  | .requestManualTargetRetry _ _ | .startNext _ | .finish _ _ _
  | .authorizeDiagnosticRecheck _ => false
  | _ => true

theorem step_writes (plain : isPlain op=true) :
    ∃answer,s.step op=answer.map .done id ∧ Writes s op answer := by
  cases op with
  | registerCatalog t iv fd => exact ⟨_,rfl,writes_upsert _ _ _ _ (.registerCatalog t iv fd)⟩
  | registerCatalogInitial t iv count fd =>
    exact ⟨_,rfl,writes_upsert _ _ _ _ (.registerCatalogInitial t iv count fd)⟩
  | registerCatalogOneShot t count fd =>
    exact ⟨_,rfl,writes_upsert _ _ _ _ (.registerCatalogOneShot t count fd)⟩
  | registerOpen t ivs count now fd =>
    have written := registerOpenWithMode_eq s t ivs count now fd true
    exact ⟨_,rfl,_,congrArg Prod.snd written,
      .inr ⟨_,_,rfl,.registerOpen t ivs count now fd⟩⟩
  | registerOpenInitial t ivs count now fd =>
    have written := registerOpenInitial_eq s t ivs count now fd _ rfl
    exact ⟨_,rfl,_,congrArg Prod.snd written,
      .inr ⟨_,_,rfl,.registerOpenInitial t ivs count now fd _ rfl⟩⟩
  | setCatalogWatchCount t count =>
    exact ⟨_,rfl,writes_updateJob _ _ _ _ (.setCatalogWatchCount t count)⟩
  | activateCatalog t iv now =>
    refine ⟨s.activateCatalog t iv now,rfl,?_⟩
    unfold OriginEdfScheduler.activateCatalog
    split
    · exact ⟨_,rfl,.inl rfl⟩
    · exact writes_updateJob _ _ _ _ (.activateCatalog t iv now)
  | demoteCatalog t mnt now =>
    refine ⟨s.demoteCatalog t mnt now,rfl,?_⟩
    unfold OriginEdfScheduler.demoteCatalog
    cases known : s.jobs[OriginJobKey.catalog t]? with
    | none => exact ⟨_,rfl,.inl rfl⟩
    | some sd => exact ⟨_,rfl,.inr ⟨_,_,rfl,.demoteCatalog t mnt now sd known⟩⟩
  | activateOpen t ivs now =>
    exact ⟨_,rfl,writes_updateJob _ _ _ _ (.activateOpen t ivs now)⟩
  | demoteOpen t ivs count now =>
    exact ⟨_,rfl,writes_updateJob _ _ _ _ (.demoteOpen t ivs count now)⟩
  | setOpenWatchCount t ivs count now =>
    exact ⟨_,rfl,writes_updateJob _ _ _ _ (.setOpenWatchCount t ivs count now)⟩
  | requestOpenDue t due lane =>
    refine ⟨s.requestOpenDue t due lane,rfl,?_⟩
    unfold OriginEdfScheduler.requestOpenDue updateJob
    dsimp only
    cases known : s.jobs[OriginJobKey.open t]? with
    | none => exact ⟨_,rfl,.inl rfl⟩
    | some sd =>
      refine ⟨_,rfl,?_⟩
      split
      · exact .inl (insert_present _ _ _ known)
      · exact .inr ⟨_,_,rfl,.requestOpenDue t due lane sd known⟩
  | completeOpenBootstrap t ca =>
    exact ⟨_,rfl,writes_updateJob _ _ _ _ (.completeOpenBootstrap t ca)⟩
  | adoptExternalOpenState t now nextDue streak =>
    exact ⟨_,rfl,writes_updateJob _ _ _ _ (.adoptExternalOpenState t now nextDue streak)⟩
  | _ => cases plain

/-- One step writes at most one job. -/
theorem step_moved : Moved s op (s.step op).2 := by
  by_cases plain : isPlain op=true
  · obtain ⟨answer,same,jobs,left,moved⟩ := step_writes s op plain
    rw [same]
    change Moved s op answer.2
    rwa [left]
  cases op with
  | requestManualTargetRetry t now =>
    obtain ⟨jobs,cir,left,moved⟩ := manualRetry_writes s t now
    change Moved _ _ (s.requestManualTargetRetry t now).2
    rw [left]
    exact moved
  | startNext now =>
    change Moved _ _ (s.startNext now).2
    have move := startNext_move s now
    generalize (s.startNext now).1=dispatched,(s.startNext now).2=next at move ⊢
    cases move with
    | refused | expired => exact .inl rfl
    | ordinary _ fl sd _ _ _ known | probe _ fl sd _ _ _ _ _ known =>
      exact .inr ⟨_,_,rfl,.startNext now fl.key sd known⟩
  | finish token ca cp => exact finish_moved s token ca cp
  | authorizeDiagnosticRecheck now =>
    change Moved _ _ (s.authorizeDiagnosticRecheck now).2
    unfold OriginEdfScheduler.authorizeDiagnosticRecheck
    split
    · split <;> exact .inl rfl
    · exact .inl rfl
  | _ => exact absurd rfl plain

theorem step_registered (h : s.jobs[key]?≠none) : (s.step op).2.jobs[key]?≠none := by
  obtain same|⟨job,written,_⟩ := (step_moved s op).lookup key
  · rwa [same]
  · simp [written]

/-- What an outside observer notes of the circuit: an authorization with the recheck
time it stands for, a dispatch (under a fatal circuit or not) and an accepted completion. -/
inductive CircuitEvent where
  | authorized (job : OriginJobKey) (recheckAfter : MonotonicTime)
  | dispatched (job : OriginJobKey) (fatal : Bool) (now : MonotonicTime)
  | finished
  deriving DecidableEq

def OriginCircuit.isFatal : OriginCircuit → Bool
  | .fatalDiagnostic _ _ _ => true
  | _ => false

/-- An authorization is a recheck request after the cooldown, or an idle manual
retry for the target of the failed job. -/
def circuitEvent (scheduler : OriginEdfScheduler) (operation : SchedulerOperation)
    (outcome : SchedulerOutcome) : Option CircuitEvent :=
  match operation with
  | .authorizeDiagnosticRecheck now =>
    match scheduler.circuit with
    | .fatalDiagnostic job recheckAfter _ =>
      if recheckAfter ≤ now then some (.authorized job recheckAfter) else none
    | _ => none
  | .requestManualTargetRetry target now =>
    match scheduler.circuit with
    | .fatalDiagnostic job _ _ =>
      if scheduler.inFlight.isNone && job.target=target then some (.authorized job now) else none
    | _ => none
  | .startNext now =>
    match outcome with
    | .dispatch (some dispatch) => some (.dispatched dispatch.key scheduler.circuit.isFatal now)
    | _ => none
  | .finish _ _ _ =>
    match outcome with
    | .done (.ok ()) => some .finished
    | _ => none
  | _ => none

/-- Every way in which an operation writes the circuit or the in-flight record, with
the event that is noted of it. -/
inductive ControlMove (scheduler : OriginEdfScheduler) :
    SchedulerOperation → OriginCircuit → Option InFlight → Option CircuitEvent → Prop where
  | kept (operation : SchedulerOperation) :
      ControlMove scheduler operation scheduler.circuit scheduler.inFlight none
  | expired (operation : SchedulerOperation) (wait : MonotonicTime)
      (idle : scheduler.inFlight=none) (waiting : scheduler.circuit=.retryAfter wait) :
      ControlMove scheduler operation .closed none none
  | retried (target : TermCampusKey) (now : MonotonicTime) (job : OriginJobKey)
      (recheckAfter : MonotonicTime) (authorized : Bool) (idle : scheduler.inFlight=none)
      (fatal : scheduler.circuit=.fatalDiagnostic job recheckAfter authorized)
      (same : job.target=target) :
      ControlMove scheduler (.requestManualTargetRetry target now) (.fatalDiagnostic job now true)
        none (some (.authorized job now))
  | authorized (now : MonotonicTime) (job : OriginJobKey) (recheckAfter : MonotonicTime)
      (authorized : Bool) (fatal : scheduler.circuit=.fatalDiagnostic job recheckAfter authorized)
      (cooled : recheckAfter ≤ now) :
      ControlMove scheduler (.authorizeDiagnosticRecheck now)
        (.fatalDiagnostic job recheckAfter true) scheduler.inFlight
        (some (.authorized job recheckAfter))
  | started (now : MonotonicTime) (inFlight : InFlight) (schedule : JobSchedule)
      (idle : scheduler.inFlight=none)
      (passed : scheduler.circuit=.closed ∨ ∃wait,scheduler.circuit=.retryAfter wait ∧ wait ≤ now)
      (known : scheduler.jobs[inFlight.key]?=some schedule) (active : schedule.active=true)
      (notProbe : inFlight.diagnosticProbe=false) :
      ControlMove scheduler (.startNext now) .closed (some inFlight)
        (some (.dispatched inFlight.key false now))
  | probed (now : MonotonicTime) (inFlight : InFlight) (recheckAfter : MonotonicTime)
      (idle : scheduler.inFlight=none)
      (fatal : scheduler.circuit=.fatalDiagnostic inFlight.key recheckAfter true)
      (cooled : recheckAfter ≤ now) (isProbe : inFlight.diagnosticProbe=true) :
      ControlMove scheduler (.startNext now) (.fatalDiagnostic inFlight.key recheckAfter false)
        (some inFlight) (some (.dispatched inFlight.key true now))
  | finished (inFlight : InFlight) (completedAt nextDue : MonotonicTime)
      (completion : CompletionSchedule) (running : scheduler.inFlight=some inFlight)
      (ordered : inFlight.startedAt ≤ completedAt) :
      ControlMove scheduler (.finish inFlight.token completedAt completion)
        (completedCircuit scheduler.circuit inFlight nextDue completion) none (some .finished)
  | lost (token : Nat) (completedAt : MonotonicTime) (completion : CompletionSchedule)
      (inFlight : InFlight) (running : scheduler.inFlight=some inFlight)
      (unknown : scheduler.jobs[inFlight.key]?=none) :
      ControlMove scheduler (.finish token completedAt completion) scheduler.circuit none none

def Controlled (scheduler : OriginEdfScheduler) (operation : SchedulerOperation)
    (answer : SchedulerOutcome × OriginEdfScheduler) : Prop :=
  ControlMove scheduler operation answer.2.circuit answer.2.inFlight
    (circuitEvent scheduler operation answer.1)

theorem controlled_kept (answer : SchedulerOutcome × OriginEdfScheduler)
    (cir : answer.2.circuit=s.circuit) (fl : answer.2.inFlight=s.inFlight)
    (silent : circuitEvent s op answer.1=none) :
    Controlled s op answer := by
  unfold Controlled
  rw [cir,fl,silent]
  exact .kept op

theorem manualRetry_controlled : Controlled s (.requestManualTargetRetry t now)
      ((s.requestManualTargetRetry t now).map .retry id) := by
  have frame : ∀key cir,s.manualRetryJob t now=some (key,cir) →
      (s.requestManualTargetRetry t now).2.circuit=cir ∧
        (s.requestManualTargetRetry t now).2.inFlight=s.inFlight := by
    intro key cir chosen
    obtain ⟨jobs,left,-⟩ := manualRetry_chosen s key t now cir chosen
    rw [left]
    exact ⟨rfl,rfl⟩
  have refused := manualRetry_refused s t now
  unfold manualRetryJob at frame refused
  cases running : s.inFlight with
  | some fl =>
    simp only [running,Option.isSome_some,if_true,forall_const] at refused
    rw [refused]
    have silent : ∀out,circuitEvent s (.requestManualTargetRetry t now) out=none := by
      intro out
      cases circuit_eq : s.circuit <;> simp [circuitEvent,circuit_eq,running]
    exact controlled_kept _ _ _ rfl rfl (silent _)
  | none =>
    simp only [running,Option.isSome_none,Bool.false_eq_true,if_false] at frame refused
    cases circuit_eq : s.circuit with
    | closed =>
      simp only [circuit_eq,Option.some.injEq,Prod.mk.injEq,and_imp] at frame
      obtain ⟨cir,fl⟩ := frame _ _ rfl rfl
      exact controlled_kept _ _ _ (cir.trans circuit_eq.symm) (fl.trans running.symm)
        (by simp [circuitEvent,circuit_eq])
    | retryAfter wait =>
      have silent : ∀out,circuitEvent s (.requestManualTargetRetry t now) out=none := by
        intro out
        simp [circuitEvent,circuit_eq]
      simp only [circuit_eq] at frame refused
      by_cases waiting : now<wait
      · simp only [waiting,if_true,forall_const] at refused
        rw [refused]
        exact controlled_kept _ _ _ rfl rfl (silent _)
      simp only [waiting,if_false,Option.some.injEq,Prod.mk.injEq,and_imp] at frame
      obtain ⟨cir,fl⟩ := frame _ _ rfl rfl
      unfold Controlled
      rw [silent]
      change ControlMove _ _ (s.requestManualTargetRetry t now).2.circuit
        (s.requestManualTargetRetry t now).2.inFlight _
      rw [cir,fl]
      exact .expired _ wait running circuit_eq
    | fatalDiagnostic job ra authorized =>
      simp only [circuit_eq] at frame refused
      by_cases same : job.target=t
      · simp only [same,if_true,Option.some.injEq,Prod.mk.injEq,and_imp] at frame
        obtain ⟨cir,fl⟩ := frame _ _ rfl rfl
        change ControlMove _ _ (s.requestManualTargetRetry t now).2.circuit
          (s.requestManualTargetRetry t now).2.inFlight _
        rw [cir,fl]
        simp only [circuitEvent,circuit_eq,running,same]
        exact .retried t now job ra authorized running circuit_eq same
      · simp only [same,if_false,forall_const] at refused
        rw [refused]
        exact controlled_kept _ _ _ rfl rfl (by simp [circuitEvent,circuit_eq,same])

theorem finish_controlled (token : Nat) (ca : MonotonicTime) (cp : CompletionSchedule) :
    Controlled s (.finish token ca cp) ((s.finish token ca cp).map .done id) := by
  unfold OriginEdfScheduler.finish
  cases running : s.inFlight with
  | none => exact controlled_kept _ _ _ rfl rfl rfl
  | some fl =>
    dsimp only
    split
    · exact controlled_kept _ _ _ rfl rfl rfl
    next same =>
    obtain rfl := Decidable.not_not.mp same
    split
    · exact controlled_kept _ _ _ rfl rfl rfl
    next ordered =>
    cases known : s.jobs[fl.key]? with
    | none => exact .lost _ ca cp fl running known
    | some sd =>
      exact .finished fl ca _ cp running (Nat.le_of_not_lt ordered)

theorem startNext_controlled :
    Controlled s (.startNext now) ((s.startNext now).map .dispatch id) := by
  have move := startNext_move s now
  generalize s.startNext now=answer at move ⊢
  obtain ⟨dispatched,next⟩ := answer
  cases move with
  | refused => exact .kept _
  | expired wait idle waiting elapsed =>
    have gone := ControlMove.expired (.startNext now) wait idle waiting
    rw [← idle] at gone
    exact gone
  | ordinary dp fl sd nextToken idle passed known active same notProbe =>
    have mild : s.circuit.isFatal=false := by
      obtain h|⟨wait,h,_⟩ := passed <;> rw [h] <;> rfl
    change ControlMove _ _ _ _ (some (.dispatched dp.key s.circuit.isFatal now))
    rw [same,mild]
    exact .started now fl sd idle passed known active notProbe
  | probe dp fl sd nextToken ra idle fatal cooled known same isProbe =>
    change ControlMove _ _ _ _ (some (.dispatched dp.key s.circuit.isFatal now))
    rw [same,fatal]
    exact .probed now fl ra idle fatal cooled isProbe

theorem completedCircuit_blames (cir : OriginCircuit) (fl : InFlight)
    (nextDue : MonotonicTime) (cp : CompletionSchedule) (job : OriginJobKey)
    (other : fl.key≠job)
    (h : ∀ra authorized,cir≠.fatalDiagnostic job ra authorized)
    (ra : MonotonicTime) (authorized : Bool) :
    completedCircuit cir fl nextDue cp≠ .fatalDiagnostic job ra authorized := by
  unfold completedCircuit
  split
  · split
    · simp
    · exact h _ _
  · split
    · simp
    · exact h _ _
  split
  · split
    · split
      · simp
      · simp [other]
    · exact h _ _
  · simp
  · simp [other]

/-- One step writes the circuit and the in-flight record in one of the ways above. -/
theorem step_controlled : Controlled s op (s.step op) := by
  by_cases plain : isPlain op=true
  · have silent : ∀out,circuitEvent s op out=none := by
      intro out
      cases op <;> first | rfl | cases plain
    obtain ⟨⟨answer,_⟩,same,jobs,rfl,-⟩ := step_writes s op plain
    rw [same]
    exact controlled_kept _ _ _ rfl rfl (silent _)
  cases op with
  | requestManualTargetRetry t now => exact manualRetry_controlled s t now
  | startNext now => exact startNext_controlled s now
  | finish token ca cp => exact finish_controlled s token ca cp
  | authorizeDiagnosticRecheck now =>
    change Controlled _ _ ((s.authorizeDiagnosticRecheck now).map .done id)
    unfold OriginEdfScheduler.authorizeDiagnosticRecheck
    cases circuit_eq : s.circuit with
    | closed | retryAfter => exact controlled_kept _ _ _ rfl rfl (by simp [circuitEvent,circuit_eq])
    | fatalDiagnostic job ra authorized =>
      dsimp only
      split
      · next cooled =>
        unfold Controlled
        simp only [circuitEvent,circuit_eq,cooled]
        exact .authorized now job ra authorized circuit_eq cooled
      · next early => exact controlled_kept _ _ _ rfl rfl (by simp [circuitEvent,circuit_eq,early])
  | _ => exact absurd rfl plain

end CoursePlanner.Open
