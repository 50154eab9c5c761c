import CoursePlanner.Open.Demand

set_option maxRecDepth 8000

namespace CoursePlanner.Open

open Std Library Contracts OriginEdfScheduler

def CatalogDemanded (scheduler : OriginEdfScheduler) : Prop :=
  ∀(target : TermCampusKey) schedule,
    scheduler.jobs[OriginJobKey.catalog target]?=some schedule → schedule.active=true →
      schedule.demanded .catalog=true

/-- A success that clears the last demand of a Catalog job and leaves it active: finish looks
at the one-shot mark only, while the job was kept for its generation mark. -/
def Strands (scheduler : OriginEdfScheduler) (operation : SchedulerOperation) : Prop :=
  ∃inFlight completedAt target schedule,scheduler.inFlight=some inFlight ∧
    inFlight.key=.catalog target ∧ inFlight.startedAt ≤ completedAt ∧
    operation=.finish inFlight.token completedAt .success ∧
    scheduler.jobs[OriginJobKey.catalog target]?=some schedule ∧ schedule.active=true ∧
    schedule.recurring=false ∧ schedule.oneShotPending=false

theorem demanded_catalog (sd : JobSchedule) : sd.demanded .catalog=
    (sd.recurring || sd.oneShotPending || sd.generationPending) := by
  simp [JobSchedule.demanded]

/-- A success takes away every demand but the cadence. -/
theorem complete_success_demanded (sd : JobSchedule) (fl : InFlight) (ca : MonotonicTime) :
    (sd.complete fl ca .success).demanded .catalog=sd.recurring := by
  rw [demanded_catalog]
  unfold JobSchedule.complete
  dsimp only
  split
  · simp
  · next done => simp [done]

theorem complete_success_active (sd : JobSchedule) (fl : InFlight)
    (ca : MonotonicTime) (cat : fl.key.kind=.catalog) :
    (sd.complete fl ca .success).active= if sd.oneShotPending then sd.recurring else sd.active := by
  unfold JobSchedule.complete
  dsimp only
  split <;> simp_all

variable {sch : OriginEdfScheduler}

theorem JobMove.catalogDemanded {op : SchedulerOperation} {key : OriginJobKey}
    {job : JobSchedule} (move : JobMove sch op key job) (t : TermCampusKey)
    (cat : key=.catalog t) (h : CatalogDemanded sch)
    (safe : ¬Strands sch op) (active : job.active=true) :
    job.demanded .catalog=true := by
  have old : ∀sd,sch.jobs[key]?=some sd → sd.active=true → sd.demanded .catalog=true := by
    rw [cat]
    exact h t
  rw [demanded_catalog]
  simp only [demanded_catalog] at old
  cases move with
  | registerCatalog t | registerCatalogInitial t | registerCatalogOneShot t =>
    cases sch.jobs[OriginJobKey.catalog t]? <;>
      simp [JobSchedule.upserted,JobSchedule.register,JobSchedule.ofRegistration]
  | setCatalogWatchCount t count sd known | startNext now key sd known =>
    exact old sd known active
  | activateCatalog => rfl
  | demoteCatalog t maintenance now sd known =>
    unfold JobSchedule.demoteCatalog at active ⊢
    split
    · split
      · next zero => simp only [zero] at active; exact old sd known active
      · rfl
    · simpa [Bool.or_comm] using active
  | requestManualTargetRetry t now key circuit sd =>
    cases recurring : sd.recurring <;> simp [JobSchedule.manualRetry,recurring]
  | finish fl ca completion sd running ordered known =>
    cases completion with
    | success =>
      rw [← demanded_catalog,complete_success_demanded]
      rw [complete_success_active _ _ _ (by rw [cat]; rfl)] at active
      cases recurring : sd.recurring with
      | true => rfl
      | false =>
        -- Without a cadence only a pending one-shot would have parked the job.
        cases oneShot : sd.oneShotPending with
        | true => simp [oneShot,recurring] at active
        | false =>
          simp only [oneShot] at active
          rw [cat] at known
          exact absurd ⟨fl,ca,t,sd,running,cat,ordered,rfl,known, active,recurring,oneShot⟩ safe
    | catalogRace | retry => exact old sd known active
  | registerOpen | registerOpenInitial | activateOpen | demoteOpen | setOpenWatchCount
  | requestOpenDue | completeOpenBootstrap | adoptExternalOpenState => cases cat

/-- A step keeps every active Catalog job demanded exactly if it does not strand one. -/
theorem step_catalogDemanded (sch : OriginEdfScheduler) (operation : SchedulerOperation)
    (h : CatalogDemanded sch) :
    CatalogDemanded (sch.step operation).2 ↔ ¬Strands sch operation := by
  constructor
  · rintro next ⟨inFlight,completedAt,target,schedule,running,key,ordered,rfl,known,active,
      recurring,oneShot⟩
    have catalog : inFlight.key.kind=.catalog := by rw [key]; rfl
    have found := known
    rw [← key] at found
    rw [finish_done sch inFlight completedAt .success schedule running ordered found] at next
    have demanded := next target (schedule.complete inFlight completedAt .success)
      (by rw [key,getElem?_insert_eq,if_pos rfl])
      (by rw [complete_success_active _ _ _ catalog,oneShot]; exact active)
    rw [complete_success_demanded,recurring] at demanded
    cases demanded
  · intro safe target schedule found active
    obtain same|⟨job,written,move⟩ := (step_moved sch operation).lookup (.catalog target)
    · exact h target schedule (same.symm.trans found) active
    · rw [written] at found
      cases found
      exact move.catalogDemanded target rfl h safe active

/-- The operations that ask for a Catalog job again. -/
def Redemands (target : TermCampusKey) : SchedulerOperation → Prop
  | .registerCatalog named _ _ => named=target
  | .registerCatalogInitial named _ _ _ => named=target
  | .registerCatalogOneShot named _ _ => named=target
  | .activateCatalog named _ _ => named=target
  | .demoteCatalog named maintenanceInterval _ => named=target ∧ maintenanceInterval≠none
  | .requestManualTargetRetry named _ => named=target
  | _ => False

/-- Nothing can dispatch the Catalog job of the target. -/
structure Parked (target : TermCampusKey) (scheduler : OriginEdfScheduler) : Prop where
  inactive : ∀schedule,scheduler.jobs[OriginJobKey.catalog target]?=some schedule →
    schedule.active=false ∧ schedule.demanded .catalog=false
  notRunning : ∀inFlight,scheduler.inFlight=some inFlight → inFlight.key≠.catalog target
  notProbed : ∀recheckAfter authorized,
    scheduler.circuit≠.fatalDiagnostic (.catalog target) recheckAfter authorized

theorem manualRetryJob_target (sch : OriginEdfScheduler) (target : TermCampusKey)
    (now : MonotonicTime) (key : OriginJobKey) (circuit : OriginCircuit)
    (h : sch.manualRetryJob target now=some (key,circuit)) : key.target=target := by
  unfold manualRetryJob at h
  split at h
  · cases h
  split at h
  · cases h; rfl
  · split at h
    · cases h
    · cases h; rfl
  · split at h
    · next same => cases h; exact same
    · cases h

/-- A parked job is written only by operations that leave it parked. -/
theorem JobMove.inactive {op : SchedulerOperation} {key : OriginJobKey} {job : JobSchedule}
    (move : JobMove sch op key job) (t : TermCampusKey)
    (cat : key=.catalog t) (h : Parked t sch)
    (quiet : ¬Redemands t op) : job.active=false ∧ job.demanded .catalog=false := by
  have old : ∀sd,sch.jobs[key]?=some sd → sd.active=false ∧ sd.demanded .catalog=false := by
    rw [cat]
    exact h.inactive
  cases move with
  | registerCatalog | registerCatalogInitial | registerCatalogOneShot | activateCatalog =>
    cases cat; exact absurd rfl quiet
  | setCatalogWatchCount named count sd known | startNext now key sd known =>
    simpa [demanded_catalog] using old sd known
  | demoteCatalog named maintenance now sd known =>
    cases cat
    cases maintenance with
    | none =>
      have flags := (old sd known).2
      simp only [demanded_catalog,Bool.or_eq_false_iff] at flags
      simp [JobSchedule.demoteCatalog,demanded_catalog,flags]
    | some interval => exact absurd ⟨rfl,nofun⟩ quiet
  | requestManualTargetRetry _ _ _ _ _ chosen =>
    rw [cat] at chosen
    exact absurd (manualRetryJob_target _ _ _ _ _ chosen).symm quiet
  | finish fl _ _ _ running =>
    exact absurd cat (h.notRunning fl running)
  | registerOpen | registerOpenInitial | activateOpen | demoteOpen | setOpenWatchCount
  | requestOpenDue | completeOpenBootstrap | adoptExternalOpenState => cases cat

theorem step_parked (target : TermCampusKey) (sch : OriginEdfScheduler)
    (operation : SchedulerOperation) (quiet : ¬Redemands target operation)
    (h : Parked target sch) : Parked target (sch.step operation).2 := by
  have control : (∀inFlight,(sch.step operation).2.inFlight=some inFlight →
      inFlight.key≠.catalog target) ∧ ∀recheckAfter authorized,
      (sch.step operation).2.circuit≠
        .fatalDiagnostic (.catalog target) recheckAfter authorized := by
    have move := step_controlled sch operation
    unfold Controlled at move
    generalize (sch.step operation).2.circuit=circuit, (sch.step operation).2.inFlight=inFlight,
      circuitEvent sch operation (sch.step operation).1=event at move ⊢
    cases move with
    | kept => exact ⟨h.notRunning,h.notProbed⟩
    | expired => exact ⟨nofun,nofun⟩
    | retried _ _ _ _ _ _ fatal =>
      refine ⟨nofun,fun later granted same => ?_⟩
      cases same
      exact h.notProbed _ _ fatal
    | authorized _ _ _ _ fatal =>
      refine ⟨h.notRunning,fun later granted same => ?_⟩
      cases same
      exact h.notProbed _ _ fatal
    | started now running schedule idle passed known active =>
      refine ⟨fun started same key => ?_,nofun⟩
      cases same
      rw [key] at known
      rw [(h.inactive schedule known).1] at active
      cases active
    | probed now running recheckAfter idle fatal =>
      have other : running.key≠.catalog target := by
        intro key
        rw [key] at fatal
        exact h.notProbed _ _ fatal
      refine ⟨fun started same => ?_,fun later granted same => ?_⟩
      · cases same
        exact other
      · exact other (OriginCircuit.fatalDiagnostic.inj same).1
    | finished running _ _ _ active =>
      exact ⟨nofun,completedCircuit_blames _ _ _ _ _ (h.notRunning running active) h.notProbed⟩
    | lost => exact ⟨nofun,h.notProbed⟩
  refine ⟨?_,control.1,control.2⟩
  intro schedule found
  obtain same|⟨job,written,move⟩ := (step_moved sch operation).lookup (.catalog target)
  · exact h.inactive schedule (same.symm.trans found)
  · rw [written] at found
    cases found
    exact move.inactive target rfl h quiet

theorem Parked.not_dispatched {target : TermCampusKey} (h : Parked target sch)
    (now : MonotonicTime) (dispatch : OriginDispatch)
    (started : (sch.startNext now).1=some dispatch) : dispatch.key≠.catalog target := by
  have move := startNext_move sch now
  generalize (sch.startNext now).1=dispatched,(sch.startNext now).2=next at move started
  intro key
  cases move with
  | refused | expired => cases started
  | ordinary _ _ schedule _ _ _ known active same =>
    cases started
    rw [← same,key] at known
    rw [(h.inactive schedule known).1] at active
    cases active
  | probe _ _ _ _ _ _ fatal _ _ same =>
    cases started
    rw [← same,key] at fatal
    exact h.notProbed _ _ fatal

/-- A success that strands nothing parks a Catalog job without a cadence. -/
theorem finish_parks (ops : List SchedulerOperation) (fl : InFlight)
    (ca : MonotonicTime) (t : TermCampusKey) (sd : JobSchedule)
    (running : (run step .new ops).inFlight=some fl)
    (key : fl.key=.catalog t) (ordered : fl.startedAt ≤ ca)
    (known : (run step .new ops).jobs[OriginJobKey.catalog t]?=some sd)
    (once : sd.recurring=false)
    (safe : ¬Strands (run step .new ops) (.finish fl.token ca .success)) :
    Parked t ((run step .new ops).step (.finish fl.token ca .success)).2 := by
  have guarded := reachable_guarded (reachable_run observing (.new,[]) ops)
  have calm := guarded.running fl
  rw [run_traced_fst] at calm
  generalize run step .new ops=sch at *
  have found := known
  rw [← key] at found
  rw [finish_done sch fl ca .success sd running ordered found]
  refine ⟨?_,nofun,?_⟩
  · intro later written
    rw [key,getElem?_insert_eq,if_pos rfl] at written
    cases written
    refine ⟨?_,by rw [complete_success_demanded,once]⟩
    rw [complete_success_active _ _ _ (by rw [key]; rfl)]
    cases oneShot : sd.oneShotPending with
    | true => exact once
    | false =>
      cases active : sd.active with
      | false => rfl
      | true =>
        exact absurd ⟨fl,ca,t,sd,running,key,ordered,rfl,known,active, once,oneShot⟩ safe
  · -- A probe closes its circuit, and any other job runs under a closed one.
    intro ra authorized fatal
    obtain ⟨ordinary,closed⟩|⟨probe,_⟩ := calm running
    · simp [completedCircuit,closed] at fatal
    · simp [completedCircuit,probe] at fatal

/-- Active Catalog jobs stay demanded throughout exactly the runs that strand none, and a
success that strands nothing parks a job without a cadence until it is asked for again. -/
theorem catalog_demanded_iff_never_stranded (operations : List SchedulerOperation) :
    ((∀earlier later,operations=earlier++later → CatalogDemanded (run step .new earlier)) ↔
      Along step (fun s operation => ¬Strands s operation) .new operations) ∧
    ∀inFlight completedAt target schedule, (run step .new operations).inFlight=some inFlight →
      inFlight.key=.catalog target → inFlight.startedAt ≤ completedAt →
      (run step .new operations).jobs[OriginJobKey.catalog target]?=
        some schedule → schedule.recurring=false →
      ¬Strands (run step .new operations) (.finish inFlight.token completedAt .success) →
      ∀more,(∀operation∈more,¬Redemands target operation) → ∀now dispatch,((run step
            ((run step .new operations).step
              (.finish inFlight.token completedAt .success)).2 more).startNext now).1=
          some dispatch → dispatch.key≠.catalog target := by
  refine ⟨along_iff_throughout CatalogDemanded step_catalogDemanded _ ?_ operations,?_⟩
  · intro target schedule found
    simp [OriginEdfScheduler.new] at found
  intro inFlight completedAt target schedule running key ordered known once safe more quiet now
    dispatch started
  have parked := finish_parks operations inFlight completedAt target schedule running key ordered
    known once safe
  exact (run_invariant (Parked target) parked more (fun s operation named =>
    step_parked target s operation (quiet operation named))).not_dispatched now dispatch started

def oneShotHydration : List SchedulerOperation :=
  [.registerCatalogOneShot nbFall2026 0 ⟨0⟩,.startNext ⟨0⟩]

theorem catalog_demanded_iff_never_stranded_one_shot :
    CatalogDemanded (run step .new oneShotHydration) ∧
    ∀now dispatch,(((run step .new oneShotHydration).step
      (.finish 1 ⟨5⟩ .success)).2.startNext now).1=some dispatch →
        dispatch.key≠.catalog nbFall2026 := by
  have both := catalog_demanded_iff_never_stranded oneShotHydration
  have flags : (run step .new oneShotHydration).jobs[
      OriginJobKey.catalog nbFall2026]?.any (fun schedule =>
        !schedule.recurring && schedule.oneShotPending)=true := by decide
  obtain ⟨schedule,known,marks⟩ := (Option.any_eq_true _ _).mp flags
  simp only [Bool.and_eq_true,Bool.not_eq_true'] at marks
  refine ⟨both.1.mpr ⟨?_,?_,trivial⟩ oneShotHydration [] rfl,?_⟩
  · rintro ⟨_,_,_,_,_,_,_,same,_⟩
    cases same
  · rintro ⟨_,_,_,_,_,_,_,same,_⟩
    cases same
  · refine both.2 ⟨1,.catalog nbFall2026,⟨0⟩,⟨0⟩,false⟩ ⟨5⟩ nbFall2026 schedule (by decide) rfl
      (by decide) known marks.1 ?_ [] (by simp)
    rintro ⟨inFlight,_,target,job,running,key,_,_,found,_,_,oneShot⟩
    have only : (run step .new oneShotHydration).inFlight=
        some ⟨1,.catalog nbFall2026,⟨0⟩,⟨0⟩,false⟩ := by decide
    cases only.symm.trans running
    cases key
    cases known.symm.trans found
    rw [marks.2] at oneShot
    cases oneShot

/-- Catalog hydration as set_manual_one_shot_mode demotes it while it is outstanding. -/
def strandedHydration : List SchedulerOperation :=
  [.registerCatalogInitial nbFall2026 (.fromSecs 60) 0 ⟨0⟩,.demoteCatalog nbFall2026 none ⟨0⟩,
    .startNext ⟨0⟩,.finish 1 ⟨5⟩ .success]

/-- The job that nothing demands stays active and is dispatched again a cadence later. -/
theorem stranded_hydration_dispatched : ¬CatalogDemanded (run step .new strandedHydration) ∧
    ((run step .new strandedHydration).startNext ⟨60000⟩).1.map
      OriginDispatch.key=some (.catalog nbFall2026) := by
  refine ⟨fun h => ?_,by decide⟩
  have flags : (run step .new strandedHydration).jobs[
      OriginJobKey.catalog nbFall2026]?.any (fun schedule =>
        schedule.active && !schedule.demanded .catalog)=true := by decide
  obtain ⟨schedule,known,marks⟩ := (Option.any_eq_true _ _).mp flags
  simp only [Bool.and_eq_true,Bool.not_eq_true'] at marks
  have demanded := h nbFall2026 schedule known marks.1
  rw [marks.2] at demanded
  cases demanded

end CoursePlanner.Open
