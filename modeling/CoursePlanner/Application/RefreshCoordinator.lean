import CoursePlanner.Open.Scheduler

namespace CoursePlanner.Application

open Std Library Contracts Open

def lowFrequencyMaintenanceInterval : Duration := .fromSecs (24*60*60)

/-- The constructor of the source refuses a zero Catalog interval. -/
structure RefreshPolicy where
  catalogInterval : Duration
  openIntervals : OpenRefreshIntervals
  positive : catalogInterval.isZero=false

/-- What a call reads around it: the policy provider, which may fail, the monotonic
clock, and the watch manager's count for each target. -/
structure Reading where
  policy : Option RefreshPolicy
  now : MonotonicTime
  activeWatchCount : TermCampusKey → Nat

inductive CoordinatorError where
  | refreshPolicy
  | scheduler (error : SchedulerError)
  | execution
  deriving DecidableEq

/-- The scheduling state of the coordinator. A registered target is a key of the
targets map; its Open request only matters to the pulls. -/
structure SharedRefreshCoordinator where
  scheduler : OriginEdfScheduler
  targets : ExtTreeSet TermCampusKey
  activatedTargets : ExtTreeSet TermCampusKey
  manualOneShotTargets : ExtTreeSet TermCampusKey

structure ConcurrentOpenSchedule where
  nextDueAfter : Duration
  interval : Duration
  failureStreak : Nat

/-- How the body of a Catalog dispatch ends. A published pair completes the Open
bootstrap before the dispatch itself is finished. -/
inductive CatalogExecution where
  | published (bootstrappedAt : MonotonicTime)
  | retained
  | unpublished (completion : CompletionSchedule)
  | error

inductive OpenExecution where
  | completed (completion : CompletionSchedule)
  | error

/-- What one run_next meets after it has started a dispatch. -/
structure Execution where
  catalog : CatalogExecution
  serving : OpenExecution
  fallback : RetryDirective
  completedAt : MonotonicTime

namespace SharedRefreshCoordinator

def new : SharedRefreshCoordinator := ⟨.new,∅,∅,∅⟩

/-- A call of the scheduler; its error is passed on as the coordinator's. -/
def schedule {A : Type} (coordinator : SharedRefreshCoordinator)
    (call : OriginEdfScheduler → Except SchedulerError A × OriginEdfScheduler) :
    Except CoordinatorError A × SharedRefreshCoordinator :=
  ((call coordinator.scheduler).1.mapError .scheduler,
    { coordinator with scheduler := (call coordinator.scheduler).2 })

def nextDue (coordinator : SharedRefreshCoordinator) (key : OriginJobKey) : Option MonotonicTime :=
  (coordinator.scheduler.jobs[key]?.filter JobSchedule.active).map JobSchedule.nextDue

def registerCatalogJob (coordinator : SharedRefreshCoordinator) (reading : Reading)
    (target : TermCampusKey) (manualOneShot completeSnapshotReady : Bool) :
    Except CoordinatorError Unit × SharedRefreshCoordinator :=
  let count := reading.activeWatchCount target
  if completeSnapshotReady then
    coordinator.schedule (fun scheduler => scheduler.registerCatalog target
      lowFrequencyMaintenanceInterval (reading.now.saturatingAdd lowFrequencyMaintenanceInterval))
  else if manualOneShot then
    attempt (coordinator.schedule (fun scheduler =>
      scheduler.registerCatalogOneShot target count reading.now)) (fun _ coordinator =>
        (.ok (),{ coordinator with
          manualOneShotTargets := coordinator.manualOneShotTargets.insert target }))
  else
    coordinator.schedule (fun scheduler => scheduler.registerCatalogInitial target
      lowFrequencyMaintenanceInterval count reading.now)

def registerTargetWithSnapshotState (coordinator : SharedRefreshCoordinator) (reading : Reading)
    (target : TermCampusKey) (manualOneShot completeSnapshotReady : Bool) :
    Except CoordinatorError Unit × SharedRefreshCoordinator :=
  if target∈coordinator.targets then (.ok (),coordinator)
  else match reading.policy with
    | none => (.error .refreshPolicy,coordinator)
    | some policy =>
      attempt (coordinator.registerCatalogJob reading target manualOneShot completeSnapshotReady)
        (fun _ coordinator =>
      attempt (coordinator.schedule (fun scheduler => scheduler.registerOpenInitial target
        policy.openIntervals (reading.activeWatchCount target) reading.now
        (reading.now.saturatingAdd lowFrequencyMaintenanceInterval))) (fun _ coordinator =>
      attempt (if completeSnapshotReady then coordinator.schedule (fun scheduler =>
          scheduler.completeOpenBootstrap target reading.now)
        else (.ok (),coordinator)) (fun _ coordinator =>
      (.ok (),{ coordinator with targets := coordinator.targets.insert target }))))

def registerTarget (coordinator : SharedRefreshCoordinator) (reading : Reading)
    (target : TermCampusKey) : Except CoordinatorError Unit × SharedRefreshCoordinator :=
  coordinator.registerTargetWithSnapshotState reading target false false

def registerManualTarget (coordinator : SharedRefreshCoordinator) (reading : Reading)
    (target : TermCampusKey) : Except CoordinatorError Unit × SharedRefreshCoordinator :=
  coordinator.registerTargetWithSnapshotState reading target true false

def activateOpenTarget (coordinator : SharedRefreshCoordinator) (reading : Reading)
    (target : TermCampusKey) : Except CoordinatorError Unit × SharedRefreshCoordinator :=
  if target∉coordinator.targets then (.error (.scheduler .unknownJob),coordinator)
  else match reading.policy with
    | none => (.error .refreshPolicy,coordinator)
    | some policy =>
      attempt (coordinator.schedule (fun scheduler =>
        scheduler.activateOpen target policy.openIntervals reading.now)) (fun _ coordinator =>
      attempt (coordinator.schedule (fun scheduler =>
        scheduler.activateCatalog target policy.catalogInterval reading.now)) (fun _ coordinator =>
      (.ok (),{ coordinator with
        activatedTargets := coordinator.activatedTargets.insert target })))

def requestManualTargetRetry (coordinator : SharedRefreshCoordinator) (reading : Reading)
    (target : TermCampusKey) : Except CoordinatorError Bool × SharedRefreshCoordinator :=
  if target∉coordinator.targets then (.error (.scheduler .unknownJob),coordinator)
  else attempt (coordinator.schedule (fun scheduler =>
    scheduler.requestManualTargetRetry target reading.now)) (fun kind coordinator =>
      (.ok kind.isSome,coordinator))

/-- The watch count that the demotion goes by is sampled here. -/
def demoteOpen (coordinator : SharedRefreshCoordinator) (reading : Reading)
    (policy : RefreshPolicy) (target : TermCampusKey) :
    Except CoordinatorError Unit × SharedRefreshCoordinator :=
  coordinator.schedule (fun scheduler => scheduler.demoteOpen target policy.openIntervals
    (reading.activeWatchCount target) reading.now)

def releaseProductDemandTarget (coordinator : SharedRefreshCoordinator) (reading : Reading)
    (target : TermCampusKey) : Except CoordinatorError Unit × SharedRefreshCoordinator :=
  if target∉coordinator.targets then (.error (.scheduler .unknownJob),coordinator)
  else match reading.policy with
    | none => (.error .refreshPolicy,coordinator)
    | some policy =>
      let maintenance := if target∈coordinator.manualOneShotTargets then none
        else some lowFrequencyMaintenanceInterval
      attempt (coordinator.schedule (fun scheduler =>
        scheduler.demoteCatalog target maintenance reading.now)) (fun _ coordinator =>
      attempt (coordinator.demoteOpen reading policy target) (fun _ coordinator =>
      (.ok (),{ coordinator with
        activatedTargets := coordinator.activatedTargets.erase target })))

/-- The mode is changed before the policy is read. -/
def setManualOneShotMode (coordinator : SharedRefreshCoordinator) (reading : Reading)
    (target : TermCampusKey) (manualOneShot : Bool) :
    Except CoordinatorError Unit × SharedRefreshCoordinator :=
  if target∉coordinator.targets then (.error (.scheduler .unknownJob),coordinator)
  else if coordinator.manualOneShotTargets.contains target=manualOneShot then
    (.ok (),coordinator)
  else
    let coordinator := { coordinator with
      manualOneShotTargets := if manualOneShot then coordinator.manualOneShotTargets.insert target
        else coordinator.manualOneShotTargets.erase target }
    if target∈coordinator.activatedTargets then (.ok (),coordinator)
    else match reading.policy with
      | none => (.error .refreshPolicy,coordinator)
      | some policy =>
        attempt (coordinator.schedule (fun scheduler =>
          if manualOneShot then scheduler.demoteCatalog target none reading.now
          else scheduler.activateCatalog target lowFrequencyMaintenanceInterval reading.now))
          (fun _ coordinator => coordinator.demoteOpen reading policy target)

/-- The first half of the loop body of refresh_registered_policy. -/
def refreshCatalogCadence (coordinator : SharedRefreshCoordinator) (reading : Reading)
    (policy : RefreshPolicy) (target : TermCampusKey) :
    Except CoordinatorError Unit × SharedRefreshCoordinator :=
  if target∈coordinator.activatedTargets then
    let due := (coordinator.nextDue (.catalog target)).getD
      (reading.now.saturatingAdd policy.catalogInterval)
    coordinator.schedule (fun scheduler =>
      scheduler.registerCatalog target policy.catalogInterval due)
  else if target∈coordinator.manualOneShotTargets then (.ok (),coordinator)
  else match coordinator.nextDue (.catalog target) with
    | none => (.error (.scheduler .unknownJob),coordinator)
    | some due => coordinator.schedule (fun scheduler =>
      scheduler.registerCatalog target lowFrequencyMaintenanceInterval due)

def refreshTarget (coordinator : SharedRefreshCoordinator) (reading : Reading)
    (policy : RefreshPolicy) (target : TermCampusKey) :
    Except CoordinatorError Unit × SharedRefreshCoordinator :=
  let count := reading.activeWatchCount target
  attempt (coordinator.refreshCatalogCadence reading policy target) (fun _ coordinator =>
  attempt (coordinator.schedule (fun scheduler =>
    scheduler.setCatalogWatchCount target count)) (fun _ coordinator =>
  coordinator.schedule (fun scheduler =>
    scheduler.setOpenWatchCount target policy.openIntervals count reading.now)))

def refreshTargets (reading : Reading) (policy : RefreshPolicy) :
    List TermCampusKey → SharedRefreshCoordinator →
    Except CoordinatorError Unit × SharedRefreshCoordinator
  | [],coordinator => (.ok (),coordinator)
  | target::targets,coordinator => attempt (coordinator.refreshTarget reading policy target)
    (fun _ coordinator => refreshTargets reading policy targets coordinator)

/-- The policy is read, then every target is brought up to date in key order. -/
def refreshRegisteredPolicy (coordinator : SharedRefreshCoordinator) (reading : Reading) :
    Except CoordinatorError RefreshPolicy × SharedRefreshCoordinator :=
  match reading.policy with
  | none => (.error .refreshPolicy,coordinator)
  | some policy =>
    attempt (refreshTargets reading policy coordinator.targets.toList coordinator)
      (fun _ coordinator => (.ok policy,coordinator))

def nextDispatchHint (coordinator : SharedRefreshCoordinator) (reading : Reading) :
    Except CoordinatorError (Option OriginDispatchHint) × SharedRefreshCoordinator :=
  attempt (coordinator.refreshRegisteredPolicy reading) (fun _ coordinator =>
    (.ok (coordinator.scheduler.nextDispatchHint reading.now),coordinator))

def concurrentOpenSchedule (coordinator : SharedRefreshCoordinator) (reading : Reading)
    (target : TermCampusKey) :
    Except CoordinatorError (Option ConcurrentOpenSchedule) × SharedRefreshCoordinator :=
  attempt (coordinator.refreshRegisteredPolicy reading) (fun policy coordinator =>
    match coordinator.scheduler.jobs[OriginJobKey.open target]? with
    | none => (.ok none,coordinator)
    | some job =>
      if job.activeWatchCount=0 then (.ok none,coordinator)
      else (.ok ((coordinator.nextDue (.open target)).map (fun due =>
        ⟨due.saturatingDurationSince reading.now,policy.openIntervals.effective true,
          job.failureStreak⟩)),coordinator))

def adoptConcurrentOpenSchedule (coordinator : SharedRefreshCoordinator) (reading : Reading)
    (target : TermCampusKey) (schedule : ConcurrentOpenSchedule) :
    Except CoordinatorError Unit × SharedRefreshCoordinator :=
  coordinator.schedule (fun scheduler => scheduler.adoptExternalOpenState target reading.now
    (reading.now.saturatingAdd schedule.nextDueAfter) schedule.failureStreak)

/-- The body of the dispatch: how it completes, and the lane of an Open recheck. -/
def execute (coordinator : SharedRefreshCoordinator) (dispatch : OriginDispatch)
    (execution : Execution) :
    Except CoordinatorError (CompletionSchedule × Option OriginSchedulerLane) ×
      SharedRefreshCoordinator :=
  match dispatch.key.kind with
  | .catalog =>
    match execution.catalog with
    | .published bootstrappedAt =>
      attempt (coordinator.schedule (fun scheduler =>
        scheduler.completeOpenBootstrap dispatch.key.target bootstrappedAt)) (fun _ coordinator =>
          (.ok (.success,none),coordinator))
    | .retained => (.ok (.success,none),coordinator)
    | .unpublished completion => (.ok (completion,none),coordinator)
    | .error => (.error .execution,coordinator)
  | .open =>
    match execution.serving with
    | .completed completion =>
      (.ok (completion,if completion=.catalogRace then some .openCatalogRaceRecheck else none),
        coordinator)
    | .error => (.error .execution,coordinator)

/-- An Open pull that lost against a Catalog publication is asked for again, unless
it is due anyway. -/
def requestRecheck (coordinator : SharedRefreshCoordinator) (target : TermCampusKey)
    (completedAt : MonotonicTime) (lane : Option OriginSchedulerLane) :
    Except CoordinatorError Unit × SharedRefreshCoordinator :=
  match lane with
  | none => (.ok (),coordinator)
  | some lane =>
    if !coordinator.scheduler.isActive (.open target) ||
        (coordinator.nextDue (.open target)).any (fun due => completedAt < due) then
      coordinator.schedule (fun scheduler => scheduler.requestOpenDue target completedAt lane)
    else (.ok (),coordinator)

/-- The dispatch is finished in either case; an error counts as a transient failure. -/
def completeDispatch (coordinator : SharedRefreshCoordinator) (dispatch : OriginDispatch)
    (execution : Execution) : Except CoordinatorError Unit × SharedRefreshCoordinator :=
  match coordinator.execute dispatch execution with
  | (.ok (completion,lane),coordinator) =>
    attempt (coordinator.schedule (fun scheduler =>
      scheduler.finish dispatch.token execution.completedAt completion)) (fun _ coordinator =>
    coordinator.requestRecheck dispatch.key.target execution.completedAt lane)
  | (.error error,coordinator) =>
    attempt (coordinator.schedule (fun scheduler =>
      scheduler.finish dispatch.token execution.completedAt (.retry execution.fallback)))
      (fun _ coordinator => (.error error,coordinator))

def runNext (coordinator : SharedRefreshCoordinator) (reading : Reading)
    (execution : Execution) : Except CoordinatorError Bool × SharedRefreshCoordinator :=
  attempt (coordinator.refreshRegisteredPolicy reading) (fun _ coordinator =>
    match coordinator.scheduler.startNext reading.now with
    | (none,scheduler) => (.ok false,{ coordinator with scheduler := scheduler })
    | (some dispatch,scheduler) =>
      attempt ({ coordinator with scheduler := scheduler }.completeDispatch dispatch execution)
        (fun _ coordinator => (.ok true,coordinator)))

end SharedRefreshCoordinator

/-- The calls that the runtime makes of a coordinator, each with what it reads. -/
inductive CoordinatorOperation where
  | register (reading : Reading) (target : TermCampusKey)
      (manualOneShot completeSnapshotReady : Bool)
  | activateOpenTarget (reading : Reading) (target : TermCampusKey)
  | requestManualTargetRetry (reading : Reading) (target : TermCampusKey)
  | releaseProductDemandTarget (reading : Reading) (target : TermCampusKey)
  | setManualOneShotMode (reading : Reading) (target : TermCampusKey) (manualOneShot : Bool)
  | nextDispatchHint (reading : Reading)
  | concurrentOpenSchedule (reading : Reading) (target : TermCampusKey)
  | adoptConcurrentOpenSchedule (reading : Reading) (target : TermCampusKey)
      (schedule : ConcurrentOpenSchedule)
  | runNext (reading : Reading) (execution : Execution)

def SharedRefreshCoordinator.step (coordinator : SharedRefreshCoordinator) :
    CoordinatorOperation → Except CoordinatorError Unit × SharedRefreshCoordinator
  | .register reading target manualOneShot completeSnapshotReady =>
    coordinator.registerTargetWithSnapshotState reading target manualOneShot completeSnapshotReady
  | .activateOpenTarget reading target => coordinator.activateOpenTarget reading target
  | .requestManualTargetRetry reading target =>
    (coordinator.requestManualTargetRetry reading target).map (Except.map (fun _ => ())) id
  | .releaseProductDemandTarget reading target =>
    coordinator.releaseProductDemandTarget reading target
  | .setManualOneShotMode reading target manualOneShot =>
    coordinator.setManualOneShotMode reading target manualOneShot
  | .nextDispatchHint reading =>
    (coordinator.nextDispatchHint reading).map (Except.map (fun _ => ())) id
  | .concurrentOpenSchedule reading target =>
    (coordinator.concurrentOpenSchedule reading target).map (Except.map (fun _ => ())) id
  | .adoptConcurrentOpenSchedule reading target schedule =>
    coordinator.adoptConcurrentOpenSchedule reading target schedule
  | .runNext reading execution =>
    (coordinator.runNext reading execution).map (Except.map (fun _ => ())) id

end CoursePlanner.Application
