import CoursePlanner.Library.OrderedMap
import CoursePlanner.Library.Transition
import CoursePlanner.Open.Policy

namespace CoursePlanner.Open

open Std Library Contracts

def catalogOneShotInterval : Duration := .fromSecs (24*60*60)

structure MonotonicTime where
  millis : Nat
  deriving DecidableEq, Repr

namespace MonotonicTime

instance : LE MonotonicTime := ⟨fun a b => a.millis ≤ b.millis⟩
instance : LT MonotonicTime := ⟨fun a b => a.millis<b.millis⟩
instance (a b : MonotonicTime) : Decidable (a ≤ b) := inferInstanceAs (Decidable (a.millis ≤ b.millis))
instance (a b : MonotonicTime) : Decidable (a<b) := inferInstanceAs (Decidable (a.millis<b.millis))

def min (a b : MonotonicTime) : MonotonicTime := ⟨Nat.min a.millis b.millis⟩

def saturatingAdd (time : MonotonicTime) (duration : Duration) : MonotonicTime :=
  ⟨Contracts.saturatingAdd time.millis (millisOrMax duration)⟩

def saturatingDurationSince (time earlier : MonotonicTime) : Duration :=
  .fromMillis (time.millis-earlier.millis)

end MonotonicTime

inductive OriginJobKind where
  | catalog
  | «open»
  deriving DecidableEq, Repr

structure OriginJobKey where
  kind : OriginJobKind
  target : TermCampusKey
  deriving DecidableEq

namespace OriginJobKey

/-- The derived lexicographic order of the source struct: kind, then target. -/
instance : Ord OriginJobKey :=
  ⟨compareLex (compareOn (fun key => key.kind.ctorIdx)) (compareOn OriginJobKey.target)⟩

instance : TransOrd OriginJobKey := inferInstanceAs (TransCmp
  (compareLex (compareOn (fun key : OriginJobKey => key.kind.ctorIdx))
    (compareOn OriginJobKey.target)))

instance : LawfulEqOrd OriginJobKey where
  eq_of_compare {a b} h := by
    obtain ⟨hk,ht⟩ := compareLex_eq_eq.mp h
    have index : a.kind.ctorIdx=b.kind.ctorIdx := LawfulEqOrd.eq_of_compare hk
    have target : a.target=b.target := LawfulEqOrd.eq_of_compare ht
    have kind : a.kind=b.kind := by
      cases ha : a.kind <;> cases hb : b.kind <;> simp_all [OriginJobKind.ctorIdx]
    cases a; cases b; simp_all

def catalog (target : TermCampusKey) : OriginJobKey := ⟨.catalog,target⟩
def «open» (target : TermCampusKey) : OriginJobKey := ⟨.open,target⟩

end OriginJobKey

inductive OriginSchedulerLane where
  | catalog
  | openGeneral
  | openActiveWatch
  | openFirstLoad
  | openManualRefresh
  | openCatalogRaceRecheck
  deriving DecidableEq, Repr

def OriginSchedulerLane.watchedPriority (lane : OriginSchedulerLane) : Bool :=
  lane=.openActiveWatch

structure JobSchedule where
  active : Bool
  interval : Duration
  nextDue : MonotonicTime
  lane : OriginSchedulerLane
  normalLane : OriginSchedulerLane
  activeWatchCount : Nat
  recurring : Bool
  oneShotPending : Bool
  generationPending : Bool
  lastStart : Option MonotonicTime
  failureStreak : Nat
  deriving DecidableEq

inductive JobRegistrationMode where
  | recurring
  | oneShot
  deriving DecidableEq, Repr

structure JobRegistration where
  interval : Duration
  firstDue : MonotonicTime
  normalLane : OriginSchedulerLane
  activeWatchCount : Nat
  mode : JobRegistrationMode
  generationPending : Bool

inductive OriginCircuit where
  | closed
  | retryAfter («until» : MonotonicTime)
  | fatalDiagnostic (job : OriginJobKey) (recheckAfter : MonotonicTime) (authorized : Bool)
  deriving DecidableEq

structure InFlight where
  token : Nat
  key : OriginJobKey
  scheduledDue : MonotonicTime
  startedAt : MonotonicTime
  diagnosticProbe : Bool
  deriving DecidableEq

structure OriginDispatch where
  token : Nat
  key : OriginJobKey
  lane : OriginSchedulerLane
  scheduledDue : MonotonicTime
  startedAt : MonotonicTime
  schedulerLag : Duration
  actualStartToStartInterval : Option Duration
  requestedInterval : Duration
  failureStreak : Nat
  firstLoadOneShot : Bool
  deriving DecidableEq

structure OriginDispatchHint where
  key : OriginJobKey
  lane : OriginSchedulerLane
  scheduledDue : MonotonicTime
  activeWatchCount : Nat
  generationPending : Bool
  failureStreak : Nat
  deriving DecidableEq

inductive CompletionSchedule where
  | success
  | catalogRace
  | retry (directive : RetryDirective)
  deriving DecidableEq

inductive SchedulerError where
  | zeroInterval
  | unknownJob
  | invalidCompletionToken
  | completionBeforeStart
  | diagnosticCooldownActive
  deriving DecidableEq, Repr

structure OriginEdfScheduler where
  jobs : ExtTreeMap OriginJobKey JobSchedule
  inFlight : Option InFlight
  circuit : OriginCircuit
  nextToken : Nat

inductive DispatchPriority where
  | activeWatchOpen
  | watchedCatalogPrerequisite
  | generation
  | recovery
  | ordinary
  deriving DecidableEq, Repr

def dispatchPriority (key : OriginJobKey) (schedule : JobSchedule) : DispatchPriority :=
  if 0<schedule.activeWatchCount && key.kind=.catalog && schedule.generationPending then
    .watchedCatalogPrerequisite
  else if 0<schedule.activeWatchCount && key.kind=.open then .activeWatchOpen
  else if schedule.generationPending then .generation
  else if 0<schedule.failureStreak then .recovery
  else .ordinary

def compareDueJobs (left right : OriginJobKey × JobSchedule) : Ordering :=
  (compare (dispatchPriority left.1 left.2).ctorIdx (dispatchPriority right.1 right.2).ctorIdx).then
    ((compare left.2.nextDue.millis right.2.nextDue.millis).then (compare left.1 right.1))

def firstFutureDue (scheduledDue : MonotonicTime) (interval : Duration)
    (completedAt : MonotonicTime) : MonotonicTime :=
  if completedAt<scheduledDue then scheduledDue
  else
    let intervalMillis := max (millisOrMax interval) 1
    let elapsed := completedAt.millis-scheduledDue.millis
    -- The increment is unchecked in a release build.
    let steps := (elapsed/intervalMillis+1)%2^64
    ⟨Contracts.saturatingAdd scheduledDue.millis (saturatingMul steps intervalMillis)⟩

namespace JobSchedule

def register (schedule : JobSchedule) (registration : JobRegistration) : JobSchedule :=
  { schedule with
    active := true
    interval := registration.interval
    normalLane := registration.normalLane
    lane := registration.normalLane
    activeWatchCount := registration.activeWatchCount
    recurring := schedule.recurring || registration.mode=.recurring
    oneShotPending := schedule.oneShotPending || registration.mode=.oneShot
    generationPending := schedule.generationPending || registration.generationPending }

def ofRegistration (registration : JobRegistration) : JobSchedule where
  active := true
  interval := registration.interval
  nextDue := registration.firstDue
  lane := registration.normalLane
  normalLane := registration.normalLane
  activeWatchCount := registration.activeWatchCount
  recurring := registration.mode=.recurring
  oneShotPending := registration.mode=.oneShot
  generationPending := registration.generationPending
  lastStart := none
  failureStreak := 0

/-- What upsert leaves: a known job keeps its due time and its pending marks. -/
def upserted (schedule : Option JobSchedule) (registration : JobRegistration) : JobSchedule :=
  match schedule with
  | some schedule => schedule.register registration
  | none => .ofRegistration registration

def openLane (watched : Bool) : OriginSchedulerLane :=
  if watched then .openActiveWatch else .openGeneral

def anchored (schedule : JobSchedule) (now : MonotonicTime) : MonotonicTime :=
  (schedule.lastStart.getD now).saturatingAdd schedule.interval

def updateDueForIntervalChange (schedule : JobSchedule) (now : MonotonicTime) : JobSchedule :=
  if schedule.normalLane.watchedPriority then
    { schedule with nextDue := schedule.nextDue.min (schedule.anchored now) }
  else if schedule.lastStart.isSome then { schedule with nextDue := schedule.anchored now }
  else schedule

def activateCatalog (schedule : JobSchedule) (interval : Duration) (now : MonotonicTime) :
    JobSchedule :=
  { schedule with
    active := true
    recurring := true
    interval := interval
    normalLane := .catalog
    lane := .catalog
    nextDue := schedule.nextDue.min (now.saturatingAdd interval) }

/-- The lanes are reset before the maintenance interval is looked at. -/
def demoteCatalog (schedule : JobSchedule) (maintenanceInterval : Option Duration)
    (now : MonotonicTime) : Except SchedulerError Unit × JobSchedule :=
  let schedule := { schedule with normalLane := .catalog, lane := .catalog }
  match maintenanceInterval with
  | some interval =>
    if interval.isZero then (.error .zeroInterval,schedule)
    else
      (.ok (),{ schedule with
        interval := interval
        recurring := true
        active := true
        nextDue := (schedule.lastStart.getD now).saturatingAdd interval })
  | none =>
    (.ok (),{ schedule with
      recurring := false
      active := schedule.generationPending || schedule.oneShotPending })

def activateOpen (schedule : JobSchedule) (intervals : OpenRefreshIntervals)
    (now : MonotonicTime) : JobSchedule :=
  let watched : Bool := 0<schedule.activeWatchCount
  let wasActive := schedule.active
  { schedule with
    active := true
    recurring := true
    interval := intervals.effective watched
    normalLane := openLane watched
    lane := if !schedule.oneShotPending || !wasActive then openLane watched else schedule.lane
    nextDue := if !wasActive && schedule.nextDue<now then now else schedule.nextDue }

def demoteOpen (schedule : JobSchedule) (intervals : OpenRefreshIntervals)
    (activeWatchCount : Nat) (now : MonotonicTime) : JobSchedule :=
  let schedule := { schedule with
    activeWatchCount := activeWatchCount
    interval := intervals.effective (0<activeWatchCount) }
  if 0<activeWatchCount then
    { schedule with
      active := true
      recurring := true
      normalLane := .openActiveWatch
      lane := .openActiveWatch
      nextDue := if schedule.nextDue<now then now else schedule.nextDue }
  else
    { schedule with
      recurring := false
      active := schedule.oneShotPending
      normalLane := .openGeneral
      lane := if schedule.oneShotPending then .openFirstLoad else schedule.lane }

def setOpenWatchCount (schedule : JobSchedule) (intervals : OpenRefreshIntervals)
    (activeWatchCount : Nat) (now : MonotonicTime) : JobSchedule :=
  let previouslyWatched : Bool := 0<schedule.activeWatchCount
  let wasActive := schedule.active
  let watched : Bool := 0<activeWatchCount
  let schedule := { schedule with
    activeWatchCount := activeWatchCount
    interval := intervals.effective watched
    normalLane := openLane watched
    lane := if watched || !schedule.oneShotPending then openLane watched else schedule.lane }
  let anchored := schedule.anchored now
  if watched && !previouslyWatched then
    let nextDue := schedule.nextDue.min anchored
    { schedule with
      active := true
      nextDue := if !wasActive && nextDue<now then now else nextDue }
  else if !watched && previouslyWatched then
    { schedule with
      nextDue := anchored
      active := schedule.recurring || schedule.oneShotPending }
  else schedule

def requestDue (schedule : JobSchedule) (due : MonotonicTime) (lane : OriginSchedulerLane) :
    JobSchedule :=
  { schedule with
    active := true
    oneShotPending := schedule.oneShotPending || !schedule.recurring
    nextDue := if schedule.active then schedule.nextDue.min due else due
    lane := if 0<schedule.activeWatchCount then .openActiveWatch else lane }

def manualRetry (schedule : JobSchedule) (kind : OriginJobKind) (now : MonotonicTime) :
    JobSchedule :=
  { schedule with
    active := true
    oneShotPending := schedule.oneShotPending || !schedule.recurring
    nextDue := now
    lane := match kind with
      | .catalog => .catalog
      | .open => if 0<schedule.activeWatchCount then .openActiveWatch else .openManualRefresh }

def completeOpenBootstrap (schedule : JobSchedule) (completedAt : MonotonicTime) : JobSchedule :=
  { schedule with
    failureStreak := 0
    lane := schedule.normalLane
    generationPending := false
    oneShotPending := false
    nextDue := completedAt.saturatingAdd schedule.interval
    active := schedule.recurring || 0<schedule.activeWatchCount }

def adoptExternalOpenState (schedule : JobSchedule) (now nextDue : MonotonicTime)
    (failureStreak : Nat) : JobSchedule :=
  { schedule with
    failureStreak := failureStreak
    lastStart := some now
    nextDue := nextDue
    lane := schedule.normalLane
    oneShotPending := false
    generationPending := false
    active := schedule.recurring || 0<schedule.activeWatchCount }

/-- The job part of finish. Only a success ends pending work. -/
def complete (schedule : JobSchedule) (inFlight : InFlight) (completedAt : MonotonicTime)
    (completion : CompletionSchedule) : JobSchedule :=
  let schedule := { schedule with lane := schedule.normalLane }
  let due := firstFutureDue inFlight.scheduledDue schedule.interval completedAt
  match completion with
  | .success =>
    let schedule := { schedule with failureStreak := 0, nextDue := due }
    let schedule :=
      if schedule.oneShotPending then
        { schedule with
          oneShotPending := false
          active := schedule.recurring ||
            (inFlight.key.kind=.open && 0<schedule.activeWatchCount) }
      else schedule
    { schedule with generationPending := false }
  | .catalogRace => { schedule with failureStreak := 0, nextDue := due }
  | .retry directive =>
    { schedule with
      failureStreak := directive.nextFailureStreak
      nextDue := completedAt.saturatingAdd directive.delay }

end JobSchedule

/-- The circuit part of finish; nextDue is the one that the job part has set. -/
def completedCircuit (circuit : OriginCircuit) (inFlight : InFlight) (nextDue : MonotonicTime)
    (completion : CompletionSchedule) : OriginCircuit :=
  match completion with
  | .success => if inFlight.diagnosticProbe then .closed else circuit
  | .catalogRace => if inFlight.diagnosticProbe then .closed else circuit
  | .retry directive =>
    match directive.mode with
    | .automatic =>
      if inFlight.diagnosticProbe then
        if directive.clearsFatalDiagnostic then .closed
        else .fatalDiagnostic inFlight.key nextDue false
      else circuit
    | .originCircuit => .retryAfter nextDue
    | .explicitDiagnosticRecheck => .fatalDiagnostic inFlight.key nextDue false

namespace OriginEdfScheduler

def new : OriginEdfScheduler := ⟨∅,none,.closed,0⟩

/-- self.jobs.get_mut(key).ok_or(UnknownJob)?, then the assignments. -/
def updateJob (scheduler : OriginEdfScheduler) (key : OriginJobKey)
    (change : JobSchedule → JobSchedule) : Except SchedulerError Unit × OriginEdfScheduler :=
  match scheduler.jobs[key]? with
  | none => (.error .unknownJob,scheduler)
  | some schedule =>
    (.ok (),{ scheduler with jobs := scheduler.jobs.insert key (change schedule) })

def upsert (scheduler : OriginEdfScheduler) (key : OriginJobKey)
    (registration : JobRegistration) : Except SchedulerError Unit × OriginEdfScheduler :=
  if registration.interval.isZero then (.error .zeroInterval,scheduler)
  else
    (.ok (),{ scheduler with
      jobs := scheduler.jobs.insert key (.upserted scheduler.jobs[key]? registration) })

def registerCatalog (scheduler : OriginEdfScheduler) (target : TermCampusKey)
    (interval : Duration) (firstDue : MonotonicTime) :
    Except SchedulerError Unit × OriginEdfScheduler :=
  scheduler.upsert (.catalog target) ⟨interval,firstDue,.catalog,0,.recurring,false⟩

def registerCatalogInitial (scheduler : OriginEdfScheduler) (target : TermCampusKey)
    (interval : Duration) (activeWatchCount : Nat) (firstDue : MonotonicTime) :
    Except SchedulerError Unit × OriginEdfScheduler :=
  scheduler.upsert (.catalog target)
    ⟨interval,firstDue,.catalog,activeWatchCount,.recurring,true⟩

def registerCatalogOneShot (scheduler : OriginEdfScheduler) (target : TermCampusKey)
    (activeWatchCount : Nat) (firstDue : MonotonicTime) :
    Except SchedulerError Unit × OriginEdfScheduler :=
  scheduler.upsert (.catalog target)
    ⟨catalogOneShotInterval,firstDue,.catalog,activeWatchCount,.oneShot,true⟩

def registerOpenWithMode (scheduler : OriginEdfScheduler) (target : TermCampusKey)
    (intervals : OpenRefreshIntervals) (activeWatchCount : Nat) (now firstDue : MonotonicTime)
    (recurring : Bool) : Except SchedulerError Unit × OriginEdfScheduler :=
  let watched : Bool := 0<activeWatchCount
  let key := OriginJobKey.open target
  let existed := scheduler.jobs.contains key
  match scheduler.upsert key ⟨intervals.effective watched,firstDue,JobSchedule.openLane watched,
      activeWatchCount,if recurring then .recurring else .oneShot,!recurring⟩ with
  | (.error error,scheduler) => (.error error,scheduler)
  | (.ok (),scheduler) =>
    if existed then
      (.ok (),(scheduler.updateJob key (fun schedule => schedule.updateDueForIntervalChange now)).2)
    else (.ok (),scheduler)

def registerOpen (scheduler : OriginEdfScheduler) (target : TermCampusKey)
    (intervals : OpenRefreshIntervals) (activeWatchCount : Nat) (now firstDue : MonotonicTime) :
    Except SchedulerError Unit × OriginEdfScheduler :=
  scheduler.registerOpenWithMode target intervals activeWatchCount now firstDue true

def registerOpenInitial (scheduler : OriginEdfScheduler) (target : TermCampusKey)
    (intervals : OpenRefreshIntervals) (activeWatchCount : Nat) (now firstDue : MonotonicTime) :
    Except SchedulerError Unit × OriginEdfScheduler :=
  match scheduler.registerOpenWithMode target intervals activeWatchCount now firstDue false with
  | (.error error,scheduler) => (.error error,scheduler)
  | (.ok (),scheduler) =>
    if activeWatchCount=0 then
      (.ok (),(scheduler.updateJob (.open target) (fun schedule => { schedule with
        lane := .openFirstLoad })).2)
    else (.ok (),scheduler)

def setCatalogWatchCount (scheduler : OriginEdfScheduler) (target : TermCampusKey)
    (activeWatchCount : Nat) : Except SchedulerError Unit × OriginEdfScheduler :=
  scheduler.updateJob (.catalog target) (fun schedule => { schedule with
    activeWatchCount := activeWatchCount })

def activateCatalog (scheduler : OriginEdfScheduler) (target : TermCampusKey)
    (interval : Duration) (now : MonotonicTime) :
    Except SchedulerError Unit × OriginEdfScheduler :=
  if interval.isZero then (.error .zeroInterval,scheduler)
  else scheduler.updateJob (.catalog target) (fun schedule => schedule.activateCatalog interval now)

/-- A zero maintenance interval is refused after the lanes have been reset. -/
def demoteCatalog (scheduler : OriginEdfScheduler) (target : TermCampusKey)
    (maintenanceInterval : Option Duration) (now : MonotonicTime) :
    Except SchedulerError Unit × OriginEdfScheduler :=
  match scheduler.jobs[OriginJobKey.catalog target]? with
  | none => (.error .unknownJob,scheduler)
  | some schedule =>
    let (result,schedule) := schedule.demoteCatalog maintenanceInterval now
    (result,{ scheduler with jobs := scheduler.jobs.insert (.catalog target) schedule })

def activateOpen (scheduler : OriginEdfScheduler) (target : TermCampusKey)
    (intervals : OpenRefreshIntervals) (now : MonotonicTime) :
    Except SchedulerError Unit × OriginEdfScheduler :=
  scheduler.updateJob (.open target) (fun schedule => schedule.activateOpen intervals now)

def demoteOpen (scheduler : OriginEdfScheduler) (target : TermCampusKey)
    (intervals : OpenRefreshIntervals) (activeWatchCount : Nat) (now : MonotonicTime) :
    Except SchedulerError Unit × OriginEdfScheduler :=
  scheduler.updateJob (.open target)
    (fun schedule => schedule.demoteOpen intervals activeWatchCount now)

def setOpenWatchCount (scheduler : OriginEdfScheduler) (target : TermCampusKey)
    (intervals : OpenRefreshIntervals) (activeWatchCount : Nat) (now : MonotonicTime) :
    Except SchedulerError Unit × OriginEdfScheduler :=
  scheduler.updateJob (.open target)
    (fun schedule => schedule.setOpenWatchCount intervals activeWatchCount now)

/-- A request for the job that is already in flight is dropped. -/
def requestOpenDue (scheduler : OriginEdfScheduler) (target : TermCampusKey)
    (due : MonotonicTime) (lane : OriginSchedulerLane) :
    Except SchedulerError Unit × OriginEdfScheduler :=
  let key := OriginJobKey.open target
  scheduler.updateJob key (fun schedule =>
    if scheduler.inFlight.any (fun inFlight => inFlight.key=key) then schedule
    else schedule.requestDue due lane)

/-- The job that a manual retry makes due, with the circuit it leaves. -/
def manualRetryJob (scheduler : OriginEdfScheduler) (target : TermCampusKey)
    (now : MonotonicTime) : Option (OriginJobKey × OriginCircuit) :=
  if scheduler.inFlight.isSome then none
  else match scheduler.circuit with
    | .closed => some (.catalog target,.closed)
    | .retryAfter wait => if now<wait then none else some (.catalog target,.closed)
    | .fatalDiagnostic job _ _ =>
      if job.target=target then some (job,.fatalDiagnostic job now true) else none

def requestManualTargetRetry (scheduler : OriginEdfScheduler) (target : TermCampusKey)
    (now : MonotonicTime) :
    Except SchedulerError (Option OriginJobKind) × OriginEdfScheduler :=
  match scheduler.manualRetryJob target now with
  | none => (.ok none,scheduler)
  | some (key,circuit) =>
    match { scheduler with circuit := circuit }.updateJob key
        (fun schedule => schedule.manualRetry key.kind now) with
    | (.error error,scheduler) => (.error error,scheduler)
    | (.ok (),scheduler) => (.ok (some key.kind),scheduler)

def completeOpenBootstrap (scheduler : OriginEdfScheduler) (target : TermCampusKey)
    (completedAt : MonotonicTime) : Except SchedulerError Unit × OriginEdfScheduler :=
  scheduler.updateJob (.open target) (fun schedule => schedule.completeOpenBootstrap completedAt)

def adoptExternalOpenState (scheduler : OriginEdfScheduler) (target : TermCampusKey)
    (now nextDue : MonotonicTime) (failureStreak : Nat) :
    Except SchedulerError Unit × OriginEdfScheduler :=
  scheduler.updateJob (.open target)
    (fun schedule => schedule.adoptExternalOpenState now nextDue failureStreak)

/-- Iterator::min_by: the first of the minimal elements. -/
def minDueJob : List (OriginJobKey × JobSchedule) → Option (OriginJobKey × JobSchedule)
  | [] => none
  | job::jobs => some (jobs.foldl (fun least candidate =>
      if (compareDueJobs least candidate).isGT then candidate else least) job)

/-- The circuit check of start_next: nothing may start, or any job, or one probe.
An expired retry circuit is closed here, also when no job is due. -/
def diagnosticJob (scheduler : OriginEdfScheduler) (now : MonotonicTime) :
    Option (Option OriginJobKey) × OriginEdfScheduler :=
  match scheduler.circuit with
  | .closed => (some none,scheduler)
  | .retryAfter wait =>
    if wait ≤ now then (some none,{ scheduler with circuit := .closed }) else (none,scheduler)
  | .fatalDiagnostic job recheckAfter authorized =>
    if authorized && recheckAfter ≤ now then (some (some job),scheduler) else (none,scheduler)

/-- The job to dispatch. A probe has to be due but need not be active. -/
def dueJob (scheduler : OriginEdfScheduler) (diagnosticJob : Option OriginJobKey)
    (now : MonotonicTime) : Option (OriginJobKey × JobSchedule) :=
  match diagnosticJob with
  | some key =>
    match scheduler.jobs[key]? with
    | none => none
    | some schedule => if now<schedule.nextDue then none else some (key,schedule)
  | none => minDueJob (scheduler.jobs.toList.filter (fun entry =>
      entry.2.active && entry.2.nextDue ≤ now))

def startNext (scheduler : OriginEdfScheduler) (now : MonotonicTime) :
    Option OriginDispatch × OriginEdfScheduler :=
  if scheduler.inFlight.isSome then (none,scheduler)
  else match scheduler.diagnosticJob now with
    | (none,scheduler) => (none,scheduler)
    | (some diagnosticJob,scheduler) =>
      match scheduler.dueJob diagnosticJob now with
      | none => (none,scheduler)
      | some (key,schedule) =>
        let token := max (Contracts.saturatingAdd scheduler.nextToken 1) 1
        (some
          { token := token
            key := key
            lane := schedule.lane
            scheduledDue := schedule.nextDue
            startedAt := now
            schedulerLag := now.saturatingDurationSince schedule.nextDue
            actualStartToStartInterval := schedule.lastStart.map now.saturatingDurationSince
            requestedInterval := schedule.interval
            failureStreak := schedule.failureStreak
            firstLoadOneShot := key.kind=.open && schedule.oneShotPending && !schedule.recurring },
          { jobs := scheduler.jobs.insert key { schedule with lastStart := some now }
            inFlight := some ⟨token,key,schedule.nextDue,now,diagnosticJob.isSome⟩
            circuit := match diagnosticJob,scheduler.circuit with
              | some _,.fatalDiagnostic job recheckAfter _ =>
                .fatalDiagnostic job recheckAfter false
              | _,circuit => circuit
            nextToken := token })

/-- The same choice without reserving the job; the circuit stays as it is. -/
def nextDispatchHint (scheduler : OriginEdfScheduler) (now : MonotonicTime) :
    Option OriginDispatchHint :=
  if scheduler.inFlight.isSome then none
  else
    let diagnosticJob : Option (Option OriginJobKey) := match scheduler.circuit with
      | .closed => some none
      | .retryAfter wait => if wait ≤ now then some none else none
      | .fatalDiagnostic job recheckAfter authorized =>
        if authorized && recheckAfter ≤ now then some (some job) else none
    match diagnosticJob with
    | none => none
    | some diagnosticJob => (scheduler.dueJob diagnosticJob now).map (fun entry =>
        ⟨entry.1,entry.2.lane,entry.2.nextDue,entry.2.activeWatchCount,entry.2.generationPending,
          entry.2.failureStreak⟩)

/-- The in-flight record is put back when the token or the time is refused, and
lost when its job is not registered. -/
def finish (scheduler : OriginEdfScheduler) (token : Nat) (completedAt : MonotonicTime)
    (completion : CompletionSchedule) : Except SchedulerError Unit × OriginEdfScheduler :=
  match scheduler.inFlight with
  | none => (.error .invalidCompletionToken,scheduler)
  | some inFlight =>
    if inFlight.token≠token then (.error .invalidCompletionToken,scheduler)
    else if completedAt < inFlight.startedAt then (.error .completionBeforeStart,scheduler)
    else match scheduler.jobs[inFlight.key]? with
      | none => (.error .unknownJob,{ scheduler with inFlight := none })
      | some schedule =>
        let schedule := schedule.complete inFlight completedAt completion
        (.ok (),{ scheduler with
          jobs := scheduler.jobs.insert inFlight.key schedule
          inFlight := none
          circuit := completedCircuit scheduler.circuit inFlight schedule.nextDue completion })

def authorizeDiagnosticRecheck (scheduler : OriginEdfScheduler) (now : MonotonicTime) :
    Except SchedulerError Unit × OriginEdfScheduler :=
  match scheduler.circuit with
  | .fatalDiagnostic job recheckAfter _ =>
    if recheckAfter ≤ now then
      (.ok (),{ scheduler with circuit := .fatalDiagnostic job recheckAfter true })
    else (.error .diagnosticCooldownActive,scheduler)
  | _ => (.ok (),scheduler)

def isActive (scheduler : OriginEdfScheduler) (key : OriginJobKey) : Bool :=
  scheduler.jobs[key]?.any JobSchedule.active

end OriginEdfScheduler

/-- The mutating entry points of the scheduler. -/
inductive SchedulerOperation where
  | registerCatalog (target : TermCampusKey) (interval : Duration) (firstDue : MonotonicTime)
  | registerCatalogInitial (target : TermCampusKey) (interval : Duration)
      (activeWatchCount : Nat) (firstDue : MonotonicTime)
  | registerCatalogOneShot (target : TermCampusKey) (activeWatchCount : Nat)
      (firstDue : MonotonicTime)
  | registerOpen (target : TermCampusKey) (intervals : OpenRefreshIntervals)
      (activeWatchCount : Nat) (now firstDue : MonotonicTime)
  | registerOpenInitial (target : TermCampusKey) (intervals : OpenRefreshIntervals)
      (activeWatchCount : Nat) (now firstDue : MonotonicTime)
  | setCatalogWatchCount (target : TermCampusKey) (activeWatchCount : Nat)
  | activateCatalog (target : TermCampusKey) (interval : Duration) (now : MonotonicTime)
  | demoteCatalog (target : TermCampusKey) (maintenanceInterval : Option Duration)
      (now : MonotonicTime)
  | activateOpen (target : TermCampusKey) (intervals : OpenRefreshIntervals)
      (now : MonotonicTime)
  | demoteOpen (target : TermCampusKey) (intervals : OpenRefreshIntervals)
      (activeWatchCount : Nat) (now : MonotonicTime)
  | setOpenWatchCount (target : TermCampusKey) (intervals : OpenRefreshIntervals)
      (activeWatchCount : Nat) (now : MonotonicTime)
  | requestOpenDue (target : TermCampusKey) (due : MonotonicTime) (lane : OriginSchedulerLane)
  | requestManualTargetRetry (target : TermCampusKey) (now : MonotonicTime)
  | completeOpenBootstrap (target : TermCampusKey) (completedAt : MonotonicTime)
  | adoptExternalOpenState (target : TermCampusKey) (now nextDue : MonotonicTime)
      (failureStreak : Nat)
  | startNext (now : MonotonicTime)
  | finish (token : Nat) (completedAt : MonotonicTime) (completion : CompletionSchedule)
  | authorizeDiagnosticRecheck (now : MonotonicTime)

inductive SchedulerOutcome where
  | done (result : Except SchedulerError Unit)
  | retry (result : Except SchedulerError (Option OriginJobKind))
  | dispatch (dispatch : Option OriginDispatch)

def OriginEdfScheduler.step (scheduler : OriginEdfScheduler) :
    SchedulerOperation → SchedulerOutcome × OriginEdfScheduler
  | .registerCatalog target interval firstDue =>
    (scheduler.registerCatalog target interval firstDue).map .done id
  | .registerCatalogInitial target interval activeWatchCount firstDue =>
    (scheduler.registerCatalogInitial target interval activeWatchCount firstDue).map .done id
  | .registerCatalogOneShot target activeWatchCount firstDue =>
    (scheduler.registerCatalogOneShot target activeWatchCount firstDue).map .done id
  | .registerOpen target intervals activeWatchCount now firstDue =>
    (scheduler.registerOpen target intervals activeWatchCount now firstDue).map .done id
  | .registerOpenInitial target intervals activeWatchCount now firstDue =>
    (scheduler.registerOpenInitial target intervals activeWatchCount now firstDue).map .done id
  | .setCatalogWatchCount target activeWatchCount =>
    (scheduler.setCatalogWatchCount target activeWatchCount).map .done id
  | .activateCatalog target interval now =>
    (scheduler.activateCatalog target interval now).map .done id
  | .demoteCatalog target maintenanceInterval now =>
    (scheduler.demoteCatalog target maintenanceInterval now).map .done id
  | .activateOpen target intervals now =>
    (scheduler.activateOpen target intervals now).map .done id
  | .demoteOpen target intervals activeWatchCount now =>
    (scheduler.demoteOpen target intervals activeWatchCount now).map .done id
  | .setOpenWatchCount target intervals activeWatchCount now =>
    (scheduler.setOpenWatchCount target intervals activeWatchCount now).map .done id
  | .requestOpenDue target due lane =>
    (scheduler.requestOpenDue target due lane).map .done id
  | .requestManualTargetRetry target now =>
    (scheduler.requestManualTargetRetry target now).map .retry id
  | .completeOpenBootstrap target completedAt =>
    (scheduler.completeOpenBootstrap target completedAt).map .done id
  | .adoptExternalOpenState target now nextDue failureStreak =>
    (scheduler.adoptExternalOpenState target now nextDue failureStreak).map .done id
  | .startNext now => (scheduler.startNext now).map .dispatch id
  | .finish token completedAt completion =>
    (scheduler.finish token completedAt completion).map .done id
  | .authorizeDiagnosticRecheck now =>
    (scheduler.authorizeDiagnosticRecheck now).map .done id

end CoursePlanner.Open
