import CoursePlanner.Application.RefreshCoordinator

namespace CoursePlanner.Application

open Std Library Contracts Open

def refreshMaxConcurrency : Nat := 3

inductive RefreshRuntimeCommand where
  | register (target : TermCampusKey) (manualOneShot completeSnapshotReady : Bool)
  | reclassify (target : TermCampusKey) (manualOneShot : Bool)
  | activateOpen (target : TermCampusKey)
  | manualRetry (target : TermCampusKey) (generation : Nat)
  | releaseProductDemand (target : TermCampusKey)
  | removeTarget (target : TermCampusKey)
  deriving DecidableEq

/-- The workflow control is shared by reference and made anew for each registration.
Its number stands for the allocation. -/
structure TargetCoordinator where
  coordinator : SharedRefreshCoordinator
  control : Nat
  manualOneShot : Bool
  productDemandActive : Bool

/-- Instants of the runtime's own clock are nanoseconds. -/
structure ConcurrentOpenState where
  schedule : ConcurrentOpenSchedule
  nextDue : Nat
  inFlight : Bool
  control : Nat

/-- A task of the join set. A primary workflow owns its coordinator while it runs. -/
inductive Workflow where
  | primary (target : TermCampusKey) (kind : OriginJobKind) (entry : TargetCoordinator)
  | concurrentOpen (target : TermCampusKey)

/-- All that the finishing of a workflow asks of its outcome is whether it published
the candidate. -/
structure PendingPrimary where
  entry : TargetCoordinator
  published : Bool

inductive RefreshRuntimeRegistrationError where
  | unknownTarget
  deriving DecidableEq, Repr

/-- The handle's shared maps, the command channel and the supervisor's own state. A
retain call takes its targets from the handle first and sends the removals after it
has let go of the lock: `removals` are those still to be sent. -/
structure RefreshRuntime where
  registeredTargets : ExtTreeSet TermCampusKey
  registeredTargetModes : ExtTreeMap TermCampusKey Bool
  activeOpenTargets : ExtTreeSet TermCampusKey
  manualRetryGenerations : ExtTreeMap TermCampusKey Nat
  removals : List TermCampusKey
  commands : List RefreshRuntimeCommand
  targetCoordinators : ExtTreeMap TermCampusKey TargetCoordinator
  desiredProductDemand : ExtTreeSet TermCampusKey
  removedTargets : ExtTreeSet TermCampusKey
  running : List Workflow
  concurrentOpen : ExtTreeMap TermCampusKey ConcurrentOpenState
  pendingPrimary : ExtTreeMap TermCampusKey PendingPrimary
  pendingReclassifications : ExtTreeMap TermCampusKey Bool
  originPause : Option Nat
  allocated : Nat

/-- What an action of the supervisor reads around it. -/
structure Moment where
  reading : Reading
  instant : Nat

namespace SharedRefreshCoordinator

def originRetryAfterRemaining (coordinator : SharedRefreshCoordinator) (reading : Reading) :
    Option Duration :=
  match coordinator.scheduler.circuit with
  | .retryAfter «until» =>
    if reading.now < «until» then some («until».saturatingDurationSince reading.now) else none
  | _ => none

/-- run_next ended with an applied publication of the candidate. -/
def publishes (coordinator : SharedRefreshCoordinator) (reading : Reading)
    (execution : Execution) : Bool :=
  match (coordinator.runNext reading execution).1,
    ((coordinator.refreshRegisteredPolicy reading).2.scheduler.startNext reading.now).1,
    execution.catalog with
  | .ok true,some dispatch,.published _ => dispatch.key.kind=.catalog
  | _,_,_ => false

end SharedRefreshCoordinator

/-- A coordinator call whose error is only logged. -/
def TargetCoordinator.update {A : Type} (entry : TargetCoordinator)
    (call : SharedRefreshCoordinator → Except CoordinatorError A × SharedRefreshCoordinator) :
    TargetCoordinator :=
  {entry with coordinator := (call entry.coordinator).2}

def succeeded {A : Type} : Except CoordinatorError A → Bool
  | .ok _ => true
  | .error _ => false

namespace TargetCoordinator

def activateOpen (entry : TargetCoordinator) (reading : Reading) (target : TermCampusKey) :
    TargetCoordinator :=
  if entry.productDemandActive then entry
  else
    let result := entry.coordinator.activateOpenTarget reading target
    {entry with
      coordinator := result.2
      productDemandActive := succeeded result.1}

def releaseProductDemand (entry : TargetCoordinator) (reading : Reading)
    (target : TermCampusKey) : TargetCoordinator :=
  if entry.productDemandActive then
    let result := entry.coordinator.releaseProductDemandTarget reading target
    {entry with
      coordinator := result.2
      productDemandActive := !succeeded result.1}
  else entry

def reconcileProductDemand (entry : TargetCoordinator) (reading : Reading)
    (target : TermCampusKey) (desired : Bool) : TargetCoordinator :=
  if desired then entry.activateOpen reading target else entry.releaseProductDemand reading target

def reconcileManualMode (entry : TargetCoordinator) (reading : Reading) (target : TermCampusKey)
    (manualOneShot : Bool) : TargetCoordinator :=
  if manualOneShot=entry.manualOneShot then entry
  else
    let result := entry.coordinator.setManualOneShotMode reading target manualOneShot
    {entry with
      coordinator := result.2
      manualOneShot := if succeeded result.1 then manualOneShot else entry.manualOneShot}

end TargetCoordinator

def extendOriginPause (pause : Option Nat) (instant : Nat) (delay : Duration) : Option Nat :=
  let «until» := instant+delay.nanos
  if pause.all (fun current => current < «until») then some «until» else pause

namespace RefreshRuntime

/-- What every registration starts with, also the first ones: an empty coordinator
under a control of its own. -/
def newCoordinator (control : Nat) (reading : Reading) (target : TermCampusKey)
    (manualOneShot completeSnapshotReady : Bool) : Except CoordinatorError TargetCoordinator :=
  let result := SharedRefreshCoordinator.new.registerTargetWithSnapshotState reading target
    manualOneShot completeSnapshotReady
  result.1.map (fun _ => ⟨result.2,control,manualOneShot,false⟩)

/-- A target that is idle is not registered again. A failed registration is logged. -/
def register (runtime : RefreshRuntime) (reading : Reading) (target : TermCampusKey)
    (manualOneShot completeSnapshotReady : Bool) : RefreshRuntime :=
  if target∈runtime.targetCoordinators then runtime
  else match newCoordinator runtime.allocated reading target manualOneShot completeSnapshotReady with
    | .error _ => {runtime with allocated := runtime.allocated+1}
    | .ok entry =>
      let productDemandActive := runtime.desiredProductDemand.contains target
      let entry := if productDemandActive then
          entry.update (fun coordinator => coordinator.activateOpenTarget reading target)
        else entry
      {runtime with
        allocated := runtime.allocated+1
        targetCoordinators := runtime.targetCoordinators.insert target
          {entry with productDemandActive := productDemandActive}}

/-- Apply a change to the coordinator of a target, if it is idle. -/
def withIdle (runtime : RefreshRuntime) (target : TermCampusKey)
    (change : TargetCoordinator → TargetCoordinator) : RefreshRuntime :=
  match runtime.targetCoordinators[target]? with
  | none => runtime
  | some entry =>
    {runtime with targetCoordinators := runtime.targetCoordinators.insert target (change entry)}

def reclassify (runtime : RefreshRuntime) (reading : Reading) (target : TermCampusKey)
    (manualOneShot : Bool) : RefreshRuntime :=
  if target∈runtime.targetCoordinators then
    runtime.withIdle target (fun entry => entry.reconcileManualMode reading target manualOneShot)
  else {runtime with
    pendingReclassifications := runtime.pendingReclassifications.insert target manualOneShot}

/-- The mark of a removal is kept by target until a workflow of it completes. -/
def removeTarget (runtime : RefreshRuntime) (target : TermCampusKey) : RefreshRuntime :=
  let runtime := {runtime with
    desiredProductDemand := runtime.desiredProductDemand.erase target
    pendingReclassifications := runtime.pendingReclassifications.erase target}
  if target∈runtime.targetCoordinators then
    {runtime with targetCoordinators := runtime.targetCoordinators.erase target}
  else {runtime with removedTargets := runtime.removedTargets.insert target}

def command (runtime : RefreshRuntime) (reading : Reading) :
    RefreshRuntimeCommand → RefreshRuntime
  | .register target manualOneShot completeSnapshotReady =>
    runtime.register reading target manualOneShot completeSnapshotReady
  | .reclassify target manualOneShot => runtime.reclassify reading target manualOneShot
  | .activateOpen target =>
    {runtime with desiredProductDemand := runtime.desiredProductDemand.insert target}.withIdle target
      (fun entry => entry.activateOpen reading target)
  | .manualRetry target _ => runtime.withIdle target (fun entry =>
      entry.update (fun coordinator => coordinator.requestManualTargetRetry reading target))
  | .releaseProductDemand target =>
    {runtime with desiredProductDemand := runtime.desiredProductDemand.erase target}.withIdle target
      (fun entry => entry.releaseProductDemand reading target)
  | .removeTarget target => runtime.removeTarget target

/-- command_receiver.recv(). -/
def receive (runtime : RefreshRuntime) (reading : Reading) : RefreshRuntime :=
  match runtime.commands with
  | [] => runtime
  | command::commands => {runtime with commands := commands}.command reading command

/-- The schedule of a concurrent Open goes back to a coordinator that did not publish. -/
def adoptConcurrentOpen (entry : TargetCoordinator) (moment : Moment) (target : TermCampusKey)
    (published : Bool) (concurrent : Option ConcurrentOpenState) : TargetCoordinator :=
  match concurrent with
  | none => entry
  | some state =>
    if published then entry
    else entry.update (fun coordinator => coordinator.adoptConcurrentOpenSchedule moment.reading
      target {state.schedule with nextDueAfter := ⟨state.nextDue-moment.instant⟩})

def finishPrimaryWorkflow (runtime : RefreshRuntime) (moment : Moment) (target : TermCampusKey)
    (entry : TargetCoordinator) (published : Bool) (concurrent : Option ConcurrentOpenState) :
    RefreshRuntime :=
  let entry := adoptConcurrentOpen entry moment target published concurrent
  let runtime := {runtime with
    originPause := match entry.coordinator.originRetryAfterRemaining moment.reading with
      | none => runtime.originPause
      | some delay => extendOriginPause runtime.originPause moment.instant delay}
  if target∈runtime.removedTargets then
    {runtime with
      removedTargets := runtime.removedTargets.erase target
      pendingReclassifications := runtime.pendingReclassifications.erase target}
  else
    let entry := match runtime.pendingReclassifications[target]? with
      | none => entry
      | some manualOneShot => entry.reconcileManualMode moment.reading target manualOneShot
    {runtime with
      pendingReclassifications := runtime.pendingReclassifications.erase target
      targetCoordinators := runtime.targetCoordinators.insert target
        (entry.reconcileProductDemand moment.reading target
          (runtime.desiredProductDemand.contains target))}

def completePrimary (runtime : RefreshRuntime) (moment : Moment) (target : TermCampusKey)
    (kind : OriginJobKind) (entry : TargetCoordinator) (published : Bool) : RefreshRuntime :=
  if kind=.catalog ∧ (runtime.concurrentOpen[target]?.any ConcurrentOpenState.inFlight)=true then
    {runtime with pendingPrimary := runtime.pendingPrimary.insert target ⟨entry,published⟩}
  else if kind=.catalog then
    {runtime with concurrentOpen := runtime.concurrentOpen.erase target}.finishPrimaryWorkflow moment
      target entry published runtime.concurrentOpen[target]?
  else runtime.finishPrimaryWorkflow moment target entry published none

/-- How a concurrent Open pull ended. The directive of an error is the transient one
of the target's retry table. -/
inductive ConcurrentOpenEnd where
  | executed (completion : CompletionSchedule)
  | skipped
  | error (fallback : RetryDirective)

/-- The state that a directive leaves, and the pause it asks for. -/
def retryConcurrentOpen (state : ConcurrentOpenState) (instant : Nat) (pause : Option Nat)
    (directive : RetryDirective) : ConcurrentOpenState × Option Nat :=
  ({state with
      schedule := {state.schedule with
        failureStreak := directive.nextFailureStreak
        nextDueAfter := directive.delay}
      nextDue := instant+directive.delay.nanos},
    if directive.mode=.originCircuit then extendOriginPause pause instant directive.delay
    else pause)

def updateConcurrentOpenState (state : ConcurrentOpenState) (instant : Nat)
    (pause : Option Nat) : ConcurrentOpenEnd → ConcurrentOpenState × Option Nat
  | .executed .success =>
    ({state with
      schedule := {state.schedule with
        failureStreak := 0
        nextDueAfter := state.schedule.interval}
      nextDue := instant+state.schedule.interval.nanos},pause)
  | .executed .catalogRace =>
    ({state with
      schedule := {state.schedule with nextDueAfter := ⟨0⟩}
      nextDue := instant},pause)
  | .executed (.retry directive) => retryConcurrentOpen state instant pause directive
  | .skipped => (state,pause)
  | .error fallback => retryConcurrentOpen state instant pause fallback

def recordConcurrentOpen (runtime : RefreshRuntime) (moment : Moment) (target : TermCampusKey)
    (result : ConcurrentOpenEnd) : RefreshRuntime :=
  match runtime.concurrentOpen[target]? with
  | none => runtime
  | some state =>
    let updated := updateConcurrentOpenState {state with inFlight := false} moment.instant
      runtime.originPause result
    {runtime with
      concurrentOpen := runtime.concurrentOpen.insert target updated.1
      originPause := updated.2}

def completeConcurrentOpen (runtime : RefreshRuntime) (moment : Moment) (target : TermCampusKey)
    (result : ConcurrentOpenEnd) : RefreshRuntime :=
  let runtime := runtime.recordConcurrentOpen moment target result
  match runtime.pendingPrimary[target]? with
  | none => runtime
  | some pending =>
    {runtime with
      pendingPrimary := runtime.pendingPrimary.erase target
      concurrentOpen := runtime.concurrentOpen.erase target}.finishPrimaryWorkflow moment target
        pending.entry pending.published runtime.concurrentOpen[target]?

/-- What a task meets while it runs. -/
structure WorkflowRun where
  reading : Reading
  execution : Execution
  concurrent : ConcurrentOpenEnd

/-- running.join_next(): the task at some place of the set has ended. -/
def complete (runtime : RefreshRuntime) (position : Nat) (moment : Moment) (ran : WorkflowRun) :
    RefreshRuntime :=
  match runtime.running[position]? with
  | none => runtime
  | some workflow =>
    let runtime := {runtime with running := runtime.running.eraseIdx position}
    match workflow with
    | .primary target kind entry =>
      runtime.completePrimary moment target kind
        (entry.update (fun coordinator => coordinator.runNext ran.reading ran.execution))
        (entry.coordinator.publishes ran.reading ran.execution)
    | .concurrentOpen target => runtime.completeConcurrentOpen moment target ran.concurrent

/-- What one round of the selection loop reads. `permit` is the answer of the shared
network budget, `parallel` the phases of the workflow controls. -/
structure TickRound where
  reading : Reading
  instant : Nat
  termWindow : Option (TermId × TermId)
  permit : Bool
  parallel : Nat → Bool

def minimumBy {A : Type} (cmp : A → A → Ordering) (l : List A) : Option A :=
  l.foldl (fun best a =>
    match best with
    | none => some a
    | some least => if cmp a least=.lt then some a else some least) none

def campusRank (target : TermCampusKey) : Nat :=
  if target.campus.value.toLower="nb" then 0 else 1

def parallelOpenTarget (runtime : RefreshRuntime) (round : TickRound) : Option TermCampusKey :=
  (minimumBy (compareLex (compareOn (fun candidate => campusRank candidate.1))
      (compareLex (compareOn (fun candidate => candidate.2.nextDue))
        (compareOn (fun candidate => candidate.1))))
    (runtime.concurrentOpen.toList.filter (fun candidate =>
      !candidate.2.inFlight && candidate.2.nextDue ≤ round.instant &&
        round.parallel candidate.2.control))).map Prod.fst

inductive GlobalWorkflowClass where
  | activeWatchOpen
  | manualCompleteSnapshot
  | appliedOpen
  | currentInitialSnapshot
  | nextInitialSnapshot
  | appliedCatalog
  | lowFrequencyMaintenance
  deriving DecidableEq, Repr

structure WorkflowPriority where
  workflowClass : GlobalWorkflowClass
  campus : Nat
  scheduledDue : MonotonicTime
  target : TermCampusKey

def globalWorkflowClass (target : TermCampusKey) (hint : OriginDispatchHint)
    (manualOneShot productDemandActive : Bool) (termWindow : Option (TermId × TermId)) :
    GlobalWorkflowClass :=
  if hint.key.kind=.open ∧ (0 < hint.activeWatchCount ∨ hint.lane=.openActiveWatch) then
    .activeWatchOpen
  else if manualOneShot ∧ hint.key.kind=.catalog ∧ hint.generationPending then
    .manualCompleteSnapshot
  else if productDemandActive ∧ hint.key.kind=.open then .appliedOpen
  else if hint.key.kind=.catalog ∧ hint.generationPending ∧
      termWindow.any (fun window => target.term=window.1) then .currentInitialSnapshot
  else if hint.key.kind=.catalog ∧ hint.generationPending ∧
      termWindow.any (fun window => target.term=window.2) then .nextInitialSnapshot
  else if productDemandActive ∧ hint.key.kind=.catalog then .appliedCatalog
  else .lowFrequencyMaintenance

def globalWorkflowPriority (target : TermCampusKey) (hint : OriginDispatchHint)
    (manualOneShot productDemandActive : Bool) (termWindow : Option (TermId × TermId)) :
    WorkflowPriority :=
  ⟨globalWorkflowClass target hint manualOneShot productDemandActive termWindow,campusRank target,
    hint.scheduledDue,target⟩

/-- The order derived for the source's tuple. -/
def comparePriority : WorkflowPriority → WorkflowPriority → Ordering :=
  compareLex (compareOn (fun priority => priority.workflowClass.ctorIdx))
    (compareLex (compareOn WorkflowPriority.campus)
      (compareLex (compareOn (fun priority => priority.scheduledDue.millis))
        (compareOn WorkflowPriority.target)))

/-- Asking a coordinator for its next dispatch brings its schedule up to date. -/
def askHints (runtime : RefreshRuntime) (reading : Reading) : RefreshRuntime :=
  {runtime with targetCoordinators := runtime.targetCoordinators.map (fun _ entry =>
    entry.update (fun coordinator => coordinator.nextDispatchHint reading))}

/-- The hint of each idle coordinator. One that fails to answer is passed over. -/
def selectPrimary (runtime : RefreshRuntime) (round : TickRound) :
    Option (TermCampusKey × OriginJobKind) :=
  (minimumBy (fun a b => comparePriority a.2 b.2)
    (runtime.targetCoordinators.toList.filterMap (fun (target,entry) =>
      match (entry.coordinator.nextDispatchHint round.reading).1 with
      | .ok (some hint) => some (hint.key.kind,globalWorkflowPriority target hint
          entry.manualOneShot entry.productDemandActive round.termWindow)
      | _ => none))).map (fun selected => (selected.2.target,selected.1))

/-- A Catalog workflow leaves the Open schedule of its target to the supervisor. -/
def startPrimary (runtime : RefreshRuntime) (round : TickRound) (target : TermCampusKey)
    (kind : OriginJobKind) (entry : TargetCoordinator) : RefreshRuntime :=
  let runtime := {runtime with targetCoordinators := runtime.targetCoordinators.erase target}
  if kind=.catalog then
    let answer := entry.coordinator.concurrentOpenSchedule round.reading target
    {runtime with
      concurrentOpen := match answer.1 with
        | .ok (some schedule) => runtime.concurrentOpen.insert target
            ⟨schedule,round.instant+schedule.nextDueAfter.nanos,false,entry.control⟩
        | _ => runtime.concurrentOpen
      running := runtime.running++[.primary target kind {entry with coordinator := answer.2}]}
  else {runtime with running := runtime.running++[.primary target kind entry]}

/-- The selection loop. Every round that goes on adds one task, so the free places of
the join set bound the rounds. -/
def selectWorkflows : Nat → (Nat → TickRound) → RefreshRuntime → RefreshRuntime
  | 0,_,runtime => runtime
  | places+1,rounds,runtime =>
    let round := rounds places
    match runtime.parallelOpenTarget round with
    | some target =>
      if round.permit then
        selectWorkflows places rounds {runtime with
          concurrentOpen := match runtime.concurrentOpen[target]? with
            | none => runtime.concurrentOpen
            | some state => runtime.concurrentOpen.insert target {state with inFlight := true}
          running := runtime.running++[.concurrentOpen target]}
      else runtime
    | none =>
      let selected := runtime.selectPrimary round
      let runtime := runtime.askHints round.reading
      match selected with
      | none => runtime
      | some (target,kind) =>
        if round.permit then
          match runtime.targetCoordinators[target]? with
          | none => runtime
          | some entry =>
            selectWorkflows places rounds (runtime.startPrimary round target kind entry)
        else runtime

/-- interval.tick(). -/
def tick (runtime : RefreshRuntime) (instant : Nat) (rounds : Nat → TickRound) : RefreshRuntime :=
  let runtime := {runtime with originPause := runtime.originPause.filter (fun «until» =>
    instant < «until»)}
  if runtime.originPause.isSome then runtime
  else selectWorkflows (refreshMaxConcurrency-runtime.running.length) rounds runtime

def send (runtime : RefreshRuntime) (command : RefreshRuntimeCommand) : RefreshRuntime :=
  {runtime with commands := runtime.commands++[command]}

/-- The lock on the registered targets is held until the command is sent. -/
def registerTargetWithSnapshotState (runtime : RefreshRuntime) (target : TermCampusKey)
    (manualOneShot completeSnapshotReady : Bool) : Bool × RefreshRuntime :=
  let previous := runtime.registeredTargetModes[target]?
  let modes := runtime.registeredTargetModes.insert target manualOneShot
  if target∈runtime.registeredTargets then
    if previous=some manualOneShot then (false,{runtime with registeredTargetModes := modes})
    else (false,{runtime with registeredTargetModes := modes}.send (.reclassify target manualOneShot))
  else
    (true,{runtime with
      registeredTargets := runtime.registeredTargets.insert target
      registeredTargetModes := modes}.send (.register target manualOneShot completeSnapshotReady))

def activateOpen (runtime : RefreshRuntime) (target : TermCampusKey) :
    Except RefreshRuntimeRegistrationError Bool × RefreshRuntime :=
  if target∉runtime.registeredTargets then (.error .unknownTarget,runtime)
  else if target∈runtime.activeOpenTargets then (.ok false,runtime)
  else
    (.ok true,{runtime with
      activeOpenTargets := runtime.activeOpenTargets.insert target}.send (.activateOpen target))

def requestManualTargetRetry (runtime : RefreshRuntime) (target : TermCampusKey)
    (generation : Nat) : Except RefreshRuntimeRegistrationError Bool × RefreshRuntime :=
  if target∉runtime.registeredTargets then (.error .unknownTarget,runtime)
  else if runtime.manualRetryGenerations[target]?.any (fun previous => generation ≤ previous) then
    (.ok false,runtime)
  else
    (.ok true,{runtime with
      manualRetryGenerations := runtime.manualRetryGenerations.insert target generation}.send
        (.manualRetry target generation))

def releaseProductDemandTarget (runtime : RefreshRuntime) (target : TermCampusKey) :
    RefreshRuntime :=
  {runtime with activeOpenTargets := runtime.activeOpenTargets.erase target}.send
    (.releaseProductDemand target)

def syncProductDemand (runtime : RefreshRuntime) (demanded : ExtTreeSet TermCampusKey) :
    RefreshRuntime :=
  let released := runtime.activeOpenTargets.toList.filter (fun target => !demanded.contains target)
  let requested := demanded.toList.filter runtime.registeredTargets.contains
  requested.foldl (fun runtime target => (runtime.activateOpen target).2)
    (released.foldl releaseProductDemandTarget runtime)

/-- The first part of retain_registered_targets: the targets are taken from the maps. -/
def retainRegisteredTargets (runtime : RefreshRuntime) (retained : ExtTreeSet TermCampusKey) :
    RefreshRuntime :=
  let removals := runtime.registeredTargets.toList.filter (fun target => !retained.contains target)
  {runtime with
    registeredTargets := runtime.registeredTargets.filter retained.contains
    registeredTargetModes := runtime.registeredTargetModes.filter (fun target _ =>
      !removals.contains target)
    activeOpenTargets := runtime.activeOpenTargets.filter (fun target => !removals.contains target)
    removals := runtime.removals++removals}

/-- Its second part, one send at a time. -/
def sendRemoval (runtime : RefreshRuntime) (target : TermCampusKey) : RefreshRuntime :=
  if target∈runtime.removals then
    {runtime with removals := runtime.removals.erase target}.send (.removeTarget target)
  else runtime

/-- The runtime as spawn leaves it. The first targets are registered before the
supervisor starts, and one that fails ends the spawn. -/
def spawn (targets manualTargets completeSnapshotTargets : ExtTreeSet TermCampusKey)
    (reading : Reading) : Except CoordinatorError RefreshRuntime := do
  let coordinators ← targets.toList.zipIdx.mapM (fun (target,control) => do
    let entry ← newCoordinator control reading target (manualTargets.contains target)
      (completeSnapshotTargets.contains target)
    pure (target,entry))
  pure {
    registeredTargets := targets
    registeredTargetModes := tabulate targets manualTargets.contains
    activeOpenTargets := ∅
    manualRetryGenerations := ∅
    removals := []
    commands := []
    targetCoordinators := .ofList coordinators
    desiredProductDemand := ∅
    removedTargets := ∅
    running := []
    concurrentOpen := ∅
    pendingPrimary := ∅
    pendingReclassifications := ∅
    originPause := none
    allocated := targets.size}

end RefreshRuntime

/-- Calls of the handle, and what the supervisor's select can take up. -/
inductive RuntimeEvent where
  | register (target : TermCampusKey) (manualOneShot completeSnapshotReady : Bool)
  | activateOpen (target : TermCampusKey)
  | requestManualTargetRetry (target : TermCampusKey) (generation : Nat)
  | syncProductDemand (demanded : ExtTreeSet TermCampusKey)
  | retainRegisteredTargets (retained : ExtTreeSet TermCampusKey)
  | sendRemoval (target : TermCampusKey)
  | receive (reading : Reading)
  | complete (position : Nat) (moment : Moment) (ran : RefreshRuntime.WorkflowRun)
  | tick (instant : Nat) (rounds : Nat → RefreshRuntime.TickRound)

def RefreshRuntime.step (runtime : RefreshRuntime) : RuntimeEvent → Unit × RefreshRuntime
  | .register target manualOneShot completeSnapshotReady => ((),
      (runtime.registerTargetWithSnapshotState target manualOneShot completeSnapshotReady).2)
  | .activateOpen target => ((),(runtime.activateOpen target).2)
  | .requestManualTargetRetry target generation =>
    ((),(runtime.requestManualTargetRetry target generation).2)
  | .syncProductDemand demanded => ((),runtime.syncProductDemand demanded)
  | .retainRegisteredTargets retained => ((),runtime.retainRegisteredTargets retained)
  | .sendRemoval target => ((),runtime.sendRemoval target)
  | .receive reading => ((),runtime.receive reading)
  | .complete position moment ran => ((),runtime.complete position moment ran)
  | .tick instant rounds => ((),runtime.tick instant rounds)

end CoursePlanner.Application
