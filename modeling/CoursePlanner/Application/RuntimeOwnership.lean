import CoursePlanner.Application.RefreshRuntime
import CoursePlanner.Library.Checked
import CoursePlanner.Open.Moves

set_option maxRecDepth 8000

namespace CoursePlanner.Application

open Std Library Contracts Open RefreshRuntimeCommand

namespace SharedRefreshCoordinator

theorem registerCatalogJob_ok (co : SharedRefreshCoordinator) (reading : Reading)
    (target : TermCampusKey) (mos ready : Bool) :
    (co.registerCatalogJob reading target mos ready).1=.ok () := by
  unfold registerCatalogJob
  split
  · simp only [OriginEdfScheduler.registerCatalog]
    rfl
  split
  · simp only [OriginEdfScheduler.registerCatalogOneShot]
    rfl
  · simp only [OriginEdfScheduler.registerCatalogInitial]
    rfl

theorem registerTargetWithSnapshotState_ok {reading : Reading} (readable : reading.policy.isSome)
    (co : SharedRefreshCoordinator) (target : TermCampusKey)
    (mos ready : Bool) :
    (co.registerTargetWithSnapshotState reading target mos ready).1=.ok () := by
  obtain ⟨policy,readable⟩ := Option.isSome_iff_exists.mp readable
  unfold registerTargetWithSnapshotState
  split
  · rfl
  rw [readable]
  dsimp only
  rw [attempt_ok (registerCatalogJob_ok co reading target mos ready)]
  simp only [schedule,registerOpenInitial_eq _ _ _ _ _ _ _ rfl]
  cases ready with
  | false => rfl
  | true =>
    simp [attempt,Except.mapError,OriginEdfScheduler.completeOpenBootstrap,
      OriginEdfScheduler.updateJob]

end SharedRefreshCoordinator

/-- The control of the coordinator that a task owns for a target. -/
def Workflow.owns (target : TermCampusKey) : Workflow → Option Nat
  | .primary owner _ entry => if owner=target then some entry.control else none
  | .concurrentOpen _ => none

namespace TargetCoordinator

variable (en : TargetCoordinator) (reading : Reading) (target : TermCampusKey)

@[simp] theorem update_control {A : Type}
    (call : SharedRefreshCoordinator → Except CoordinatorError A × SharedRefreshCoordinator) :
    (en.update call).control=en.control := rfl

@[simp] theorem activateOpen_control : (en.activateOpen reading target).control=en.control := by
  unfold activateOpen
  split <;> rfl

@[simp] theorem releaseProductDemand_control :
    (en.releaseProductDemand reading target).control=en.control := by
  unfold releaseProductDemand
  split <;> rfl

@[simp] theorem reconcileProductDemand_control (desired : Bool) :
    (en.reconcileProductDemand reading target desired).control=en.control := by
  unfold reconcileProductDemand
  split <;> simp

@[simp] theorem reconcileManualMode_control (mos : Bool) :
    (en.reconcileManualMode reading target mos).control=en.control := by
  unfold reconcileManualMode
  split <;> rfl

end TargetCoordinator

@[simp] theorem RefreshRuntime.adoptConcurrentOpen_control (en : TargetCoordinator)
    (moment : Moment) (target : TermCampusKey) (pub : Bool)
    (concurrent : Option ConcurrentOpenState) :
    (adoptConcurrentOpen en moment target pub concurrent).control=en.control := by
  unfold adoptConcurrentOpen
  split
  · rfl
  · split <;> rfl

/-- The supervisor's part of the state, as far as coordinators are owned by it. -/
structure Holdings where
  idle : Option Nat
  tasks : List Nat
  pending : Option Nat
  removed : Bool
  deriving DecidableEq

namespace Holdings

def inFlight (holdings : Holdings) : List Nat := holdings.tasks++holdings.pending.toList

def owners (holdings : Holdings) : List Nat := holdings.idle.toList++holdings.inFlight

/-- What the supervisor holds for a target that it counts as present, or as absent. A
target removed while its workflow ran is absent with a mark on it. -/
inductive Tracks (latest : Option Nat) (holdings : Holdings) : Bool → Prop
  | absent (free : holdings.owners=[]) (unmarked : holdings.removed=false) : Tracks latest holdings false
  | leaving (control : Nat) (gone : holdings.idle=none) (last : holdings.inFlight=[control])
      (marked : holdings.removed=true) : Tracks latest holdings false
  | present (control : Nat) (single : holdings.owners=[control]) (unmarked : holdings.removed=false)
      (newest : latest=some control) : Tracks latest holdings true

variable {holdings : Holdings} {latest : Option Nat} {status : Bool}

theorem Tracks.owners_le (h : holdings.Tracks latest status) : holdings.owners.length ≤ 1 := by
  cases h with
  | absent free => simp [free]
  | leaving control gone last => simp [owners,gone,last]
  | present control single => simp [single]

theorem inFlight_le_owners (holdings : Holdings) :
    holdings.inFlight.length ≤ holdings.owners.length := by
  simp [owners]

/-- What a task or a pending workflow can leave when it ends: the mark takes the
coordinator, or it is idle again. -/
def finished (holdings : Holdings) (control : Nat) : Holdings :=
  if holdings.removed then {holdings with removed := false}
  else {holdings with idle := some control}

variable {bef : Holdings} {control : Nat}

theorem Tracks.only {left : Holdings} (h : bef.Tracks latest status)
    (ended : bef.inFlight.Perm (control::left.inFlight)) :
    left.inFlight=[] ∧ bef.inFlight=[control] ∧ bef.idle=none := by
  have busy : bef.inFlight.length=left.inFlight.length+1 := by simpa using ended.length_eq
  have count := h.owners_le
  have small := bef.inFlight_le_owners
  have empty : left.inFlight=[] := List.length_eq_zero_iff.mp (by omega)
  rw [empty] at ended
  have only : bef.inFlight=[control] := List.perm_singleton.mp ended
  refine ⟨empty,only,?_⟩
  cases held : bef.idle with
  | none => rfl
  | some other => simp [owners,held,only] at count

theorem Tracks.perm {after : Holdings} (h : bef.Tracks latest status)
    (idle : after.idle=bef.idle) (removed : after.removed=bef.removed)
    (flight : after.inFlight.Perm bef.inFlight) : after.Tracks latest status := by
  have owners : after.owners.Perm bef.owners := by
    unfold Holdings.owners
    rw [idle]
    exact flight.append_left _
  cases h with
  | absent free unmarked =>
    rw [free] at owners
    exact .absent (List.perm_nil.mp owners) (removed.trans unmarked)
  | leaving control gone last marked =>
    rw [last] at flight
    exact .leaving control (idle.trans gone) (List.perm_singleton.mp flight) (removed.trans marked)
  | present control single unmarked newest =>
    rw [single] at owners
    exact .present control (List.perm_singleton.mp owners) (removed.trans unmarked) newest

/-- A workflow that ends and is finished leaves the target as present or absent as it was. -/
theorem Tracks.finished {left : Holdings} (h : bef.Tracks latest status)
    (idle : left.idle=bef.idle) (removed : left.removed=bef.removed)
    (ended : bef.inFlight.Perm (control::left.inFlight)) :
    (left.finished control).Tracks latest status := by
  obtain ⟨empty,only,gone⟩ := h.only ended
  have rest : left.tasks++left.pending.toList=[] := empty
  cases h with
  | absent free => simp [owners,only] at free
  | leaving other _ last marked =>
    apply Tracks.absent
    · simp [Holdings.finished,removed,marked,owners,inFlight,idle,gone,rest]
    · simp [Holdings.finished,removed,marked]
  | present other single unmarked newest =>
    have same : control=other := by simpa [owners,gone,only] using single
    apply Tracks.present other
    · simp [Holdings.finished,removed,unmarked,owners,inFlight,rest,same]
    · simp [Holdings.finished,removed,unmarked]
    · exact newest

theorem Tracks.started (h : bef.Tracks latest status) (idle : bef.idle=some control) :
    {bef with idle := none,tasks := bef.tasks++[control]}.Tracks latest status := by
  cases h with
  | absent free => simp [owners,idle] at free
  | leaving other gone => simp [idle] at gone
  | present other single unmarked newest =>
    obtain ⟨same,empty⟩ : control=other ∧ bef.inFlight=[] := by
      simpa [owners,idle] using single
    have rest : bef.tasks++bef.pending.toList=[] := empty
    obtain ⟨tasks,pending⟩ := List.append_eq_nil_iff.mp rest
    refine Tracks.present other ?_ unmarked newest
    simp [owners,inFlight,tasks,pending,same]

/-- What a removal leaves: it takes the idle coordinator, or marks the workflow that has it. -/
def dropped (holdings : Holdings) : Holdings :=
  match holdings.idle with
  | some _ => {holdings with idle := none}
  | none => {holdings with removed := true}

theorem Tracks.dropped {next : Option Nat} (h : holdings.Tracks latest true) :
    holdings.dropped.Tracks next false := by
  cases h with
  | present control single unmarked newest =>
    unfold Holdings.dropped
    cases idle : holdings.idle with
    | none =>
      have last : holdings.inFlight=[control] := by simpa [owners,idle] using single
      exact .leaving control rfl last rfl
    | some held =>
      have empty : holdings.inFlight=[] := by
        have cons : held::holdings.inFlight=[control] := by simpa [owners,idle] using single
        exact (List.cons.inj cons).2
      have rest : holdings.tasks++holdings.pending.toList=[] := empty
      refine .absent ?_ unmarked
      simp [owners,inFlight,rest]

/-- What a registration leaves for a target with no workflow left. -/
theorem Tracks.registered (h : holdings.Tracks latest false) (free : holdings.inFlight=[])
    (control : Nat) :
    holdings.idle=none ∧ {holdings with idle := some control}.Tracks (some control) true := by
  have rest : holdings.tasks++holdings.pending.toList=[] := free
  cases h with
  | absent empty unmarked =>
    have gone : holdings.idle=none := by simpa [owners,free] using empty
    refine ⟨gone,.present control ?_ unmarked rfl⟩
    simp [owners,inFlight,rest]
  | leaving other _ last => simp [free] at last

end Holdings

namespace RefreshRuntime

def holdings (runtime : RefreshRuntime) (target : TermCampusKey) : Holdings where
  idle := runtime.targetCoordinators[target]?.map TargetCoordinator.control
  tasks := runtime.running.filterMap (Workflow.owns target)
  pending := runtime.pendingPrimary[target]?.map (fun pending => pending.entry.control)
  removed := runtime.removedTargets.contains target

/-- The primary workflows of a target that run or wait to be finished. -/
def inFlight (runtime : RefreshRuntime) (target : TermCampusKey) : List Nat :=
  (runtime.holdings target).inFlight

def owners (runtime : RefreshRuntime) (target : TermCampusKey) : List Nat :=
  (runtime.holdings target).owners

end RefreshRuntime

/-- Whether a command registers a target or removes it. -/
def RefreshRuntimeCommand.membership (target : TermCampusKey) : RefreshRuntimeCommand → Option Bool
  | .register other _ _ => if other=target then some true else none
  | .removeTarget other => if other=target then some false else none
  | _ => none

/-- Registrations and removals that take turns, and what they come to. -/
def settles : Bool → List Bool → Option Bool
  | status,[] => some status
  | status,next::rest => if next=status then none else settles next rest

theorem settles_snoc {status last : Bool} {l : List Bool} (h : settles status l=some (!last)) :
    settles status (l++[last])=some last := by
  induction l generalizing status with
  | nil =>
    cases h
    cases last <;> rfl
  | cons next l ih =>
    simp only [settles] at h ⊢
    split at h
    · cases h
    · next turn => exact (if_neg turn).trans (ih h)

namespace RefreshRuntime

/-- The registrations and removals of a target that the supervisor has yet to see. -/
def outstanding (runtime : RefreshRuntime) (target : TermCampusKey) : List Bool :=
  runtime.commands.filterMap (membership target)++
    List.replicate (runtime.removals.count target) false

/-- For every target: what is held, what is on the way, and what the handle says. -/
def Consistent (runtime : RefreshRuntime) (latest : TermCampusKey → Option Nat) : Prop :=
  ∀target,∃status,(runtime.holdings target).Tracks (latest target) status ∧
    settles status (runtime.outstanding target)=some (runtime.registeredTargets.contains target)

/-- At most one primary workflow and one coordinator for each target; and with nothing
on the way a registered target has exactly the coordinator of its latest registration. -/
def OwnedOnce (runtime : RefreshRuntime) (latest : TermCampusKey → Option Nat) : Prop :=
  ∀target,(runtime.inFlight target).length ≤ 1 ∧ (runtime.owners target).length ≤ 1 ∧
    (runtime.commands=[] → runtime.removals=[] → target∈runtime.registeredTargets →
      ∃control,runtime.owners target=[control] ∧ latest target=some control)

theorem Consistent.ownedOnce {rt : RefreshRuntime} {latest : TermCampusKey → Option Nat}
    (h : rt.Consistent latest) : rt.OwnedOnce latest := by
  intro target
  obtain ⟨status,tracks,reaches⟩ := h target
  have owners := tracks.owners_le
  refine ⟨(Holdings.inFlight_le_owners _).trans owners,owners,?_⟩
  intro cmds removals registered
  rw [outstanding,cmds,removals] at reaches
  have present : status=true := by
    simpa [settles,ExtTreeSet.contains_iff_mem.mpr registered] using reaches
  subst present
  cases tracks with
  | present control single _ newest => exact ⟨control,single,newest⟩

section Handle

variable {rt after : RefreshRuntime} {latest : TermCampusKey → Option Nat}

theorem Consistent.handled (h : rt.Consistent latest)
    (held : ∀target,after.holdings target=rt.holdings target)
    (told : ∀target status,
      settles status (rt.outstanding target)=some (rt.registeredTargets.contains target) →
      settles status (after.outstanding target)=some (after.registeredTargets.contains target)) :
    after.Consistent latest := by
  intro target
  obtain ⟨status,tracks,reaches⟩ := h target
  exact ⟨status,held target ▸ tracks,told target status reaches⟩

theorem outstanding_send (rt : RefreshRuntime) (cmd : RefreshRuntimeCommand)
    (target : TermCampusKey) (removals : rt.removals.count target=0 ∨
      cmd.membership target=none) : (rt.send cmd).outstanding target=
        rt.outstanding target++(cmd.membership target).toList := by
  unfold outstanding send
  rw [List.filterMap_append]
  have last : [cmd].filterMap (membership target)= (cmd.membership target).toList := by
    cases mem : cmd.membership target <;> simp [mem]
  rw [last]
  rcases removals with none | none <;> simp [none]

theorem Consistent.sent {cmd : RefreshRuntimeCommand} (h : rt.Consistent latest)
    (plain : ∀target,cmd.membership target=none) : (rt.send cmd).Consistent latest := by
  refine h.handled (fun _ => rfl) ?_
  intro target status reaches
  rw [outstanding_send rt cmd target (.inr (plain target)),plain target,
    Option.toList_none,List.append_nil]
  exact reaches

theorem Consistent.activateOpen (h : rt.Consistent latest) (target : TermCampusKey) :
    (rt.activateOpen target).2.Consistent latest := by
  unfold RefreshRuntime.activateOpen
  split
  · exact h
  split
  · exact h
  · apply Consistent.sent _ (fun _ => rfl)
    exact h

theorem Consistent.releaseProductDemandTarget (h : rt.Consistent latest)
    (target : TermCampusKey) : (rt.releaseProductDemandTarget target).Consistent latest := by
  apply Consistent.sent _ (fun _ => rfl)
  exact h

theorem Consistent.requestManualTargetRetry (h : rt.Consistent latest)
    (target : TermCampusKey) (generation : Nat) :
    (rt.requestManualTargetRetry target generation).2.Consistent latest := by
  unfold RefreshRuntime.requestManualTargetRetry
  split
  · exact h
  split
  · exact h
  · apply Consistent.sent _ (fun _ => rfl)
    exact h

theorem Consistent.foldl {call : RefreshRuntime → TermCampusKey → RefreshRuntime}
    (keeps : ∀rt target,rt.Consistent latest → (call rt target).Consistent latest)
    (targets : List TermCampusKey) (h : rt.Consistent latest) :
    (targets.foldl call rt).Consistent latest := by
  induction targets generalizing rt with
  | nil => exact h
  | cons target targets ih => exact ih (keeps rt target h)

theorem Consistent.syncProductDemand (h : rt.Consistent latest)
    (demanded : ExtTreeSet TermCampusKey) : (rt.syncProductDemand demanded).Consistent latest := by
  apply Consistent.foldl (fun rt target h => h.activateOpen target)
  exact Consistent.foldl (fun rt target h => h.releaseProductDemandTarget target) _ h

/-- A registration is in turn as long as no removal of its target is still to be sent. -/
theorem Consistent.registerTargetWithSnapshotState (h : rt.Consistent latest)
    (target : TermCampusKey) (mos ready : Bool)
    (sentAll : target∉rt.removals) :
    (rt.registerTargetWithSnapshotState target mos ready).2.Consistent latest := by
  unfold RefreshRuntime.registerTargetWithSnapshotState
  dsimp only
  split
  · split
    · exact h
    · apply Consistent.sent _ (fun _ => rfl)
      exact h
  · rename_i unregistered
    refine h.handled (fun _ => rfl) ?_
    intro other status reaches
    have grown := outstanding_send {rt with
        registeredTargets := rt.registeredTargets.insert target
        registeredTargetModes := rt.registeredTargetModes.insert target mos}
      (.register target mos ready) other
    by_cases same : target=other
    · subst same
      have absent : rt.registeredTargets.contains target=false := by
        rw [← Bool.not_eq_true]
        exact unregistered
      have listed : (rt.registeredTargets.insert target).contains target=true := by simp
      rw [absent] at reaches
      rw [grown (.inl (List.count_eq_zero.mpr sentAll))]
      simp only [membership]
      exact (settles_snoc reaches).trans (congrArg some listed.symm)
    · have plain : (RefreshRuntimeCommand.register target mos ready).membership other=none := by
        simp [membership,same]
      have unlisted : (rt.registeredTargets.insert target).contains other=
          rt.registeredTargets.contains other := by
        simp [same]
      rw [grown (.inr plain),plain,Option.toList_none,List.append_nil]
      exact reaches.trans (congrArg some unlisted.symm)

theorem Consistent.retainRegisteredTargets (h : rt.Consistent latest)
    (retained : ExtTreeSet TermCampusKey) :
    (rt.retainRegisteredTargets retained).Consistent latest := by
  refine h.handled (fun _ => rfl) ?_
  intro target status reaches
  let removals := rt.registeredTargets.toList.filter (fun target => !retained.contains target)
  have listed : (rt.registeredTargets.filter retained.contains).contains target=
      (rt.registeredTargets.contains target && retained.contains target) := by
    rw [Bool.eq_iff_iff,Bool.and_eq_true,ExtTreeSet.contains_iff_mem,ExtTreeSet.mem_filter]
    constructor
    all_goals
      rintro ⟨member,kept⟩
      exact ⟨member,by simpa using kept⟩
  have nodup : removals.Nodup := (nodup_toList _).filter _
  have further : (rt.retainRegisteredTargets retained).outstanding target=
      rt.outstanding target++List.replicate (removals.count target) false := by
    change _++List.replicate ((rt.removals++removals).count target) false=_
    rw [List.count_append,List.replicate_add,← List.append_assoc]
    rfl
  rw [further]
  change _=some ((rt.registeredTargets.filter retained.contains).contains target)
  rw [listed]
  by_cases taken : target∈removals
  · obtain ⟨member,gone⟩ := List.mem_filter.mp taken
    have registered : rt.registeredTargets.contains target=true :=
      ExtTreeSet.contains_iff_mem.mpr (ExtTreeSet.mem_toList.mp member)
    rw [registered] at reaches ⊢
    rw [List.count_eq_one_of_mem nodup taken]
    have dropped : retained.contains target=false := by simpa using gone
    rw [dropped]
    exact settles_snoc reaches
  · rw [List.count_eq_zero.mpr taken]
    have same : (rt.registeredTargets.contains target && retained.contains target)=
        rt.registeredTargets.contains target := by
      by_cases registered : rt.registeredTargets.contains target=true
      · have kept : retained.contains target=true := by
          by_contra dropped
          exact taken (List.mem_filter.mpr ⟨ExtTreeSet.mem_toList.mpr
            (ExtTreeSet.contains_iff_mem.mp registered),by
              rw [Bool.not_eq_true']
              exact Bool.eq_false_iff.mpr dropped⟩)
        simp [kept]
      · simp [Bool.not_eq_true _ ▸ registered]
    rw [same]
    simpa using reaches

theorem Consistent.sendRemoval (h : rt.Consistent latest) (target : TermCampusKey) :
    (rt.sendRemoval target).Consistent latest := by
  unfold RefreshRuntime.sendRemoval
  split
  · rename_i waiting
    refine h.handled (fun _ => rfl) ?_
    intro other status reaches
    have same : ({rt with removals := rt.removals.erase target}.send
        (.removeTarget target)).outstanding other=rt.outstanding other := by
      unfold outstanding send
      by_cases here : target=other
      · subst here
        have some : 0<rt.removals.count target := List.count_pos_iff.mpr waiting
        have split : rt.removals.count target=1+(rt.removals.count target-1) := by omega
        conv_rhs => rw [split,List.replicate_add]
        simp [membership]
      · rw [List.count_erase_of_ne (fun same => here same.symm)]
        simp [membership,here]
    rw [same]
    exact reaches
  · exact h

end Handle

section Supervisor

variable {rt : RefreshRuntime} {latest : TermCampusKey → Option Nat}

def Told (before after : RefreshRuntime) : Prop :=
  after.commands=before.commands ∧ after.removals=before.removals ∧
    after.registeredTargets=before.registeredTargets

/-- What the supervisor does between commands: the channel and the handle stay, and
each target is held in one of the ways it can be held in. -/
structure Handles (latest : TermCampusKey → Option Nat) (runtime after : RefreshRuntime) : Prop where
  commands : after.commands=runtime.commands
  removals : after.removals=runtime.removals
  registered : after.registeredTargets=runtime.registeredTargets
  tracks : ∀target status,(runtime.holdings target).Tracks (latest target) status →
    (after.holdings target).Tracks (latest target) status

theorem Handles.refl (latest : TermCampusKey → Option Nat) (rt : RefreshRuntime) :
    Handles latest rt rt :=
  ⟨rfl,rfl,rfl,fun _ _ tracks => tracks⟩

theorem Handles.trans {first second third : RefreshRuntime} (h : Handles latest first second)
    (g : Handles latest second third) : Handles latest first third :=
  ⟨g.commands.trans h.commands,g.removals.trans h.removals,g.registered.trans h.registered,
    fun target status tracks => g.tracks target status (h.tracks target status tracks)⟩

theorem Handles.consistent {after : RefreshRuntime} (h : Handles latest rt after)
    (consistent : rt.Consistent latest) : after.Consistent latest := by
  intro target
  obtain ⟨status,tracks,reaches⟩ := consistent target
  refine ⟨status,h.tracks target status tracks,?_⟩
  unfold outstanding
  rw [h.commands,h.removals,h.registered]
  exact reaches

theorem finishPrimaryWorkflow_holdings (rt : RefreshRuntime) (moment : Moment)
    (target : TermCampusKey) (en : TargetCoordinator) (pub : Bool)
    (concurrent : Option ConcurrentOpenState) (other : TermCampusKey) :
    (rt.finishPrimaryWorkflow moment target en pub concurrent).holdings other=
      if target=other then (rt.holdings other).finished en.control
      else rt.holdings other := by
  unfold finishPrimaryWorkflow
  by_cases marked : target∈rt.removedTargets
  · rw [if_pos marked]
    by_cases same : target=other
    · subst same
      simp [holdings,Holdings.finished,marked]
    · simp [holdings,same]
  · rw [if_neg marked]
    by_cases same : target=other
    · subst same
      have unmarked : ¬(rt.holdings target).removed=true := by
        exact marked
      rw [Holdings.finished,if_neg unmarked]
      simp only [holdings]
      split <;> simp
    · simp [holdings,getElem?_insert_eq,same]

theorem finishPrimaryWorkflow_told (rt : RefreshRuntime) (moment : Moment)
    (target : TermCampusKey) (en : TargetCoordinator) (pub : Bool)
    (concurrent : Option ConcurrentOpenState) :
    Told rt (rt.finishPrimaryWorkflow moment target en pub concurrent) := by
  unfold finishPrimaryWorkflow
  dsimp only
  split <;> exact ⟨rfl,rfl,rfl⟩

theorem finishPrimaryWorkflow_handles {left : RefreshRuntime} (moment : Moment)
    (target : TermCampusKey) (en : TargetCoordinator) (pub : Bool)
    (concurrent : Option ConcurrentOpenState)
    (told : Told rt left) (idle : ∀other,(left.holdings other).idle=(rt.holdings other).idle ∧
      (left.holdings other).removed=(rt.holdings other).removed)
    (ended : (rt.holdings target).inFlight.Perm (en.control::(left.holdings target).inFlight))
    (others : ∀other,target≠other →
      (left.holdings other).inFlight.Perm (rt.holdings other).inFlight) :
    Handles latest rt (left.finishPrimaryWorkflow moment target en pub concurrent) := by
  obtain ⟨cmds,removals,registered⟩ :=
    left.finishPrimaryWorkflow_told moment target en pub concurrent
  refine ⟨cmds.trans told.1,removals.trans told.2.1,registered.trans told.2.2,?_⟩
  intro other status tracks
  rw [finishPrimaryWorkflow_holdings]
  split
  · next same =>
    subst same
    exact tracks.finished (idle target).1 (idle target).2 ended
  · next same => exact tracks.perm (idle other).1 (idle other).2 (others other same)

theorem running_perm {workflow : Workflow} {pos : Nat}
    (found : rt.running[pos]?=some workflow) (target : TermCampusKey) :
    (rt.running.filterMap (Workflow.owns target)).Perm ((workflow.owns target).toList++
        (rt.running.eraseIdx pos).filterMap (Workflow.owns target)) := by
  obtain ⟨bound,rfl⟩ := List.getElem?_eq_some_iff.mp found
  have split := (List.getElem_cons_eraseIdx_perm bound).symm.filterMap (Workflow.owns target)
  refine split.trans ?_
  rw [List.filterMap_cons]
  cases rt.running[pos].owns target <;> exact List.Perm.refl _

theorem recordConcurrentOpen_keeps (rt : RefreshRuntime) (moment : Moment)
    (target : TermCampusKey) (result : ConcurrentOpenEnd) :
    ∃concurrentOpen originPause,rt.recordConcurrentOpen moment target result=
      {rt with concurrentOpen := concurrentOpen,originPause := originPause} := by
  unfold recordConcurrentOpen
  split
  · exact ⟨rt.concurrentOpen,rt.originPause,rfl⟩
  · exact ⟨_,_,rfl⟩

theorem complete_handles (rt : RefreshRuntime) (pos : Nat) (moment : Moment)
    (ran : WorkflowRun) : Handles latest rt (rt.complete pos moment ran) := by
  unfold complete
  cases found : rt.running[pos]? with
  | none => exact .refl _ _
  | some workflow =>
    have taken := running_perm found
    have still (other : TermCampusKey) (apart : workflow.owns other=none) :
        ((rt.running.eraseIdx pos).filterMap (Workflow.owns other)).Perm
          (rt.running.filterMap (Workflow.owns other)) := by
      have own := taken other
      rw [apart] at own
      exact own.symm
    cases workflow with
    | primary target kind en =>
      have ended : (rt.holdings target).inFlight.Perm
          (en.control::((rt.running.eraseIdx pos).filterMap (Workflow.owns target)++
            (rt.holdings target).pending.toList)) := by
        have own := taken target
        simp only [Workflow.owns] at own
        exact own.append_right _
      have others (other : TermCampusKey) (apart : target≠other) := still other (if_neg apart)
      dsimp only
      unfold completePrimary
      split
      · refine ⟨rfl,rfl,rfl,?_⟩
        intro other status tracks
        by_cases same : target=other
        · subst same
          let left : Holdings := {rt.holdings target with
            tasks := (rt.running.eraseIdx pos).filterMap (Workflow.owns target)}
          have fromTasks : (rt.holdings target).inFlight.Perm (en.control::left.inFlight) := ended
          obtain ⟨empty,only,gone⟩ := tracks.only fromTasks
          have tasks : (rt.running.eraseIdx pos).filterMap (Workflow.owns target)=[] :=
            (List.append_eq_nil_iff.mp empty).1
          refine tracks.perm rfl rfl ?_
          rw [only]
          unfold Holdings.inFlight holdings
          rw [tasks,getElem?_insert_eq,if_pos rfl]
          exact List.Perm.refl _
        · refine tracks.perm rfl rfl ?_
          unfold Holdings.inFlight holdings
          rw [getElem?_insert_eq,if_neg same]
          exact (others other same).append_right _
      · split
        all_goals
          exact finishPrimaryWorkflow_handles moment target _ _ _ ⟨rfl,rfl,rfl⟩
            (fun _ => ⟨rfl,rfl⟩) ended (fun other apart => (others other apart).append_right _)
    | concurrentOpen target =>
      have same (other : TermCampusKey) := still other rfl
      obtain ⟨concurrentOpen,originPause,recorded⟩ := recordConcurrentOpen_keeps
        {rt with running := rt.running.eraseIdx pos} moment target ran.concurrent
      dsimp only
      unfold completeConcurrentOpen
      rw [recorded]
      dsimp only
      split
      · refine ⟨rfl,rfl,rfl,?_⟩
        intro other status tracks
        exact tracks.perm rfl rfl ((same other).append_right _)
      rename_i pending waiting
      refine finishPrimaryWorkflow_handles moment target _ _ _ ⟨rfl,rfl,rfl⟩
        (fun _ => ⟨rfl,rfl⟩) ?_ ?_
      · unfold Holdings.inFlight holdings
        rw [waiting,getElem?_erase_eq,if_pos rfl]
        simp only [Option.map_none,Option.toList_none,List.append_nil]
        exact List.perm_append_comm.trans ((same target).symm.cons _)
      · intro other apart
        unfold Holdings.inFlight holdings
        rw [getElem?_erase_eq,if_neg apart]
        exact (same other).append_right _

theorem startPrimary_handles {round : TickRound} {target : TermCampusKey} {kind : OriginJobKind}
    {en : TargetCoordinator} (idle : rt.targetCoordinators[target]?=some en) :
    Handles latest rt (rt.startPrimary round target kind en) := by
  have held (other : TermCampusKey) : (rt.startPrimary round target kind en).holdings other=
        if target=other then {rt.holdings other with
          idle := none
          tasks := (rt.holdings other).tasks++[en.control]}
        else rt.holdings other := by
    unfold startPrimary holdings
    by_cases same : target=other <;> split <;>
      simp [same,Workflow.owns,getElem?_erase_eq]
  have told : Told rt (rt.startPrimary round target kind en) := by
    unfold startPrimary
    split <;> exact ⟨rfl,rfl,rfl⟩
  refine ⟨told.1,told.2.1,told.2.2,?_⟩
  intro other status tracks
  rw [held]
  split
  · next same => exact tracks.started (by simp [holdings,← same,idle])
  · exact tracks

theorem askHints_holdings (rt : RefreshRuntime) (reading : Reading) (target : TermCampusKey) :
    (rt.askHints reading).holdings target=rt.holdings target := by
  unfold askHints holdings
  simp only [ExtTreeMap.getElem?_map,Option.map_map]
  rfl

theorem selectWorkflows_handles (places : Nat) (rounds : Nat → TickRound) (rt : RefreshRuntime) :
    Handles latest rt (selectWorkflows places rounds rt) := by
  induction places generalizing rt with
  | zero => exact .refl _ _
  | succ places ih =>
    unfold selectWorkflows
    dsimp only
    split
    · rename_i target _
      split
      · refine Handles.trans ?_ (ih _)
        refine ⟨rfl,rfl,rfl,?_⟩
        intro other status tracks
        have ownsNone : [Workflow.concurrentOpen target].filterMap (Workflow.owns other)=[] := rfl
        exact tracks.perm rfl rfl (by
          simp [holdings,ownsNone])
      · exact .refl _ _
    · have asked : Handles latest rt (rt.askHints (rounds places).reading) :=
        ⟨rfl,rfl,rfl,fun target status tracks => by rwa [askHints_holdings]⟩
      split
      · exact asked
      split
      · split
        · exact asked
        · rename_i target kind _ _ en idle
          exact asked.trans ((startPrimary_handles idle).trans (ih _))
      · exact asked

theorem tick_handles (rt : RefreshRuntime) (instant : Nat) (rounds : Nat → TickRound) :
    Handles latest rt (rt.tick instant rounds) := by
  unfold tick
  dsimp only
  split
  · exact ⟨rfl,rfl,rfl,fun _ _ tracks => tracks⟩
  · refine Handles.trans ?_ (selectWorkflows_handles _ _ _)
    exact ⟨rfl,rfl,rfl,fun _ _ tracks => tracks⟩

end Supervisor

/-- The history of the registrations that the supervisor took up: the control of the
coordinator that the latest one of a target made, if it made one. -/
def noteRegistration (before : RefreshRuntime) (event : RuntimeEvent) (_ : Unit)
    (after : RefreshRuntime) (latest : TermCampusKey → Option Nat) : TermCampusKey → Option Nat :=
  match event,before.commands with
  | .receive _,.register target _ _::_ => Function.update latest target
      ((after.targetCoordinators[target]?.map TargetCoordinator.control).filter
        (fun control => control=before.allocated))
  | _,_ => latest

/-- A target is registered again only after its removal was sent, and the supervisor
takes a registration up when no workflow of the target is left and the policy can be read. -/
def inTurn (runtime : RefreshRuntime) : RuntimeEvent → Bool
  | .register target _ _ => !runtime.removals.contains target
  | .receive reading =>
    match runtime.commands with
    | .register target _ _::_ => (runtime.inFlight target).isEmpty && reading.policy.isSome
    | _ => true
  | _ => true

section Receive

variable {rt : RefreshRuntime} {latest : TermCampusKey → Option Nat}

variable {reading : Reading}

theorem newCoordinator_ok (readable : reading.policy.isSome) (control : Nat)
    (target : TermCampusKey) (mos ready : Bool) :
    ∃en,newCoordinator control reading target mos ready=.ok en ∧ en.control=control := by
  unfold newCoordinator
  dsimp only
  rw [SharedRefreshCoordinator.registerTargetWithSnapshotState_ok readable]
  exact ⟨_,rfl,rfl⟩

theorem withIdle_holdings (target other : TermCampusKey)
    {change : TargetCoordinator → TargetCoordinator}
    (keeps : ∀en,(change en).control=en.control) :
    (rt.withIdle target change).holdings other=rt.holdings other := by
  unfold withIdle
  split
  · rfl
  rename_i en held
  unfold holdings
  rw [getElem?_insert_eq]
  by_cases same : target=other
  · subst same
    simp [held,keeps]
  · simp [same]

theorem settles_cons {status next : Bool} {rest : List Bool} {final : Bool}
    (h : settles status (next::rest)=some final) : status=(!next) ∧ settles next rest=some final := by
  unfold settles at h
  split at h
  · cases h
  · rename_i turn
    refine ⟨?_,h⟩
    cases status <;> cases next <;> simp_all

/-- A command that the supervisor takes up turns its target, and no other. -/
theorem Consistent.received {after : RefreshRuntime} {next : TermCampusKey → Option Nat}
    {cmd : RefreshRuntimeCommand} {rest : List RefreshRuntimeCommand}
    (h : rt.Consistent latest) (cmds : rt.commands=cmd::rest)
    (told : Told {rt with commands := rest} after) (plain : ∀target,cmd.membership target=none → ∀status,
      (rt.holdings target).Tracks (latest target) status →
      (after.holdings target).Tracks (next target) status)
    (turned : ∀target status,cmd.membership target=some status →
      (rt.holdings target).Tracks (latest target) (!status) →
      (after.holdings target).Tracks (next target) status) : after.Consistent next := by
  intro target
  obtain ⟨status,tracks,reaches⟩ := h target
  obtain ⟨left,removals,registered⟩ : after.commands=rest ∧ _ := told
  unfold outstanding at reaches ⊢
  rw [cmds,List.filterMap_cons] at reaches
  rw [left,removals,registered]
  cases mem : cmd.membership target with
  | none =>
    rw [mem] at reaches
    exact ⟨status,plain target mem status tracks,reaches⟩
  | some turn =>
    rw [mem] at reaches
    obtain ⟨opposite,reaches⟩ := settles_cons reaches
    rw [opposite] at tracks
    exact ⟨turn,turned target turn mem tracks,reaches⟩

theorem withIdle_told (target : TermCampusKey) (change : TargetCoordinator → TargetCoordinator) :
    Told rt (rt.withIdle target change) := by
  unfold withIdle
  split <;> exact ⟨rfl,rfl,rfl⟩

theorem removeTarget_told (target : TermCampusKey) : Told rt (rt.removeTarget target) := by
  unfold removeTarget
  dsimp only
  split <;> exact ⟨rfl,rfl,rfl⟩

theorem removeTarget_holdings (target other : TermCampusKey) :
    (rt.removeTarget target).holdings other=
      if target=other then (rt.holdings other).dropped else rt.holdings other := by
  unfold removeTarget
  dsimp only
  by_cases same : target=other
  · subst same
    cases held : rt.targetCoordinators[target]? with
    | none =>
      rw [if_neg fun mem => (mem_iff_getElem?_ne_none _ _).mp mem held]
      simp [holdings,Holdings.dropped,held]
    | some en =>
      rw [if_pos (mem_of_getElem? held)]
      simp [holdings,Holdings.dropped,held]
  · rw [if_neg same]
    split
    · simp [holdings,getElem?_erase_eq,same]
    · simp [holdings,same]

theorem register_holdings (rt : RefreshRuntime) (readable : reading.policy.isSome)
    (target : TermCampusKey) (mos ready : Bool)
    (idle : (rt.holdings target).idle=none) (other : TermCampusKey) :
    (rt.register reading target mos ready).holdings other=
      if target=other then {rt.holdings other with idle := some rt.allocated}
      else rt.holdings other := by
  have absent : target∉rt.targetCoordinators := by
    simpa [holdings] using idle
  obtain ⟨en,made,control⟩ := newCoordinator_ok readable rt.allocated target mos ready
  unfold register
  rw [if_neg absent,made]
  by_cases same : target=other
  · subst same
    unfold holdings
    rw [getElem?_insert_eq,if_pos rfl]
    split <;> simp [control]
  · simp [holdings,getElem?_insert_eq,same]

theorem register_told (reading : Reading) (target : TermCampusKey) (mos ready : Bool) :
    Told rt (rt.register reading target mos ready) := by
  unfold register
  split
  · exact ⟨rfl,rfl,rfl⟩
  split <;> exact ⟨rfl,rfl,rfl⟩

theorem reclassify_keeps (rt : RefreshRuntime) (reading : Reading) (target : TermCampusKey)
    (mos : Bool) :
    Told rt (rt.reclassify reading target mos) ∧
    ∀other,(rt.reclassify reading target mos).holdings other= rt.holdings other := by
  unfold reclassify
  split
  · exact ⟨withIdle_told _ _,fun other => withIdle_holdings target other (fun _ => by simp)⟩
  · exact ⟨⟨rfl,rfl,rfl⟩,fun _ => rfl⟩

/-- A command that neither registers nor removes leaves every coordinator where it is. -/
theorem Consistent.plain {after : RefreshRuntime} {cmd : RefreshRuntimeCommand}
    {rest : List RefreshRuntimeCommand} (h : rt.Consistent latest)
    (cmds : rt.commands=cmd::rest)
    (told : Told {rt with commands := rest} after) (neither : ∀target,cmd.membership target=none)
    (held : ∀target,after.holdings target=rt.holdings target) : after.Consistent latest := by
  refine h.received cmds told ?_ ?_
  · intro target _ status tracks
    rw [held]
    exact tracks
  · intro target status mem
    rw [neither] at mem
    cases mem

theorem receive_consistent (h : rt.Consistent latest) (turn : rt.inTurn (.receive reading)=true) :
    (rt.receive reading).Consistent
      (noteRegistration rt (.receive reading) () (rt.receive reading) latest) := by
  unfold receive noteRegistration
  cases commands : rt.commands with
  | nil => exact h
  | cons command rest =>
    cases command with
    | register target manualOneShot ready =>
      unfold inTurn at turn
      rw [commands] at turn
      obtain ⟨free,readable⟩ : rt.inFlight target=[] ∧ reading.policy.isSome=true := by
        simpa using turn
      have idle : (rt.holdings target).idle=none := by
        obtain ⟨status,tracks,reaches⟩ := h target
        unfold outstanding at reaches
        rw [commands,List.filterMap_cons] at reaches
        simp only [membership] at reaches
        obtain ⟨rfl,-⟩ := settles_cons reaches
        exact (tracks.registered free 0).1
      have held := register_holdings {rt with commands := rest} readable target
        manualOneShot ready idle
      dsimp only
      refine h.received commands (register_told _ _ _ _) ?_ ?_
      · intro other mem status tracks
        have apart : target≠other := by
          rintro rfl
          simp [membership] at mem
        change ((register _ _ target _ _).holdings other).Tracks _ _
        rw [held,if_neg apart,Function.update_of_ne apart.symm]
        exact tracks
      · intro other status mem tracks
        obtain ⟨rfl,rfl⟩ : target=other ∧ true=status := by simpa [membership] using mem
        have made := congrArg Holdings.idle (held target)
        simp only [holdings] at made
        change ((register _ _ target _ _).holdings target).Tracks _ _
        rw [held,Function.update_self]
        simp only [command,made,Option.filter,if_true]
        exact (tracks.registered free _).2
    | removeTarget target =>
      refine h.received commands (removeTarget_told target) ?_ ?_
      · intro other mem status tracks
        have apart : target≠other := by
          rintro rfl
          simp [membership] at mem
        change ((removeTarget _ target).holdings other).Tracks _ _
        rw [removeTarget_holdings,if_neg apart]
        exact tracks
      · intro other status mem tracks
        obtain ⟨rfl,rfl⟩ : target=other ∧ false=status := by simpa [membership] using mem
        change ((removeTarget _ target).holdings target).Tracks _ _
        rw [removeTarget_holdings,if_pos rfl]
        exact tracks.dropped
    | reclassify target manualOneShot =>
      obtain ⟨told,held⟩ := reclassify_keeps {rt with commands := rest} reading target manualOneShot
      exact h.plain commands told (fun _ => rfl) held
    | activateOpen | manualRetry | releaseProductDemand =>
      exact h.plain commands (withIdle_told _ _) (fun _ => rfl)
        (fun other => withIdle_holdings _ other (fun _ => by simp))

end Receive

theorem step_consistent {rt : RefreshRuntime} {latest : TermCampusKey → Option Nat}
    (h : rt.Consistent latest) (event : RuntimeEvent) (turn : rt.inTurn event=true) :
    (rt.step event).2.Consistent (noteRegistration rt event () (rt.step event).2 latest) := by
  cases event with
  | register target mos ready =>
    refine h.registerTargetWithSnapshotState target mos ready ?_
    simpa [inTurn] using turn
  | activateOpen target => exact h.activateOpen target
  | requestManualTargetRetry target generation =>
    exact h.requestManualTargetRetry target generation
  | syncProductDemand demanded => exact h.syncProductDemand demanded
  | retainRegisteredTargets retained => exact h.retainRegisteredTargets retained
  | sendRemoval target => exact h.sendRemoval target
  | receive reading => exact receive_consistent h turn
  | complete pos moment ran => exact (complete_handles rt pos moment ran).consistent h
  | tick instant rounds => exact (tick_handles rt instant rounds).consistent h

def firstControls (runtime : RefreshRuntime) (target : TermCampusKey) : Option Nat :=
  runtime.targetCoordinators[target]?.map TargetCoordinator.control

theorem spawn_consistent {targets manualTargets completeSnapshotTargets : ExtTreeSet TermCampusKey}
    {reading : Reading} {start : RefreshRuntime}
    (spawned : spawn targets manualTargets completeSnapshotTargets reading=.ok start) :
    start.Consistent start.firstControls := by
  obtain ⟨coordinators,made,spawned⟩ := bind_ok.mp spawned
  have keys : coordinators.map Prod.fst=targets.toList := by
    rw [← List.zipIdx_map_fst 0 targets.toList]
    apply map_of_mapM_ok made
    rintro ⟨target,control⟩ ⟨key,en⟩ registered
    obtain ⟨made,_,registered⟩ := bind_ok.mp registered
    cases registered
    rfl
  cases spawned
  intro target
  refine ⟨targets.contains target,?_,by simp [outstanding,settles]⟩
  have mem : target∈(ExtTreeMap.ofList coordinators : ExtTreeMap TermCampusKey _) ↔
      target∈targets := by
    rw [mem_ofList_iff,keys,ExtTreeSet.mem_toList]
  rw [mem_iff_getElem?_ne_none] at mem
  cases held : (ExtTreeMap.ofList coordinators : ExtTreeMap TermCampusKey _)[target]? with
  | none =>
    have absent : targets.contains target=false := by
      rw [← Bool.not_eq_true]
      exact fun listed => mem.mpr listed held
    rw [absent]
    apply Holdings.Tracks.absent
    · simp [Holdings.owners,Holdings.inFlight,holdings,held]
    · simp [holdings]
  | some en =>
    have present : targets.contains target=true :=
      ExtTreeSet.contains_iff_mem.mpr (mem.mp (by simp [held]))
    rw [present]
    apply Holdings.Tracks.present en.control
    · simp [Holdings.owners,Holdings.inFlight,holdings,held]
    · simp [holdings]
    · simp [firstControls,held]

/-- In a run whose registrations come in turn, no target has two workflows or two
coordinators, and none loses its latest registration. -/
theorem coordinators_owned_once
    {targets manualTargets completeSnapshotTargets : ExtTreeSet TermCampusKey}
    {reading : Reading} {start : RefreshRuntime}
    (spawned : spawn targets manualTargets completeSnapshotTargets reading=.ok start)
    (events : List RuntimeEvent)
    (turns : Along (traced step noteRegistration) (fun state event => state.1.inTurn event=true)
      (start,start.firstControls) events) :
    (run (traced step noteRegistration) (start,start.firstControls) events).1.OwnedOnce
      (run (traced step noteRegistration) (start,start.firstControls) events).2 := by
  apply Consistent.ownedOnce
  exact turns.preserves (fun state => state.1.Consistent state.2) (spawn_consistent spawned)
    (fun state event turn consistent => step_consistent consistent event turn)

namespace Sample

def target : TermCampusKey := nbFall2026

def reading : Reading :=
  ⟨some ⟨.fromSecs 600,.fixed,by decide⟩,⟨0⟩,fun _ => 0⟩

def spawned : Except CoordinatorError RefreshRuntime := spawn (.ofList [target]) ∅ ∅ reading

def start : RefreshRuntime :=
  match spawned with
  | .ok runtime => runtime
  | .error _ => ⟨∅,∅,∅,∅,[],[],∅,∅,∅,[],∅,∅,∅,none,0⟩

theorem spawn_start : spawn (.ofList [target]) ∅ ∅ reading=.ok start := by
  have ok : spawned.isOk=true := by decide +kernel
  unfold start
  cases h : spawned with
  | error error =>
    rw [h] at ok
    cases ok
  | ok rt => exact h

def tick : RuntimeEvent :=
  .tick 0 (fun _ => ⟨reading,0,none,true,fun _ => false⟩)

def failed : WorkflowRun :=
  ⟨reading,⟨.error,.error,⟨.fromSecs 10,.automatic,1,false⟩,⟨0⟩⟩,.skipped⟩

def ended (position : Nat) : RuntimeEvent := .complete position ⟨reading,0⟩ failed

/-- A removal that finds the workflow of its target running. -/
def removedWhileRunning : List RuntimeEvent :=
  [tick,.retainRegisteredTargets ∅,.sendRemoval target,.receive reading]

def registeredAgain : List RuntimeEvent := [.register target false false,.receive reading]

end Sample

open Sample in
/-- A target that is removed while its workflow runs, and registered again before that
workflow has ended, has two of them; and the one that ends first is dropped, be it the
new registration. -/
theorem registered_while_running : spawn (.ofList [target]) ∅ ∅ reading=.ok start ∧
      ¬(run (traced RefreshRuntime.step noteRegistration) (start,start.firstControls)
        (removedWhileRunning++registeredAgain++[Sample.tick])).1.OwnedOnce
        (run (traced RefreshRuntime.step noteRegistration) (start,start.firstControls)
        (removedWhileRunning++registeredAgain++[Sample.tick])).2 ∧
      (run RefreshRuntime.step start (removedWhileRunning++registeredAgain++[Sample.tick])).inFlight
        target=[0,1] ∧
      (run RefreshRuntime.step start
        (removedWhileRunning++registeredAgain++[Sample.tick,ended 1,ended 0])).owners target=[0] := by
  refine ⟨spawn_start,?_,by decide +kernel,by decide +kernel⟩
  intro owned
  have two : ¬((run (traced RefreshRuntime.step noteRegistration) (start,start.firstControls)
      (removedWhileRunning++registeredAgain++[Sample.tick])).1.inFlight target).length ≤ 1 := by
    decide +kernel
  exact two (owned target).1

open Sample in
theorem coordinators_owned_once_again :
    (run (traced RefreshRuntime.step noteRegistration) (start,start.firstControls)
      (removedWhileRunning++ended 0::registeredAgain)).1.OwnedOnce
      (run (traced RefreshRuntime.step noteRegistration) (start,start.firstControls)
      (removedWhileRunning++ended 0::registeredAgain)).2 :=
  coordinators_owned_once spawn_start _
    ⟨by decide +kernel,by decide +kernel,by decide +kernel,by decide +kernel,by decide +kernel,
      by decide +kernel,by decide +kernel,trivial⟩

end RefreshRuntime

end CoursePlanner.Application
