import CoursePlanner.Open.Baseline
import CoursePlanner.Open.Service

namespace CoursePlanner.Open

open Std Library Contracts Storage

/-- Every candidate runtime is filed under the Catalog that it is keyed by. -/
def TargetGateSet.Keyed (gates : TargetGateSet) : Prop :=
  ∀(identity : CatalogSetIdentity) runtime,gates.candidates[identity]?=some runtime →
    runtime.state.keyedBy identity

theorem TargetGateSet.Keyed.new : TargetGateSet.new.Keyed := by
  intro idn rt found
  simp [TargetGateSet.new] at found

def TargetGateSet.runtimeOf (gates : TargetGateSet) (identity : CatalogSetIdentity) :
    OpenGateRoute → Option GateRuntime
  | .serving => gates.serving
  | .candidate => gates.candidates[identity]?

theorem keyedBy_of_catalogIdentity {rt : GateRuntime} {identity : CatalogSetIdentity}
    (h : rt.catalogIdentity.any (fun current => current≠identity)=false) :
    rt.state.keyedBy identity := by
  obtain ⟨epoch,state⟩ := rt
  match state,h with
  | .healthy none,_ => trivial
  | .healthy (some bl),h =>
    have same : bl.catalogIdentity=identity := not_not.mp (of_decide_eq_false h)
    exact same
  | .quarantined bl episode,h =>
    have same : bl.catalogIdentity=identity := not_not.mp (of_decide_eq_false h)
    exact same

theorem reset_keyedBy (rt : GateRuntime) (identity : CatalogSetIdentity)
    (floor : Option Nat) : (rt.resetForCatalogIdentity identity floor).state.keyedBy
      identity := by
  cases floor with
  | none => trivial
  | some floor => rfl

/-- The candidate of an identity and the only one that is kept. -/
theorem candidateMut_kept (gates : TargetGateSet) (idn : CatalogSetIdentity) (seed : Option Nat) :
    (gates.candidateMut idn seed).2.candidates=
      ExtTreeMap.insert ∅ idn (gates.candidateMut idn seed).1 := by
  unfold TargetGateSet.candidateMut
  apply ExtTreeMap.ext_getElem?
  intro other
  rw [getElem?_insert_eq,getElem?_insert_eq]
  split
  · rfl
  next apart =>
  rw [ExtTreeMap.getElem?_filter']
  have gone : decide (other=idn)=false := decide_eq_false (fun same => apart same.symm)
  rw [gone]
  cases gates.candidates[other]? with
  | none | some => rfl

theorem candidateMut_keyed {gates : TargetGateSet} (keyed : gates.Keyed)
    (identity : CatalogSetIdentity) (seed : Option Nat) :
    (gates.candidateMut identity seed).1.state.keyedBy identity := by
  unfold TargetGateSet.candidateMut
  dsimp only
  rw [ExtTreeMap.getElem?_filter']
  cases found : gates.candidates[identity]? with
  | none =>
    cases seed with
    | none => trivial
    | some floor => rfl
  | some rt =>
    have here : decide (identity=identity)=true := decide_eq_true rfl
    rw [here]
    exact keyed identity rt found

theorem rebuilt_keyed (idn : CatalogSetIdentity) (reference : Option Nat)
    (summaries : List RestartAttemptSummary) (now : OffsetDateTime) :
    (rebuildAfterRestart idn reference summaries now).catalogIdentity.any
      (fun current => current≠idn)=false := by
  have unseeded : GateRuntime.newUnseeded.catalogIdentity.any
      (fun current => current≠idn)=false := rfl
  have seeded : ∀floor,(GateRuntime.seeded idn floor).catalogIdentity.any
      (fun current => current≠idn)=false := fun _ => decide_eq_false (fun apart => apart rfl)
  unfold rebuildAfterRestart
  cases reference with
  | none =>
    split
    · exact unseeded
    · split <;> exact unseeded
  | some reference =>
    dsimp only
    split
    · exact seeded reference
    split
    · exact seeded reference
    · split
      · exact seeded reference
      · exact decide_eq_false (fun apart => apart rfl)

/-- A reference counts sections of the Catalog. -/
def ReconcileInputs.Covers (inputs : ReconcileInputs) (reference : Option Nat) : Prop :=
  ∀count,reference=some count → count ≤ inputs.catalog.sections.size

section Prepares

variable [Sha256]

/-- What a pull does to the gate set before its decision: the first use rebuilds the
serving runtime, another Catalog resets it, and a candidate pull opens its own one. -/
inductive Prepares (inputs : ReconcileInputs) (now : OffsetDateTime) :
    OpenGateRoute → TargetGateSet → TargetGateSet → Prop
  | untouched (route : OpenGateRoute) (gates : TargetGateSet) :
      Prepares inputs now route gates gates
  | rebuilt (gates : TargetGateSet) (absent : gates.serving=none) (reference : Option Nat)
      (covered : inputs.Covers reference) (summaries : List RestartAttemptSummary) :
      Prepares inputs now .serving gates
        (gates.installServing (rebuildAfterRestart inputs.identity reference summaries now))
  | reset (gates : TargetGateSet) (serving : GateRuntime) (held : gates.serving=some serving)
      (other : serving.catalogIdentity.any (fun current => current≠inputs.identity)=true)
      (floor : Option Nat) (covered : inputs.Covers floor) :
      Prepares inputs now .serving gates
        (gates.installServing (serving.resetForCatalogIdentity inputs.identity floor))
  | opened (gates : TargetGateSet) (seed : Option Nat) (covered : inputs.Covers seed) :
      Prepares inputs now .candidate gates (gates.candidateMut inputs.identity seed).2

namespace Prepares

variable {inputs : ReconcileInputs} {now : OffsetDateTime} {route : OpenGateRoute}
  {before after : TargetGateSet}

theorem keyed (h : Prepares inputs now route before after) (keyed : before.Keyed) :
    after.Keyed := by
  cases h with
  | untouched | rebuilt | reset => exact keyed
  | opened _ seed =>
    intro other rt found
    rw [candidateMut_kept,getElem?_insert_eq] at found
    split at found
    · next same =>
      subst same
      cases found
      exact candidateMut_keyed keyed inputs.identity seed
    · simp at found

theorem candidates_le (h : Prepares inputs now route before after)
    (single : before.candidates.size ≤ 1) : after.candidates.size ≤ 1 := by
  cases h with
  | untouched | rebuilt | reset => exact single
  | opened _ seed =>
    rw [candidateMut_kept]
    exact ExtTreeMap.size_insert_le

/-- A candidate pull leaves the serving runtime alone. -/
theorem serving (h : Prepares inputs now .candidate before after) :
    after.serving=before.serving := by
  cases h with
  | untouched | opened => rfl

end Prepares

end Prepares

section Phases

variable [Sha256] {P : Type} [OpenPullPersistence P]

/-- A relation that the reads of a persistence keep to. -/
structure ReadsKeep (R : P → P → Prop) : Prop where
  refl : ∀p,R p p
  trans : ∀{p q r},R p q → R q r → R p r
  snapshot : ∀target p,R p (OpenPullPersistence.servingOpenCatalogSnapshot target p).2
  lkg : ∀target p,R p (OpenPullPersistence.lkgOpenIndexSet target p).2
  summaries : ∀target limit p,
    R p (OpenPullPersistence.recentOpenGateAttemptSummaries target limit p).2

variable {inputs : ReconcileInputs} {t : TermCampusKey} {ca : OffsetDateTime}
  {state after : PullState P}

section Attempts

omit [Sha256] [OpenPullPersistence P]

variable {A B : Type} {next : A → PullState P → Except PullStop B × PullState P}
  {res : Except PullStop B} {stop : PullStop}

theorem attempt_call {method : P → StorageResult A × P}
    (h : attempt (state.call method) next=(res,after)) :
    (∃error,(method state.persistence).1=.error error ∧ res=.error (.error (.storage error)) ∧
      after=⟨(method state.persistence).2,state.gates⟩) ∨
    ∃answer,(method state.persistence).1=.ok answer ∧
      next answer ⟨(method state.persistence).2,state.gates⟩=(res,after) := by
  unfold PullState.call at h
  generalize method state.persistence=called at h ⊢
  obtain ⟨answer | answer,read⟩ := called
  · cases h
    exact .inl ⟨answer,rfl,rfl,rfl⟩
  · exact .inr ⟨answer,rfl,h⟩

theorem call_of_ok {method : P → StorageResult A × P} {answer : A}
    (h : (method state.persistence).1=.ok answer) :
    state.call method=(.ok answer,⟨(method state.persistence).2,state.gates⟩) := by
  change ((method state.persistence).1.mapError _,_)=_
  rw [h]
  rfl

theorem call_ok {method : P → StorageResult A × P} {answer : A}
    (h : state.call method=(.ok answer,after)) :
    method state.persistence=(.ok answer,after.persistence) ∧ after.gates=state.gates := by
  obtain ⟨same,rfl⟩ := Prod.mk.inj h
  exact ⟨Prod.ext (mapError_ok same) rfl,rfl⟩

theorem attempt_check {checked : Except SharedOpenServiceError A}
    (h : attempt (state.check checked) next=(res,after)) :
    (∃error,checked=.error error ∧ res=.error (.error error) ∧ after=state) ∨
    ∃answer,checked=.ok answer ∧ next answer state=(res,after) := by
  cases checked with
  | error error =>
    cases h
    exact .inl ⟨error,rfl,rfl,rfl⟩
  | ok answer => exact .inr ⟨answer,rfl,h⟩

theorem stops_with {Q : PullStop → Prop} (h : Q stop) :
    ∀other,(.error stop : Except PullStop A)=.error other → Q other := by
  intro other same
  cases same
  exact h

end Attempts

/-- How the read of a reference ends: its result, and a state with the same gates. -/
structure Read (R : P → P → Prop) (inputs : ReconcileInputs) (state after : PullState P)
    (result : Except PullStop (Option Nat)) : Prop where
  gates : after.gates=state.gates
  persistence : R state.persistence after.persistence
  stopped : ∀stop,result=.error stop → ∃error,stop=.error (.storage error)
  covered : ∀reference,result=.ok reference → inputs.Covers reference

variable {R : P → P → Prop}

omit [Sha256] in
theorem lkgReference_read (keep : ReadsKeep R) {result : Except PullStop (Option Nat)}
    (h : lkgReference inputs t state=(result,after)) : Read R inputs state after result := by
  unfold lkgReference at h
  rcases attempt_call h with ⟨error,-,rfl,rfl⟩ | ⟨set,-,done⟩
  · exact ⟨rfl,keep.lkg t _,stops_with ⟨error,rfl⟩,nofun⟩
  cases done
  refine ⟨rfl,keep.lkg t _,nofun,?_⟩
  rintro reference same count counted
  cases same
  obtain ⟨known,-,rfl⟩ := Option.map_eq_some_iff.mp counted
  exact size_listed_le inputs.catalog known

structure Routed (route : OpenGateRoute) (identity : CatalogSetIdentity) (gates : TargetGateSet)
    (runtime : GateRuntime) : Prop where
  held : gates.runtimeOf identity route=some runtime
  keyed : runtime.state.keyedBy identity

theorem installedServing_cases (keep : ReadsKeep R) {result : Except PullStop Unit}
    (h : installedServing inputs t ca state=(result,after)) :
    R state.persistence after.persistence ∧
    (∀stop,result=.error stop → ∃error,stop=.error (.storage error)) ∧
    ((after.gates=state.gates ∧ (result=.ok () → ∃serving,state.gates.serving=some serving)) ∨
      state.gates.serving=none ∧ ∃reference summaries,inputs.Covers reference ∧
        after.gates=state.gates.installServing
          (rebuildAfterRestart inputs.identity reference summaries ca)) := by
  unfold installedServing at h
  cases installed : state.gates.serving with
  | some serving =>
    rw [installed] at h
    cases h
    exact ⟨keep.refl _,nofun,.inl ⟨rfl,fun _ => ⟨serving,rfl⟩⟩⟩
  | none =>
    rw [installed] at h
    rcases attempt_eq.mp h with ⟨stop,read,rfl⟩ | ⟨reference,middle,read,rest⟩
    · have facts := lkgReference_read keep read
      exact ⟨facts.persistence,stops_with (facts.stopped stop rfl),.inl ⟨facts.gates,nofun⟩⟩
    have facts := lkgReference_read keep read
    have later := keep.trans facts.persistence (keep.summaries t 32 _)
    rcases attempt_call rest with ⟨error,-,rfl,rfl⟩ | ⟨rows,-,done⟩
    · exact ⟨later,stops_with ⟨error,rfl⟩,.inl ⟨facts.gates,nofun⟩⟩
    cases done
    refine ⟨later,nofun,
      .inr ⟨rfl,reference,rows.map gateRestartSummary,facts.covered reference rfl,?_⟩⟩
    rw [facts.gates]

theorem keyedServing_cases (keep : ReadsKeep R) (now : OffsetDateTime)
    {result : Except PullStop GateRuntime} {serving : GateRuntime}
    (installed : state.gates.serving=some serving)
    (h : keyedServing inputs t state=(result,after)) :
    R state.persistence after.persistence ∧
    (∀stop,result=.error stop → ∃error,stop=.error (.storage error)) ∧
    Prepares inputs now .serving state.gates after.gates ∧
    (serving.catalogIdentity.any (fun current => current≠inputs.identity)=false →
      after.gates=state.gates) ∧
    ∀runtime,result=.ok runtime → Routed .serving inputs.identity after.gates runtime := by
  have current : state.gates.servingMut=serving := by
    unfold TargetGateSet.servingMut
    rw [installed]
    rfl
  unfold keyedServing at h
  simp only [current] at h
  split at h
  · next other =>
    rcases attempt_eq.mp h with ⟨stop,read,rfl⟩ | ⟨transferred,middle,read,done⟩
    · have facts := lkgReference_read keep read
      refine ⟨facts.persistence,stops_with (facts.stopped stop rfl),?_,fun _ => facts.gates,nofun⟩
      rw [facts.gates]
      exact .untouched .serving _
    · have facts := lkgReference_read keep read
      cases done
      refine ⟨facts.persistence,nofun,?_,?_,?_⟩
      · change Prepares _ _ _ _ (middle.gates.installServing _)
        rw [facts.gates]
        exact .reset state.gates serving installed other transferred (facts.covered transferred rfl)
      · intro same
        rw [other] at same
        cases same
      · intro runtime same
        cases same
        exact ⟨rfl,reset_keyedBy serving inputs.identity transferred⟩
  · next same =>
    cases h
    refine ⟨keep.refl _,nofun,.untouched .serving _,fun _ => rfl,?_⟩
    intro runtime chosen
    cases chosen
    exact ⟨installed,keyedBy_of_catalogIdentity (Bool.eq_false_iff.mpr same)⟩

theorem routedRuntime_cases (keep : ReadsKeep R) (keyed : state.gates.Keyed) {route : OpenGateRoute}
    {result : Except PullStop GateRuntime}
    (h : routedRuntime route inputs t ca state=(result,after)) :
    R state.persistence after.persistence ∧
    (∀stop,result=.error stop → ∃error,stop=.error (.storage error)) ∧
    Prepares inputs ca route state.gates after.gates ∧
    ∀runtime,result=.ok runtime → Routed route inputs.identity after.gates runtime := by
  cases route with
  | serving =>
    rcases attempt_eq.mp h with ⟨stop,first,rfl⟩ | ⟨_,middle,first,rest⟩
    · obtain ⟨reads,stopped,⟨same,-⟩ | ⟨absent,reference,summaries,covered,rebuilt⟩⟩ :=
        installedServing_cases keep first
      · refine ⟨reads,stops_with (stopped stop rfl),?_,nofun⟩
        rw [same]
        exact .untouched .serving _
      · refine ⟨reads,stops_with (stopped stop rfl),?_,nofun⟩
        rw [rebuilt]
        exact .rebuilt state.gates absent reference covered summaries
    · obtain ⟨reads,-,⟨same,installed⟩ | ⟨absent,reference,summaries,covered,rebuilt⟩⟩ :=
        installedServing_cases keep first
      · obtain ⟨serving,held⟩ := installed rfl
        rw [← same] at held
        obtain ⟨later,stopped,prepares,-,routed⟩ := keyedServing_cases keep ca held rest
        rw [same] at prepares
        exact ⟨keep.trans reads later,stopped,prepares,routed⟩
      · have held : middle.gates.serving=some
            (rebuildAfterRestart inputs.identity reference summaries ca) := by
          rw [rebuilt]
          rfl
        obtain ⟨later,stopped,-,kept,routed⟩ := keyedServing_cases keep ca held rest
        refine ⟨keep.trans reads later,stopped,?_,routed⟩
        rw [kept (rebuilt_keyed _ _ _ _),rebuilt]
        exact .rebuilt state.gates absent reference covered summaries
  | candidate =>
    rcases attempt_eq.mp h with ⟨stop,read,rfl⟩ | ⟨seed,middle,read,done⟩
    · have facts := lkgReference_read keep read
      refine ⟨facts.persistence,stops_with (facts.stopped stop rfl),?_,nofun⟩
      rw [facts.gates]
      exact .untouched .candidate _
    · have facts := lkgReference_read keep read
      cases done
      refine ⟨facts.persistence,nofun,?_,?_⟩
      · change Prepares _ _ _ _ (middle.gates.candidateMut _ _).2
        rw [facts.gates]
        exact .opened state.gates seed (facts.covered seed rfl)
      intro runtime same
      cases same
      rw [← facts.gates] at keyed
      refine ⟨?_,candidateMut_keyed keyed inputs.identity seed⟩
      change (middle.gates.candidateMut inputs.identity seed).2.candidates[inputs.identity]?=_
      rw [candidateMut_kept,getElem?_insert_eq,if_pos rfl]
      rfl

/-- A decision that was made on a runtime of the gate set. -/
structure Decided (inputs : ReconcileInputs) (completedAt : OffsetDateTime)
    (gates : TargetGateSet) (gated : Gated) (runtime : GateRuntime) : Prop where
  identity : gated.identity=inputs.identity
  routed : Routed gated.route inputs.identity gates runtime
  evaluated : runtime.evaluate (inputs.sample completedAt)=some gated.decision

omit [OpenPullPersistence P] in
theorem Decided.verdict {gates : TargetGateSet} {gated : Gated} {rt : GateRuntime}
    (h : Decided inputs ca gates gated rt) :
    gated.decision.gateEpoch=rt.epoch ∧ Verdict (inputs.sample ca) rt.state gated.decision.kind
        gated.decision.disposition gated.decision.nextState := by
  have evaluated := h.evaluated
  obtain ⟨kind,dis,next,decided,verdict⟩ :
      ∃kind dis next,GateRuntime.verdict rt.state (inputs.sample ca)= some (kind,dis,next) ∧
        Verdict (inputs.sample ca) rt.state kind dis next :=
    verdict_keyed h.routed.keyed
  unfold GateRuntime.evaluate at evaluated
  rw [decided] at evaluated
  rw [← Option.some.inj evaluated]
  exact ⟨rfl,verdict⟩

/-- The gate either has nothing to decide, or it decides on a runtime that it prepared.
The identity assertion of evaluate holds. -/
theorem decideGate_cases (keep : ReadsKeep R) (keyed : state.gates.Keyed)
    {cmd : OpenPullCommand} {rs : Except PullStop (Option Gated)}
    (h : decideGate cmd inputs ca state=(rs,after)) :
    R state.persistence after.persistence ∧
    (∀stop,rs=.error stop → ∃error,stop=.error (.storage error)) ∧
    (((cmd.gate=none ∨ inputs.isHardReject) ∧ rs=.ok none ∧ after.gates=state.gates) ∨
      ∃route,cmd.gate=some route ∧ ¬inputs.isHardReject ∧
        Prepares inputs ca route state.gates after.gates ∧
        ∀gated,rs=.ok gated → ∃decided runtime,gated=some decided ∧ decided.route=route ∧
          Decided inputs ca after.gates decided runtime) := by
  unfold decideGate at h
  cases gate : cmd.gate with
  | none =>
    rw [gate] at h
    cases h
    exact ⟨keep.refl _,nofun,.inl ⟨.inl rfl,rfl,rfl⟩⟩
  | some route =>
    rw [gate] at h
    dsimp only at h
    split at h
    · next rejected =>
      cases h
      exact ⟨keep.refl _,nofun,.inl ⟨.inr rejected,rfl,rfl⟩⟩
    next usable =>
    rcases attempt_eq.mp h with ⟨stop,first,rfl⟩ | ⟨runtime,middle,first,rest⟩
    · obtain ⟨reads,stopped,prepares,-⟩ := routedRuntime_cases keep keyed first
      exact ⟨reads,stops_with (stopped stop rfl),.inr ⟨route,rfl,usable,prepares,nofun⟩⟩
    · obtain ⟨reads,-,prepares,routed⟩ := routedRuntime_cases keep keyed first
      have chosen := routed runtime rfl
      obtain ⟨kind,dis,next,decided,-⟩ :
          ∃kind dis next,GateRuntime.verdict runtime.state (inputs.sample ca)=
            some (kind,dis,next) ∧ _ := verdict_keyed chosen.keyed
      have evaluated : runtime.evaluate (inputs.sample ca)=some
          ⟨dis,kind,inputs.identity,inputs.observed.size,
            canonicalOpenSetHashV1 inputs.observed,runtime.epoch,next⟩ := by
        unfold GateRuntime.evaluate
        rw [decided]
        rfl
      rw [evaluated] at rest
      cases rest
      refine ⟨reads,nofun,.inr ⟨route,rfl,usable,prepares,?_⟩⟩
      intro gated same
      cases same
      exact ⟨_,runtime,rfl,rfl,rfl,chosen,evaluated⟩

/-- The gate set with the advanced runtime of a route. -/
def TargetGateSet.advanced (gates : TargetGateSet) (identity : CatalogSetIdentity)
    (runtime : GateRuntime) (published : Bool) : OpenGateRoute → TargetGateSet
  | .serving => gates.installServing runtime
  | .candidate =>
    if published then ⟨some runtime,∅⟩
    else ⟨gates.serving,ExtTreeMap.insert ∅ identity runtime⟩

omit [OpenPullPersistence P] in
/-- The epoch assertion of advance holds for the runtime that the decision was made on. -/
theorem advanceGate_eq {gated : Gated} {runtime : GateRuntime}
    (decided : Decided inputs ca state.gates gated runtime)
    {outcome : OpenCommitOutcome} (current : outcome.classification≠.staleCatalogRace) :
    advanceGate (some gated) outcome state=(.ok (),{ state with
      gates := state.gates.advanced gated.identity ⟨runtime.epoch+1,gated.decision.nextState⟩
        outcome.classification.isSuccess gated.route }) := by
  obtain ⟨epoch,-⟩ := decided.verdict
  have advances : runtime.advance gated.decision=
      some ⟨runtime.epoch+1,gated.decision.nextState⟩ := by
    unfold GateRuntime.advance
    rw [if_neg (not_not.mpr epoch)]
  have held := decided.routed.held
  rw [← decided.identity] at held
  unfold advanceGate
  dsimp only
  rw [if_neg current]
  cases route : gated.route with
  | serving =>
    rw [route] at held
    have serving : state.gates.servingMut=runtime := by
      unfold TargetGateSet.servingMut
      rw [show state.gates.serving=some runtime from held]
      rfl
    dsimp only
    rw [serving,advances]
    rfl
  | candidate =>
    rw [route] at held
    have found : state.gates.candidates[gated.identity]?=some runtime := held
    have opened : (state.gates.candidateMut gated.identity none).1=runtime := by
      unfold TargetGateSet.candidateMut
      dsimp only
      rw [ExtTreeMap.getElem?_filter',found,decide_eq_true rfl]
      rfl
    have kept := candidateMut_kept state.gates gated.identity none
    rw [opened] at kept
    have single : ((state.gates.candidateMut gated.identity none).2.setCandidate gated.identity
        ⟨runtime.epoch+1,gated.decision.nextState⟩)=⟨state.gates.serving,
          ExtTreeMap.insert ∅ gated.identity ⟨runtime.epoch+1,gated.decision.nextState⟩⟩ := by
      unfold TargetGateSet.setCandidate
      rw [kept,insert_insert_self]
      rfl
    dsimp only
    rw [opened,advances]
    dsimp only
    rw [single]
    unfold TargetGateSet.advanced
    cases outcome.classification.isSuccess with
    | false => rfl
    | true =>
      dsimp only
      unfold TargetGateSet.promoteCandidate
      dsimp only
      rw [getElem?_insert_eq,if_pos (Eq.refl gated.identity)]

/-- The gate set after a commit: the runtime of the decision takes it on, unless the
storage found that the Catalog was replaced. -/
def TargetGateSet.settled (gates : TargetGateSet) (gated : Option Gated)
    (outcome : OpenCommitOutcome) : TargetGateSet :=
  match gated with
  | none => gates
  | some gated =>
    if outcome.classification=.staleCatalogRace then gates
    else gates.advanced gated.identity
      ⟨gated.decision.gateEpoch+1,gated.decision.nextState⟩ outcome.classification.isSuccess
      gated.route

def gateHolds (gated : Option Gated) : Bool :=
  gated.any (fun gated => gated.decision.disposition=.hold)

variable {cmd : OpenPullCommand} {captured : Nat} {response : OpenSectionsResponse}
  {completedAtText : Timestamp} {watched : List SectionKey} {gated : Option Gated}

inductive Commits (command : OpenPullCommand) (response : OpenSectionsResponse)
    (inputs : ReconcileInputs) (completedAtText : Timestamp) (watched : List SectionKey)
    (gated : Option Gated) (state : PullState P) :
    Except PullStop OpenPullExecution → PullState P → Prop
  | unplanned (error : ReconcileInputError)
      (failed : reconcileOpenSet inputs.captured inputs.catalog inputs.openSet
        (gateHolds gated)=.error error) :
      Commits command response inputs completedAtText watched gated state
        (.error (.error (.reconcile error))) state
  | refused (plan : OpenReconcilePlan) (error : StorageError) (after : P)
      (planned : reconcileOpenSet inputs.captured inputs.catalog inputs.openSet
        (gateHolds gated)=.ok plan)
      (called : OpenPullPersistence.finishOpenPullSuccess (finishCommand command response
        completedAtText watched (gateHolds gated) (gated.map (fun gated => gated.identity.value)))
          state.persistence=(.error error,after)) :
      Commits command response inputs completedAtText watched gated state
        (.error (.error (.storage error))) ⟨after,state.gates⟩
  | diverged (plan : OpenReconcilePlan) (outcome : OpenCommitOutcome) (after : P)
      (planned : reconcileOpenSet inputs.captured inputs.catalog inputs.openSet
        (gateHolds gated)=.ok plan)
      (called : OpenPullPersistence.finishOpenPullSuccess (finishCommand command response
        completedAtText watched (gateHolds gated) (gated.map (fun gated => gated.identity.value)))
          state.persistence=(.ok outcome,after))
      (apart : ¬outcomeMatchesReconcile outcome plan) :
      Commits command response inputs completedAtText watched gated state
        (.error (.error .reconcileDivergence)) ⟨after,state.gates⟩
  | committed (plan : OpenReconcilePlan) (outcome : OpenCommitOutcome) (after : P)
      (planned : reconcileOpenSet inputs.captured inputs.catalog inputs.openSet
        (gateHolds gated)=.ok plan)
      (called : OpenPullPersistence.finishOpenPullSuccess (finishCommand command response
        completedAtText watched (gateHolds gated) (gated.map (fun gated => gated.identity.value)))
          state.persistence=(.ok outcome,after))
      (accepted : outcomeMatchesReconcile outcome plan) :
      Commits command response inputs completedAtText watched gated state
        ((executed command response plan outcome (.ofList watched)).mapError .error)
        ⟨after,state.gates.settled gated outcome⟩

omit [OpenPullPersistence P] in
/-- A commit advances the runtime that its decision was made on. -/
theorem advanceGate_settled {gates : TargetGateSet}
    (decided : ∀gate,gated=some gate → ∃rt,Decided inputs ca gates gate rt)
    (out : OpenCommitOutcome) (pe : P) :
    advanceGate gated out ⟨pe,gates⟩= (.ok (),⟨pe,gates.settled gated out⟩) := by
  cases gated with
  | none => rfl
  | some gate =>
    by_cases raced : out.classification=.staleCatalogRace
    · unfold advanceGate TargetGateSet.settled
      dsimp only
      rw [if_pos raced,if_pos raced]
    obtain ⟨rt,made⟩ := decided gate rfl
    obtain ⟨epoch,-⟩ := made.verdict
    have advanced : advanceGate (some gate) out ⟨pe,gates⟩=_ := advanceGate_eq made raced
    rw [advanced]
    unfold TargetGateSet.settled
    dsimp only
    rw [if_neg raced,epoch]

theorem commitResponse_commits
    (decided : ∀gate,gated=some gate → ∃rt,Decided inputs ca state.gates gate
      rt) {res : Except PullStop OpenPullExecution}
    (h : commitResponse cmd response inputs gated completedAtText watched state=
      (res,after)) :
    Commits cmd response inputs completedAtText watched gated state res after := by
  rcases attempt_check h with ⟨error,failed,rfl,rfl⟩ | ⟨plan,planned,rest⟩
  · obtain ⟨error,planned,rfl⟩ := mapError_error failed
    exact .unplanned error planned
  have planned := mapError_ok planned
  rcases attempt_call rest with ⟨error,failed,rfl,rfl⟩ | ⟨out,answered,settles⟩
  · exact .refused plan error _ planned (Prod.ext failed rfl)
  by_cases accepted : outcomeMatchesReconcile out plan
  · rw [if_neg (not_not.mpr accepted),advanceGate_settled decided] at settles
    cases settles
    exact .committed plan out _ planned (Prod.ext answered rfl) accepted
  · rw [if_pos accepted] at settles
    cases settles
    exact .diverged plan out _ planned (Prod.ext answered rfl) accepted

end Phases

end CoursePlanner.Open
