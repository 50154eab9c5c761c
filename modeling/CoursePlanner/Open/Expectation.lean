import CoursePlanner.Open.Gating

namespace CoursePlanner.Open

open Std Library Contracts Storage

/-- A baseline that expects no open section. -/
structure BaselineEpoch.Blank (baseline : BaselineEpoch) : Prop where
  window : ∀count∈baseline.window,count=0
  floor : ∀count,baseline.lkgFloor=some count → count=0

namespace BaselineEpoch

variable {bl : BaselineEpoch}

theorem seeded_blank (idn : CatalogSetIdentity) {floor : Option Nat}
    (h : ∀count,floor=some count → count=0) : (seeded idn floor).Blank :=
  ⟨nofun,h⟩

theorem unseeded_blank (idn : CatalogSetIdentity) : (seeded idn none).Blank :=
  seeded_blank idn nofun

theorem Blank.pushApplied (h : bl.Blank) {observed : Nat} (none : observed=0) :
    (bl.pushApplied observed).Blank := by
  refine ⟨?_,h.floor⟩
  intro count member
  rcases List.mem_append.mp member with earlier | last
  · split at earlier
    · exact h.window count (List.mem_of_mem_tail earlier)
    · exact h.window count earlier
  · exact (List.mem_singleton.mp last).trans none

theorem Blank.value (h : bl.Blank) : bl.value.getD 0=0 := by
  have median : ∀count,bl.lowerMedian=some count → count=0 := by
    intro count found
    have listed := List.mem_of_getElem? found
    exact h.window count ((List.mem_insertionSort _).mp listed)
  unfold BaselineEpoch.value
  cases middle : bl.lowerMedian with
  | none =>
    cases floor : bl.lkgFloor with
    | none => rfl
    | some count => exact h.floor count floor
  | some count =>
    have none := median count middle
    cases floor : bl.lkgFloor with
    | none => exact none
    | some least =>
      have zero := h.floor least floor
      simp [none,zero]

end BaselineEpoch

/-- A state that expects nothing of one Catalog. -/
def GateState.BlankFor (identity : CatalogSetIdentity) : GateState → Prop
  | .healthy none => True
  | .healthy (some baseline) => baseline.catalogIdentity=identity → baseline.Blank
  | .quarantined baseline _ => baseline.catalogIdentity=identity → baseline.Blank

section Verdicts

variable [Sha256] {sample : GateSample} {state next : GateState} {kind : GateDecisionKind}
  {disposition : GateDisposition} {idn : CatalogSetIdentity}

theorem Verdict.blank (h : Verdict sample state kind disposition next)
    (before : state.BlankFor idn)
    (nothing : sample.catalogIdentity=idn → sample.observed.size=0) :
    next.BlankFor idn := by
  have fresh : ∀bl : BaselineEpoch,bl.catalogIdentity=sample.catalogIdentity →
      bl.catalogIdentity=idn → ((BaselineEpoch.seeded bl.catalogIdentity
        none).pushApplied sample.observed.size).Blank := by
    intro bl same own
    exact (BaselineEpoch.unseeded_blank _).pushApplied (nothing (same.symm.trans own))
  cases h with
  | unseeded =>
    intro own
    exact (BaselineEpoch.unseeded_blank _).pushApplied (nothing own)
  | passed bl same | recovered bl episode same =>
    intro own
    exact (before own).pushApplied (nothing (same.symm.trans own))
  | entered | reanchored | continued => exact before
  | confirmed bl _ same =>
    exact fresh bl same

theorem Verdict.applies_blank (h : Verdict sample state kind disposition next)
    (blank : state.BlankFor sample.catalogIdentity) : disposition=.apply := by
  have near : ∀observed,GateRuntime.recoveredNearReference 0 observed=true := by
    intro observed
    rw [GateRuntime.recoveredNearReference_eq_true]
    omega
  have small : ∀observed,GateRuntime.shrinkIsSuspect 0 observed=false := by
    intro observed
    rw [GateRuntime.shrinkIsSuspect_eq_false]
    omega
  cases h with
  | unseeded | passed | recovered | confirmed => rfl
  | entered bl same large =>
    rw [(blank same).value,small] at large
    cases large
  | reanchored _ _ same far | continued _ _ same far =>
    rw [(blank same).value,near] at far
    cases far

end Verdicts

/-- No runtime of a gate set expects anything of one Catalog. -/
structure TargetGateSet.BlankFor (gates : TargetGateSet) (identity : CatalogSetIdentity) :
    Prop where
  serving : ∀runtime,gates.serving=some runtime → runtime.state.BlankFor identity
  candidates : ∀(key : CatalogSetIdentity) runtime,gates.candidates[key]?=some runtime →
    runtime.state.BlankFor identity

theorem TargetGateSet.BlankFor.new (idn : CatalogSetIdentity) :
    TargetGateSet.new.BlankFor idn :=
  ⟨nofun,fun key rt found => by simp [TargetGateSet.new] at found⟩

theorem TargetGateSet.BlankFor.runtimeOf {gates : TargetGateSet} {idn key : CatalogSetIdentity}
    (h : gates.BlankFor idn) {route : OpenGateRoute} {rt : GateRuntime}
    (held : gates.runtimeOf key route=some rt) : rt.state.BlankFor idn := by
  cases route with
  | serving => exact h.serving rt held
  | candidate => exact h.candidates key rt held

section Settled

variable [Sha256] {inputs : ReconcileInputs} {now : OffsetDateTime} {route : OpenGateRoute}
  {before after gates : TargetGateSet} {idn : CatalogSetIdentity}

omit [Sha256] in
theorem seeded_blankFor {reference : Option Nat} (covered : inputs.Covers reference)
    {own : CatalogSetIdentity} (empty : own=idn → inputs.catalog.sections.size=0) :
    ∀count,reference=some count →
      (GateState.healthy (some (.seeded own (some count)))).BlankFor idn := by
  intro count counted same
  apply BaselineEpoch.seeded_blank
  intro floor equal
  cases equal
  have bound := covered count counted
  have none := empty same
  omega

omit [Sha256] in
theorem rebuilt_blankFor {own : CatalogSetIdentity} {reference : Option Nat}
    (covered : inputs.Covers reference)
    (empty : own=idn → inputs.catalog.sections.size=0)
    (summaries : List RestartAttemptSummary) :
    (rebuildAfterRestart own reference summaries now).state.BlankFor idn := by
  have seeded := seeded_blankFor covered empty
  unfold rebuildAfterRestart
  cases reference with
  | none =>
    dsimp only
    split
    · trivial
    · split <;> trivial
  | some reference =>
    have healthy := seeded reference rfl
    dsimp only
    split
    · exact healthy
    · split
      · exact healthy
      · split <;> exact healthy

theorem Prepares.blank (h : Prepares inputs now route before after)
    (blank : before.BlankFor idn)
    (empty : inputs.identity=idn → inputs.catalog.sections.size=0) :
    after.BlankFor idn := by
  cases h with
  | untouched => exact blank
  | rebuilt _ absent reference covered summaries =>
    refine ⟨?_,blank.candidates⟩
    intro rt same
    cases same
    exact rebuilt_blankFor covered empty summaries
  | reset _ serving held other floor covered =>
    refine ⟨?_,blank.candidates⟩
    intro rt same
    cases same
    cases floor with
    | none => trivial
    | some floor => exact seeded_blankFor covered empty floor rfl
  | opened _ seed covered =>
    refine ⟨blank.serving,?_⟩
    intro key rt found
    rw [candidateMut_kept,getElem?_insert_eq] at found
    split at found
    · cases found
      unfold TargetGateSet.candidateMut
      dsimp only
      rw [ExtTreeMap.getElem?_filter']
      cases kept : before.candidates[inputs.identity]? with
      | none =>
        cases seed with
        | none => trivial
        | some floor => exact seeded_blankFor covered empty floor rfl
      | some rt =>
        rw [Option.filter_some,if_pos (decide_eq_true rfl)]
        exact blank.candidates _ rt kept
    · simp at found

variable {gated : Option Gated} {outcome : OpenCommitOutcome}

/-- Every candidate is filed under its own Catalog, and there is at most one. -/
structure TargetGateSet.Filed (gates : TargetGateSet) : Prop where
  keyed : gates.Keyed
  single : gates.candidates.size ≤ 1

omit [Sha256] in
theorem TargetGateSet.Filed.new : TargetGateSet.new.Filed := ⟨.new,by simp [TargetGateSet.new]⟩

theorem Prepares.filed (h : Prepares inputs now route before after) (filed : before.Filed) :
    after.Filed :=
  ⟨h.keyed filed.keyed,h.candidates_le filed.single⟩

omit [Sha256] in
theorem single_candidate {key : CatalogSetIdentity} {runtime found : GateRuntime}
    {other : CatalogSetIdentity}
    (h : (ExtTreeMap.insert ∅ key runtime : ExtTreeMap CatalogSetIdentity GateRuntime)[other]?=
      some found) : other=key ∧ found=runtime := by
  rcases of_getElem?_insert h with ⟨rfl,rfl⟩ | nowhere
  · exact ⟨rfl,rfl⟩
  · simp at nowhere

theorem settled_filed (filed : gates.Filed)
    (decided : ∀gate,gated=some gate → ∃runtime,Decided inputs now gates gate runtime) :
    (gates.settled gated outcome).Filed := by
  cases gated with
  | none => exact filed
  | some gate =>
    obtain ⟨runtime,made⟩ := decided gate rfl
    have keyed : gate.decision.nextState.keyedBy gate.identity := by
      rw [made.identity]
      exact made.verdict.2.keyed
    unfold TargetGateSet.settled
    dsimp only
    split
    · exact filed
    cases gate.route with
    | serving => exact ⟨filed.keyed,filed.single⟩
    | candidate =>
      unfold TargetGateSet.advanced
      dsimp only
      split
      · exact ⟨fun key runtime found => by simp at found,by simp⟩
      refine ⟨?_,ExtTreeMap.size_insert_le⟩
      intro key runtime found
      obtain ⟨rfl,rfl⟩ := single_candidate found
      exact keyed

theorem settled_blank (blank : gates.BlankFor idn)
    (decided : ∀gate,gated=some gate → ∃runtime,Decided inputs now gates gate runtime)
    (empty : inputs.identity=idn → inputs.catalog.sections.size=0) :
    (gates.settled gated outcome).BlankFor idn := by
  cases gated with
  | none => exact blank
  | some gate =>
    obtain ⟨runtime,made⟩ := decided gate rfl
    have next : gate.decision.nextState.BlankFor idn := by
      apply made.verdict.2.blank (blank.runtimeOf made.routed.held)
      intro own
      have bound : inputs.observed.size ≤ inputs.catalog.sections.size :=
        size_listed_le inputs.catalog inputs.openSet.indexes
      have none := empty own
      change inputs.observed.size=0
      omega
    have installed : ∀runtime,
        some (GateRuntime.mk (gate.decision.gateEpoch+1) gate.decision.nextState)=some runtime →
        runtime.state.BlankFor idn := by
      intro runtime same
      cases same
      exact next
    unfold TargetGateSet.settled
    dsimp only
    split
    · exact blank
    cases gate.route with
    | serving => exact ⟨installed,blank.candidates⟩
    | candidate =>
      unfold TargetGateSet.advanced
      dsimp only
      split
      · exact ⟨installed,fun key runtime found => by simp at found⟩
      refine ⟨blank.serving,?_⟩
      intro key runtime found
      obtain ⟨rfl,rfl⟩ := single_candidate found
      exact next

end Settled

end CoursePlanner.Open
