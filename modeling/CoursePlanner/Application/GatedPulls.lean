import CoursePlanner.Application.PullRuns

set_option maxRecDepth 8000

namespace CoursePlanner.Application

open Std Library Contracts Storage Open

namespace OpenPull

variable [Sha256] [RutgersCalendar] {pull : OpenPull} {sys : PullSystem}

/-- A Catalog with sections that the pull is reconciled with does not have the hash of the
empty one. -/
def TellsEmpty (pull : OpenPull) (system : PullSystem) : Prop :=
  ∀reconciling,pull.reconciling system=some reconciling →
    reconciling.inputs.identity=catalogSectionSetIdentityV1 [] →
    reconciling.inputs.catalog.sections.size=0

theorem gateDecision_eq {rc : Reconciling}
    (h : pull.reconciling sys=some rc) {res : Except PullStop (Option Gated)}
    {state : PullState ShortLockOpenPersistence}
    (answered : pull.answer rc=(res,state)) :
    pull.gateDecision sys=res.toOption.join ∧ pull.preparedGates sys=state.gates := by
  constructor
  · simp [gateDecision,h,answered]
  · simp [preparedGates,h,answered]

theorem gateDecision_decided (sound : sys.Sound) {gated : Gated}
    (h : pull.gateDecision sys=some gated) :
    ∃reconciling runtime,pull.reconciling sys=some reconciling ∧
      pull.command.gate=some gated.route ∧ ¬reconciling.inputs.isHardReject ∧
      Decided reconciling.inputs pull.completedAt (pull.preparedGates sys) gated runtime := by
  cases reconciled : pull.reconciling sys with
  | none => simp [gateDecision,reconciled] at h
  | some reconciling =>
    rcases answered : pull.answer reconciling with ⟨result,state⟩
    obtain ⟨decision,prepared⟩ := gateDecision_eq reconciled answered
    obtain ⟨-,-,⟨-,rfl,-⟩ | ⟨route,gate,usable,-,decided⟩⟩ := answer_cases sound reconciled answered
    · rw [decision] at h
      cases h
    cases result with
    | error stop =>
      rw [decision] at h
      cases h
    | ok chosen =>
      obtain ⟨made,runtime,rfl,same,facts⟩ := decided chosen rfl
      rw [decision] at h
      cases h
      rw [prepared]
      exact ⟨reconciling,runtime,rfl,same ▸ gate,usable,facts⟩

theorem preparedGates_cases (sound : sys.Sound) : pull.preparedGates sys=sys.gates ∨
      ∃rc route,pull.reconciling sys=some rc ∧ pull.command.gate=some route ∧
        Prepares rc.inputs pull.completedAt route sys.gates (pull.preparedGates sys) := by
  cases rec : pull.reconciling sys with
  | none =>
    simp [preparedGates,rec]
  | some rc =>
    rcases answered : pull.answer rc with ⟨res,state⟩
    obtain ⟨-,prepared⟩ := gateDecision_eq rec answered
    rw [prepared]
    obtain ⟨-,-,⟨-,-,same⟩ | ⟨route,gate,-,prepares,-⟩⟩ := answer_cases sound rec answered
    · exact .inl same
    · exact .inr ⟨rc,route,rfl,gate,prepares⟩

theorem preparedGates_filed (sound : sys.Sound) : (pull.preparedGates sys).Filed := by
  rcases preparedGates_cases sound with same | ⟨_,_,-,-,prepares⟩
  · rw [same]
    exact sound.filed
  · exact prepares.filed sound.filed

theorem preparedGates_blank (sound : sys.Sound) (tells : pull.TellsEmpty sys)
    (blank : sys.gates.BlankFor (catalogSectionSetIdentityV1 [])) :
    (pull.preparedGates sys).BlankFor (catalogSectionSetIdentityV1 []) := by
  rcases preparedGates_cases sound with same | ⟨rc,_,rec,-,prepares⟩
  · rw [same]
    exact blank
  · exact prepares.blank blank (tells rc rec)

def settledGates (pull : OpenPull) (system : PullSystem) : TargetGateSet :=
  match pull.commitment system with
  | none => pull.preparedGates system
  | some outcome => (pull.preparedGates system).settled (pull.gateDecision system) outcome

theorem execute_gates (sound : sys.Sound) (proper : pull.Proper sys.db) :
    (pull.execute sys).2.gates=pull.settledGates sys := by
  have ends := execute_ends sound proper
  unfold settledGates
  generalize pull.execute sys=res at ends
  obtain ⟨res,after⟩ := res
  cases ends with
  | stopped _ _ _ _ gates uncommitted =>
    rw [uncommitted]
    exact gates
  | failed execution after settled gates unreconciled =>
    have uncommitted : pull.commitment sys=none := by simp [commitment,unreconciled]
    have prepared : pull.preparedGates sys=sys.gates := by
      simp [preparedGates,unreconciled]
    rw [uncommitted,prepared]
    exact gates
  | committed _ _ _ _ _ _ reconciled answered _ committed =>
    obtain ⟨decision,prepared⟩ := gateDecision_eq reconciled answered
    rw [committed,decision,prepared]
    rfl

theorem settledGates_filed (sound : sys.Sound) : (pull.settledGates sys).Filed := by
  have filed : (pull.preparedGates sys).Filed := preparedGates_filed sound
  unfold settledGates
  split
  · exact filed
  cases decided : pull.gateDecision sys with
  | none => exact filed
  | some gated =>
    obtain ⟨reconciling,runtime,-,-,-,facts⟩ := gateDecision_decided sound decided
    apply settled_filed filed
    intro gate same
    cases same
    exact ⟨runtime,facts⟩

theorem settledGates_blank (sound : sys.Sound) (tells : pull.TellsEmpty sys)
    (blank : sys.gates.BlankFor (catalogSectionSetIdentityV1 [])) :
    (pull.settledGates sys).BlankFor (catalogSectionSetIdentityV1 []) := by
  have prepared := preparedGates_blank sound tells blank
  unfold settledGates
  split
  · exact prepared
  cases decided : pull.gateDecision sys with
  | none => exact prepared
  | some gated =>
    obtain ⟨reconciling,runtime,reconciled,-,-,facts⟩ := gateDecision_decided sound decided
    have made : ∀gate,some gated=some gate → ∃runtime,Decided reconciling.inputs
        pull.completedAt (pull.preparedGates sys) gate runtime := by
      intro gate same
      cases same
      exact ⟨runtime,facts⟩
    exact settled_blank prepared made (tells reconciling reconciled)

theorem execute_sound (sound : sys.Sound) (proper : pull.Proper sys.db) :
    (pull.execute sys).2.Sound := by
  have gates := execute_gates sound proper
  have ends := execute_ends sound proper
  have filed : (pull.settledGates sys).Filed := settledGates_filed sound
  rw [← gates] at filed
  refine ⟨?_,filed⟩
  generalize pull.execute sys=res at ends
  obtain ⟨res,after⟩ := res
  cases ends with
  | stopped _ _ _ settled | failed _ _ settled | committed _ _ _ _ _ _ _ _ _ _ _ settled =>
    exact settled

structure Committed (pull : OpenPull) (system : PullSystem) (reconciling : Reconciling)
    (plan : OpenReconcilePlan) (outcome : OpenCommitOutcome) : Prop where
  reconciled : pull.reconciling system=some reconciling
  planned : reconcileOpenSet reconciling.inputs.captured reconciling.inputs.catalog
    reconciling.inputs.openSet (gateHolds (pull.gateDecision system))=.ok plan
  matched : Matched reconciling.captured reconciling.current plan outcome
  stored : ∃row∈((pull.execute system).2.db.tables pull.command.target).attempts,
    row.attemptId=pull.command.attemptId ∧ row.classification=outcome.classification

theorem commitment_committed (sound : sys.Sound) (proper : pull.Proper sys.db)
    {outcome : OpenCommitOutcome} (h : pull.commitment sys=some outcome) :
    ∃reconciling plan,Committed pull sys reconciling plan outcome := by
  have ends := execute_ends sound proper
  rcases executed : pull.execute sys with ⟨result,after⟩
  rw [executed] at ends
  cases ends with
  | stopped _ _ _ _ _ uncommitted =>
    rw [uncommitted] at h
    cases h
  | failed _ _ _ _ unreconciled =>
    simp [commitment,unreconciled] at h
  | committed reconciling gated _ plan _ _ reconciled answered planned committed matched _ _ row stored =>
    rw [committed] at h
    cases h
    obtain ⟨decision,-⟩ := gateDecision_eq reconciled answered
    refine ⟨reconciling,plan,reconciled,decision ▸ planned,matched,row,?_,?_,?_⟩
    · rw [executed]
      exact stored.settles.listed.2
    · exact stored.settles.start.attemptId.trans stored.named
    · exact stored.finished.classification

omit [Sha256] [RutgersCalendar] in
theorem classifyOpenResponse_suspect (can catalog : ExtTreeSet SectionIndex)
    (intersection : Nat) (hold : Bool) :
    classifyOpenResponse can catalog intersection hold=.suspectPartialSnapshot ↔
      hold=true ∧ ¬(can.isEmpty=true ∧ catalog.isEmpty=true) ∧
        ¬(can.isEmpty=false ∧ catalog.isEmpty=false ∧ intersection=0) := by
  unfold classifyOpenResponse
  cases can.isEmpty <;> cases catalog.isEmpty <;> cases hold <;>
    by_cases none : intersection=0 <;> simp [none]

omit [Sha256] [RutgersCalendar] in
theorem gateHolds_iff (gated : Option Gated) :
    gateHolds gated=true ↔ ∃gate,gated=some gate ∧ gate.decision.disposition=.hold := by
  cases gated with
  | none | some => simp [gateHolds]

/-- A response is held exactly if the gate holds it and the Catalog is still the one that
was captured. -/
theorem commitment_suspect (sound : sys.Sound) (proper : pull.Proper sys.db)
    (tells : pull.TellsEmpty sys)
    (blank : sys.gates.BlankFor (catalogSectionSetIdentityV1 []))
    {outcome : OpenCommitOutcome} (h : pull.commitment sys=some outcome) :
    outcome.classification=.suspectPartialSnapshot ↔
      (∃gated,pull.gateDecision sys=some gated ∧ gated.decision.disposition=.hold) ∧
        outcome.classification≠.staleCatalogRace := by
  obtain ⟨reconciling,plan,facts⟩ := commitment_committed sound proper h
  by_cases raced : outcome.classification=.staleCatalogRace
  · rw [raced]
    simp
  have accepted := facts.matched.accepted
  rw [outcomeMatchesReconcile,if_neg raced] at accepted
  obtain ⟨row,reconciled⟩ := reconciling_reconciled sound.db facts.reconciled
  obtain ⟨-,-,-,sections,-⟩ := reconcileInputs_ok reconciled.inputs
  have own := reconciled.same_target
  have current : reconciling.inputs.captured=reconciling.inputs.catalog.contentVersion := by
    by_contra apart
    have planned := facts.planned
    rw [reconcileOpenSet_raced own apart] at planned
    cases planned
    exact raced accepted.1
  have planned := facts.planned
  rw [current] at planned
  obtain ⟨classification,done,stored⟩ := reconcileOpenSet_current own sections
    (gateHolds (pull.gateDecision sys))
  rw [done] at planned
  cases planned
  have classified : outcome.classification=_ := accepted.1.trans stored
  rw [classified,classifyOpenResponse_suspect,gateHolds_iff]
  rw [← classified]
  constructor
  · rintro ⟨held,-,-⟩
    exact ⟨held,raced⟩
  · rintro ⟨⟨gated,decided,holds⟩,-⟩
    obtain ⟨other,runtime,again,-,usable,made⟩ := gateDecision_decided sound decided
    rw [facts.reconciled] at again
    cases again
    refine ⟨⟨gated,decided,holds⟩,?_,?_⟩
    · -- The gate holds nothing back from an empty Catalog.
      rintro ⟨-,empty⟩
      rw [← isEmpty_sections sections] at empty
      have identity : reconciling.inputs.identity=catalogSectionSetIdentityV1 [] := by
        unfold ReconcileInputs.identity
        rw [ExtTreeMap.isEmpty_iff.mp empty]
        rfl
      have expects := (preparedGates_blank sound tells blank).runtimeOf made.routed.held
      rw [← identity] at expects
      have applies := made.verdict.2.applies_blank expects
      rw [applies] at holds
      cases holds
    · rintro ⟨some,listed,none⟩
      apply usable
      right
      refine ⟨?_,?_,?_⟩
      · rw [Nat.pos_iff_ne_zero]
        intro zero
        rw [ExtTreeSet.isEmpty_eq_size_beq_zero,zero] at some
        cases some
      · rw [← isEmpty_sections sections,ExtTreeMap.isEmpty_eq_size_beq_zero] at listed
        simpa [Nat.pos_iff_ne_zero] using listed
      · unfold ReconcileInputs.observed
        rw [ExtTreeSet.isEmpty_eq_size_beq_zero,none]
        rfl

/-- How the gate set follows the commits of a pull: its assertions hold, the runtime of a
decision takes it on exactly with a commit that is no race, and on the state that it was
made on. -/
structure GateFollows (pull : OpenPull) (system : PullSystem) : Prop where
  asserted : (pull.execute system).1≠.error .panic
  prepared : pull.preparedGates system=system.gates ∨ ∃inputs route,
    pull.command.gate=some route ∧
      Prepares inputs pull.completedAt route system.gates (pull.preparedGates system)
  decided : ∀gated,pull.gateDecision system=some gated → pull.command.gate=some gated.route ∧
    ∃inputs runtime,Decided inputs pull.completedAt (pull.preparedGates system) gated runtime ∧
      runtime.advance gated.decision=some ⟨runtime.epoch+1,gated.decision.nextState⟩
  advanced : (pull.execute system).2.gates=
    match pull.gateDecision system,pull.commitment system with
    | some gated,some outcome =>
      if outcome.classification=.staleCatalogRace then pull.preparedGates system
      else (pull.preparedGates system).advanced gated.identity
        ⟨gated.decision.gateEpoch+1,gated.decision.nextState⟩
        outcome.classification.isSuccess gated.route
    | _,_ => pull.preparedGates system
  suspect : ∀outcome,pull.commitment system=some outcome →
    (∃row∈((pull.execute system).2.db.tables pull.command.target).attempts,
      row.attemptId=pull.command.attemptId ∧ row.classification=outcome.classification) ∧
    (outcome.classification=.suspectPartialSnapshot ↔
      (∃gated,pull.gateDecision system=some gated ∧ gated.decision.disposition=.hold) ∧
        outcome.classification≠.staleCatalogRace)
  candidate : pull.command.gate=some .candidate →
    (pull.execute system).2.gates.serving=system.gates.serving ∨
      ∃outcome gated,pull.commitment system=some outcome ∧
        outcome.classification.isSuccess=true ∧ pull.gateDecision system=some gated ∧
        (pull.execute system).2.gates.serving=
          some ⟨gated.decision.gateEpoch+1,gated.decision.nextState⟩
  single : (pull.execute system).2.gates.candidates.size ≤ 1

theorem settledGates_eq (pull : OpenPull) (sys : PullSystem) : pull.settledGates sys=
      match pull.gateDecision sys,pull.commitment sys with
      | some gated,some out =>
        if out.classification=.staleCatalogRace then pull.preparedGates sys
        else (pull.preparedGates sys).advanced gated.identity
          ⟨gated.decision.gateEpoch+1,gated.decision.nextState⟩
          out.classification.isSuccess gated.route
      | _,_ => pull.preparedGates sys := by
  unfold settledGates
  cases pull.gateDecision sys <;> cases pull.commitment sys <;> rfl

/-- A candidate pull only replaces the serving runtime, by its own one and if it succeeds. -/
theorem settledGates_serving (sound : sys.Sound) (gate : pull.command.gate=some .candidate) :
    (pull.settledGates sys).serving=sys.gates.serving ∨
      ∃outcome gated,pull.commitment sys=some outcome ∧
        outcome.classification.isSuccess=true ∧ pull.gateDecision sys=some gated ∧
        (pull.settledGates sys).serving=
          some ⟨gated.decision.gateEpoch+1,gated.decision.nextState⟩ := by
  have prepared : (pull.preparedGates sys).serving=sys.gates.serving := by
    rcases preparedGates_cases sound with same | ⟨_,route,-,own,prepares⟩
    · rw [same]
    · rw [gate] at own
      cases own
      exact prepares.serving
  rw [settledGates_eq]
  cases decided : pull.gateDecision sys with
  | none => exact .inl prepared
  | some gated =>
    cases committed : pull.commitment sys with
    | none => exact .inl prepared
    | some outcome =>
      dsimp only
      split
      · exact .inl prepared
      obtain ⟨_,_,-,own,-,-⟩ := gateDecision_decided sound decided
      rw [gate] at own
      rw [← Option.some.inj own]
      cases success : outcome.classification.isSuccess with
      | false => exact .inl prepared
      | true => exact .inr ⟨outcome,gated,rfl,success,rfl,rfl⟩

theorem gateFollows (sound : sys.Sound) (proper : pull.Proper sys.db)
    (tells : pull.TellsEmpty sys)
    (blank : sys.gates.BlankFor (catalogSectionSetIdentityV1 [])) :
    GateFollows pull sys := by
  have gates := execute_gates sound proper
  refine ⟨?_,?_,?_,?_,?_,?_,?_⟩
  · have ends := execute_ends sound proper
    generalize pull.execute sys=result at ends
    obtain ⟨result,after⟩ := result
    cases ends with
    | stopped stop after ordinary =>
      obtain ⟨error,rfl,-⟩ := ordinary
      exact nofun
    | failed => exact nofun
    | committed reconciling gated state plan outcome =>
      cases executed pull.command reconciling.response plan outcome (.ofList pull.watched) with
      | ok | error => exact nofun
  · rcases preparedGates_cases sound with same | ⟨reconciling,route,-,gate,prepares⟩
    · exact .inl same
    · exact .inr ⟨reconciling.inputs,route,gate,prepares⟩
  · intro gated decided
    obtain ⟨reconciling,runtime,-,gate,-,facts⟩ := gateDecision_decided sound decided
    refine ⟨gate,reconciling.inputs,runtime,facts,?_⟩
    exact if_neg (not_not.mpr facts.verdict.1)
  · rw [gates,settledGates_eq]
  · intro outcome committed
    obtain ⟨_,_,facts⟩ := commitment_committed sound proper committed
    exact ⟨facts.stored,commitment_suspect sound proper tells blank committed⟩
  · rw [gates]
    exact settledGates_serving sound
  · rw [gates]
    exact (settledGates_filed sound).single

/-- In every sequence of pulls on a gate set, and with whatever other callers do in between,
every pull leaves the gate set where its commit puts it. -/
theorem gates_follow_commits (operations : List StorageOperation) (pulls : List OpenPull)
    (proper : Along execute (fun system pull => pull.Proper system.db ∧ pull.TellsEmpty system)
      ⟨run Database.perform Database.new operations,.new⟩ pulls) :
    Along execute (fun system pull => pull.GateFollows system)
      ⟨run Database.perform Database.new operations,.new⟩ pulls := by
  have start : (PullSystem.mk (run Database.perform Database.new operations) .new).Sound :=
    ⟨Database.Sound.new.run operations,.new⟩
  have blank : (PullSystem.mk (run Database.perform Database.new operations)
    .new).gates.BlankFor (catalogSectionSetIdentityV1 []) := .new _
  generalize PullSystem.mk (run Database.perform Database.new operations) .new=system
    at proper start blank
  induction pulls generalizing system with
  | nil => trivial
  | cons pull pulls ih =>
    obtain ⟨⟨own,tells⟩,rest⟩ := proper
    refine ⟨gateFollows start own tells blank,?_⟩
    apply ih _ rest (execute_sound start own)
    rw [execute_gates start own]
    exact settledGates_blank start tells blank

end OpenPull

section Closed

local instance gatedSha256 : Sha256 := plainSha256
local instance gatedCalendar : RutgersCalendar := ⟨fun _ => some ⟨0⟩⟩

theorem gates_follow_commits_first :
    Along OpenPull.execute (fun system pull => pull.GateFollows system)
      ⟨run Database.perform Database.new (Sample.publication [Storage.Sample.index]),.new⟩
      [Sample.servingPull 2 0 1 [Storage.Sample.index]] ∧
    ((Sample.servingPull 2 0 1 [Storage.Sample.index]).commitment
      ⟨run Database.perform Database.new (Sample.publication [Storage.Sample.index]),.new⟩).isSome=true := by
  refine ⟨OpenPull.gates_follow_commits (Sample.publication [Storage.Sample.index]) _ ⟨⟨⟨?_,nofun⟩,?_⟩,trivial⟩,
    by decide +kernel⟩
  · nofun
  have apart : ((Sample.servingPull 2 0 1 [Storage.Sample.index]).reconciling
      ⟨run Database.perform Database.new (Sample.publication [Storage.Sample.index]),.new⟩).all (fun reconciling =>
        reconciling.inputs.identity≠catalogSectionSetIdentityV1 [])=true := by
    decide +kernel
  intro reconciling found same
  rw [found] at apart
  exact absurd same (of_decide_eq_true apart)

end Closed

end CoursePlanner.Application
