import CoursePlanner.Open.Baseline

namespace CoursePlanner.Open

open Std Library Contracts GateRuntime

/-- Truncation lets the gap reach a second past either bound. -/
theorem withinSampleGap_reaches (later earlier : Int) :
    withinSampleGap later earlier=true ↔
      earlier-1000000000 < later ∧ later < earlier+121000000000 := by
  rw [withinSampleGap_iff]
  unfold wholeSecondsBetween
  have whole := Int.mul_tdiv_add_tmod (later-earlier) 1000000000
  have upper := Int.tmod_lt_of_pos (later-earlier) (b := 1000000000) (by decide)
  have lower := Int.lt_tmod_of_pos (later-earlier) (b := 1000000000) (by decide)
  rcases Int.le_total earlier later with forward | back
  · have positive := Int.tmod_nonneg 1000000000 (Int.sub_nonneg_of_le forward)
    omega
  · have negative := Int.tmod_nonneg 1000000000 (Int.sub_nonneg_of_le back)
    rw [← Int.neg_sub,Int.neg_tmod] at negative
    omega

theorem broken_iff (later earlier : Int) (agrees : Bool) :
    later ≤ earlier-1000000000 ∨ earlier+1000000000*(gateMaxSampleGapSeconds+1) ≤ later ∨
      agrees=false ↔ ¬(withinSampleGap later earlier=true ∧ agrees=true) := by
  have bound : gateMaxSampleGapSeconds=120 := rfl
  rw [withinSampleGap_reaches]
  cases agrees with
  | false => simp
  | true =>
    simp only [Bool.true_eq_false,or_false,and_true]
    omega

/-- A restart reads the 32 latest attempts. -/
inductive GateRuntime.Served : GateRuntime → Prop
  | unseeded : Served .newUnseeded
  | seeded (catalogIdentity : CatalogSetIdentity) (lkgFloor : Nat) :
      Served (.seeded catalogIdentity lkgFloor)
  | rebuilt (catalogIdentity : CatalogSetIdentity) (lkgReference : Option Nat)
      (attemptsNewestFirst : List RestartAttemptSummary) (now : OffsetDateTime)
      (read : attemptsNewestFirst.length ≤ 32) :
      Served (rebuildAfterRestart catalogIdentity lkgReference attemptsNewestFirst now)

/-- An episode counts its anchor. -/
def GateState.Counted : GateState → Prop
  | .healthy _ => True
  | .quarantined _ episode => 0 < episode.consistentCount

theorem restartRun_length (idn : CatalogSetIdentity) (hash : String)
    (attempts : List RestartAttemptSummary) (previous : Option RestartAttemptSummary) :
    (restartRun idn hash previous attempts).length ≤ attempts.length := by
  induction attempts generalizing previous with
  | nil => exact Nat.le_refl 0
  | cons attempt attempts ih =>
    unfold restartRun
    dsimp only
    split
    · exact Nat.succ_le_succ (ih _)
    · exact Nat.zero_le _

theorem GateRuntime.Served.counted {start : GateRuntime} (h : Served start) : start.state.Counted := by
  cases h with
  | unseeded | seeded => trivial
  | rebuilt idn reference attempts now read =>
    unfold rebuildAfterRestart
    cases attempts with
    | nil => cases reference <;> trivial
    | cons newest older =>
    dsimp only
    split
    · cases reference <;> trivial
    next suspect =>
    cases reference with
    | none => trivial
    | some reference =>
    dsimp only
    split
    · trivial
    -- the newest attempt always belongs to its own run
    have belongs : restartRun idn newest.canonicalSetSha256 none (newest::older)=
        newest::restartRun idn newest.canonicalSetSha256 (some newest) older := by
      rw [restartRun]
      simp only [Bool.or_eq_true,Bool.not_eq_true',decide_eq_true_eq,not_or] at suspect
      simp [suspect.1,suspect.2]
    have bound := restartRun_length idn newest.canonicalSetSha256 older (some newest)
    rw [List.length_cons] at read
    simp only [GateState.Counted,belongs,List.length_cons]
    omega

section Served

variable [Sha256] {sample : GateSample}

theorem Verdict.counted {state next : GateState} {kind : GateDecisionKind}
    {dis : GateDisposition} (h : Verdict sample state kind dis next) : next.Counted := by
  cases h with
  | unseeded | passed | recovered | confirmed => trivial
  | entered | reanchored => exact Nat.one_pos
  | continued => exact Nat.lt_min.mpr ⟨Nat.succ_pos _,by decide⟩

theorem operate_counted (r : GateRuntime) (op : GateOperation) (counted : r.state.Counted) :
    (r.operate op).2.state.Counted := by
  cases op with
  | sample sample =>
    change (r.observe sample).2.state.Counted
    by_cases keyed : r.state.keyedBy sample.catalogIdentity
    · obtain ⟨kind,dis,next,rule,observed⟩ := observe_keyed keyed
      rw [observed]
      exact rule.counted
    · rw [observe_unkeyed keyed]
      exact counted
  | reset idn floor => cases floor <;> trivial

/-- A sample re-anchors the episode exactly when it lies a whole second outside the allowed
gap or disagrees with the anchor. -/
theorem GateRuntime.reanchors_iff {start : GateRuntime} (h : Served start)
    (operations : List GateOperation) {bl : BaselineEpoch} {ep : CandidateEpisode}
    (state : (run operate start operations).state=.quarantined bl ep)
    (same : bl.catalogIdentity=sample.catalogIdentity)
    (far : recoveredNearReference (bl.value.getD 0) sample.observed.size=false) :
    ((run operate start operations).observe sample).2.state=.quarantined bl
        (anchoredEpisode sample (canonicalOpenSetHashV1 sample.observed)) ↔
      sample.observedAt ≤ ep.lastSeen-1000000000 ∨
      ep.lastSeen+1000000000*(gateMaxSampleGapSeconds+1) ≤ sample.observedAt ∨
      consistentWithAnchor ep sample (canonicalOpenSetHashV1 sample.observed)=false := by
  have counted := run_invariant (fun r : GateRuntime => r.state.Counted) h.counted operations
    (fun r op _ => operate_counted r op)
  rw [state] at counted
  generalize run operate start operations=r at state
  have keyed : r.state.keyedBy sample.catalogIdentity := by
    rw [state]
    exact same
  obtain ⟨kind,dis,next,rule,observed⟩ := observe_keyed keyed
  rw [observed]
  rw [state] at rule
  refine Iff.trans ?_ (broken_iff sample.observedAt ep.lastSeen _).symm
  cases rule with
  | recovered _ _ _ near => exact absurd near (by simp [far])
  | reanchored _ _ _ _ broken => exact iff_of_true rfl broken
  | confirmed _ _ _ _ adjacent agrees => exact ⟨nofun,fun broken => absurd ⟨adjacent,agrees⟩ broken⟩
  | continued _ _ _ _ adjacent agrees =>
    refine ⟨?_,fun broken => absurd ⟨adjacent,agrees⟩ broken⟩
    intro anchored
    injection anchored with _ anchored
    have count := congrArg CandidateEpisode.consistentCount anchored
    change min (ep.consistentCount+1) u32Max=1 at count
    change 0 < ep.consistentCount at counted
    have : u32Max=4294967295 := rfl
    omega

end Served

section Closed

local instance sampleGapSha256 : Sha256 := plainSha256

/-- Half a second back, and half a second too late. -/
theorem half_second_outside_continues : ∃bl ep,
    (run operate (.seeded ⟨""⟩ 40) [.sample (emptyFeed 0)]).state=.quarantined bl ep ∧
    recoveredNearReference (bl.value.getD 0) 0=false ∧
    ∀observedAt∈[-500000000,120500000000],
    (observedAt < ep.lastSeen ∨ ep.lastSeen+120000000000 < observedAt) ∧
    ((run operate (.seeded ⟨""⟩ 40) [.sample (emptyFeed 0)]).observe
      ⟨⟨""⟩,∅,observedAt⟩).2.state=.quarantined bl
        { ep with
          consistentCount := 2
          lastSeen := observedAt } := by
  refine ⟨_,_,rfl,by decide,fun observedAt either => ?_⟩
  simp only [List.mem_cons,List.not_mem_nil,or_false] at either
  rcases either with rfl | rfl <;> exact ⟨by decide,rfl⟩

theorem reanchors_after_rollback :
    ((run operate (.seeded ⟨""⟩ 40) [.sample (emptyFeed 0)]).observe (emptyFeed (-30))).2.state=
      .quarantined (.seeded ⟨""⟩ (some 40)) (anchoredEpisode (emptyFeed (-30))
        (canonicalOpenSetHashV1 (emptyFeed (-30)).observed)) :=
  (GateRuntime.reanchors_iff (.seeded ⟨""⟩ 40) [.sample (emptyFeed 0)] rfl rfl
    (by decide)).mpr (by decide)

end Closed

end CoursePlanner.Open
