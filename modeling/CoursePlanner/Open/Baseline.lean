import CoursePlanner.Open.Quarantine

namespace CoursePlanner.Open

open Std Library Contracts

/-- At most half of the entries lie below the lower median, and at least half do not
lie above it. -/
structure IsLowerMedian (median : Nat) (window : List Nat) : Prop where
  member : median∈window
  below : 2*window.countP (· < median) < window.length
  above : window.length ≤ 2*window.countP (· ≤ median)

/-- The rank of an entry of a sorted list is its place. -/
theorem sorted_rank {l : List Nat} (h : l.Pairwise (· ≤ ·)) (place : Nat) (hp : place < l.length) :
    l.countP (· < l[place]) ≤ place ∧ place < l.countP (· ≤ l[place]) := by
  induction l generalizing place with
  | nil => cases hp
  | cons x l ih =>
    obtain ⟨least,sorted⟩ := List.pairwise_cons.mp h
    cases place with
    | zero =>
      have none : l.countP (· < x)=0 := by
        rw [List.countP_eq_zero]
        intro y member
        simpa using least y member
      simp [none]
    | succ place =>
      have hp : place < l.length := Nat.lt_of_succ_lt_succ hp
      obtain ⟨below,above⟩ := ih sorted place hp
      have first : x ≤ l[place] := least _ (List.getElem_mem hp)
      rw [List.getElem_cons_succ,List.countP_cons,List.countP_cons]
      refine ⟨?_,?_⟩
      · split <;> omega
      · simp only [first,decide_true,if_true]
        omega

theorem lowerMedian_spec (bl : BaselineEpoch) (h : bl.window≠[]) :
    ∃median,bl.lowerMedian=some median ∧ IsLowerMedian median bl.window := by
  have sorted := List.pairwise_insertionSort (· ≤ ·) bl.window
  have permuted := List.perm_insertionSort (· ≤ ·) bl.window
  have size := permuted.length_eq
  have positive : 0 < bl.window.length := List.length_pos_iff.mpr h
  unfold BaselineEpoch.lowerMedian
  generalize bl.window.insertionSort (· ≤ ·)=es at sorted permuted size
  have inside : (es.length-1)/2 < es.length := by omega
  obtain ⟨below,above⟩ := sorted_rank sorted _ inside
  refine ⟨es[(es.length-1)/2],List.getElem?_eq_getElem inside,?_⟩
  refine ⟨permuted.subset (List.getElem_mem inside),?_,?_⟩
  all_goals
    rw [← permuted.countP_eq]
    omega

theorem IsLowerMedian.le {window : List Nat} {m n : Nat} (hm : IsLowerMedian m window)
    (hn : IsLowerMedian n window) : n ≤ m := by
  by_contra beyond
  have fewer : window.countP (· ≤ m) ≤ window.countP (· < n) := by
    refine List.countP_mono_left (fun x _ => ?_)
    simp only [decide_eq_true_iff]
    omega
  have above := hm.above
  have below := hn.below
  omega

/-- The value of a baseline: the larger one of its lower median and its floor. -/
structure BaselineEpoch.IsReference (baseline : BaselineEpoch) (value : Nat) : Prop where
  median : ∀median,IsLowerMedian median baseline.window → median ≤ value
  floor : ∀floor,baseline.lkgFloor=some floor → floor ≤ value
  attained : IsLowerMedian value baseline.window ∨ baseline.lkgFloor=some value

/-- The window never outgrows its size, and something is always there to compare with. -/
structure BaselineEpoch.Usable (baseline : BaselineEpoch) : Prop where
  bounded : baseline.window.length ≤ gateBaselineWindow
  defined : baseline.window≠[] ∨ baseline.lkgFloor≠none

namespace BaselineEpoch.Usable

variable {bl : BaselineEpoch}

theorem seeded (identity : CatalogSetIdentity) (floor : Nat) :
    (BaselineEpoch.seeded identity (some floor)).Usable :=
  ⟨Nat.zero_le _,.inr (Option.some_ne_none _)⟩

theorem pushApplied (bounded : bl.window.length ≤ gateBaselineWindow) (observed : Nat) :
    (bl.pushApplied observed).Usable := by
  refine ⟨?_,.inl (by simp [BaselineEpoch.pushApplied])⟩
  unfold BaselineEpoch.pushApplied
  split
  · next full =>
    rw [List.length_append,List.length_tail,full,List.length_singleton]
    decide
  · next room =>
    rw [List.length_append,List.length_singleton]
    omega

theorem reference (h : bl.Usable) : ∃value,bl.value=some value ∧ bl.IsReference value := by
  unfold BaselineEpoch.value
  by_cases filled : bl.window=[]
  · have empty : bl.lowerMedian=none := by
      unfold BaselineEpoch.lowerMedian
      rw [filled]
      rfl
    obtain ⟨floor,known⟩ := Option.ne_none_iff_exists'.mp (h.defined.resolve_left (not_not.mpr filled))
    rw [empty,known]
    refine ⟨floor,rfl,?_,?_,.inr known⟩
    · intro median spec
      have member := spec.member
      rw [filled] at member
      cases member
    · intro other same
      rw [Option.some.inj (known.symm.trans same)]
  · obtain ⟨median,found,spec⟩ := lowerMedian_spec bl filled
    rw [found]
    cases known : bl.lkgFloor with
    | none =>
      refine ⟨median,rfl,fun other h => spec.le h,?_,.inl spec⟩
      intro floor same
      cases known.symm.trans same
    | some floor =>
      refine ⟨max median floor,rfl,?_,?_,?_⟩
      · intro other h
        exact Nat.le_trans (spec.le h) (Nat.le_max_left _ _)
      · intro other same
        rw [Option.some.inj (known.symm.trans same)]
        exact Nat.le_max_right _ _
      · rcases Nat.le_total median floor with below | above
        · exact .inr (by rw [Nat.max_eq_right below]; exact known)
        · exact .inl (by rw [Nat.max_eq_left above]; exact spec)

end BaselineEpoch.Usable

theorem pushApplied_window {bl : BaselineEpoch}
    (bounded : bl.window.length ≤ gateBaselineWindow) (observed : Nat) :
    (bl.pushApplied observed).window= (bl.window++[observed]).rtake gateBaselineWindow := by
  unfold BaselineEpoch.pushApplied List.rtake
  rw [List.length_append,List.length_singleton]
  split
  · next full =>
    obtain ⟨first,rest,shape⟩ := List.exists_cons_of_length_eq_add_one full
    rw [full,shape]
    rfl
  · next room =>
    have keeps : bl.window.length+1-gateBaselineWindow=0 := by omega
    rw [keeps,List.drop_zero]

inductive GateOperation where
  | sample (sample : GateSample)
  | reset (catalogIdentity : CatalogSetIdentity) (transferredFloor : Option Nat)

open GateRuntime

inductive GateRuntime.Started : GateRuntime → Prop
  | unseeded : Started .newUnseeded
  | seeded (catalogIdentity : CatalogSetIdentity) (lkgFloor : Nat) :
      Started (.seeded catalogIdentity lkgFloor)
  | rebuilt (catalogIdentity : CatalogSetIdentity) (lkgReference : Option Nat)
      (attemptsNewestFirst : List RestartAttemptSummary) (now : OffsetDateTime) :
      Started (rebuildAfterRestart catalogIdentity lkgReference attemptsNewestFirst now)

/-- Every baseline in force is usable. -/
def GateRuntime.Based (runtime : GateRuntime) : Prop :=
  ∀baseline,runtime.baseline=some baseline → baseline.Usable

section Governed

variable [Sha256]

def GateRuntime.operate (runtime : GateRuntime) :
    GateOperation → Option GateDecision × GateRuntime
  | .sample sample => runtime.observe sample
  | .reset catalogIdentity transferredFloor =>
    (none,runtime.resetForCatalogIdentity catalogIdentity transferredFloor)

variable {sample : GateSample}

theorem Verdict.based {state next : GateState} {kind : GateDecisionKind}
    {dis : GateDisposition} {epoch : Nat} (h : Verdict sample state kind dis next)
    (based : (GateRuntime.mk epoch state).Based) : (GateRuntime.mk (epoch+1) next).Based := by
  intro after same
  cases h with
  | unseeded | confirmed =>
    rw [← Option.some.inj same]
    exact .pushApplied (Nat.zero_le _) _
  | passed bl | recovered bl =>
    rw [← Option.some.inj same]
    exact .pushApplied (based bl rfl).bounded _
  | entered | reanchored | continued => exact based after same

/-- What an applied sample may have lost against the baseline in force, and what it
leaves as the next one. -/
structure Applied (runtime : GateRuntime) (sample : GateSample) (kind : GateDecisionKind)
    (disposition : GateDisposition) (after : GateRuntime) : Prop where
  small : disposition=.apply → kind≠.quarantineConfirm → ∀baseline reference,
    runtime.baseline=some baseline → baseline.value=some reference →
    reference-sample.observed.size <
      if runtime.isQuarantined then max (divCeil reference 20) 25
      else max (divCeil reference 10) 25
  recovered : kind=.quarantineRecover → ∃baseline,runtime.isQuarantined=true ∧
    runtime.baseline=some baseline ∧ after.baseline=some { baseline with
      window := (baseline.window++[sample.observed.size]).rtake 16 }
  confirmed : kind=.quarantineConfirm → ∃baseline,after.baseline=some baseline ∧
    baseline.window=[sample.observed.size]

theorem Verdict.applied {state next : GateState} {kind : GateDecisionKind}
    {dis : GateDisposition} {epoch : Nat} (h : Verdict sample state kind dis next)
    (based : (GateRuntime.mk epoch state).Based) :
    Applied ⟨epoch,state⟩ sample kind dis ⟨epoch+1,next⟩ := by
  cases h with
  | unseeded =>
    refine ⟨?_,nofun,nofun⟩
    intro _ _ _ _ absent
    cases absent
  | passed bl same small =>
    refine ⟨?_,nofun,nofun⟩
    intro _ _ other reference inForce value
    obtain rfl := Option.some.inj inForce
    rw [value] at small
    exact (shrinkIsSuspect_eq_false _ _).mp small
  | entered | reanchored | continued => exact ⟨nofun,nofun,nofun⟩
  | recovered bl episode same near =>
    refine ⟨?_,?_,nofun⟩
    · intro _ _ other reference inForce value
      obtain rfl := Option.some.inj inForce
      rw [value] at near
      exact (recoveredNearReference_eq_true _ _).mp near
    · intro _
      refine ⟨bl,rfl,rfl,?_⟩
      have window := pushApplied_window (based bl rfl).bounded sample.observed.size
      exact congrArg (fun window => some { bl with window := window }) window
  | confirmed bl => exact ⟨fun _ other => absurd rfl other,nofun,fun _ => ⟨_,rfl,rfl⟩⟩

end Governed

section Closed

local instance baselineSha256 : Sha256 := plainSha256

end Closed

end CoursePlanner.Open
