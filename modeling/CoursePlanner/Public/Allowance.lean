import CoursePlanner.Public.RateBound

namespace CoursePlanner.Public

open Std Library

section Draws

variable {S : Type} {step : S → Check → RateDecision × S} {bucketOf : S → Option Bucket}
  {counts : Check → RateDecision → Bool} {burstMilli rate : Nat}

/-- What a bucket that may not be there yet gives at an instant. -/
def drawnFrom (burstMilli rate now : Nat) (bucket : Option Bucket) : Bucket :=
  bucket.elim (.full burstMilli now) (fun bucket => bucket.refill now burstMilli rate)

/-- One bucket of a larger state: a check refills it and takes a token if it counts, or
does not count and leaves the bucket alone. -/
def Draws (step : S → Check → RateDecision × S) (bucketOf : S → Option Bucket)
    (counts : Check → RateDecision → Bool) (burstMilli rate : Nat) : Prop :=
  ∀s check,
    (∃bucket,bucketOf (step s check).2=some bucket ∧
      bucket.lastRefill=(drawnFrom burstMilli rate check.now (bucketOf s)).lastRefill ∧
      bucket.credit+(if counts check (step s check).1 then nanosPerSecond*milli else 0)=
        (drawnFrom burstMilli rate check.now (bucketOf s)).credit) ∨
    (bucketOf (step s check).2=bucketOf s ∧ counts check (step s check).1=false)

def levelOf (burstMilli rate : Nat) (bucket : Option Bucket) (now : Nat) : Nat :=
  bucket.elim (nanosPerSecond*burstMilli) (fun bucket => bucket.level burstMilli rate now)

theorem levelOf_le (bucket : Option Bucket) (now : Nat) :
    levelOf burstMilli rate bucket now ≤ nanosPerSecond*burstMilli := by
  cases bucket with
  | none => exact Nat.le_refl _
  | some bucket => exact bucket.level_le _ _ _

theorem drawnFrom_credit_le {bucket : Option Bucket} (now : Nat)
    (within : ∀held,bucket=some held → held.credit ≤ nanosPerSecond*burstMilli) :
    (drawnFrom burstMilli rate now bucket).credit ≤ levelOf burstMilli rate bucket now := by
  cases bucket with
  | none => exact Nat.le_refl _
  | some bucket => exact bucket.refill_credit_le now _ _ (within bucket rfl)

theorem drawnFrom_lastRefill (bucket : Option Bucket) (now : Nat) :
    now≤(drawnFrom burstMilli rate now bucket).lastRefill := by
  cases bucket with
  | none => exact Nat.le_refl now
  | some bucket =>
    rw [drawnFrom,Option.elim_some,Bucket.refill_lastRefill]
    exact Nat.le_max_right _ _

variable (h : Draws step bucketOf counts burstMilli rate)

include h

theorem Draws.within (s : S) (check : Check)
    (within : ∀held,bucketOf s=some held → held.credit ≤ nanosPerSecond*burstMilli) :
    ∀held,bucketOf (step s check).2=some held → held.credit ≤ nanosPerSecond*burstMilli := by
  intro held found
  rcases h s check with ⟨bucket,left,-,paid⟩ | ⟨same,-⟩
  · rw [left] at found
    cases found
    have credit : _ ≤ levelOf burstMilli rate _ _ := drawnFrom_credit_le check.now within
    have bound : levelOf burstMilli rate (bucketOf s) check.now ≤ _ := levelOf_le _ _
    omega
  · exact within held (same ▸ found)

theorem Draws.metered : Metered step Check.now counts
      (fun s _ => ∀held,bucketOf s=some held → held.credit ≤ nanosPerSecond*burstMilli)
      (fun s => levelOf burstMilli rate (bucketOf s)) (nanosPerSecond*burstMilli) rate
      (nanosPerSecond*milli) where
  capped s now := levelOf_le (bucketOf s) now
  recovers s now later le := by
    cases bucketOf s with
    | none => exact Nat.le_add_right _ _
    | some bucket => exact bucket.level_recovers _ _ now later le
  draws s check within := by
    rcases h s check with ⟨bucket,left,last,paid⟩ | ⟨same,free⟩
    · rw [left]
      have recent : check.now ≤ bucket.lastRefill := last ▸ drawnFrom_lastRefill (bucketOf s) check.now
      have level := bucket.level_le_credit burstMilli rate check.now recent
      exact (Nat.add_le_add_right level _).trans (paid.le.trans (drawnFrom_credit_le check.now within))
    · rw [same,free]
      exact Nat.le_refl _

theorem Draws.bounds {s : S} (unused : bucketOf s=none) (checks : List Check)
    (ordered : checks.Pairwise (fun first second => first.now ≤ second.now)) (start length : Nat) :
    nanosPerSecond*milli*CoursePlanner.Library.within Check.now counts start length
      (answers step s checks) ≤ nanosPerSecond*burstMilli+rate*length := by
  refine h.metered.bounds s checks ordered (Along.of_invariant h.within ?_ checks) start length
  intro held found
  rw [unused] at found
  cases found

end Draws

variable {lim : IssuanceRateLimiter}

theorem global_draws (representable : lim.globalBurstMilliTokens ≤ u64Max) :
    Draws lim.step (Option.map LimiterState.global) (fun _ dec => dec=.allow)
      lim.globalBurstMilliTokens lim.globalRefillMilliTokensPerSecond := by
  intro slot check
  let global := (lim.opened slot check.now).global.refill check.now
    lim.globalBurstMilliTokens lim.globalRefillMilliTokensPerSecond
  have same : global=drawnFrom lim.globalBurstMilliTokens
      lim.globalRefillMilliTokensPerSecond check.now (slot.map LimiterState.global) := by
    cases slot with
    | none => exact Bucket.refill_full _ _ representable le_rfl
    | some state => rfl
  have swept : (sweep check.now sweepBatch (lim.opened slot check.now)).global=
      (lim.opened slot check.now).global := sweep_global sweepBatch _
  obtain ⟨-,drawn,-,last⟩ := lim.settle_credit
    (lim.claim (sweep check.now sweepBatch (lim.opened slot check.now)) check.clientKey
      check.now).1 global
  rw [← same]
  refine .inl ⟨_,rfl,?_⟩
  simp only [IssuanceRateLimiter.step,IssuanceRateLimiter.checkLocked,swept,decide_eq_true_eq]
  exact ⟨last,drawn⟩

/-! The same limiter, if it kept every bucket -/

structure KeptBuckets where
  buckets : String → Option Bucket
  global : Bucket

def keptStep (limiter : IssuanceRateLimiter) (slot : Option KeptBuckets) (check : Check) :
    RateDecision × Option KeptBuckets :=
  let state := slot.getD ⟨fun _ => none,.full limiter.globalBurstMilliTokens check.now⟩
  let bucket := drawnFrom limiter.burstMilliTokens limiter.refillMilliTokensPerSecond check.now
    (state.buckets check.clientKey)
  let settled := limiter.settle bucket (state.global.refill check.now
    limiter.globalBurstMilliTokens limiter.globalRefillMilliTokensPerSecond)
  (settled.1,some ⟨Function.update state.buckets check.clientKey (some settled.2.1),settled.2.2⟩)

theorem kept_draws (key : String) :
    Draws (keptStep lim) (fun slot => slot.bind (fun state => state.buckets key))
      (fun check dec => check.clientKey=key ∧ dec=.allow) lim.burstMilliTokens
      lim.refillMilliTokensPerSecond := by
  intro slot check
  have opened : (slot.getD ⟨fun _ => none,.full lim.globalBurstMilliTokens check.now⟩).buckets
      key=slot.bind (fun state => state.buckets key) := by
    cases slot <;> rfl
  by_cases own : check.clientKey=key
  · subst own
    obtain ⟨drawn,-,last,-⟩ := lim.settle_credit
      (drawnFrom lim.burstMilliTokens lim.refillMilliTokensPerSecond check.now
        (slot.bind (fun state => state.buckets check.clientKey)))
      ((slot.getD ⟨fun _ => none,.full lim.globalBurstMilliTokens check.now⟩).global.refill
        check.now lim.globalBurstMilliTokens lim.globalRefillMilliTokensPerSecond)
    refine .inl ⟨_,Function.update_self _ _ _,?_⟩
    simp only [keptStep,opened,true_and,decide_eq_true_eq]
    exact ⟨last,drawn⟩
  · refine .inr ⟨?_,by simp [own]⟩
    refine Eq.trans ?_ opened
    exact Function.update_of_ne (Ne.symm own) _ _

/-- The two have the same buckets, except for those that one of them has forgotten. -/
structure SameBuckets (limiter : IssuanceRateLimiter) (now : Nat) (state : LimiterState)
    (kept : KeptBuckets) : Prop where
  global : state.global=kept.global
  buckets : ∀key : String,state.buckets[key]?=kept.buckets key ∨
    state.buckets[key]?=none ∧ ∃bucket,kept.buckets key=some bucket ∧ Refilled limiter now bucket

/-- Between two checks: nothing has been checked yet, or the index is in order and the
buckets are the same. -/
def SameSlots (limiter : IssuanceRateLimiter) (now : Nat) (slot : Option LimiterState)
    (kept : Option KeptBuckets) : Prop :=
  (slot=none ∧ kept=none) ∨
    ∃state keptState,slot=some state ∧ kept=some keptState ∧ state.Indexed ∧
      SameBuckets limiter now state keptState

variable {now : Nat}

theorem SameSlots.opened {later : Nat} {slot : Option LimiterState} {kept : Option KeptBuckets}
    (refills : lim.Refills) (h : SameSlots lim now slot kept) (le : now ≤ later) :
    (lim.opened slot later).Indexed ∧ SameBuckets lim later (lim.opened slot later)
      (kept.getD ⟨fun _ => none,.full lim.globalBurstMilliTokens later⟩) := by
  rcases h with ⟨rfl,rfl⟩ | ⟨state,keptState,rfl,rfl,indexed,same⟩
  · refine ⟨?_,rfl,fun key => .inl ExtTreeMap.getElem?_empty⟩
    intro entry
    simp [IssuanceRateLimiter.opened]
  refine ⟨indexed,same.global,?_⟩
  intro key
  rcases same.buckets key with found | ⟨gone,bucket,found,refilled⟩
  · exact .inl found
  · exact .inr ⟨gone,bucket,found,refilled.later refills le⟩

theorem SameBuckets.forgets {state after : LimiterState} {kept : KeptBuckets}
    (h : SameBuckets lim now state kept) (forgets : Forgets lim now state after)
    (key : String) : after.buckets[key]?=kept.buckets key ∨
      after.buckets[key]?=none ∧ ∃bucket,kept.buckets key=some bucket ∧
        Refilled lim now bucket := by
  rcases forgets.buckets key with same | ⟨gone,bucket,found,refilled⟩
  · rw [same]
    exact h.buckets key
  rcases h.buckets key with same | ⟨absent,-⟩
  · exact .inr ⟨gone,bucket,same.symm.trans found,refilled⟩
  · rw [absent] at found
    cases found

/-- Whether a full bucket was forgotten or kept, a check answers alike. -/
theorem step_kept (refills : lim.Refills) (slot : Option LimiterState)
    (kept : Option KeptBuckets) (check : Check) (same : SameSlots lim now slot kept)
    (later : now≤check.now) (refilled : lim.EvictsRefilled slot check) :
    (lim.step slot check).1=(keptStep lim kept check).1 ∧
      SameSlots lim check.now (lim.step slot check).2 (keptStep lim kept check).2 := by
  obtain ⟨opened,alike⟩ := same.opened refills later
  obtain ⟨decision,global,left,forgets,buckets⟩ :=
    lim.checkLocked_spec refills slot check opened refilled
  have bucket : held lim check.now (lim.opened slot check.now) check.clientKey=
      drawnFrom lim.burstMilliTokens lim.refillMilliTokensPerSecond check.now
        ((kept.getD ⟨fun _ => none,.full lim.globalBurstMilliTokens check.now⟩).buckets
          check.clientKey) := by
    unfold held
    rcases alike.buckets check.clientKey with found | ⟨gone,forgotten,found,full⟩
    · rw [found]
      rfl
    · rw [gone,found]
      exact full.symm
  rw [bucket,alike.global] at decision global buckets
  refine ⟨decision,.inr ⟨_,_,rfl,rfl,lim.checkLocked_indexed opened _,global,?_⟩⟩
  intro key
  dsimp only
  rw [buckets,getElem?_insert_eq]
  by_cases own : check.clientKey=key
  · subst own
    rw [if_pos rfl,Function.update_self]
    exact .inl rfl
  · rw [if_neg own,Function.update_of_ne (Ne.symm own)]
    exact alike.forgets forgets key

/-- A limiter that only evicts buckets that are full again might as well keep every one. -/
theorem answers_kept (refills : lim.Refills) {checks : List Check}
    (ordered : checks.Pairwise (fun first second => first.now ≤ second.now))
    (evicts : Along lim.step lim.EvictsRefilled none checks) :
    answers lim.step none checks=answers (keptStep lim) none checks := by
  refine answers_eq_of_simulation (R := fun slot kept rest =>
    rest.Pairwise (fun first second => first.now ≤ second.now) ∧
      ∃now,(∀check∈rest,now≤check.now) ∧ SameSlots lim now slot kept) ?_
    ⟨ordered,0,fun _ _ => Nat.zero_le _,.inl ⟨rfl,rfl⟩⟩ evicts
  rintro slot kept check rest ⟨sorted,now,later,same⟩ refilled
  obtain ⟨after,sorted⟩ := List.pairwise_cons.mp sorted
  obtain ⟨decision,next⟩ := step_kept refills slot kept check same
    (later check List.mem_cons_self) refilled
  exact ⟨decision,sorted,check.now,after,next⟩

/-- Over any stretch of time the limiter admits at most its global burst and what refills.
As long as it only evicts buckets that are full again, it answers as if it kept every
bucket, and admits of each client at most the client's burst and what refills. -/
theorem issuance_bounded (checks : List Check)
    (ordered : checks.Pairwise (fun first second => first.now ≤ second.now)) :
    let limiter := IssuanceRateLimiter.default
    let answered := answers limiter.step none checks
    (∀start length,nanosPerSecond*within Check.now (fun _ decision => decision=.allow) start length
        answered ≤ 600*nanosPerSecond+10*length) ∧
      (Along limiter.step limiter.EvictsRefilled none checks →
        (∀key start length,nanosPerSecond*within Check.now
          (fun check decision => check.clientKey=key ∧ decision=.allow) start length answered ≤
            60*nanosPerSecond+2*length) ∧
        answered=answers (keptStep limiter) none checks) := by
  intro limiter answered
  refine ⟨?_,?_⟩
  · intro start length
    have bound : nanosPerSecond*milli*within Check.now (fun _ decision => decision=.allow) start
        length answered ≤ nanosPerSecond*600000+10000*length :=
      (global_draws (by decide)).bounds rfl checks ordered start length
    simp only [nanosPerSecond,milli] at bound ⊢
    omega
  · intro evicts
    have same : answered=_ := answers_kept default_refills ordered evicts
    refine ⟨?_,same⟩
    intro key start length
    have bound : nanosPerSecond*milli*within Check.now
        (fun check decision => check.clientKey=key ∧ decision=.allow) start length
        (answers (keptStep limiter) none checks) ≤ nanosPerSecond*60000+2000*length :=
      (kept_draws key).bounds rfl checks ordered start length
    rw [← same] at bound
    simp only [nanosPerSecond,milli] at bound ⊢
    omega

/-- Where nobody else comes, nothing is evicted. -/
theorem issuance_bounded_alone : nanosPerSecond*within Check.now
        (fun check decision => check.clientKey="a" ∧ decision=.allow) 0 nanosPerSecond
        (answers IssuanceRateLimiter.default.step none [⟨"a",0⟩,⟨"a",nanosPerSecond⟩])≤
      60*nanosPerSecond+2*nanosPerSecond := by
  refine ((issuance_bounded [⟨"a",0⟩,⟨"a",nanosPerSecond⟩] (by decide)).2 ⟨?_,?_,trivial⟩).1 "a" 0
    nanosPerSecond
  · intro _ full
    exact absurd full (by decide +kernel)
  · intro _ full
    exact absurd full (by decide +kernel)

end CoursePlanner.Public
