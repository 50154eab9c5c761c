import CoursePlanner.Public.Allowance

set_option maxRecDepth 8000

namespace CoursePlanner.Public

open Std Library IssuanceRateLimiter

/-- Some of the denied checks are left out. -/
inductive Thins : List (Check × RateDecision) → List (Check × RateDecision) → Prop
  | nil : Thins [] []
  | keep {answered kept : List (Check × RateDecision)} (entry : Check × RateDecision)
      (rest : Thins answered kept) : Thins (entry::answered) (entry::kept)
  | drop {answered kept : List (Check × RateDecision)} (check : Check) (wait : Nat)
      (rest : Thins answered kept) : Thins ((check,.deny wait)::answered) kept

theorem Thins.sublist {answered kept : List (Check × RateDecision)} (h : Thins answered kept) :
    kept.Sublist answered := by
  induction h with
  | nil => exact .slnil
  | keep entry _ ih => exact ih.cons_cons entry
  | drop check wait _ ih => exact ih.cons _

variable {lim : IssuanceRateLimiter} {slot a b : Option KeptBuckets} {check : Check} {now : Nat}

theorem drawnFrom_refill {bm rate later : Nat} (representable : bm ≤ u64Max) (le : now ≤ later)
    (bucket : Option Bucket) :
    (drawnFrom bm rate now bucket).refill later bm rate=drawnFrom bm rate later bucket := by
  cases bucket with
  | none => exact Bucket.refill_full bm rate representable le
  | some bucket => exact bucket.refill_refill bm rate representable le

/-- A denied request takes nothing, and it is told to wait. -/
theorem settle_denied {bucket global : Bucket} {wait : Nat}
    (h : (lim.settle bucket global).1=.deny wait) :
    (lim.settle bucket global).2=(bucket,global) ∧ 1 ≤ wait := by
  unfold settle at h ⊢
  split at h
  · cases h
  · next short =>
    rw [if_neg short]
    cases h
    exact ⟨rfl,Nat.le_max_right _ _⟩

/-- What a client would find at an instant, in its bucket and in the global one. -/
def found (lim : IssuanceRateLimiter) (slot : Option KeptBuckets) (now : Nat) (key : String) :
    Bucket × Bucket :=
  (drawnFrom lim.burstMilliTokens lim.refillMilliTokensPerSecond now
      (slot.bind (fun state => state.buckets key)),
    drawnFrom lim.globalBurstMilliTokens lim.globalRefillMilliTokensPerSecond now
      (slot.map KeptBuckets.global))

def settled (lim : IssuanceRateLimiter) (slot : Option KeptBuckets) (check : Check) :
    RateDecision × Bucket × Bucket :=
  lim.settle (found lim slot check.now check.clientKey).1
    (found lim slot check.now check.clientKey).2

/-- From the instant on nobody can tell the two apart. No bucket was refilled after it. -/
def Alike (lim : IssuanceRateLimiter) (now : Nat) (a b : Option KeptBuckets) : Prop :=
  ∀later key,now ≤ later → found lim a later key=found lim b later key ∧
    (found lim b later key).1.lastRefill=later ∧ (found lim b later key).2.lastRefill=later

section Kept

variable (refills : lim.Refills) (representable : lim.globalBurstMilliTokens ≤ u64Max)

include representable

theorem keptStep_eq (slot : Option KeptBuckets) (check : Check) :
    keptStep lim slot check=((settled lim slot check).1,
      some ⟨Function.update (fun key => slot.bind (fun state => state.buckets key)) check.clientKey
        (some (settled lim slot check).2.1),(settled lim slot check).2.2⟩) := by
  cases slot with
  | none =>
    have full := Bucket.refill_full lim.globalBurstMilliTokens
      lim.globalRefillMilliTokensPerSecond representable (Nat.le_refl check.now)
    simp only [keptStep,Option.getD_none,full]
    rfl
  | some state => rfl

theorem found_keptStep (later : Nat) (key : String) :
    found lim (keptStep lim slot check).2 later key=
      (if check.clientKey=key then (settled lim slot check).2.1.refill later lim.burstMilliTokens
          lim.refillMilliTokensPerSecond
        else (found lim slot later key).1,
        (settled lim slot check).2.2.refill later lim.globalBurstMilliTokens
          lim.globalRefillMilliTokensPerSecond) := by
  rw [keptStep_eq representable]
  by_cases own : check.clientKey=key
  · subst own
    simp [found,drawnFrom]
  · simp [found,drawnFrom,own,Function.update_of_ne (Ne.symm own)]

theorem Alike.step (h : Alike lim now a b) (le : now ≤ check.now) :
    (keptStep lim a check).1=(keptStep lim b check).1 ∧
      Alike lim check.now (keptStep lim a check).2 (keptStep lim b check).2 := by
  obtain ⟨here,clientNow,globalNow⟩ := h check.now check.clientKey le
  have same : settled lim a check=settled lim b check := by
    unfold settled
    rw [here]
  obtain ⟨-,-,client,global⟩ := lim.settle_credit (found lim b check.now check.clientKey).1
    (found lim b check.now check.clientKey).2
  refine ⟨by rw [keptStep_eq representable,keptStep_eq representable,same],?_⟩
  intro later key reached
  obtain ⟨there,others,-⟩ := h later key (le.trans reached)
  rw [found_keptStep representable,found_keptStep representable,same,there]
  refine ⟨rfl,?_,?_⟩
  · dsimp only
    split
    · rw [Bucket.refill_lastRefill]
      exact Nat.max_eq_right ((client.trans clientNow).trans_le reached)
    · exact others
  · rw [Bucket.refill_lastRefill]
    exact Nat.max_eq_right ((global.trans globalNow).trans_le reached)

theorem Alike.run {checks : List Check} (h : Alike lim now slot slot)
    (ordered : (checks++[check]).Pairwise (fun first second => first.now ≤ second.now))
    (reached : ∀other∈checks++[check],now ≤ other.now) :
    Alike lim check.now (run (keptStep lim) slot checks) (run (keptStep lim) slot checks) := by
  induction checks generalizing slot now with
  | nil => exact fun later key le => h later key ((reached check List.mem_cons_self).trans le)
  | cons first checks ih =>
    obtain ⟨after,ordered⟩ := List.pairwise_cons.mp ordered
    exact ih (h.step representable (reached first List.mem_cons_self)).2 ordered after

include refills

/-- Whether a check was denied or never made, nobody can tell. -/
theorem Alike.denied {wait : Nat} (h : Alike lim now slot b) (le : now ≤ check.now)
    (denied : (keptStep lim slot check).1=.deny wait) :
    Alike lim check.now (keptStep lim slot check).2 b := by
  rw [keptStep_eq representable] at denied
  have left : (settled lim slot check).2=_ := (settle_denied denied).1
  intro later key reached
  obtain ⟨there,last⟩ := h later key (le.trans reached)
  refine ⟨?_,last⟩
  rw [found_keptStep representable,left,← there]
  refine Prod.ext ?_ (drawnFrom_refill representable reached _)
  split
  · next own =>
    subst own
    exact drawnFrom_refill refills.burst reached _
  · rfl

theorem answers_thinned {checks : List Check} {kept : List (Check × RateDecision)}
    (ordered : checks.Pairwise (fun first second => first.now ≤ second.now))
    (reached : ∀check∈checks,now ≤ check.now) (alike : Alike lim now a b)
    (thins : Thins (answers (keptStep lim) a checks) kept) :
    answers (keptStep lim) b (kept.map Prod.fst)=kept := by
  induction checks generalizing a b now kept with
  | nil =>
    cases thins
    rfl
  | cons check checks ih =>
    obtain ⟨after,ordered⟩ := List.pairwise_cons.mp ordered
    have le := reached check List.mem_cons_self
    rw [answers] at thins
    generalize decided : (keptStep lim a check).1=decision at thins
    cases thins with
    | keep _ rest =>
      obtain ⟨same,next⟩ := alike.step representable le
      rw [List.map_cons,answers,ih ordered after next rest,← same,decided]
    | drop _ wait rest => exact ih ordered after (alike.denied refills representable le decided) rest

/-- Whoever waits for a second after a denial is admitted. -/
theorem Alike.admitted {wait : Nat} {later : Check} (h : Alike lim check.now slot slot)
    (denied : (keptStep lim slot check).1=.deny wait) (own : later.clientKey=check.clientKey)
    (waited : check.now+wait*nanosPerSecond ≤ later.now)
    (client : milli ≤ lim.burstMilliTokens ∧ milli ≤ lim.refillMilliTokensPerSecond)
    (global : milli ≤ lim.globalBurstMilliTokens ∧ milli ≤ lim.globalRefillMilliTokensPerSecond) :
    (keptStep lim (keptStep lim slot check).2 later).1=.allow := by
  have alike := h.denied refills representable le_rfl denied
  rw [keptStep_eq representable] at denied ⊢
  have second := (Nat.add_le_add_left (Nat.le_mul_of_pos_left nanosPerSecond
    (settle_denied denied).2) check.now).trans waited
  have le : check.now ≤ later.now := (Nat.le_add_right _ _).trans second
  have refilled {bm rate : Nat} {bucket : Option Bucket} (fits : bm ≤ u64Max)
      (budget : milli ≤ bm ∧ milli ≤ rate)
      (last : (drawnFrom bm rate check.now bucket).lastRefill=check.now) :
      milli ≤ (drawnFrom bm rate later.now bucket).milliTokens := by
    have gained := Nat.mul_le_mul (Nat.le_sub_of_add_le' second) budget.2
    rw [← drawnFrom_refill fits le,Bucket.refill_eq _ bm rate fits (last.trans_le le),last]
    simp only [nanosPerSecond] at *
    omega
  obtain ⟨-,clientNow,globalNow⟩ := h check.now check.clientKey le_rfl
  unfold settled
  rw [own,(alike later.now check.clientKey le).1]
  exact congrArg Prod.fst (if_pos ⟨refilled refills.burst client clientNow,
    refilled representable global globalNow⟩)

end Kept

section Few

variable {keys : Finset String} {slot : Option LimiterState}

theorem tracked_forget {state : LimiterState} (known : tracked state ⊆ keys) (entry : StaleEntry) :
    tracked (state.forget entry) ⊆ keys := fun _ member =>
  known (mem_tracked.mpr (ExtTreeMap.mem_of_mem_erase (mem_tracked.mp member)))

theorem tracked_checkLocked (known : tracked (lim.opened slot check.now) ⊆ keys)
    (own : check.clientKey∈keys) :
    tracked (sweep check.now sweepBatch (lim.opened slot check.now)) ⊆ keys ∧
      tracked (lim.checkLocked slot check.clientKey check.now).2 ⊆ keys := by
  have swept : tracked (sweep check.now sweepBatch (lim.opened slot check.now)) ⊆ keys :=
    sweep_induction (P := fun state => tracked state ⊆ keys)
      (fun _ entry known _ _ => tracked_forget known entry) sweepBatch known
  have claimed : tracked (lim.claim (sweep check.now sweepBatch (lim.opened slot check.now))
      check.clientKey check.now).2 ⊆ keys := by
    unfold claim
    split
    · exact swept
    · dsimp only
      rcases makeWay_cases (sweep check.now sweepBatch (lim.opened slot check.now)) with
        same | ⟨entry,-,-,same⟩
      · rwa [same]
      · rw [same]
        exact tracked_forget swept entry
  refine ⟨swept,?_⟩
  intro key member
  rcases ExtTreeMap.mem_insert.mp (mem_tracked.mp member) with same | before
  · exact Std.compare_eq_iff_eq.mp same ▸ own
  · exact claimed (mem_tracked.mpr before)

/-- Fewer keys than the limiter tracks: nothing is evicted. -/
theorem evicts_few (few : keys.card < maxTrackedClients) {checks : List Check}
    (own : ∀check∈checks,check.clientKey∈keys)
    (known : ∀now,tracked (lim.opened slot now) ⊆ keys) :
    Along lim.step lim.EvictsRefilled slot checks := by
  induction checks generalizing slot with
  | nil => trivial
  | cons check checks ih =>
    obtain ⟨here,own⟩ := List.forall_mem_cons.mp own
    obtain ⟨swept,after⟩ := tracked_checkLocked (known check.now) here
    refine ⟨?_,ih own (fun _ => after)⟩
    intro _ full
    rw [← card_tracked] at full
    exact absurd (full.trans (Finset.card_le_card swept)) (Nat.not_le.mpr few)

end Few

theorem answers_fst {S Op Out : Type} (step : S → Op → Out × S) (s : S) (ops : List Op) :
    (answers step s ops).map Prod.fst=ops := by
  induction ops generalizing s with
  | nil => rfl
  | cons op ops ih => exact congrArg (op::·) (ih (step s op).2)

/-- As long as the checks come in order and from fewer clients than the limiter tracks,
a denied one can be left out without anyone noticing, and whoever waits as told is
admitted. The index is exact after every run, whatever the clock did. -/
theorem denied_checks_cost_nothing (checks : List Check) :
    let limiter := IssuanceRateLimiter.default
    (checks.Pairwise (fun first second => first.now ≤ second.now) →
      (checks.map Check.clientKey).toFinset.card < 65536 →
      (∀kept,Thins (answers limiter.step none checks) kept →
        answers limiter.step none (kept.map Prod.fst)=kept) ∧
      ∀earlier check later wait,checks=earlier++[check,later] →
        later.clientKey=check.clientKey →
        (limiter.step (run limiter.step none earlier) check).1=.deny wait →
        check.now+wait*nanosPerSecond ≤ later.now →
        (limiter.step (run limiter.step none (earlier++[check])) later).1=.allow) ∧
    ∀state,run limiter.step none checks=some state → state.Indexed := by
  intro limiter
  refine ⟨?_,?_⟩
  · intro ordered few
    have representable : limiter.globalBurstMilliTokens ≤ u64Max := by decide
    have same {part : List Check} (sub : part.Sublist checks) :
        answers limiter.step none part=answers (keptStep limiter) none part :=
      answers_kept default_refills (ordered.sublist sub) (evicts_few few (fun check listed =>
        List.mem_toFinset.mpr (List.mem_map_of_mem (sub.subset listed))) (fun _ _ member =>
          absurd (mem_tracked.mp member) ExtTreeMap.not_mem_empty))
    have start : Alike limiter 0 none none := fun _ _ _ => ⟨rfl,rfl,rfl⟩
    refine ⟨?_,?_⟩
    · intro kept thins
      have sub := thins.sublist.map Prod.fst
      rw [answers_fst] at sub
      rw [same (.refl _)] at thins
      rw [same sub]
      exact answers_thinned default_refills representable ordered (fun _ _ => Nat.zero_le _)
        start thins
    · rintro earlier check later wait rfl own denied waited
      have twice := same (.refl _)
      rw [answers_append,answers_append] at twice
      have last := (List.append_inj' twice rfl).2
      simp only [answers,List.cons.injEq,Prod.mk.injEq,true_and,and_true] at last
      rw [run_snoc,last.2]
      rw [last.1] at denied
      have alike := start.run representable (ordered.sublist (by simp) : (earlier++[check]).Pairwise _)
        (fun _ _ => Nat.zero_le _)
      exact alike.admitted default_refills representable denied own waited (by decide) (by decide)
  · intro state ran
    have indexed : ∀now,(limiter.opened (run limiter.step none checks) now).Indexed :=
      run_invariant (fun slot => ∀now,(limiter.opened slot now).Indexed)
        (fun _ => by simp [LimiterState.Indexed,opened]) checks
        (fun slot check _ h _ => limiter.checkLocked_indexed (h check.now) check.clientKey)
    rw [ran] at indexed
    exact indexed 0

/-- The client uses up its burst, is denied, and waits for the second it is told. -/
theorem denied_checks_cost_nothing_wait :
    let limiter := IssuanceRateLimiter.default
    let burst := List.replicate 60 (Check.mk "a" 0)
    (limiter.step (run limiter.step none burst) ⟨"a",0⟩).1=.deny 1 ∧
      (limiter.step (run limiter.step none (burst++[⟨"a",0⟩])) ⟨"a",nanosPerSecond⟩).1=.allow := by
  intro limiter burst
  have denied : (limiter.step (run limiter.step none burst) ⟨"a",0⟩).1=.deny 1 := by
    decide +kernel
  exact ⟨denied,((denied_checks_cost_nothing (burst++[⟨"a",0⟩,⟨"a",nanosPerSecond⟩])).1
    (by decide +kernel) (by decide +kernel)).2 burst _ _ _ rfl rfl denied (by decide)⟩

end CoursePlanner.Public
