import CoursePlanner.Public.RateLimit

namespace CoursePlanner.Public

open Std Library

namespace Bucket

/-- What a bucket holds, in billionths of a milli-token. -/
def credit (bucket : Bucket) : Nat := nanosPerSecond*bucket.milliTokens+bucket.refillResidual

/-- What a bucket that is left alone holds at an instant. -/
def level (bucket : Bucket) (burstMilli rate now : Nat) : Nat :=
  min (nanosPerSecond*burstMilli) (bucket.credit+rate*(now-bucket.lastRefill))

variable (bucket : Bucket) (burstMilli bm : Nat) (rate : Nat)

theorem level_le (now : Nat) :
    bucket.level burstMilli rate now ≤ nanosPerSecond*burstMilli := Nat.min_le_left _ _

theorem level_recovers (now later : Nat) (h : now ≤ later) : bucket.level bm rate later ≤
      bucket.level bm rate now+rate*(later-now) := by
  have elapsed : later-bucket.lastRefill≤(now-bucket.lastRefill)+(later-now) := by omega
  have gained := Nat.mul_le_mul_left rate elapsed
  rw [Nat.mul_add] at gained
  unfold level
  omega

theorem level_le_credit (now : Nat) (h : now≤bucket.lastRefill) :
    bucket.level bm rate now≤bucket.credit := by
  unfold level
  rw [Nat.sub_eq_zero_of_le h,Nat.mul_zero,Nat.add_zero]
  exact Nat.min_le_right _ _

variable {now : Nat}

theorem refill_of_le (h : bucket.lastRefill≤now) : bucket.refill now bm rate=
      let numerator := bucket.numerator (now-bucket.lastRefill) rate
      let milliTokens :=
        min (min (bucket.milliTokens+min (numerator/nanosPerSecond) u64Max) u64Max) bm
      ⟨milliTokens,now,if milliTokens=bm then 0 else numerator%nanosPerSecond⟩ := by
  rw [refill,checkedDurationSince,if_pos h]

theorem refill_of_gt (h : now<bucket.lastRefill) : bucket.refill now bm rate=bucket := by
  rw [refill,checkedDurationSince,if_neg (Nat.not_le.mpr h)]

theorem refill_lastRefill (now bm rate : Nat) :
    (bucket.refill now bm rate).lastRefill=max bucket.lastRefill now := by
  by_cases h : bucket.lastRefill≤now
  · rw [refill_of_le bucket bm rate h,Nat.max_eq_right h]
  · rw [refill_of_gt bucket bm rate (Nat.lt_of_not_le h), Nat.max_eq_left (Nat.le_of_not_le h)]

theorem refill_credit_le (now burstMilli rate : Nat)
    (within : bucket.credit ≤ nanosPerSecond*burstMilli) :
    (bucket.refill now burstMilli rate).credit ≤ bucket.level burstMilli rate now := by
  by_cases h : bucket.lastRefill≤now
  · rw [refill_of_le bucket burstMilli rate h]
    generalize numeral : bucket.numerator (now-bucket.lastRefill) rate=amount
    have bounded : amount≤rate*(now-bucket.lastRefill)+bucket.refillResidual := by
      rw [← numeral,numerator,Nat.mul_comm rate]
      omega
    dsimp only
    generalize tokens : min (min (bucket.milliTokens+min (amount/nanosPerSecond) u64Max) u64Max)
      burstMilli=held
    unfold level credit
    by_cases filled : held=burstMilli
    · rw [if_pos filled]
      simp only [nanosPerSecond] at *
      omega
    · rw [if_neg filled]
      simp only [nanosPerSecond] at *
      omega
  · rw [refill_of_gt bucket burstMilli rate (Nat.lt_of_not_le h),level]
    omega

/-- Where the burst fits its type, no saturation shows. -/
theorem refill_eq (representable : bm ≤ u64Max) (h : bucket.lastRefill≤now) :
    bucket.refill now bm rate=
      let amount := (now-bucket.lastRefill)*rate+bucket.refillResidual
      let milliTokens := min (bucket.milliTokens+amount/nanosPerSecond) bm
      ⟨milliTokens,now,if milliTokens=bm then 0 else amount%nanosPerSecond⟩ := by
  rw [refill_of_le bucket bm rate h,numerator]
  generalize (now-bucket.lastRefill)*rate=gained
  by_cases saturated : u128Max<gained+bucket.refillResidual
  · have exact : min (min gained u128Max+bucket.refillResidual) u128Max=u128Max := by omega
    have filled : min (min (bucket.milliTokens+min (u128Max/nanosPerSecond) u64Max) u64Max) bm=
        bm := by
      simp only [u128Max,u64Max,nanosPerSecond] at *
      omega
    have full : min (bucket.milliTokens+(gained+bucket.refillResidual)/nanosPerSecond) bm=bm := by
      simp only [u128Max,u64Max,nanosPerSecond] at *
      omega
    simp only [exact,filled,full,if_true]
  · have exact : min (min gained u128Max+bucket.refillResidual) u128Max=
        gained+bucket.refillResidual := by omega
    have tokens : ∀credited,min (min (bucket.milliTokens+min credited u64Max) u64Max) bm=
        min (bucket.milliTokens+credited) bm := by
      intro credited
      omega
    simp only [exact,tokens]

theorem refill_full {later : Nat} (representable : bm ≤ u64Max) (le : now ≤ later) :
    (full bm now).refill later bm rate=full bm later := by
  rw [refill_eq _ bm rate representable le]
  have filled : ∀credited,min (bm+credited) bm=bm := by
    intro credited
    omega
  simp only [full,filled,if_true]

/-- A refill in between changes nothing: what it does not credit it carries. -/
theorem refill_refill {later : Nat} (representable : bm ≤ u64Max) (le : now ≤ later) :
    (bucket.refill now bm rate).refill later bm rate=bucket.refill later bm rate := by
  by_cases before : bucket.lastRefill≤now
  · rw [refill_eq bucket bm rate representable before,
      refill_eq bucket bm rate representable (before.trans le),refill_eq _ bm rate representable le]
    have elapsed : later-bucket.lastRefill=(now-bucket.lastRefill)+(later-now) := by omega
    dsimp only
    rw [elapsed,Nat.add_mul]
    generalize (now-bucket.lastRefill)*rate=gained,(later-now)*rate=more
    by_cases filled : min (bucket.milliTokens+(gained+bucket.refillResidual)/nanosPerSecond) bm=bm
    · have still : min (bm+(more+0)/nanosPerSecond) bm=bm :=
        Nat.min_eq_right (Nat.le_add_right _ _)
      have whole : min (bucket.milliTokens+(gained+more+bucket.refillResidual)/nanosPerSecond) bm=
          bm := by
        simp only [nanosPerSecond] at *
        omega
      simp only [filled,still,whole,if_true]
    · have tokens : min (min (bucket.milliTokens+(gained+bucket.refillResidual)/nanosPerSecond) bm+
          (more+(gained+bucket.refillResidual)%nanosPerSecond)/nanosPerSecond) bm=
          min (bucket.milliTokens+(gained+more+bucket.refillResidual)/nanosPerSecond) bm := by
        simp only [nanosPerSecond] at *
        omega
      have carried : (more+(gained+bucket.refillResidual)%nanosPerSecond)%nanosPerSecond=
          (gained+more+bucket.refillResidual)%nanosPerSecond := by
        simp only [nanosPerSecond]
        omega
      simp only [filled,if_false,tokens,carried]
  · rw [refill_of_gt bucket bm rate (Nat.lt_of_not_le before)]

end Bucket

/-- The buckets of a limiter are full again well before they expire. -/
structure IssuanceRateLimiter.Refills (limiter : IssuanceRateLimiter) : Prop where
  representable : nanosPerSecond*limiter.burstMilliTokens ≤ u64Max
  expires : nanosPerSecond*limiter.burstMilliTokens ≤
    bucketIdleExpiry*limiter.refillMilliTokensPerSecond

theorem IssuanceRateLimiter.Refills.burst {limiter : IssuanceRateLimiter} (h : limiter.Refills) :
    limiter.burstMilliTokens ≤ u64Max := by
  have representable := h.representable
  simp only [nanosPerSecond] at representable
  omega

theorem default_refills : IssuanceRateLimiter.default.Refills where
  representable := by decide
  expires := by decide

theorem IssuanceRateLimiter.Refills.idle {limiter : IssuanceRateLimiter} (h : limiter.Refills)
    {bucket : Bucket} {now : Nat} (before : bucket.lastRefill≤now)
    (expired : bucketIdleExpiry<now-bucket.lastRefill) :
    bucket.refill now limiter.burstMilliTokens limiter.refillMilliTokensPerSecond=
      .full limiter.burstMilliTokens now := by
  have representable := h.representable
  have expires := h.expires
  have elapsed := Nat.mul_le_mul_right limiter.refillMilliTokensPerSecond expired.le
  rw [Bucket.refill_eq bucket _ _ h.burst before]
  generalize (now-bucket.lastRefill)*limiter.refillMilliTokensPerSecond=gained at elapsed
  have filled : min (bucket.milliTokens+(gained+bucket.refillResidual)/nanosPerSecond)
      limiter.burstMilliTokens=limiter.burstMilliTokens := by
    simp only [nanosPerSecond] at *
    omega
  simp only [filled,if_true]
  rfl

namespace LimiterState

/-- The index has exactly one entry for each bucket, with the instant of its last refill. -/
def Indexed (state : LimiterState) : Prop :=
  ∀entry : StaleEntry,entry∈state.byStaleness ↔
    state.buckets[entry.key]?.map Bucket.lastRefill=some entry.staleAt

/-- The index, with the entry of one key taken out. -/
def IndexedBut (key : String) (state : LimiterState) : Prop :=
  ∀entry : StaleEntry,entry∈state.byStaleness ↔
    entry.key≠key ∧ state.buckets[entry.key]?.map Bucket.lastRefill=some entry.staleAt

variable {entry other : StaleEntry} {state : LimiterState}

theorem mem_index_erase {index : ExtTreeSet StaleEntry} :
    other∈index.erase entry ↔ entry≠other ∧ other∈index := by
  rw [ExtTreeSet.mem_erase,Ne,Std.compare_eq_iff_eq]

theorem mem_index_insert {index : ExtTreeSet StaleEntry} :
    other∈index.insert entry ↔ entry=other ∨ other∈index := by
  rw [ExtTreeSet.mem_insert,Std.compare_eq_iff_eq]

theorem stalest_eq_min? (state : LimiterState) : state.stalest=state.byStaleness.min? :=
  ExtTreeSet.min?_eq_head?_toList.symm

theorem stalest_mem (state : LimiterState) (h : state.stalest=some entry) :
    entry∈state.byStaleness :=
  ExtTreeSet.min?_mem (state.stalest_eq_min? ▸ h)

theorem Indexed.entry_unique (h : state.Indexed) (first : entry∈state.byStaleness)
    (second : other∈state.byStaleness) (same : entry.key=other.key) : entry=other := by
  have left := (h entry).mp first
  have right := (h other).mp second
  rw [same,right] at left
  obtain ⟨staleAt,key⟩ := entry
  obtain ⟨otherAt,otherKey⟩ := other
  simp only [StaleEntry.mk.injEq]
  exact ⟨(Option.some.inj left).symm,same⟩

theorem Indexed.forget (h : state.Indexed) (member : entry∈state.byStaleness) :
    (state.forget entry).Indexed := by
  intro other
  change other∈state.byStaleness.erase entry ↔
    (state.buckets.erase entry.key)[other.key]?.map Bucket.lastRefill=some other.staleAt
  rw [mem_index_erase,getElem?_erase_eq]
  by_cases same : entry.key=other.key
  · rw [if_pos same]
    constructor
    · rintro ⟨different,present⟩
      exact absurd (h.entry_unique member present same) different
    · intro impossible
      cases impossible
  · rw [if_neg same,h other]
    refine ⟨And.right,fun found => ⟨?_,found⟩⟩
    rintro rfl
    exact same rfl

theorem IndexedBut.file {key : String} (h : state.IndexedBut key) (bucket global : Bucket) :
    (LimiterState.mk (state.buckets.insert key bucket)
      (state.byStaleness.insert ⟨bucket.lastRefill,key⟩) global).Indexed := by
  intro entry
  change entry∈state.byStaleness.insert ⟨bucket.lastRefill,key⟩ ↔
    (state.buckets.insert key bucket)[entry.key]?.map Bucket.lastRefill=some entry.staleAt
  rw [mem_index_insert,getElem?_insert_eq,h entry]
  by_cases same : key=entry.key
  · rw [if_pos same]
    obtain ⟨staleAt,own⟩ := entry
    simp only at same
    subst same
    simp
  · rw [if_neg same]
    constructor
    · rintro (rfl | ⟨-,found⟩)
      · exact absurd rfl same
      · exact found
    · exact fun found => .inr ⟨Ne.symm same,found⟩

end LimiterState

section Forgetting

variable (limiter : IssuanceRateLimiter) (now : Nat)

def Refilled (bucket : Bucket) : Prop :=
  bucket.refill now limiter.burstMilliTokens limiter.refillMilliTokensPerSecond=
    .full limiter.burstMilliTokens now

structure Forgets (state after : LimiterState) : Prop where
  global : after.global=state.global
  buckets : ∀key : String,after.buckets[key]?=state.buckets[key]? ∨
    after.buckets[key]?=none ∧ ∃bucket,state.buckets[key]?=some bucket ∧
      Refilled limiter now bucket

def held (state : LimiterState) (key : String) : Bucket :=
  state.buckets[key]?.elim (.full limiter.burstMilliTokens now) (fun bucket =>
    bucket.refill now limiter.burstMilliTokens limiter.refillMilliTokensPerSecond)

end Forgetting

section Forgetting

variable {limiter : IssuanceRateLimiter} {now : Nat}

theorem Refilled.later (refills : limiter.Refills) {bucket : Bucket} {later : Nat}
    (h : Refilled limiter now bucket) (le : now ≤ later) : Refilled limiter later bucket := by
  unfold Refilled at *
  rw [← bucket.refill_refill _ _ refills.burst le,h,Bucket.refill_full _ _ refills.burst le]

theorem Forgets.refl (state : LimiterState) : Forgets limiter now state state where
  global := rfl
  buckets _ := .inl rfl

theorem Forgets.trans {first second third : LimiterState} (h : Forgets limiter now first second)
    (g : Forgets limiter now second third) : Forgets limiter now first third where
  global := g.global.trans h.global
  buckets key := by
    rcases g.buckets key with same | ⟨gone,bucket,found,refilled⟩
    · rw [same]
      exact h.buckets key
    refine .inr ⟨gone,bucket,?_,refilled⟩
    rcases h.buckets key with same | ⟨absent,-⟩
    · rwa [← same]
    · rw [absent] at found
      cases found

theorem Forgets.held_eq {state after : LimiterState} (h : Forgets limiter now state after)
    (key : String) : held limiter now after key=held limiter now state key := by
  rcases h.buckets key with same | ⟨gone,bucket,found,refilled⟩
  · rw [held,held,same]
  · rw [held,held,gone,found]
    exact refilled.symm

theorem forget_forgets (state : LimiterState) (entry : StaleEntry)
    (h : ∀bucket,state.buckets[entry.key]?=some bucket → Refilled limiter now bucket) :
    Forgets limiter now state (state.forget entry) where
  global := rfl
  buckets key := by
    change (state.buckets.erase entry.key)[key]?=_ ∨ (state.buckets.erase entry.key)[key]?=_ ∧ _
    rw [getElem?_erase_eq]
    by_cases same : entry.key=key
    · subst same
      rw [if_pos rfl]
      cases found : state.buckets[entry.key]? with
      | none => exact .inl rfl
      | some bucket => exact .inr ⟨rfl,bucket,rfl,h bucket found⟩
    · rw [if_neg same]
      exact .inl rfl

/-- The idle cleanup forgets entries of the index that have expired. -/
theorem sweep_induction {P : LimiterState → Prop} (forget : ∀state entry,P state →
      entry∈state.byStaleness → (checkedDurationSince now entry.staleAt).any
        (fun idle => decide (bucketIdleExpiry < idle))=true → P (state.forget entry))
    (batch : Nat) {state : LimiterState} (start : P state) : P (sweep now batch state) := by
  induction batch generalizing state with
  | zero => exact start
  | succ batch ih =>
    rw [sweep]
    cases first : state.stalest with
    | none => exact start
    | some entry =>
      dsimp only
      split
      · next expired => exact ih (forget state entry start (state.stalest_mem first) expired)
      · exact start

theorem sweep_indexed (batch : Nat) {state : LimiterState} (indexed : state.Indexed) :
    (sweep now batch state).Indexed :=
  sweep_induction (fun _ _ kept listed _ => kept.forget listed) batch indexed

theorem sweep_global (batch : Nat) (state : LimiterState) :
    (sweep now batch state).global=state.global :=
  sweep_induction (P := fun later => later.global=state.global) (fun _ _ kept _ _ => kept) batch rfl

/-- What has expired is full again. -/
theorem sweep_forgets (refills : limiter.Refills) (batch : Nat) {state : LimiterState}
    (indexed : state.Indexed) : Forgets limiter now state (sweep now batch state) := by
  refine (sweep_induction (P := fun later => later.Indexed ∧ Forgets limiter now state later) ?_
    batch ⟨indexed,.refl state⟩).2
  rintro later entry ⟨kept,forgets⟩ listed expired
  refine ⟨kept.forget listed,forgets.trans (forget_forgets later entry ?_)⟩
  intro bucket found
  have filed := (kept entry).mp listed
  rw [found] at filed
  have last : bucket.lastRefill=entry.staleAt := Option.some.inj filed
  rw [← last,checkedDurationSince] at expired
  split at expired
  · next before => exact refills.idle before (of_decide_eq_true expired)
  · cases expired

end Forgetting

namespace IssuanceRateLimiter

/-- Where a key without a bucket comes at capacity, the stalest bucket is full again. -/
def EvictsRefilled (limiter : IssuanceRateLimiter) (slot : Option LimiterState) (check : Check) :
    Prop :=
  let state := sweep check.now sweepBatch (limiter.opened slot check.now)
  state.buckets[check.clientKey]?=none → maxTrackedClients ≤ state.buckets.size →
    ∀entry∈state.stalest,∀bucket,state.buckets[entry.key]?=some bucket →
      Refilled limiter check.now bucket

variable {limiter : IssuanceRateLimiter}

theorem makeWay_cases (state : LimiterState) : makeWay state=state ∨
    ∃entry,maxTrackedClients ≤ state.buckets.size ∧ state.stalest=some entry ∧
      makeWay state=state.forget entry := by
  unfold makeWay
  split
  · next full =>
    cases first : state.stalest with
    | none => exact .inl rfl
    | some entry => exact .inr ⟨entry,full,rfl,rfl⟩
  · exact .inl rfl

theorem claim_indexedBut {now : Nat} {key : String} {state : LimiterState}
    (indexed : state.Indexed) : (limiter.claim state key now).2.IndexedBut key := by
  unfold claim
  intro entry
  cases found : state.buckets[key]? with
  | some existing =>
    change entry∈state.byStaleness.erase ⟨existing.lastRefill,key⟩ ↔ _
    rw [LimiterState.mem_index_erase,indexed entry]
    refine and_congr_left ?_
    intro filed
    refine not_congr ⟨?_,?_⟩
    · rintro rfl
      rfl
    intro same
    obtain ⟨staleAt,own⟩ := entry
    simp only at same
    subst same
    rw [found] at filed
    have last : existing.lastRefill=staleAt := Option.some.inj filed
    rw [last]
  | none =>
    have absent : (makeWay state).Indexed ∧ (makeWay state).buckets[key]?=none := by
      rcases makeWay_cases state with same | ⟨gone,-,first,same⟩
      · rw [same]
        exact ⟨indexed,found⟩
      · rw [same]
        refine ⟨indexed.forget (state.stalest_mem first),?_⟩
        change (state.buckets.erase gone.key)[key]?=none
        rw [getElem?_erase_eq,found,ite_self]
    dsimp only
    rw [absent.1 entry]
    refine ⟨fun filed => ⟨?_,filed⟩,And.right⟩
    rintro rfl
    rw [absent.2] at filed
    cases filed

theorem claim_held (limiter : IssuanceRateLimiter) (state : LimiterState) (key : String) (now : Nat) :
    (limiter.claim state key now).1=held limiter now state key := by
  unfold claim held
  cases state.buckets[key]? with
  | none | some => rfl

theorem claim_forgets {now : Nat} {key : String} {state : LimiterState}
    (refilled : state.buckets[key]?=none → maxTrackedClients ≤ state.buckets.size →
      ∀entry∈state.stalest,∀bucket,state.buckets[entry.key]?=some bucket →
        Refilled limiter now bucket) :
    Forgets limiter now state (limiter.claim state key now).2 := by
  unfold claim
  cases found : state.buckets[key]? with
  | some existing => exact ⟨rfl,fun _ => .inl rfl⟩
  | none =>
    rcases makeWay_cases state with same | ⟨entry,full,first,same⟩
    · dsimp only
      rw [same]
      exact .refl state
    · dsimp only
      rw [same]
      exact forget_forgets state entry (refilled found full entry first)

/-- Whatever the clock says, the index stays in order. -/
theorem checkLocked_indexed {slot : Option LimiterState} {now : Nat}
    (indexed : (limiter.opened slot now).Indexed) (key : String) :
    (limiter.checkLocked slot key now).2.Indexed :=
  (claim_indexedBut (sweep_indexed sweepBatch indexed)).file _ _

theorem settle_credit (limiter : IssuanceRateLimiter) (bucket global : Bucket) :
    let settled := limiter.settle bucket global
    let drawn := if settled.1=.allow then nanosPerSecond*milli else 0
    settled.2.1.credit+drawn=bucket.credit ∧ settled.2.2.credit+drawn=global.credit ∧
      settled.2.1.lastRefill=bucket.lastRefill ∧ settled.2.2.lastRefill=global.lastRefill := by
  unfold settle
  split
  · next enough =>
    obtain ⟨client,overall⟩ := enough
    refine ⟨?_,?_,rfl,rfl⟩
    all_goals
      simp only [if_true,Bucket.credit,nanosPerSecond,milli] at *
      omega
  · simp

/-- What a check does to the buckets, whichever it forgets on the way. -/
theorem checkLocked_spec (refills : limiter.Refills) (slot : Option LimiterState) (check : Check)
    (indexed : (limiter.opened slot check.now).Indexed)
    (refilled : limiter.EvictsRefilled slot check) :
    let state := limiter.opened slot check.now
    let settled := limiter.settle (held limiter check.now state check.clientKey)
      (state.global.refill check.now limiter.globalBurstMilliTokens
        limiter.globalRefillMilliTokensPerSecond)
    let after := limiter.checkLocked slot check.clientKey check.now
    after.1=settled.1 ∧ after.2.global=settled.2.2 ∧
      ∃kept,Forgets limiter check.now state kept ∧
        after.2.buckets=kept.buckets.insert check.clientKey settled.2.1 := by
  intro state settled after
  have swept : Forgets limiter check.now state _ := sweep_forgets refills sweepBatch indexed
  have found := (claim_held limiter (sweep check.now sweepBatch state) check.clientKey
    check.now).trans (swept.held_eq check.clientKey)
  have same : limiter.settle
      (limiter.claim (sweep check.now sweepBatch state) check.clientKey check.now).1
      ((sweep check.now sweepBatch state).global.refill check.now limiter.globalBurstMilliTokens
        limiter.globalRefillMilliTokensPerSecond)=settled := by
    rw [found,swept.global]
  refine ⟨congrArg Prod.fst same,congrArg (fun s => s.2.2) same,
    (limiter.claim (sweep check.now sweepBatch state) check.clientKey check.now).2,
    swept.trans (claim_forgets refilled),?_⟩
  change ExtTreeMap.insert _ _ _=_
  rw [same]

def tracked (state : LimiterState) : Finset String := state.buckets.keys.toFinset

theorem mem_tracked {key : String} {state : LimiterState} : key∈tracked state ↔ key∈state.buckets := by
  rw [tracked,List.mem_toFinset,ExtTreeMap.mem_keys]

theorem card_tracked (state : LimiterState) : (tracked state).card=state.buckets.size := by
  rw [tracked,List.toFinset_card_of_nodup ExtTreeMap.nodup_keys,ExtTreeMap.length_keys]

/-- The index is exact and the buckets are within the capacity. -/
def Bounded (state : LimiterState) : Prop :=
  state.Indexed ∧ state.buckets.size ≤ maxTrackedClients

/-- At capacity the index has a stalest entry, and that one has a bucket to give up. -/
theorem Bounded.makeWay {state : LimiterState} (h : Bounded state) :
    (makeWay state).buckets.size < maxTrackedClients := by
  obtain ⟨indexed,bounded⟩ := h
  unfold IssuanceRateLimiter.makeWay
  split
  · next full =>
    have positive : 0 < maxTrackedClients := by decide
    cases first : state.stalest with
    | some entry =>
      obtain ⟨_,held,-⟩ := Option.map_eq_some_iff.mp ((indexed entry).mp (state.stalest_mem first))
      change (state.buckets.erase entry.key).size < _
      rw [ExtTreeMap.size_erase,if_pos]
      · omega
      · exact mem_of_getElem? held
    | none =>
      have some : 0 < (tracked state).card := by
        rw [card_tracked]
        omega
      obtain ⟨key,known⟩ := Finset.card_pos.mp some
      obtain ⟨bucket,held⟩ := exists_getElem? (mem_tracked.mp known)
      have filed := (indexed ⟨bucket.lastRefill,key⟩).mpr (by simp [held])
      rw [← ExtTreeSet.mem_toList,List.head?_eq_none_iff.mp first] at filed
      cases filed
  · next room => exact Nat.lt_of_not_le room

theorem Bounded.checkLocked {slot : Option LimiterState} {now : Nat}
    (h : Bounded (limiter.opened slot now)) (key : String) :
    Bounded (limiter.checkLocked slot key now).2 := by
  have swept : Bounded (sweep now sweepBatch (limiter.opened slot now)) :=
    sweep_induction (fun _ _ kept listed _ =>
      ⟨kept.1.forget listed,ExtTreeMap.size_erase_le.trans kept.2⟩) sweepBatch h
  refine ⟨checkLocked_indexed h.1 key,?_⟩
  change (ExtTreeMap.insert (claim _ (sweep now sweepBatch _) _ _).2.buckets _ _).size ≤ _
  rw [ExtTreeMap.size_insert]
  unfold claim
  split
  · next found => exact (if_pos (mem_of_getElem? found)).trans_le swept.2
  · split
    · exact swept.makeWay.le
    · exact swept.makeWay

end IssuanceRateLimiter

end CoursePlanner.Public
