import CoursePlanner.Public.Allowance

set_option maxRecDepth 8000

namespace CoursePlanner.Public

open Std Library

/-! A client whose bucket is evicted before it is full again -/

/-- Within the first ten minutes nothing has expired. -/
theorem sweep_early {now : Nat} (early : now ≤ bucketIdleExpiry) (batch : Nat)
    (state : LimiterState) : sweep now batch state=state := by
  cases batch with
  | zero => rfl
  | succ batch =>
    rw [sweep]
    cases state.stalest with
    | none => rfl
    | some entry =>
      have fresh : (checkedDurationSince now entry.staleAt).any
          (fun idle => decide (bucketIdleExpiry < idle))=false := by
        rw [checkedDurationSince]
        split
        · simp only [Option.any_some,decide_eq_false_iff_not]
          omega
        · rfl
      simp only [fresh]
      rfl

namespace IssuanceRateLimiter

variable {now : Nat} {state : LimiterState} {key : String}

theorem checkLocked_early (early : now ≤ bucketIdleExpiry) (state : LimiterState) (key : String) :
    default.checkLocked (some state) key now=
      let claimed := default.claim state key now
      let settled := default.settle claimed.1 (state.global.refill now 600000 10000)
      (settled.1,⟨claimed.2.buckets.insert key settled.2.1,
        claimed.2.byStaleness.insert ⟨settled.2.1.lastRefill,key⟩,settled.2.2⟩) := by
  unfold checkLocked
  rw [sweep_early early]
  rfl

/-- A client with a token in its bucket is admitted when the global bucket has one. -/
theorem step_allowed (state : LimiterState) (key : String) (now : Nat)
    (early : now ≤ bucketIdleExpiry)
    (client : milli ≤ (held default now state key).milliTokens)
    (overall : milli ≤ (state.global.refill now 600000 10000).milliTokens) :
    ∃after,default.step (some state) ⟨key,now⟩=(.allow,some after) ∧
      after.buckets[key]?=some {held default now state key with
        milliTokens := (held default now state key).milliTokens-milli} ∧
      after.global={state.global.refill now 600000 10000 with
        milliTokens := (state.global.refill now 600000 10000).milliTokens-milli} := by
  have checked := checkLocked_early early state key
  dsimp only at checked
  rw [claim_held,settle,if_pos ⟨client,overall⟩] at checked
  rw [step,checked]
  refine ⟨_,rfl,?_,rfl⟩
  rw [getElem?_insert_eq,if_pos rfl]

/-- A state in which every bucket was last refilled at the first instant. -/
structure Early (state : LimiterState) : Prop where
  indexed : state.Indexed
  buckets : ∀(key : String) (bucket : Bucket),state.buckets[key]?=some bucket → bucket.lastRefill=0
  global : state.global.lastRefill=0

theorem Early.held_lastRefill (h : Early state) (key : String) :
    (held default 0 state key).lastRefill=0 := by
  unfold held
  cases found : state.buckets[key]? with
  | none => rfl
  | some bk =>
    rw [Option.elim_some,Bucket.refill_lastRefill,h.buckets key bk found,Nat.max_self]

theorem Early.global_lastRefill (h : Early state) (key : String) :
    (default.checkLocked (some state) key 0).2.global.lastRefill=0 := by
  rw [checkLocked_early (Nat.zero_le _)]
  refine (default.settle_credit _ _).2.2.2.trans ?_
  rw [Bucket.refill_lastRefill,h.global,Nat.max_self]

/-- Admitted or not, a client that finds room is tracked from then on. -/
theorem Early.step (h : Early state) (key : String) (room : key∉tracked state →
      (tracked state).card < maxTrackedClients) :
    ∃after,(default.step (some state) ⟨key,0⟩).2=some after ∧ Early after ∧
      tracked after=insert key (tracked state) := by
  have free : state.buckets[key]?=none → ¬maxTrackedClients ≤ state.buckets.size := by
    intro absent
    rw [← card_tracked,Nat.not_le]
    apply room
    rw [mem_tracked,mem_iff_getElem?_ne_none,not_not]
    exact absent
  have kept : (default.claim state key 0).2.buckets=state.buckets := by
    unfold claim
    cases found : state.buckets[key]? with
    | some bk => rfl
    | none =>
      rw [makeWay,if_neg (free found)]
  obtain ⟨left,buckets,last⟩ : ∃left : Bucket,
      (default.checkLocked (some state) key 0).2.buckets=state.buckets.insert key left ∧
        left.lastRefill=0 := by
    rw [checkLocked_early (Nat.zero_le _)]
    dsimp only
    rw [kept,claim_held]
    exact ⟨_,rfl,(default.settle_credit _ _).2.2.1.trans (h.held_lastRefill key)⟩
  have indexed : (default.opened (some state) 0).Indexed := h.indexed
  refine ⟨_,rfl,⟨checkLocked_indexed indexed key,?_,h.global_lastRefill key⟩,?_⟩
  · intro other bk found
    rw [buckets,getElem?_insert_eq] at found
    split at found
    · cases found
      exact last
    · exact h.buckets other bk found
  · ext other
    rw [mem_tracked,Finset.mem_insert,mem_tracked,buckets,ExtTreeMap.mem_insert,
      Std.compare_eq_iff_eq,eq_comm]

theorem Early.run (h : Early state) (keys : List String)
    (room : (tracked state ∪ keys.toFinset).card ≤ maxTrackedClients) :
    ∃after,run default.step (some state) (keys.map (fun key => ⟨key,0⟩))=some after ∧ Early after ∧
      tracked after=tracked state ∪ keys.toFinset := by
  induction keys generalizing state with
  | nil => exact ⟨state,rfl,h,by simp⟩
  | cons key keys ih =>
    rw [List.toFinset_cons,← Finset.insert_union_comm] at room ⊢
    obtain ⟨next,same,early,keys⟩ := h.step key (by
      intro absent
      have grown := (Finset.card_le_card Finset.subset_union_left).trans room
      rwa [Finset.card_insert_of_notMem absent] at grown)
    rw [← keys] at room ⊢
    obtain ⟨after,ran,done⟩ := ih early room
    refine ⟨after,?_,done⟩
    rw [List.map_cons,CoursePlanner.Library.run,same]
    exact ran

theorem empty_isLE (key : String) : (compare "" key).isLE=true := by
  change (compareOfLessAndEq "" key).isLE=true
  unfold compareOfLessAndEq
  split
  · rfl
  next notLess =>
  split
  · rfl
  next different =>
  refine absurd ?_ notLess
  rw [String.lt_iff_toList_lt]
  cases letters : key.toList with
  | nil => exact absurd (String.toList_eq_nil_iff.mp letters).symm different
  | cons first rest => exact List.nil_lt_cons _ _

theorem Early.stalest (h : Early state) (victim : ""∈tracked state) :
    state.stalest=some ⟨0,""⟩ := by
  obtain ⟨bk,found⟩ := exists_getElem? (mem_tracked.mp victim)
  rw [state.stalest_eq_min?,ExtTreeSet.min?_eq_some_iff_mem_and_forall]
  refine ⟨(h.indexed ⟨0,""⟩).mpr ?_,?_⟩
  · rw [found,Option.map_some,h.buckets "" bk found]
  intro entry _
  change ((compare 0 entry.staleAt).then (compare "" entry.key)).isLE=true
  have least := empty_isLE entry.key
  cases entry.staleAt with
  | zero => simpa using least
  | succ instant => simp [Nat.compare_eq_lt.mpr (Nat.succ_pos instant)]

/-- The client that finds the limiter full takes the place of the empty key. -/
theorem Early.evicts (h : Early state) (victim : ""∈tracked state)
    (full : maxTrackedClients ≤ (tracked state).card) (new : key∉tracked state) :
    ∃after,(default.step (some state) ⟨key,0⟩).2=some after ∧ after.buckets[""]?=none ∧
      after.global.lastRefill=0 := by
  refine ⟨_,rfl,?_,h.global_lastRefill key⟩
  have absent : state.buckets[key]?=none := ExtTreeMap.getElem?_eq_none (mt mem_tracked.mpr new)
  have claimed : (default.claim state key 0).2=state.forget ⟨0,""⟩ := by
    rw [claim,absent]
    rw [makeWay,if_pos (card_tracked state ▸ full),h.stalest victim]
  have other : key≠"" := by
    rintro rfl
    exact new victim
  rw [checkLocked_early (Nat.zero_le _)]
  dsimp only
  rw [claimed,getElem?_insert_eq,if_neg other]
  change (state.buckets.erase "")[""]?=none
  rw [getElem?_erase_eq,if_pos rfl]

/-- A fifth of a second: the global bucket has two tokens again. -/
def shortly : Nat := 200000000

theorem global_shortly {bk : Bucket} (zero : bk.lastRefill=0) :
    2*milli ≤ (bk.refill shortly 600000 10000).milliTokens ∧
      (bk.refill shortly 600000 10000).milliTokens≤600000 := by
  rw [Bucket.refill_eq bk 600000 10000 (by decide) (zero ▸ Nat.zero_le _)]
  simp only [milli,shortly,nanosPerSecond]
  omega

/-- Once its bucket is gone, the client is admitted as soon as the global bucket allows it. -/
theorem evicted_allowed (gone : state.buckets[""]?=none) (zero : state.global.lastRefill=0) :
    answers default.step (some state) [⟨"",shortly⟩,⟨"",shortly⟩]=
      [(⟨"",shortly⟩,.allow),(⟨"",shortly⟩,.allow)] := by
  obtain ⟨enough,within⟩ := global_shortly zero
  have holds : held default shortly state ""=.full 60000 shortly := by
    rw [held,gone]
    rfl
  obtain ⟨after,first,bk,global⟩ := step_allowed state "" shortly (by decide)
    (by rw [holds]; decide) ((by decide : milli ≤ 2*milli).trans enough)
  have last : after.global.lastRefill=shortly := by
    rw [global]
    rw [Bucket.refill_lastRefill,zero]
    rfl
  obtain ⟨_,second,-⟩ := step_allowed after "" shortly (by decide) (by
      rw [held,bk,holds]
      decide)
    (by
      rw [Bucket.refill_eq _ _ _ (by decide) last.le]
      dsimp only
      rw [global]
      generalize (_+_)/nanosPerSecond=credited
      simp only [milli] at enough ⊢
      omega)
  rw [answers,first,answers,second,answers]

end IssuanceRateLimiter

/-- The keys of a flood, all different and none of them empty. -/
def flooder (i : Nat) : String := String.ofList (List.replicate (i+1) 'x')

theorem flooder_inj : Function.Injective flooder := by
  intro i j h
  have lengths := congrArg (fun s => s.toList.length) h
  simpa [flooder] using lengths

theorem flooder_ne_empty (i : Nat) : flooder i≠"" := by
  intro h
  have lengths := congrArg (fun s => s.toList.length) h
  simp [flooder] at lengths

/-- One client spends its burst, and others come. -/
def crowd (others : Nat) : List String := List.replicate 60 ""++(List.range others).map flooder

variable (others : Nat)

theorem mem_crowd (key : String) :
    key∈(crowd others).toFinset ↔ key∈insert "" ((Finset.range others).image flooder) := by
  rw [List.mem_toFinset,crowd,List.mem_append,Finset.mem_insert]
  simp

theorem crowd_card : (crowd others).toFinset.card=others+1 := by
  rw [Finset.ext (mem_crowd others),Finset.card_insert_of_notMem,
    Finset.card_image_of_injective _ flooder_inj,Finset.card_range]
  simp [flooder_ne_empty]

def floodedChecks (others : Nat) : List Check :=
  (crowd others).map (fun key => ⟨key,0⟩)++[⟨flooder others,0⟩,⟨"",IssuanceRateLimiter.shortly⟩,
    ⟨"",IssuanceRateLimiter.shortly⟩]

theorem floodedChecks_ordered :
    (floodedChecks others).Pairwise (fun first second => first.now ≤ second.now) := by
  have zero : ∀check∈(crowd others).map (fun key => Check.mk key 0),check.now=0 := by
    intro check member
    obtain ⟨key,-,rfl⟩ := List.mem_map.mp member
    rfl
  refine List.pairwise_append.mpr ⟨?_,by simp,?_⟩
  · rw [List.pairwise_iff_forall_sublist]
    intro first second sub
    rw [zero first (sub.subset List.mem_cons_self)]
    exact Nat.zero_le _
  · intro first member second _
    rw [zero first member]
    exact Nat.zero_le _

/-- Before the first check the limiter is empty. -/
def untouched : LimiterState := ⟨∅,∅,.full 600000 0⟩

theorem untouched_early : IssuanceRateLimiter.Early untouched where
  indexed entry := by simp [untouched]
  buckets key bk found := by simp [untouched] at found
  global := rfl

theorem crowd_leaves {others : Nat} (full : others+1=maxTrackedClients) :
    ∃state,run IssuanceRateLimiter.default.step none ((crowd others).map (fun key => ⟨key,0⟩))=
      some state ∧ IssuanceRateLimiter.Early state ∧
        IssuanceRateLimiter.tracked state=(crowd others).toFinset := by
  have empty : IssuanceRateLimiter.tracked untouched=∅ := rfl
  obtain ⟨state,ran,early,keys⟩ := untouched_early.run (crowd others) (by
    rw [empty,Finset.empty_union,crowd_card,full])
  rw [empty,Finset.empty_union] at keys
  exact ⟨state,ran,early,keys⟩

/-- How often the first client is admitted in the first fifth of a second. -/
def admitted (answered : List (Check × RateDecision)) : Nat :=
  within Check.now (fun check decision => check.clientKey="" ∧ decision=.allow) 0
    IssuanceRateLimiter.shortly answered

theorem flooded_admitted {others : Nat} (full : others+1=maxTrackedClients) :
    62 ≤ admitted (answers IssuanceRateLimiter.default.step none (floodedChecks others)) := by
  obtain ⟨state,ran,early,keys⟩ := crowd_leaves full
  have victim : ""∈IssuanceRateLimiter.tracked state := by
    rw [keys,mem_crowd]
    exact Finset.mem_insert_self _ _
  have new : flooder others∉IssuanceRateLimiter.tracked state := by
    rw [keys,mem_crowd,Finset.mem_insert,Finset.mem_image]
    rintro (empty | ⟨i,below,same⟩)
    · exact flooder_ne_empty _ empty
    · rw [flooder_inj same] at below
      exact Finset.notMem_range_self below
  obtain ⟨evicted,last,gone,zero⟩ := early.evicts victim (by rw [keys,crowd_card,full]) new
  have spent : 60 ≤ admitted (answers IssuanceRateLimiter.default.step none
      ((crowd others).map (fun key => ⟨key,0⟩))) := by
    have all : admitted (List.replicate 60 (⟨"",0⟩,.allow))=60 := by decide +kernel
    rw [crowd,List.map_append,List.map_replicate,answers_append,admitted,within_append]
    exact (Nat.le_of_eq all.symm).trans (Nat.le_add_right _ _)
  have again : 2 ≤ admitted (answers IssuanceRateLimiter.default.step (some state)
      [⟨flooder others,0⟩,⟨"",IssuanceRateLimiter.shortly⟩,⟨"",IssuanceRateLimiter.shortly⟩]) := by
    rw [answers,last,IssuanceRateLimiter.evicted_allowed gone zero,← List.singleton_append,
      admitted,within_append]
    exact Nat.le_add_left _ _
  rw [floodedChecks,answers_append,admitted,within_append,ran]
  exact Nat.add_le_add spent again

/-- Sixty requests of one client, one of each of 65536 others and two more of the first
client a fifth of a second later: the first client is admitted 62 times within that time. -/
theorem flood_restores_burst :
    (floodedChecks 65535).Pairwise (fun first second => first.now ≤ second.now) ∧
      60*nanosPerSecond+2*IssuanceRateLimiter.shortly+nanosPerSecond < nanosPerSecond*admitted
          (answers IssuanceRateLimiter.default.step none (floodedChecks 65535)) := by
  refine ⟨floodedChecks_ordered 65535,?_⟩
  have often : 62 ≤ admitted _ := flooded_admitted (show 65535+1=maxTrackedClients by decide)
  have paid := Nat.mul_le_mul_left nanosPerSecond often
  exact Nat.lt_of_lt_of_le (by decide) paid

end CoursePlanner.Public
