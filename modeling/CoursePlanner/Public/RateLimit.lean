import CoursePlanner.Library.Metered
import CoursePlanner.Public.Session

namespace CoursePlanner.Public

open Std Library

def issuanceBurstTokens : Nat := 60
def issuanceRefillTokensPerSecond : Nat := 2
def globalIssuanceBurstTokens : Nat := 600
def globalIssuanceRefillTokensPerSecond : Nat := 10
def bucketIdleExpiry : Nat := 10*60*1000000000
def maxTrackedClients : Nat := 65536
def sweepBatch : Nat := 8
def milli : Nat := 1000
def nanosPerSecond : Nat := 1000000000
def u32Max : Nat := 2^32-1
def u64Max : Nat := 2^64-1
def u128Max : Nat := 2^128-1

structure Bucket where
  milliTokens : Nat
  lastRefill : Nat
  refillResidual : Nat
  deriving DecidableEq

namespace Bucket

def full (burstMilli now : Nat) : Bucket := ⟨burstMilli,now,0⟩

/-- The credit for the time since the last refill, in billionths of a milli-token. -/
def numerator (bucket : Bucket) (elapsed refillMilliPerSecond : Nat) : Nat :=
  min (min (elapsed*refillMilliPerSecond) u128Max+bucket.refillResidual) u128Max

def refill (bucket : Bucket) (now burstMilli refillMilliPerSecond : Nat) : Bucket :=
  match checkedDurationSince now bucket.lastRefill with
  | none => bucket
  | some elapsed =>
    let numerator := bucket.numerator elapsed refillMilliPerSecond
    let credited := min (numerator/nanosPerSecond) u64Max
    let milliTokens := min (min (bucket.milliTokens+credited) u64Max) burstMilli
    ⟨milliTokens,now,if milliTokens=burstMilli then 0 else numerator%nanosPerSecond⟩

def secondsUntilOneToken (bucket : Bucket) (refillMilliPerSecond : Nat) : Nat :=
  let deficitMilli := milli-bucket.milliTokens
  let rate := max refillMilliPerSecond 1
  let seconds := (deficitMilli+rate-1)/rate
  min (max seconds 1) u32Max

end Bucket

/-- An entry of the staleness index, ordered by its instant and then by its key. -/
structure StaleEntry where
  staleAt : Nat
  key : String
  deriving DecidableEq

instance : Ord StaleEntry := ⟨compareLex (compareOn StaleEntry.staleAt) (compareOn StaleEntry.key)⟩

instance : TransOrd StaleEntry := inferInstanceAs
  (TransCmp (compareLex (compareOn StaleEntry.staleAt) (compareOn StaleEntry.key)))

instance : LawfulEqOrd StaleEntry where
  eq_of_compare {a b} h := by
    obtain ⟨instants,keys⟩ := compareLex_eq_eq.mp h
    cases a
    cases b
    simp only [compareOn,Std.compare_eq_iff_eq] at instants keys
    subst instants keys
    rfl

structure LimiterState where
  buckets : ExtTreeMap String Bucket
  byStaleness : ExtTreeSet StaleEntry
  global : Bucket

inductive RateDecision where
  | allow
  | deny (retryAfterSeconds : Nat)
  deriving DecidableEq, Repr

/-- The budgets of a limiter; its state is kept apart, as the slot behind the lock. -/
structure IssuanceRateLimiter where
  burstMilliTokens : Nat
  refillMilliTokensPerSecond : Nat
  globalBurstMilliTokens : Nat
  globalRefillMilliTokensPerSecond : Nat

def LimiterState.forget (state : LimiterState) (entry : StaleEntry) : LimiterState :=
  {state with
    buckets := state.buckets.erase entry.key
    byStaleness := state.byStaleness.erase entry}

def LimiterState.stalest (state : LimiterState) : Option StaleEntry :=
  state.byStaleness.toList.head?

/-- The idle cleanup of one request: from the front of the index, as far as its entries
have expired and for a bounded number of them. -/
def sweep (now : Nat) : Nat → LimiterState → LimiterState
  | 0,state => state
  | batch+1,state =>
    match state.stalest with
    | none => state
    | some entry =>
      if (checkedDurationSince now entry.staleAt).any (fun idle => decide (bucketIdleExpiry < idle))
      then sweep now batch (state.forget entry)
      else state

namespace IssuanceRateLimiter

def new (burstTokens refillTokensPerSecond globalBurstTokens globalRefillTokensPerSecond : Nat) :
    IssuanceRateLimiter :=
  ⟨burstTokens*milli,refillTokensPerSecond*milli,globalBurstTokens*milli,
    globalRefillTokensPerSecond*milli⟩

def default : IssuanceRateLimiter :=
  new issuanceBurstTokens issuanceRefillTokensPerSecond globalIssuanceBurstTokens
    globalIssuanceRefillTokensPerSecond

/-- A key that has no bucket gets a full one. At capacity the stalest bucket goes for it. -/
def makeWay (state : LimiterState) : LimiterState :=
  if maxTrackedClients ≤ state.buckets.size then
    match state.stalest with
    | some entry => state.forget entry
    | none => state
  else state

/-- The bucket of the client, brought up to now and taken out of the index. -/
def claim (limiter : IssuanceRateLimiter) (state : LimiterState) (clientKey : String) (now : Nat) :
    Bucket × LimiterState :=
  match state.buckets[clientKey]? with
  | some existing =>
    (existing.refill now limiter.burstMilliTokens limiter.refillMilliTokensPerSecond,
      {state with byStaleness := state.byStaleness.erase ⟨existing.lastRefill,clientKey⟩})
  | none => (.full limiter.burstMilliTokens now,makeWay state)

/-- Both buckets give a token, or neither does. -/
def settle (limiter : IssuanceRateLimiter) (bucket global : Bucket) :
    RateDecision × Bucket × Bucket :=
  if milli ≤ bucket.milliTokens ∧ milli ≤ global.milliTokens then
    (.allow,{bucket with milliTokens := bucket.milliTokens-milli},
      {global with milliTokens := global.milliTokens-milli})
  else
    let clientWait := if milli ≤ bucket.milliTokens then 0
      else bucket.secondsUntilOneToken limiter.refillMilliTokensPerSecond
    let globalWait := if milli ≤ global.milliTokens then 0
      else global.secondsUntilOneToken limiter.globalRefillMilliTokensPerSecond
    (.deny (max (max clientWait globalWait) 1),bucket,global)

def opened (limiter : IssuanceRateLimiter) (slot : Option LimiterState) (now : Nat) : LimiterState :=
  slot.getD ⟨∅,∅,.full limiter.globalBurstMilliTokens now⟩

def checkLocked (limiter : IssuanceRateLimiter) (slot : Option LimiterState) (clientKey : String)
    (now : Nat) : RateDecision × LimiterState :=
  let state := sweep now sweepBatch (limiter.opened slot now)
  let global := state.global.refill now limiter.globalBurstMilliTokens
    limiter.globalRefillMilliTokensPerSecond
  let claimed := limiter.claim state clientKey now
  let settled := limiter.settle claimed.1 global
  (settled.1,
    { buckets := claimed.2.buckets.insert clientKey settled.2.1
      byStaleness := claimed.2.byStaleness.insert ⟨settled.2.1.lastRefill,clientKey⟩
      global := settled.2.2 })

end IssuanceRateLimiter

structure Check where
  clientKey : String
  now : Nat
  deriving DecidableEq

def IssuanceRateLimiter.step (limiter : IssuanceRateLimiter) (slot : Option LimiterState)
    (check : Check) : RateDecision × Option LimiterState :=
  let result := limiter.checkLocked slot check.clientKey check.now
  (result.1,some result.2)

end CoursePlanner.Public
