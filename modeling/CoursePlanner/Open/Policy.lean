import CoursePlanner.Contracts.Identity
import CoursePlanner.Contracts.Scalar

namespace CoursePlanner.Open

open Contracts

def publicGeneralOpenIntervalSeconds : Nat := 30
def localMinimumOpenIntervalSeconds : Nat := 3
def localMaximumOpenIntervalSeconds : Nat := 3600
def publicWatchOpenIntervalSeconds : Nat := 10
def localMinimumWatchOpenIntervalSeconds : Nat := 3
def localMaximumWatchOpenIntervalSeconds : Nat := 60

inductive OpenRuntimeMode where
  | «local»
  | «public»
  deriving DecidableEq, Repr

/-- The fields are private in the source: its constructors admit the local range
or the fixed public value. -/
structure GeneralOpenInterval where
  seconds : Nat
  mode : OpenRuntimeMode
  valid : match mode with
    | .local => localMinimumOpenIntervalSeconds ≤ seconds ∧ seconds ≤ localMaximumOpenIntervalSeconds
    | .public => seconds=publicGeneralOpenIntervalSeconds
  deriving DecidableEq

structure WatchOpenInterval where
  seconds : Nat
  mode : OpenRuntimeMode
  valid : match mode with
    | .local => localMinimumWatchOpenIntervalSeconds ≤ seconds ∧
        seconds ≤ localMaximumWatchOpenIntervalSeconds
    | .public => seconds=publicWatchOpenIntervalSeconds
  deriving DecidableEq

structure OpenRefreshIntervals where
  general : GeneralOpenInterval
  watch : WatchOpenInterval
  deriving DecidableEq

namespace OpenRefreshIntervals

/-- OpenRefreshIntervals::public. -/
def fixed : OpenRefreshIntervals :=
  ⟨⟨publicGeneralOpenIntervalSeconds,.public,rfl⟩,⟨publicWatchOpenIntervalSeconds,.public,rfl⟩⟩

def effectiveSeconds (intervals : OpenRefreshIntervals) (hasActiveWatch : Bool) : Nat :=
  if hasActiveWatch && intervals.watch.seconds < intervals.general.seconds then
    intervals.watch.seconds
  else intervals.general.seconds

def effective (intervals : OpenRefreshIntervals) (hasActiveWatch : Bool) : Duration :=
  .fromSecs (intervals.effectiveSeconds hasActiveWatch)

/-- Both cadences are at least three seconds, so an Open job never has a zero interval. -/
theorem effective_not_zero (ivs : OpenRefreshIntervals) (hasActiveWatch : Bool) :
    (ivs.effective hasActiveWatch).isZero=false := by
  have general : 3 ≤ ivs.general.seconds := by
    have valid := ivs.general.valid
    split at valid
    · exact valid.1
    · rw [valid]; decide
  have watch : 3 ≤ ivs.watch.seconds := by
    have valid := ivs.watch.valid
    split at valid
    · exact valid.1
    · rw [valid]; decide
  have positive : 3 ≤ ivs.effectiveSeconds hasActiveWatch := by
    unfold effectiveSeconds
    split <;> assumption
  apply decide_eq_false
  change 1000000000*ivs.effectiveSeconds hasActiveWatch≠0
  omega

end OpenRefreshIntervals

inductive RetryMode where
  | automatic
  | originCircuit
  | explicitDiagnosticRecheck
  deriving DecidableEq, Repr

structure RetryDirective where
  delay : Duration
  mode : RetryMode
  nextFailureStreak : Nat
  clearsFatalDiagnostic : Bool
  deriving DecidableEq

end CoursePlanner.Open
