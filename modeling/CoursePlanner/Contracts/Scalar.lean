import Mathlib

namespace CoursePlanner.Contracts

def u64Max : Nat := 2^64-1
def u32Max : Nat := 2^32-1

/-- u64::saturating_add on values below 2^64. -/
def saturatingAdd (a b : Nat) : Nat := min (a+b) u64Max

/-- u64::saturating_mul on values below 2^64. -/
def saturatingMul (a b : Nat) : Nat := min (a*b) u64Max

structure NonZeroU64 where
  get : Nat
  positive : 0<get
  bounded : get≤u64Max
  deriving DecidableEq

structure NonZeroU8 where
  get : Nat
  positive : 0<get
  bounded : get<2^8
  deriving DecidableEq

/-- The largest integer that the Rust wire and a JavaScript client share. -/
def maxSafeInteger : Nat := 9007199254740991

structure WatchMaxAudible where
  get : Nat
  positive : 0<get
  bounded : get ≤ maxSafeInteger
  deriving DecidableEq

/-- std::time::Duration at its own nanosecond resolution. -/
structure Duration where
  nanos : Nat
  deriving DecidableEq, Repr

namespace Duration

def fromSecs (seconds : Nat) : Duration := ⟨1000000000*seconds⟩
def fromMillis (milliseconds : Nat) : Duration := ⟨1000000*milliseconds⟩
def asMillis (duration : Duration) : Nat := duration.nanos/1000000
def isZero (duration : Duration) : Bool := duration.nanos=0

end Duration

/-- u64::try_from(duration.as_millis()).unwrap_or(u64::MAX). -/
def millisOrMax (duration : Duration) : Nat := min duration.asMillis u64Max

/-- Instants of the wall clock as signed nanoseconds from the Unix epoch. -/
abbrev OffsetDateTime := Int

end CoursePlanner.Contracts
