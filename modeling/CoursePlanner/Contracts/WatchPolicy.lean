import CoursePlanner.Contracts.Scalar

namespace CoursePlanner.Contracts

inductive WatchNotificationMode where
  | oneShot
  | continuous
  deriving DecidableEq, Repr

def WatchNotificationMode.wire : WatchNotificationMode → String
  | .oneShot => "ONE_SHOT"
  | .continuous => "CONTINUOUS"

inductive WatchContinuousDurationV1 where
  | finite (seconds : NonZeroU64)
  | unlimited
  deriving DecidableEq

def WatchContinuousDurationV1.json : WatchContinuousDurationV1 → String
  | .finite seconds => "\x7b\"kind\":\"FINITE\",\"seconds\":" ++ toString seconds.get ++ "\x7d"
  | .unlimited => "\x7b\"kind\":\"UNLIMITED\"\x7d"

structure WatchPolicyV1 where
  notificationMode : WatchNotificationMode
  maxAudible : WatchMaxAudible
  continuousDuration : WatchContinuousDurationV1
  deriving DecidableEq

/-- The text that serde_json writes. -/
def WatchPolicyV1.json (policy : WatchPolicyV1) : String :=
  "\x7b\"notificationMode\":\"" ++ policy.notificationMode.wire ++
    "\",\"maxAudible\":" ++ toString policy.maxAudible.get ++
    ",\"continuousDuration\":" ++ policy.continuousDuration.json ++ "\x7d"

end CoursePlanner.Contracts
