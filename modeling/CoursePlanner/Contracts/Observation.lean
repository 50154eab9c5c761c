import CoursePlanner.Contracts.Identity
import CoursePlanner.Contracts.Scalar

namespace CoursePlanner.Contracts

inductive OpenState where
  | opened
  | closed
  | unknown
  deriving DecidableEq, Repr

/-- The part of an Open observation that the watch core reads. -/
structure OpenObservation where
  observationId : TraceId
  sectionKey : SectionKey
  pullSequence : NonZeroU64
  state : OpenState
  observedAt : OffsetDateTime
  freshUntil : OffsetDateTime
  deriving DecidableEq

end CoursePlanner.Contracts
