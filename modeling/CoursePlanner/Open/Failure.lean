import CoursePlanner.Storage.Tables

namespace CoursePlanner.Open

open Contracts
open Storage (OpenHttpAuditMetadata)

inductive RetryAfterValue where
  | delaySeconds (seconds : Nat)
  | httpDateUnixSeconds (unixSeconds : Int)
  deriving DecidableEq, Repr

inductive RetryAfterHeader where
  | missing
  | invalid
  | valid (value : RetryAfterValue)
  deriving DecidableEq, Repr

inductive RedirectScope where
  | sameOrigin
  | offOrigin
  | invalidLocation
  deriving DecidableEq, Repr

inductive OpenSectionsError where
  | timeout
  | network
  | requestConstruction
  | responseUrlMismatch
  | transientHttp (status : Nat)
  | rateLimited (retryAfter : RetryAfterHeader)
  | forbidden
  | redirect (status : Nat) (scope : RedirectScope)
  | fatalClientHttp (status : Nat)
  | unsupportedHttp (status : Nat)
  | invalidContentType
  | responseTooLarge
  | contentDecoding
  | invalidJson
  | rootNotArray
  | nonStringValue (position : Nat)
  | invalidSectionIndex (position : Nat)
  deriving DecidableEq, Repr

/-- The response facts that the client keeps with a failure. -/
structure OpenFailureResponseMetadata where
  httpStatus : Nat
  decodedBytes : Option Nat
  decodedBodySha256 : Option String
  contentType : Option String
  etag : Option String
  cacheControl : Option String
  date : Option String
  ageSeconds : Option Nat
  lastModified : Option String
  retryAfterRaw : Option String
  deriving DecidableEq

structure OpenSectionsFailure where
  kind : OpenSectionsError
  responseMetadata : Option OpenFailureResponseMetadata
  deriving DecidableEq

/-- classify_http_failure of a status that is not a success. -/
def classifyHttpFailure (status : Nat) (retryAfter : RetryAfterHeader)
    (scope : RedirectScope) : OpenSectionsError :=
  if status=408 ∨ (500 ≤ status ∧ status ≤ 599) then .transientHttp status
  else if status=429 then .rateLimited retryAfter
  else if status=403 then .forbidden
  else if 300 ≤ status ∧ status ≤ 399 ∧ status≠304 then .redirect status scope
  else if 400 ≤ status ∧ status ≤ 499 then .fatalClientHttp status
  else .unsupportedHttp status

/-- The failures that carry a status are those of classify_http_failure, with the
metadata of the response that it classified. -/
def OpenSectionsFailure.classified (failure : OpenSectionsFailure) : Prop :=
  match failure.kind with
  | .transientHttp _ | .rateLimited _ | .forbidden | .redirect _ _ | .fatalClientHttp _
  | .unsupportedHttp _ => ∃metadata retryAfter scope,failure.responseMetadata=some metadata ∧
      failure.kind=classifyHttpFailure metadata.httpStatus retryAfter scope
  | _ => True

inductive OpenPayloadClassification where
  | nonempty
  | empty
  deriving DecidableEq, Repr

structure OpenResponseMetadata where
  httpStatus : Nat
  decodedBytes : Nat
  decodedBodySha256 : String
  canonicalSetSha256 : String
  rawValueCount : Nat
  uniqueValueCount : Nat
  duplicateValueCount : Nat
  contentType : String
  etag : Option String
  cacheControl : Option String
  date : Option String
  ageSeconds : Option Nat
  lastModified : Option String
  deriving DecidableEq

inductive OpenPullFailure where
  | upstream (failure : OpenSectionsFailure)
  | responseTargetMismatch (metadata : OpenResponseMetadata)
  | responseMetadataMismatch (metadata : OpenResponseMetadata)
  | catalogUnavailableAfterFetch (metadata : OpenResponseMetadata)
  deriving DecidableEq

inductive OpenFailureKind where
  | transient
  | unsafeEmpty
  | unsafeZeroIntersection
  | suspectPartial
  | rateLimited (retryAfter : Option Duration)
  | fatalProtocol
  deriving DecidableEq

/-- OffsetDateTime::unix_timestamp. -/
def unixTimestamp (instant : OffsetDateTime) : Int := instant/1000000000

def retryAfterDelay (retryAfter : RetryAfterHeader) (completedAt : OffsetDateTime) :
    Option Duration :=
  match retryAfter with
  | .valid (.delaySeconds seconds) => some (.fromSecs seconds)
  | .valid (.httpDateUnixSeconds unixSeconds) =>
    -- i64::saturating_sub, and a date that has passed waits no longer
    some (.fromSecs (min (unixSeconds-unixTimestamp completedAt) i64Max).toNat)
  | .missing | .invalid => none

structure FailureStorageFields where
  httpStatus : Option Nat
  retryAfterSeconds : Option Nat
  errorCode : String
  failureKind : OpenFailureKind

def upstreamStorageFields (kind : OpenSectionsError) (completedAt : OffsetDateTime) :
    FailureStorageFields :=
  match kind with
  | .timeout => ⟨none,none,"OPEN_TIMEOUT",.transient⟩
  | .network => ⟨none,none,"OPEN_NETWORK",.transient⟩
  | .requestConstruction => ⟨none,none,"OPEN_REQUEST_CONSTRUCTION",.fatalProtocol⟩
  | .responseUrlMismatch => ⟨none,none,"OPEN_RESPONSE_URL_MISMATCH",.fatalProtocol⟩
  | .transientHttp status => ⟨some status,none,"OPEN_TRANSIENT_HTTP",.transient⟩
  | .rateLimited retryAfter =>
    let retryAfter := retryAfterDelay retryAfter completedAt
    ⟨some 429,retryAfter.map (fun delay => delay.nanos/1000000000),"OPEN_RATE_LIMITED",
      .rateLimited retryAfter⟩
  | .forbidden => ⟨some 403,none,"OPEN_FORBIDDEN",.fatalProtocol⟩
  | .redirect status scope =>
    let errorCode := match scope with
      | .offOrigin => "OPEN_OFF_ORIGIN_REDIRECT"
      | .sameOrigin => "OPEN_SAME_ORIGIN_REDIRECT"
      | .invalidLocation => "OPEN_INVALID_REDIRECT"
    ⟨some status,none,errorCode,.fatalProtocol⟩
  | .fatalClientHttp status => ⟨some status,none,"OPEN_FATAL_CLIENT_HTTP",.fatalProtocol⟩
  | .unsupportedHttp status => ⟨some status,none,"OPEN_UNSUPPORTED_HTTP",.fatalProtocol⟩
  | .invalidContentType => ⟨none,none,"OPEN_INVALID_CONTENT_TYPE",.fatalProtocol⟩
  | .responseTooLarge => ⟨none,none,"OPEN_RESPONSE_TOO_LARGE",.fatalProtocol⟩
  | .contentDecoding => ⟨none,none,"OPEN_CONTENT_DECODING",.fatalProtocol⟩
  | .invalidJson => ⟨none,none,"OPEN_INVALID_JSON",.fatalProtocol⟩
  | .rootNotArray => ⟨none,none,"OPEN_ROOT_NOT_ARRAY",.fatalProtocol⟩
  | .nonStringValue _ => ⟨none,none,"OPEN_NON_STRING_VALUE",.fatalProtocol⟩
  | .invalidSectionIndex _ => ⟨none,none,"OPEN_INVALID_SECTION_INDEX",.fatalProtocol⟩

def failureStorageFields (failure : OpenPullFailure) (completedAt : OffsetDateTime) :
    FailureStorageFields :=
  match failure with
  | .responseTargetMismatch _ => ⟨none,none,"OPEN_RESPONSE_TARGET_MISMATCH",.fatalProtocol⟩
  | .responseMetadataMismatch _ => ⟨none,none,"OPEN_RESPONSE_METADATA_MISMATCH",.fatalProtocol⟩
  | .catalogUnavailableAfterFetch _ =>
    ⟨none,none,"OPEN_CATALOG_UNAVAILABLE_AFTER_FETCH",.transient⟩
  | .upstream failure => upstreamStorageFields failure.kind completedAt

/-- The audit of a failure that no response came with. -/
def unansweredAudit (httpStatus retryAfterSeconds : Option Nat) : OpenHttpAuditMetadata :=
  { OpenHttpAuditMetadata.none with
    httpStatus
    cacheStatus := some .notApplicable
    retryAfterSeconds }

def responseAudit (metadata : OpenResponseMetadata) (retryAfterSeconds : Option Nat) :
    OpenHttpAuditMetadata where
  httpStatus := some metadata.httpStatus
  cacheStatus := some .notApplicable
  decodedBytes := some metadata.decodedBytes
  decodedBodySha256 := some metadata.decodedBodySha256
  contentType := some metadata.contentType
  etag := metadata.etag
  cacheControl := metadata.cacheControl
  date := metadata.date
  ageSeconds := metadata.ageSeconds
  lastModified := metadata.lastModified
  retryAfter := none
  retryAfterSeconds

/-- usize is at most 64 bits wide, so no count of a response overflows here. -/
def failureHttpAudit (failure : OpenPullFailure)
    (fallbackHttpStatus retryAfterSeconds : Option Nat) : OpenHttpAuditMetadata :=
  match failure with
  | .upstream value =>
    match value.responseMetadata with
    | none => unansweredAudit fallbackHttpStatus retryAfterSeconds
    | some metadata =>
      { httpStatus := some metadata.httpStatus
        cacheStatus := some .notApplicable
        decodedBytes := metadata.decodedBytes
        decodedBodySha256 := metadata.decodedBodySha256
        contentType := metadata.contentType
        etag := metadata.etag
        cacheControl := metadata.cacheControl
        date := metadata.date
        ageSeconds := metadata.ageSeconds
        lastModified := metadata.lastModified
        retryAfter := metadata.retryAfterRaw
        retryAfterSeconds }
  | .responseTargetMismatch metadata | .responseMetadataMismatch metadata
  | .catalogUnavailableAfterFetch metadata => responseAudit metadata retryAfterSeconds

def storedStatus (failure : OpenPullFailure) (completedAt : OffsetDateTime) : Option Nat :=
  let fields := failureStorageFields failure completedAt
  (failureHttpAudit failure fields.httpStatus fields.retryAfterSeconds).httpStatus

end CoursePlanner.Open
