import CoursePlanner.Contracts.Scalar
import CoursePlanner.Contracts.Identity

namespace CoursePlanner.Open

open Std Contracts

def sha256HexBytes : Nat := 64

/-- Lowercase hexadecimal text of a SHA-256 digest. -/
def isSha256Hex (value : String) : Bool :=
  value.toList.length=sha256HexBytes &&
    value.toList.all (fun c => c.isDigit || ( 'a' ≤ c && c ≤ 'f'))

/-- bcsp_rutgers_client::sha256_hex. Only the shape of its result is assumed; where
collisions matter a theorem says so. -/
class Sha256 where
  hex : String → String
  wellFormed : ∀preimage,isSha256Hex (hex preimage)=true

/-- A header line, then one line for each index. -/
def setPreimage (header : String) (indexes : List SectionIndex) : String :=
  indexes.foldl (fun preimage index => preimage ++ index.value ++ "\n") header

def canonicalOpenSetHashV1 [Sha256] (indexes : ExtTreeSet SectionIndex) : String :=
  Sha256.hex (setPreimage "bcsp-open-set-v1\n" indexes.toList)

def gateDropThresholdDenominator : Nat := 10
def gateRecoveryThresholdDenominator : Nat := 20
def gateMinAbsoluteDrop : Nat := 25
def gateBaselineWindow : Nat := 16
def gateConfirmMinConsistent : Nat := 3
def gateConfirmMinSpanSeconds : Int := 300
def gateMaxSampleGapSeconds : Int := 120
def gateConsistencyDenominator : Nat := 100

def divCeil (a b : Nat) : Nat := (a+b-1)/b

/-- Duration::whole_seconds of a difference, rounded toward zero. -/
def wholeSecondsBetween (later earlier : OffsetDateTime) : Int :=
  (later-earlier).tdiv 1000000000

structure CatalogSetIdentity where
  value : String
  deriving DecidableEq

namespace CatalogSetIdentity

instance : Ord CatalogSetIdentity := ⟨compareOn CatalogSetIdentity.value⟩
instance : TransOrd CatalogSetIdentity :=
  inferInstanceAs (TransCmp (compareOn CatalogSetIdentity.value))

instance : LawfulEqOrd CatalogSetIdentity where
  eq_of_compare {a b} h := by
    have hv : a.value=b.value := LawfulEqOrd.eq_of_compare h
    cases a; cases b; simpa using hv

def fromSha256Hex (value : String) : Option CatalogSetIdentity :=
  if isSha256Hex value then some ⟨value⟩ else none

end CatalogSetIdentity

def catalogSectionSetIdentityV1 [Sha256] (indexes : List SectionIndex) : CatalogSetIdentity :=
  ⟨Sha256.hex (setPreimage "bcsp-catalog-set-v1\n" indexes)⟩

structure GateSample where
  catalogIdentity : CatalogSetIdentity
  observed : ExtTreeSet SectionIndex
  observedAt : OffsetDateTime

inductive GateDisposition where
  | apply
  | hold
  deriving DecidableEq, Repr

inductive GateDecisionKind where
  | pass
  | suspect
  | quarantineRecover
  | quarantineConfirm
  deriving DecidableEq, Repr

structure BaselineEpoch where
  catalogIdentity : CatalogSetIdentity
  window : List Nat
  lkgFloor : Option Nat
  deriving DecidableEq

namespace BaselineEpoch

def seeded (catalogIdentity : CatalogSetIdentity) (lkgFloor : Option Nat) : BaselineEpoch :=
  ⟨catalogIdentity,[],lkgFloor⟩

def pushApplied (baseline : BaselineEpoch) (observed : Nat) : BaselineEpoch :=
  { baseline with
    window := (if baseline.window.length=gateBaselineWindow then baseline.window.tail
      else baseline.window)++[observed] }

def lowerMedian (baseline : BaselineEpoch) : Option Nat :=
  let sorted := baseline.window.insertionSort (·≤·)
  sorted[(sorted.length-1)/2]?

def value (baseline : BaselineEpoch) : Option Nat :=
  match baseline.lowerMedian,baseline.lkgFloor with
  | some median,some floor => some (max median floor)
  | some median,none => some median
  | none,some floor => some floor
  | none,none => none

end BaselineEpoch

/-- The anchor set of an episode that was rebuilt after a restart is not known. -/
structure CandidateEpisode where
  anchorSet : Option (ExtTreeSet SectionIndex)
  anchorSetSha256 : String
  firstSeen : OffsetDateTime
  lastSeen : OffsetDateTime
  consistentCount : Nat

inductive GateState where
  | healthy (baseline : Option BaselineEpoch)
  | quarantined (baseline : BaselineEpoch) (episode : CandidateEpisode)

structure GateDecision where
  disposition : GateDisposition
  kind : GateDecisionKind
  catalogIdentity : CatalogSetIdentity
  observedIntersectionCount : Nat
  responseSetSha256 : String
  gateEpoch : Nat
  nextState : GateState

structure GateRuntime where
  epoch : Nat
  state : GateState

/-- BTreeSet::symmetric_difference, counted. -/
def symmetricDifferenceCount (a b : ExtTreeSet SectionIndex) : Nat :=
  (a.toList.filter (fun index => !b.contains index)).length+
    (b.toList.filter (fun index => !a.contains index)).length

def withinSampleGap (later earlier : OffsetDateTime) : Bool :=
  0≤wholeSecondsBetween later earlier &&
    wholeSecondsBetween later earlier≤gateMaxSampleGapSeconds

theorem withinSampleGap_iff (later earlier : OffsetDateTime) : withinSampleGap later earlier=true ↔
      0 ≤ wholeSecondsBetween later earlier ∧ wholeSecondsBetween later earlier ≤ 120 := by
  simp only [withinSampleGap,Bool.and_eq_true,decide_eq_true_iff]
  rfl

namespace GateRuntime

def newUnseeded : GateRuntime := ⟨0,.healthy none⟩

def seeded (catalogIdentity : CatalogSetIdentity) (lkgFloor : Nat) : GateRuntime :=
  ⟨0,.healthy (some (.seeded catalogIdentity (some lkgFloor)))⟩

def isQuarantined (runtime : GateRuntime) : Bool :=
  match runtime.state with
  | .healthy _ => false
  | .quarantined _ _ => true

/-- The baseline in force: the frozen one while the target is quarantined. -/
def baseline (runtime : GateRuntime) : Option BaselineEpoch :=
  match runtime.state with
  | .healthy baseline => baseline
  | .quarantined baseline _ => some baseline

def catalogIdentity (runtime : GateRuntime) : Option CatalogSetIdentity :=
  runtime.baseline.map BaselineEpoch.catalogIdentity

def shrinkIsSuspect (baseline observed : Nat) : Bool :=
  max (divCeil baseline gateDropThresholdDenominator) gateMinAbsoluteDrop ≤ baseline-observed

def recoveredNearReference (reference observed : Nat) : Bool :=
  reference-observed <
    max (divCeil reference gateRecoveryThresholdDenominator) gateMinAbsoluteDrop

theorem shrinkIsSuspect_eq_false (baseline observed : Nat) :
    shrinkIsSuspect baseline observed=false ↔ baseline-observed < max (divCeil baseline 10) 25 := by
  unfold shrinkIsSuspect
  rw [decide_eq_false_iff_not,Nat.not_le]
  rfl

theorem recoveredNearReference_eq_true (reference observed : Nat) :
    recoveredNearReference reference observed=true ↔
      reference-observed < max (divCeil reference 20) 25 :=
  decide_eq_true_iff

theorem recoveredNearReference_eq_false (reference observed : Nat) :
    recoveredNearReference reference observed=false ↔
      max (divCeil reference 20) 25 ≤ reference-observed := by
  unfold recoveredNearReference
  rw [decide_eq_false_iff_not,Nat.not_lt]
  rfl

def consistentWithAnchor (episode : CandidateEpisode) (sample : GateSample)
    (sampleHash : String) : Bool :=
  match episode.anchorSet with
  | some anchor => symmetricDifferenceCount anchor sample.observed ≤
      divCeil anchor.size gateConsistencyDenominator
  | none => episode.anchorSetSha256=sampleHash

theorem consistentWithAnchor_iff {episode : CandidateEpisode} {set : ExtTreeSet SectionIndex}
    (h : episode.anchorSet=some set) (sample : GateSample) (hash : String) :
    consistentWithAnchor episode sample hash=true ↔ symmetricDifferenceCount set sample.observed ≤
        divCeil set.size gateConsistencyDenominator := by
  unfold consistentWithAnchor
  rw [h]
  exact decide_eq_true_iff

def anchoredEpisode (sample : GateSample) (sampleHash : String) : CandidateEpisode :=
  ⟨some sample.observed,sampleHash,sample.observedAt,sample.observedAt,1⟩

/-- The episode that takes a sample in: the first one after a restart restores the
set body. -/
def continuedEpisode (episode : CandidateEpisode) (sample : GateSample) : CandidateEpisode :=
  { episode with
    consistentCount := min (episode.consistentCount+1) u32Max
    lastSeen := sample.observedAt
    anchorSet := some (episode.anchorSet.getD sample.observed) }

/-- What evaluate decides: the rule, whether the snapshot may be applied, and the
state that the runtime takes on once the transaction has committed. A failed identity
assertion is no decision. -/
def verdict [Sha256] (state : GateState) (sample : GateSample) :
    Option (GateDecisionKind × GateDisposition × GateState) :=
  let observedCount := sample.observed.size
  let sampleHash := canonicalOpenSetHashV1 sample.observed
  match state with
  | .healthy none =>
    some (.pass,.apply,.healthy (some
      ((BaselineEpoch.seeded sample.catalogIdentity none).pushApplied observedCount)))
  | .healthy (some baseline) =>
    if baseline.catalogIdentity≠sample.catalogIdentity then none
    else
      let reference := baseline.value.getD 0
      if shrinkIsSuspect reference observedCount then
        some (.suspect,.hold,.quarantined baseline (anchoredEpisode sample sampleHash))
      else
        some (.pass,.apply,.healthy (some (baseline.pushApplied observedCount)))
  | .quarantined baseline episode =>
    if baseline.catalogIdentity≠sample.catalogIdentity then none
    else
      let reference := baseline.value.getD 0
      if recoveredNearReference reference observedCount then
        some (.quarantineRecover,.apply,.healthy (some (baseline.pushApplied observedCount)))
      else if !withinSampleGap sample.observedAt episode.lastSeen ||
          !consistentWithAnchor episode sample sampleHash then
        some (.suspect,.hold,.quarantined baseline (anchoredEpisode sample sampleHash))
      else
        let continued := continuedEpisode episode sample
        if gateConfirmMinConsistent ≤ continued.consistentCount &&
            gateConfirmMinSpanSeconds ≤
              wholeSecondsBetween continued.lastSeen continued.firstSeen then
          some (.quarantineConfirm,.apply,.healthy (some
            ((BaselineEpoch.seeded baseline.catalogIdentity none).pushApplied observedCount)))
        else some (.suspect,.hold,.quarantined baseline continued)

def evaluate [Sha256] (runtime : GateRuntime) (sample : GateSample) : Option GateDecision :=
  (verdict runtime.state sample).map (fun (kind,disposition,nextState) =>
    ⟨disposition,kind,sample.catalogIdentity,sample.observed.size,
      canonicalOpenSetHashV1 sample.observed,runtime.epoch,nextState⟩)

/-- A decision of another epoch fails the assertion. -/
def advance (runtime : GateRuntime) (decision : GateDecision) : Option GateRuntime :=
  if decision.gateEpoch≠runtime.epoch then none
  else some ⟨runtime.epoch+1,decision.nextState⟩

def resetForCatalogIdentity (runtime : GateRuntime) (catalogIdentity : CatalogSetIdentity)
    (transferredFloor : Option Nat) : GateRuntime :=
  ⟨runtime.epoch+1,
    .healthy (transferredFloor.map (fun floor => .seeded catalogIdentity (some floor)))⟩

end GateRuntime

structure RestartAttemptSummary where
  isSuspectPartial : Bool
  canonicalSetSha256 : String
  completedAt : OffsetDateTime
  catalogSetIdentity : Option CatalogSetIdentity

/-- The loop of rebuild_after_restart that collects the newest run of one hash. -/
def restartRun (catalogIdentity : CatalogSetIdentity) (newestHash : String)
    (previous : Option RestartAttemptSummary) :
    List RestartAttemptSummary → List RestartAttemptSummary
  | [] => []
  | attempt::attempts =>
    let withinGap := previous.all (fun previous =>
      withinSampleGap previous.completedAt attempt.completedAt)
    if attempt.isSuspectPartial && attempt.canonicalSetSha256=newestHash &&
        attempt.catalogSetIdentity=some catalogIdentity && withinGap then
      attempt::restartRun catalogIdentity newestHash (some attempt) attempts
    else []

def rebuildAfterRestart (catalogIdentity : CatalogSetIdentity) (lkgReference : Option Nat)
    (attemptsNewestFirst : List RestartAttemptSummary) (now : OffsetDateTime) : GateRuntime :=
  let healthy : Option Nat → GateRuntime
    | some floor => .seeded catalogIdentity floor
    | none => .newUnseeded
  match attemptsNewestFirst with
  | [] => healthy lkgReference
  | newest::_ =>
    if !newest.isSuspectPartial || newest.catalogSetIdentity≠some catalogIdentity then
      healthy lkgReference
    else match lkgReference with
      | none => healthy none
      | some reference =>
        if !withinSampleGap now newest.completedAt then healthy (some reference)
        else
          let run := restartRun catalogIdentity newest.canonicalSetSha256 none attemptsNewestFirst
          let oldest := run.getLast?.getD newest
          ⟨0,.quarantined (.seeded catalogIdentity (some reference))
            ⟨none,newest.canonicalSetSha256,oldest.completedAt,newest.completedAt,
              run.length%2^32⟩⟩

/-- The serving runtime and the candidate runtimes of one target. -/
structure TargetGateSet where
  serving : Option GateRuntime
  candidates : ExtTreeMap CatalogSetIdentity GateRuntime

namespace TargetGateSet

def new : TargetGateSet := ⟨none,∅⟩

def servingMut (gates : TargetGateSet) : GateRuntime := gates.serving.getD .newUnseeded

def installServing (gates : TargetGateSet) (runtime : GateRuntime) : TargetGateSet :=
  { gates with serving := some runtime }

/-- Asking for one identity evicts every other candidate. -/
def candidateMut (gates : TargetGateSet) (identity : CatalogSetIdentity)
    (seed : Option Nat) : GateRuntime × TargetGateSet :=
  let retained := gates.candidates.filter (fun existing _ => existing=identity)
  let runtime := retained[identity]?.getD (match seed with
    | some floor => .seeded identity floor
    | none => .newUnseeded)
  (runtime,{ gates with candidates := retained.insert identity runtime })

def setCandidate (gates : TargetGateSet) (identity : CatalogSetIdentity)
    (runtime : GateRuntime) : TargetGateSet :=
  { gates with candidates := gates.candidates.insert identity runtime }

def promoteCandidate (gates : TargetGateSet) (identity : CatalogSetIdentity) : TargetGateSet :=
  match gates.candidates[identity]? with
  | some promoted => ⟨some promoted,∅⟩
  | none => { gates with candidates := ∅ }

end TargetGateSet

/-- A stand-in for the closed examples: the text as a number in base 131, in
hexadecimal. -/
def plainHex (text : String) : String :=
  let value := text.toList.foldl (fun value c => value*131+c.toNat) 0
  String.ofList ((List.range sha256HexBytes).map (fun place => (value/16^place%16).digitChar))

theorem digitChar_hex (digit : Nat) (h : digit < 16) :
    (digit.digitChar.isDigit || ( 'a' ≤ digit.digitChar && digit.digitChar ≤ 'f'))=true := by
  revert digit
  decide

theorem plainHex_wellFormed (text : String) : isSha256Hex (plainHex text)=true := by
  unfold isSha256Hex plainHex
  rw [String.toList_ofList,Bool.and_eq_true,List.all_eq_true]
  refine ⟨by simp,?_⟩
  intro c member
  obtain ⟨place,-,rfl⟩ := List.mem_map.mp member
  exact digitChar_hex _ (Nat.mod_lt _ (by decide))

@[reducible] def plainSha256 : Sha256 := ⟨plainHex,plainHex_wellFormed⟩

end CoursePlanner.Open
