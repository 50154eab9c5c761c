import CoursePlanner.Contracts.Identity
import CoursePlanner.Contracts.WatchPolicy
import CoursePlanner.Library.Bytes
import CoursePlanner.Library.OrderedMap
import CoursePlanner.Library.Checked

namespace CoursePlanner.Personal

open Std Library Contracts

def maxDesiredWatches : Nat := 255
def maxDesiredWatchTombstones : Nat := 512
def maxDesiredWatchReceipts : Nat := 2048

def i64Max : Nat := 2^63-1

/-- The lower-case hexadecimal digest of a byte string. -/
class Sha256Bytes where
  hex : List UInt8 → String

inductive PersonalStateError where
  | invalidDesiredWatchBatch
  | desiredWatchCounterExhausted
  | userStateRevisionConflict (expected actual : Nat)
  | revisionOverflow
  | storedIntegerOutOfRange
  | sqlite
  deriving DecidableEq, Repr

/-- A row of the desired-watch table. Its CHECK ties the policy to the desired
column, so a tombstone is a row without a policy. -/
structure DesiredWatchRow where
  policy : Option WatchPolicyV1
  revision : Nat
  materializationEpoch : Nat
  deriving DecidableEq

def DesiredWatchRow.desired (row : DesiredWatchRow) : Bool := row.policy.isSome

structure DesiredWatchCommand where
  sectionKey : SectionKey
  policy : Option WatchPolicyV1
  basedOnRevision : Nat
  authorityGeneration : Nat
  mutationId : TraceId
  deriving DecidableEq

def DesiredWatchCommand.desired (command : DesiredWatchCommand) : Bool := command.policy.isSome

structure DesiredWatchCommitted where
  revision : Nat
  materializationEpoch : Nat
  epochChanged : Bool
  deriving DecidableEq, Repr

structure DesiredWatchBatchCommand where
  sectionKey : SectionKey
  policy : Option WatchPolicyV1
  basedOnRevision : Nat
  deriving DecidableEq

def DesiredWatchBatchCommand.desired (command : DesiredWatchBatchCommand) : Bool :=
  command.policy.isSome

structure DesiredWatchBatchCommitted where
  sectionKey : SectionKey
  committed : DesiredWatchCommitted
  deriving DecidableEq

inductive DesiredWatchBudgetKind where
  | tombstones
  | receipts
  deriving DecidableEq, Repr

inductive DesiredWatchReceiptOutcome where
  | committed (commit : DesiredWatchCommitted)
  | staleRevision (current : Nat)
  | limitExceeded (maximum : Nat)
  deriving DecidableEq, Repr

structure DesiredWatchReceipt where
  sectionKey : SectionKey
  fingerprint : String
  outcome : DesiredWatchReceiptOutcome
  deriving DecidableEq

inductive DesiredWatchMutationOutcome where
  | committed (commit : DesiredWatchCommitted)
  | replayed (outcome : DesiredWatchReceiptOutcome)
  | mutationIdConflict (receipt : DesiredWatchReceipt)
  | batchMutationIdConflict
  | staleGeneration (current : Nat)
  | staleRevision (current : Nat)
  | limitExceeded (maximum : Nat)
  | authorityFull (kind : DesiredWatchBudgetKind)
  deriving DecidableEq

def DesiredWatchReceiptOutcome.into : DesiredWatchReceiptOutcome → DesiredWatchMutationOutcome
  | .committed commit => .committed commit
  | .staleRevision current => .staleRevision current
  | .limitExceeded maximum => .limitExceeded maximum

inductive DesiredWatchBatchReceiptOutcome where
  | committed (items : List DesiredWatchBatchCommitted)
  | staleRevision (current : Nat)
  | limitExceeded (maximum : Nat)
  deriving DecidableEq

structure DesiredWatchBatchReceipt where
  fingerprint : String
  outcome : DesiredWatchBatchReceiptOutcome
  deriving DecidableEq

inductive DesiredWatchBatchOutcome where
  | committed (items : List DesiredWatchBatchCommitted)
  | mutationIdConflict
  | staleGeneration (current : Nat)
  | staleRevision (current : Nat)
  | limitExceeded (maximum : Nat)
  | authorityFull (kind : DesiredWatchBudgetKind)
  deriving DecidableEq

structure DesiredWatchBatchDecision where
  replayed : Bool
  outcome : DesiredWatchBatchOutcome
  deriving DecidableEq

def DesiredWatchBatchReceiptOutcome.into :
    DesiredWatchBatchReceiptOutcome → DesiredWatchBatchOutcome
  | .committed items => .committed items
  | .staleRevision current => .staleRevision current
  | .limitExceeded maximum => .limitExceeded maximum

def batchDecisionFromReceipt (outcome : DesiredWatchBatchReceiptOutcome) :
    DesiredWatchBatchDecision :=
  ⟨true,outcome.into⟩

/-- The primary key of both ledgers. -/
structure ReceiptKey where
  authorityGeneration : Nat
  mutationId : TraceId
  deriving DecidableEq

namespace ReceiptKey

instance : Ord ReceiptKey :=
  ⟨compareLex (compareOn ReceiptKey.authorityGeneration) (compareOn ReceiptKey.mutationId)⟩

instance : TransOrd ReceiptKey := inferInstanceAs
  (TransCmp (compareLex (compareOn ReceiptKey.authorityGeneration)
    (compareOn ReceiptKey.mutationId)))

instance : LawfulEqOrd ReceiptKey where
  eq_of_compare {a b} h := by
    obtain ⟨hg,hi⟩ := compareLex_eq_eq.mp h
    have generation : a.authorityGeneration=b.authorityGeneration := LawfulEqOrd.eq_of_compare hg
    have mutation : a.mutationId=b.mutationId := LawfulEqOrd.eq_of_compare hi
    cases a; cases b; simp_all

end ReceiptKey

def DesiredWatchCommand.key (command : DesiredWatchCommand) : ReceiptKey :=
  ⟨command.authorityGeneration,command.mutationId⟩

structure DesiredWatchCounters where
  authorityGeneration : Nat
  revisionCounter : Nat
  materializationCounter : Nat
  actorIncarnation : Nat
  deriving DecidableEq

/-- The metadata row, the desired-watch table and its two ledgers. -/
structure PersonalStateStore where
  stateRevision : Nat
  counters : DesiredWatchCounters
  watches : ExtTreeMap SectionKey DesiredWatchRow
  receipts : ExtTreeMap ReceiptKey DesiredWatchReceipt
  batchReceipts : ExtTreeMap ReceiptKey DesiredWatchBatchReceipt

structure DesiredWatchBudget where
  tombstones : Nat
  receipts : Nat
  deriving DecidableEq, Repr

structure DesiredWatchEntry where
  sectionKey : SectionKey
  row : DesiredWatchRow
  deriving DecidableEq

structure DesiredWatchRotation where
  authorityGeneration : Nat
  deletedTombstones : Nat
  deletedReceipts : Nat
  retained : List DesiredWatchEntry
  deriving DecidableEq

structure PersonalResetResult where
  stateRevision : Nat
  deletedDesiredWatches : Nat
  deletedDesiredWatchReceipts : Nat
  deriving DecidableEq

def nextCounter (current : Nat) : Except PersonalStateError Nat :=
  if current+1 ≤ maxSafeInteger then .ok (current+1) else .error .desiredWatchCounterExhausted

def toBeBytes (value : Nat) : List UInt8 :=
  [56,48,40,32,24,16,8,0].map (fun shift => UInt8.ofNat (value/2^shift))

/-- What both digests read of one command. The NULs keep the three fields of the
section apart. -/
def itemPreimage (sectionKey : SectionKey) (basedOnRevision : Nat)
    (policy : Option WatchPolicyV1) : List UInt8 :=
  utf8Bytes sectionKey.term.value++0::utf8Bytes sectionKey.campus.value++0::
    utf8Bytes sectionKey.index.value++0::toBeBytes basedOnRevision++
    (if policy.isSome then 1 else 0)::utf8Bytes ((policy.map WatchPolicyV1.json).getD "")

def commandPreimage (command : DesiredWatchCommand) : List UInt8 :=
  itemPreimage command.sectionKey command.basedOnRevision command.policy

def commandFingerprint [Sha256Bytes] (command : DesiredWatchCommand) : String :=
  Sha256Bytes.hex (commandPreimage command)

def batchCommandFingerprint [Sha256Bytes] (commands : List DesiredWatchBatchCommand) : String :=
  Sha256Bytes.hex (toBeBytes commands.length++commands.flatMap (fun command =>
    itemPreimage command.sectionKey command.basedOnRevision command.policy++[0xff]))

namespace PersonalStateStore

def desiredWatchCount (store : PersonalStateStore) : Nat :=
  countValues store.watches DesiredWatchRow.desired

def desiredWatchBudget (store : PersonalStateStore) : DesiredWatchBudget :=
  ⟨countValues store.watches (fun row => !row.desired),store.receipts.size+store.batchReceipts.size⟩

def writeDesiredWatchReceipt (store : PersonalStateStore) (key : ReceiptKey)
    (receipt : DesiredWatchReceipt) : PersonalStateStore :=
  {store with receipts := store.receipts.insert key receipt}

def writeDesiredWatchBatchReceipt (store : PersonalStateStore) (key : ReceiptKey)
    (receipt : DesiredWatchBatchReceipt) : PersonalStateStore :=
  {store with batchReceipts := store.batchReceipts.insert key receipt}

/-- The epoch of a write, and whether it is a new one. It advances only with the
desired value, or where there is no earlier epoch to keep. -/
def writtenEpoch (existing : Option DesiredWatchRow) (desired : Bool)
    (counters : DesiredWatchCounters) : Except PersonalStateError (Nat × Bool) :=
  match existing.filter (fun row => row.desired=desired) with
  | some row => .ok (row.materializationEpoch,false)
  | none => (nextCounter counters.materializationCounter).map (fun epoch => (epoch,true))

def applyDesiredWatchWrite (store : PersonalStateStore) (sectionKey : SectionKey)
    (policy : Option WatchPolicyV1) (existing : Option DesiredWatchRow)
    (counters : DesiredWatchCounters) :
    Except PersonalStateError (DesiredWatchCommitted × PersonalStateStore) := do
  let revision ← nextCounter counters.revisionCounter
  let (materializationEpoch,epochChanged) ← writtenEpoch existing policy.isSome counters
  let materializationCounter :=
    if epochChanged then materializationEpoch else counters.materializationCounter
  pure (⟨revision,materializationEpoch,epochChanged⟩,
    {store with
      watches := store.watches.insert sectionKey ⟨policy,revision,materializationEpoch⟩
      counters := {store.counters with
        revisionCounter := revision
        materializationCounter := materializationCounter}})

end PersonalStateStore

/-- True when the write grows the removal history. -/
def addsATombstone (existing : Option DesiredWatchRow) (desired : Bool) : Bool :=
  !desired && !existing.any (fun row => !row.desired)

def currentRevision (existing : Option DesiredWatchRow) : Nat :=
  (existing.map DesiredWatchRow.revision).getD 0

namespace PersonalStateStore

variable [Sha256Bytes]

/-- The ledger row is all that a terminal rejection writes. -/
def recordTerminalRejection (store : PersonalStateStore) (command : DesiredWatchCommand)
    (outcome : DesiredWatchReceiptOutcome) :
    Except PersonalStateError DesiredWatchMutationOutcome × PersonalStateStore :=
  (.ok outcome.into,store.writeDesiredWatchReceipt command.key
    ⟨command.sectionKey,commandFingerprint command,outcome⟩)

/-- One transaction: an error, and an answer given before the commit, leave the
store as it was. -/
def commitDesiredWatchMutation (store : PersonalStateStore) (command : DesiredWatchCommand) :
    Except PersonalStateError DesiredWatchMutationOutcome × PersonalStateStore :=
  if command.authorityGeneration≠store.counters.authorityGeneration then
    (.ok (.staleGeneration store.counters.authorityGeneration),store)
  else if store.batchReceipts[command.key]?.isSome then
    (.ok .batchMutationIdConflict,store)
  else match store.receipts[command.key]? with
  | some receipt =>
    if receipt.sectionKey=command.sectionKey ∧ receipt.fingerprint=commandFingerprint command then
      (.ok (.replayed receipt.outcome),store)
    else (.ok (.mutationIdConflict receipt),store)
  | none =>
    let budget := store.desiredWatchBudget
    let existing := store.watches[command.sectionKey]?
    if maxDesiredWatchReceipts ≤ budget.receipts then
      (.ok (.authorityFull .receipts),store)
    else if command.basedOnRevision≠currentRevision existing then
      store.recordTerminalRejection command (.staleRevision (currentRevision existing))
    else if command.desired ∧ ¬existing.any DesiredWatchRow.desired ∧
        maxDesiredWatches ≤ store.desiredWatchCount then
      store.recordTerminalRejection command (.limitExceeded maxDesiredWatches)
    else if addsATombstone existing command.desired ∧
        maxDesiredWatchTombstones ≤ budget.tombstones then
      (.ok (.authorityFull .tombstones),store)
    else match store.applyDesiredWatchWrite command.sectionKey command.policy existing
        store.counters with
      | .error error => (.error error,store)
      | .ok (committed,after) =>
        (.ok (.committed committed),after.writeDesiredWatchReceipt command.key
          ⟨command.sectionKey,commandFingerprint command,.committed committed⟩)

def firstStale (items : List (DesiredWatchBatchCommand × Option DesiredWatchRow)) : Option Nat :=
  items.findSome? (fun (command,existing) =>
    if command.basedOnRevision≠currentRevision existing then some (currentRevision existing)
    else none)

def shifted (count : Nat) (was willBe : Bool) : Nat :=
  match was,willBe with
  | false,true => saturatingAdd count 1
  | true,false => count-1
  | _,_ => count

def desiredAfter (count : Nat)
    (items : List (DesiredWatchBatchCommand × Option DesiredWatchRow)) : Nat :=
  items.foldl (fun count (command,existing) =>
    shifted count (existing.any DesiredWatchRow.desired) command.desired) count

def tombstonesAfter (count : Nat)
    (items : List (DesiredWatchBatchCommand × Option DesiredWatchRow)) : Nat :=
  items.foldl (fun count (command,existing) =>
    shifted count (existing.any (fun row => !row.desired)) (!command.desired)) count

/-- What the write loop of a batch carries: the transaction, the rolling counters
and the stamps so far. -/
structure BatchWrites where
  store : PersonalStateStore
  rollingCounters : DesiredWatchCounters
  committed : List DesiredWatchBatchCommitted

def BatchWrites.write (writes : BatchWrites)
    (item : DesiredWatchBatchCommand × Option DesiredWatchRow) :
    Except PersonalStateError BatchWrites := do
  let (result,store) ← writes.store.applyDesiredWatchWrite item.1.sectionKey item.1.policy item.2
    writes.rollingCounters
  pure ⟨store,
    {writes.rollingCounters with
      revisionCounter := result.revision
      materializationCounter :=
        if result.epochChanged then result.materializationEpoch
        else writes.rollingCounters.materializationCounter},
    writes.committed++[⟨item.1.sectionKey,result⟩]⟩

def commitDesiredWatchBatch (store : PersonalStateStore) (authorityGeneration : Nat)
    (mutationId : TraceId) (commands : List DesiredWatchBatchCommand) :
    Except PersonalStateError DesiredWatchBatchDecision × PersonalStateStore :=
  let key : ReceiptKey := ⟨authorityGeneration,mutationId⟩
  let fingerprint := batchCommandFingerprint commands
  if commands=[] ∨ maxDesiredWatches < commands.length ∨
      ¬(commands.map DesiredWatchBatchCommand.sectionKey).Nodup then
    (.error .invalidDesiredWatchBatch,store)
  else if authorityGeneration≠store.counters.authorityGeneration then
    (.ok ⟨false,.staleGeneration store.counters.authorityGeneration⟩,store)
  else if store.receipts[key]?.isSome then
    (.ok ⟨false,.mutationIdConflict⟩,store)
  else match store.batchReceipts[key]? with
  | some receipt =>
    if receipt.fingerprint≠fingerprint then (.ok ⟨false,.mutationIdConflict⟩,store)
    else (.ok (batchDecisionFromReceipt receipt.outcome),store)
  | none =>
    let budget := store.desiredWatchBudget
    if maxDesiredWatchReceipts ≤ budget.receipts then
      (.ok ⟨false,.authorityFull .receipts⟩,store)
    else
      let items := commands.map (fun command => (command,store.watches[command.sectionKey]?))
      match firstStale items with
      | some current =>
        (.ok ⟨false,.staleRevision current⟩,
          store.writeDesiredWatchBatchReceipt key ⟨fingerprint,.staleRevision current⟩)
      | none =>
        if maxDesiredWatches<desiredAfter store.desiredWatchCount items then
          (.ok ⟨false,.limitExceeded maxDesiredWatches⟩,
            store.writeDesiredWatchBatchReceipt key
              ⟨fingerprint,.limitExceeded maxDesiredWatches⟩)
        else if maxDesiredWatchTombstones<tombstonesAfter budget.tombstones items then
          (.ok ⟨false,.authorityFull .tombstones⟩,store)
        else match items.foldlM BatchWrites.write ⟨store,store.counters,[]⟩ with
          | .error error => (.error error,store)
          | .ok writes =>
            (.ok ⟨false,.committed writes.committed⟩,
              writes.store.writeDesiredWatchBatchReceipt key
                ⟨fingerprint,.committed writes.committed⟩)

end PersonalStateStore

/-- Rows numbered from one in the order of their sections. -/
def numbered {V : Type} (rows : ExtTreeMap SectionKey V) (policy : V → Option WatchPolicyV1) :
    ExtTreeMap SectionKey DesiredWatchRow :=
  rows.map (fun sectionKey row => ⟨policy row,rank rows sectionKey+1,rank rows sectionKey+1⟩)

namespace PersonalStateStore

/-- The rows that a rotation carries over. -/
def survivors (store : PersonalStateStore) (preserveTombstones : ExtTreeSet SectionKey) :
    ExtTreeMap SectionKey DesiredWatchRow :=
  store.watches.filter (fun sectionKey row =>
    row.desired || preserveTombstones.contains sectionKey)

def rotateDesiredWatchAuthority (store : PersonalStateStore)
    (preserveTombstones : ExtTreeSet SectionKey) :
    Except PersonalStateError DesiredWatchRotation × PersonalStateStore :=
  match nextCounter store.counters.authorityGeneration with
  | .error error => (.error error,store)
  | .ok authorityGeneration =>
    let survivors := store.survivors preserveTombstones
    let retained := numbered survivors DesiredWatchRow.policy
    (.ok ⟨authorityGeneration,store.watches.size-survivors.size,
        store.receipts.size+store.batchReceipts.size,
        retained.toList.map (fun (sectionKey,row) => ⟨sectionKey,row⟩)⟩,
      {store with
        counters := {store.counters with
          authorityGeneration := authorityGeneration
          revisionCounter := survivors.size
          materializationCounter := survivors.size}
        watches := retained
        receipts := ∅
        batchReceipts := ∅})

/-- Full Reset. The generation is raised in the statement itself, so its CHECK is
what stops it at the largest value. -/
def clearPersonalData (store : PersonalStateStore) (expectedStateRevision : Nat) :
    Except PersonalStateError PersonalResetResult × PersonalStateStore :=
  if store.stateRevision≠expectedStateRevision then
    (.error (.userStateRevisionConflict expectedStateRevision store.stateRevision),store)
  else if u64Max<store.stateRevision+1 then (.error .revisionOverflow,store)
  else if i64Max<store.stateRevision+1 then (.error .storedIntegerOutOfRange,store)
  else if maxSafeInteger<store.counters.authorityGeneration+1 then (.error .sqlite,store)
  else
    (.ok ⟨store.stateRevision+1,store.watches.size,store.receipts.size+store.batchReceipts.size⟩,
      {stateRevision := store.stateRevision+1
       counters := {store.counters with
        authorityGeneration := store.counters.authorityGeneration+1
        revisionCounter := 0
        materializationCounter := 0}
       watches := ∅
       receipts := ∅
       batchReceipts := ∅})

/-- The store as its migrations leave it: the intents that an earlier layout held
are desired rows, numbered in section order. A new file holds none. -/
def opened (stateRevision : Nat) (intents : ExtTreeMap SectionKey WatchPolicyV1) :
    PersonalStateStore where
  stateRevision := stateRevision
  counters := ⟨1,intents.size,intents.size,1⟩
  watches := numbered intents some
  receipts := ∅
  batchReceipts := ∅

end PersonalStateStore

inductive AuthorityOperation where
  | mutation (command : DesiredWatchCommand)
  | batch (authorityGeneration : Nat) (mutationId : TraceId)
      (commands : List DesiredWatchBatchCommand)
  | rotate (preserveTombstones : ExtTreeSet SectionKey)
  | clear (expectedStateRevision : Nat)

inductive AuthorityAnswer where
  | mutation (answer : Except PersonalStateError DesiredWatchMutationOutcome)
  | batch (answer : Except PersonalStateError DesiredWatchBatchDecision)
  | rotated (answer : Except PersonalStateError DesiredWatchRotation)
  | cleared (answer : Except PersonalStateError PersonalResetResult)

namespace PersonalStateStore

def perform [Sha256Bytes] (store : PersonalStateStore) :
    AuthorityOperation → AuthorityAnswer × PersonalStateStore
  | .mutation command => (store.commitDesiredWatchMutation command).map .mutation id
  | .batch authorityGeneration mutationId commands =>
    (store.commitDesiredWatchBatch authorityGeneration mutationId commands).map .batch id
  | .rotate preserveTombstones =>
    (store.rotateDesiredWatchAuthority preserveTombstones).map .rotated id
  | .clear expectedStateRevision =>
    (store.clearPersonalData expectedStateRevision).map .cleared id

end PersonalStateStore

end CoursePlanner.Personal
