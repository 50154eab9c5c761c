import CoursePlanner.Personal.Commits

namespace CoursePlanner.Personal

open Std Library Contracts

inductive LedgerEntry where
  | single (receipt : DesiredWatchReceipt)
  | batch (receipt : DesiredWatchBatchReceipt)

/-- The answer that the transaction which writes the row gives. -/
def LedgerEntry.reply : LedgerEntry → AuthorityAnswer
  | .single receipt => .mutation (.ok receipt.outcome.into)
  | .batch receipt => .batch (.ok ⟨false,receipt.outcome.into⟩)

/-- The answer that a retry gets from the row. -/
def LedgerEntry.replay : LedgerEntry → AuthorityAnswer
  | .single receipt => .mutation (.ok (.replayed receipt.outcome))
  | .batch receipt => .batch (.ok (batchDecisionFromReceipt receipt.outcome))

namespace AuthorityOperation

def key : AuthorityOperation → Option ReceiptKey
  | .mutation command => some command.key
  | .batch authorityGeneration mutationId _ => some ⟨authorityGeneration,mutationId⟩
  | .rotate _ => none
  | .clear _ => none

def commands : AuthorityOperation → List DesiredWatchBatchCommand
  | .mutation command => [⟨command.sectionKey,command.policy,command.basedOnRevision⟩]
  | .batch _ _ commands => commands
  | .rotate _ => []
  | .clear _ => []

/-- The stamps of the rows that an operation wrote. A replay wrote none. -/
def effect : AuthorityOperation → AuthorityAnswer → Option (List DesiredWatchBatchCommitted)
  | .mutation command,.mutation (.ok (.committed committed)) => some [⟨command.sectionKey,committed⟩]
  | .batch _ _ _,.batch (.ok ⟨false,.committed items⟩) => some items
  | _,_ => none

def Names [Sha256Bytes] : AuthorityOperation → LedgerEntry → Prop
  | .mutation command,.single receipt =>
    receipt.sectionKey=command.sectionKey ∧ receipt.fingerprint=commandFingerprint command
  | .batch _ _ commands,.batch receipt => receipt.fingerprint=batchCommandFingerprint commands
  | _,_ => False

/-- What a batch has to be before it is looked at. -/
def WellFormed : AuthorityOperation → Prop
  | .batch _ _ commands => commands≠[] ∧ commands.length ≤ maxDesiredWatches ∧
      (commands.map DesiredWatchBatchCommand.sectionKey).Nodup
  | _ => True

end AuthorityOperation

namespace AuthorityAnswer

/-- The answer of a retry, where the decision is one that leaves a receipt. -/
def recorded : AuthorityAnswer → Option AuthorityAnswer
  | .mutation (.ok (.committed committed)) => some (.mutation (.ok (.replayed (.committed committed))))
  | .mutation (.ok (.staleRevision current)) =>
    some (.mutation (.ok (.replayed (.staleRevision current))))
  | .mutation (.ok (.limitExceeded maximum)) =>
    some (.mutation (.ok (.replayed (.limitExceeded maximum))))
  | .batch (.ok ⟨false,.committed items⟩) => some (.batch (.ok ⟨true,.committed items⟩))
  | .batch (.ok ⟨false,.staleRevision current⟩) => some (.batch (.ok ⟨true,.staleRevision current⟩))
  | .batch (.ok ⟨false,.limitExceeded maximum⟩) => some (.batch (.ok ⟨true,.limitExceeded maximum⟩))
  | _ => none

/-- A rotation or a reset that was carried out. -/
def renews : AuthorityAnswer → Bool
  | .rotated (.ok _) => true
  | .cleared (.ok _) => true
  | _ => false

end AuthorityAnswer

theorem LedgerEntry.recorded_reply (en : LedgerEntry) : en.reply.recorded=some en.replay := by
  obtain ⟨⟨_,_,_ | _ | _⟩⟩ | ⟨⟨_,_ | _ | _⟩⟩ := en <;> rfl

theorem LedgerEntry.renews_reply (en : LedgerEntry) : en.reply.renews=false := by
  cases en <;> rfl

theorem AuthorityOperation.effect_unrecorded (op : AuthorityOperation) {answer : AuthorityAnswer}
    (h : answer.recorded=none) : op.effect answer=none := by
  unfold AuthorityOperation.effect
  split
  · cases h
  · cases h
  · rfl

namespace PersonalStateStore

def ledger (store : PersonalStateStore) (key : ReceiptKey) : Option LedgerEntry :=
  (store.receipts[key]?.map .single).or (store.batchReceipts[key]?.map .batch)

def record (store : PersonalStateStore) (key : ReceiptKey) : LedgerEntry → PersonalStateStore
  | .single receipt => store.writeDesiredWatchReceipt key receipt
  | .batch receipt => store.writeDesiredWatchBatchReceipt key receipt

section Record

variable (store : PersonalStateStore) (key : ReceiptKey) (en : LedgerEntry)

@[simp] theorem record_watches : (store.record key en).watches=store.watches := by
  cases en <;> rfl

@[simp] theorem record_counters : (store.record key en).counters=store.counters := by
  cases en <;> rfl

@[simp] theorem record_stateRevision : (store.record key en).stateRevision=store.stateRevision := by
  cases en <;> rfl

end Record

variable {store : PersonalStateStore}

theorem ledger_none {key : ReceiptKey} :
    store.ledger key=none ↔ store.receipts[key]?=none ∧ store.batchReceipts[key]?=none := by
  simp [ledger]

theorem ledger_record {key : ReceiptKey} (en : LedgerEntry) (free : store.ledger key=none)
    (other : ReceiptKey) :
    (store.record key en).ledger other=if key=other then some en else store.ledger other := by
  obtain ⟨single,batch⟩ := ledger_none.mp free
  cases en with
  | single receipt =>
    simp only [ledger,record,writeDesiredWatchReceipt,getElem?_insert_eq]
    by_cases h : key=other <;> simp [h]
  | batch receipt =>
    simp only [ledger,record,writeDesiredWatchBatchReceipt,getElem?_insert_eq]
    by_cases h : key=other
    · simp [← h,single]
    · simp [h]

theorem ledger_congr {a b : PersonalStateStore} (receipts : a.receipts=b.receipts)
    (batchReceipts : a.batchReceipts=b.batchReceipts) (key : ReceiptKey) :
    a.ledger key=b.ledger key := by
  simp [ledger,receipts,batchReceipts]

theorem WroteAll.keeps {after : PersonalStateStore} {cmds : List DesiredWatchBatchCommand}
    {items : List DesiredWatchBatchCommitted} (h : WroteAll store cmds items after) :
    after.receipts=store.receipts ∧ after.batchReceipts=store.batchReceipts ∧
      after.stateRevision=store.stateRevision ∧
      after.counters.authorityGeneration=store.counters.authorityGeneration := by
  induction h with
  | nil => exact ⟨rfl,rfl,rfl,rfl⟩
  | cons first _ ih =>
    rw [first.leaves] at ih
    exact ih

variable [Sha256Bytes]

/-- An operation of this generation that has no receipt yet and gets one. -/
structure Files (store : PersonalStateStore) (op : AuthorityOperation) (key : ReceiptKey)
    (entry : LedgerEntry) : Prop where
  keyed : op.key=some key
  current : key.authorityGeneration=store.counters.authorityGeneration
  free : store.ledger key=none
  room : store.receipts.size+store.batchReceipts.size < maxDesiredWatchReceipts
  names : op.Names entry
  wellFormed : op.WellFormed

/-- The writes of a gesture whose every command is based on the row it replaces. -/
structure Applies (store : PersonalStateStore) (commands : List DesiredWatchBatchCommand)
    (items : List DesiredWatchBatchCommitted) (after : PersonalStateStore) : Prop where
  wrote : WroteAll store commands items after
  based : ∀command∈commands,
    command.basedOnRevision=currentRevision store.watches[command.sectionKey]?
  distinct : (commands.map DesiredWatchBatchCommand.sectionKey).Nodup
  desired : store.desiredWatchCount ≤ maxDesiredWatches →
    after.desiredWatchCount ≤ maxDesiredWatches
  tombstones : store.desiredWatchBudget.tombstones ≤ maxDesiredWatchTombstones →
    after.desiredWatchBudget.tombstones ≤ maxDesiredWatchTombstones

inductive Happens (store : PersonalStateStore) : AuthorityOperation → AuthorityAnswer →
    PersonalStateStore → Prop
  | kept {op : AuthorityOperation} {answer : AuthorityAnswer} (unrecorded : answer.recorded=none)
      (same : answer.renews=false) : Happens store op answer store
  | refused {op : AuthorityOperation} {key : ReceiptKey} {entry : LedgerEntry}
      (files : store.Files op key entry) (idle : op.effect entry.reply=none) :
      Happens store op entry.reply (store.record key entry)
  | committed {op : AuthorityOperation} {key : ReceiptKey} {entry : LedgerEntry}
      {items : List DesiredWatchBatchCommitted} {middle : PersonalStateStore}
      (files : store.Files op key entry) (writes : op.effect entry.reply=some items)
      (applies : store.Applies op.commands items middle) :
      Happens store op entry.reply (middle.record key entry)
  | rotated {preserveTombstones : ExtTreeSet SectionKey} {rotation : DesiredWatchRotation}
      {after : PersonalStateStore} (raised : after.counters.authorityGeneration=
        store.counters.authorityGeneration+1)
      (counted : after.counters.revisionCounter=(store.survivors preserveTombstones).size ∧
        after.counters.materializationCounter=(store.survivors preserveTombstones).size)
      (rows : after.watches=numbered (store.survivors preserveTombstones) DesiredWatchRow.policy)
      (receipts : after.receipts=∅) (batchReceipts : after.batchReceipts=∅) :
      Happens store (.rotate preserveTombstones) (.rotated (.ok rotation)) after
  | cleared {expected : Nat} {result : PersonalResetResult}
      {after : PersonalStateStore} (raised : after.counters.authorityGeneration=
        store.counters.authorityGeneration+1) (rows : after.watches=∅)
      (receipts : after.receipts=∅) (batchReceipts : after.batchReceipts=∅) :
      Happens store (.clear expected) (.cleared (.ok result)) after

variable (store : PersonalStateStore)

theorem commitDesiredWatchMutation_happens (cmd : DesiredWatchCommand) :
    store.Happens (.mutation cmd) (.mutation (store.commitDesiredWatchMutation cmd).1)
      (store.commitDesiredWatchMutation cmd).2 := by
  unfold commitDesiredWatchMutation
  split
  · exact .kept rfl rfl
  rename_i current
  split
  · exact .kept rfl rfl
  rename_i batch
  split
  · split <;> exact .kept rfl rfl
  rename_i single
  have free : store.ledger cmd.key=none := ledger_none.mpr ⟨single,by simpa using batch⟩
  dsimp only
  split
  · exact .kept rfl rfl
  rename_i room
  have files (outcome : DesiredWatchReceiptOutcome) : store.Files (.mutation cmd) cmd.key
        (.single ⟨cmd.sectionKey,commandFingerprint cmd,outcome⟩) :=
    ⟨rfl,not_not.mp current,free,Nat.lt_of_not_le room,⟨rfl,rfl⟩,trivial⟩
  split
  · exact .refused (files _) rfl
  rename_i based
  split
  · exact .refused (files _) rfl
  rename_i slot
  split
  · exact .kept rfl rfl
  rename_i history
  split
  · exact .kept rfl rfl
  rename_i committed after applied
  have wrote := applyDesiredWatchWrite_wrote applied
  have desired := wrote.count (p := DesiredWatchRow.desired) (f := id) (fun _ => rfl)
  have tombstones := wrote.count (p := fun row => !row.desired) (f := not) (fun _ => rfl)
  refine .committed (files (.committed committed)) rfl
    ⟨.cons wrote (.nil _),?_,by simp [AuthorityOperation.commands],?_,?_⟩
  · intro item member
    cases List.mem_singleton.mp member
    exact not_not.mp based
  · intro bound
    unfold desiredWatchCount DesiredWatchCommand.desired at *
    cases will : cmd.policy.isSome <;>
      cases was : store.watches[cmd.sectionKey]?.any DesiredWatchRow.desired <;>
      simp only [will,was] at slot desired <;> simp at slot desired <;> omega
  · intro bound
    unfold desiredWatchBudget addsATombstone DesiredWatchCommand.desired at *
    dsimp only at *
    cases will : cmd.policy.isSome <;>
      cases was : store.watches[cmd.sectionKey]?.any (fun row => !row.desired) <;>
      simp only [will,was] at history tombstones <;> simp at history tombstones <;> omega

theorem firstStale_none {items : List (DesiredWatchBatchCommand × Option DesiredWatchRow)}
    (h : firstStale items=none) : ∀item∈items,item.1.basedOnRevision=currentRevision item.2 := by
  intro item member
  have checked := List.findSome?_eq_none_iff.mp h item member
  by_contra stale
  simp [stale] at checked

theorem commitDesiredWatchBatch_happens (authorityGeneration : Nat) (mutationId : TraceId)
    (commands : List DesiredWatchBatchCommand) :
    store.Happens (.batch authorityGeneration mutationId commands)
      (.batch (store.commitDesiredWatchBatch authorityGeneration mutationId commands).1)
      (store.commitDesiredWatchBatch authorityGeneration mutationId commands).2 := by
  unfold commitDesiredWatchBatch
  dsimp only
  split
  · exact .kept rfl rfl
  rename_i valid
  have distinct : (commands.map DesiredWatchBatchCommand.sectionKey).Nodup := by
    by_contra repeated
    exact valid (.inr (.inr repeated))
  have short : commands.length ≤ maxDesiredWatches := by
    by_contra long
    exact valid (.inr (.inl (Nat.lt_of_not_le long)))
  have wellFormed : (AuthorityOperation.batch authorityGeneration mutationId commands).WellFormed :=
    ⟨fun empty => valid (.inl empty),short,distinct⟩
  split
  · exact .kept rfl rfl
  rename_i current
  split
  · exact .kept rfl rfl
  rename_i single
  split
  · split <;> exact .kept rfl rfl
  rename_i batch
  have free : store.ledger ⟨authorityGeneration,mutationId⟩=none :=
    ledger_none.mpr ⟨by simpa using single,batch⟩
  split
  · exact .kept rfl rfl
  rename_i room
  have files (outcome : DesiredWatchBatchReceiptOutcome) :
      store.Files (.batch authorityGeneration mutationId commands)
        ⟨authorityGeneration,mutationId⟩ (.batch ⟨batchCommandFingerprint commands,outcome⟩) :=
    ⟨rfl,not_not.mp current,free,Nat.lt_of_not_le room,rfl,wellFormed⟩
  split
  · exact .refused (files (.staleRevision _)) rfl
  rename_i fresh
  split
  · exact .refused (files (.limitExceeded _)) rfl
  rename_i slots
  split
  · exact .kept rfl rfl
  rename_i history
  split
  · exact .kept rfl rfl
  rename_i writes applied
  obtain ⟨items,listed,wrote⟩ := foldlM_write_wroteAll distinct (fun _ _ => rfl) rfl applied
  refine .committed (files (.committed writes.committed)) (congrArg some listed)
    ⟨wrote,?_,distinct,?_,?_⟩
  · intro cmd member
    exact firstStale_none fresh _ (List.mem_map_of_mem member)
  · intro bound
    have fits : countValues store.watches DesiredWatchRow.desired+commands.length ≤ u64Max :=
      (Nat.add_le_add bound short).trans (by decide)
    have count := wrote.count (p := DesiredWatchRow.desired) (f := id) distinct
      (fun _ _ => rfl) (fun _ => rfl) fits
    change countValues _ _ ≤ _
    rw [← count]
    exact Nat.le_of_not_lt slots
  · intro bound
    have fits : countValues store.watches (fun row => !row.desired)+commands.length ≤ u64Max :=
      (Nat.add_le_add bound short).trans (by decide)
    have count := wrote.count (p := fun row => !row.desired) (f := not) distinct
      (fun _ _ => rfl) (fun _ => rfl) fits
    change countValues _ _ ≤ _
    rw [← count]
    exact Nat.le_of_not_lt history

theorem rotateDesiredWatchAuthority_happens (pt : ExtTreeSet SectionKey) :
    store.Happens (.rotate pt) (.rotated (store.rotateDesiredWatchAuthority pt).1)
      (store.rotateDesiredWatchAuthority pt).2 := by
  unfold rotateDesiredWatchAuthority
  cases h : nextCounter store.counters.authorityGeneration with
  | error error => exact .kept rfl rfl
  | ok ag => exact .rotated (nextCounter_ok h) ⟨rfl,rfl⟩ rfl rfl rfl

theorem clearPersonalData_happens (expected : Nat) :
    store.Happens (.clear expected) (.cleared (store.clearPersonalData expected).1)
      (store.clearPersonalData expected).2 := by
  unfold clearPersonalData
  split
  · exact .kept rfl rfl
  split
  · exact .kept rfl rfl
  split
  · exact .kept rfl rfl
  split
  · exact .kept rfl rfl
  · exact .cleared rfl rfl rfl rfl

theorem perform_happens (op : AuthorityOperation) :
    store.Happens op (store.perform op).1 (store.perform op).2 := by
  cases op with
  | mutation cmd => exact store.commitDesiredWatchMutation_happens cmd
  | batch authorityGeneration mutationId commands =>
    exact store.commitDesiredWatchBatch_happens authorityGeneration mutationId commands
  | rotate preserveTombstones => exact store.rotateDesiredWatchAuthority_happens preserveTombstones
  | clear expected => exact store.clearPersonalData_happens expected

end PersonalStateStore

end CoursePlanner.Personal
