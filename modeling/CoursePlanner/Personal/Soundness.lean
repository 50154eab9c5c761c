import CoursePlanner.Personal.Ledger

namespace CoursePlanner.Personal

open Std Library Contracts

namespace PersonalStateStore

structure Numbered (store : PersonalStateStore) : Prop where
  revisions : ∀{sectionKey : SectionKey} {row : DesiredWatchRow},store.watches[sectionKey]?=some row →
    0<row.revision ∧ row.revision ≤ store.counters.revisionCounter
  epochs : ∀{sectionKey : SectionKey} {row : DesiredWatchRow},store.watches[sectionKey]?=some row →
    row.materializationEpoch ≤ store.counters.materializationCounter
  distinct : ∀{a b : SectionKey} {rowA rowB : DesiredWatchRow},store.watches[a]?=some rowA →
    store.watches[b]?=some rowB → rowA.revision=rowB.revision → a=b

theorem currentRevision_le {store : PersonalStateStore} (h : store.Numbered) (sk : SectionKey) :
    currentRevision store.watches[sk]? ≤ store.counters.revisionCounter := by
  cases held : store.watches[sk]? with
  | none => exact Nat.zero_le _
  | some row => exact (h.revisions held).2

theorem numbered_rows {V : Type} {rows : ExtTreeMap SectionKey V}
    {policy : V → Option WatchPolicyV1} {store : PersonalStateStore}
    (held : store.watches=numbered rows policy)
    (revision : store.counters.revisionCounter=rows.size)
    (materialization : store.counters.materializationCounter=rows.size) : store.Numbered := by
  have ranked {sk : SectionKey} {row : DesiredWatchRow} (h : store.watches[sk]?=some row) :
      sk∈rows ∧ row.revision=rank rows sk+1 ∧ row.materializationEpoch=rank rows sk+1 := by
    rw [held,numbered,ExtTreeMap.getElem?_map] at h
    obtain ⟨value,found,rfl⟩ := Option.map_eq_some_iff.mp h
    exact ⟨mem_of_getElem? found,rfl,rfl⟩
  refine ⟨?_,?_,?_⟩
  · intro sk row h
    obtain ⟨mem,number,-⟩ := ranked h
    have bound := rank_lt mem
    omega
  · intro sk row h
    obtain ⟨mem,-,number⟩ := ranked h
    have bound := rank_lt mem
    omega
  · intro a b rowA rowB ha hb same
    obtain ⟨mem,first,-⟩ := ranked ha
    obtain ⟨-,second,-⟩ := ranked hb
    exact rank_inj mem (by omega)

section Writes

variable {store middle after : PersonalStateStore} {sk : SectionKey}
  {cmds : List DesiredWatchBatchCommand} {items : List DesiredWatchBatchCommitted}

section

variable {policy : Option WatchPolicyV1} {committed : DesiredWatchCommitted}
  (h : store.Wrote sk policy committed after)

include h

theorem Wrote.counters_le : store.counters.revisionCounter<after.counters.revisionCounter ∧
      store.counters.materializationCounter ≤ after.counters.materializationCounter := by
  have revision := h.revision
  have epoch := h.epoch
  rw [h.leaves]
  cases kept : keptEpoch store.watches[sk]? policy with
  | none =>
    rw [kept] at epoch
    simp only [Option.getD_none] at epoch
    simp
    omega
  | some old =>
    simp
    omega

theorem Wrote.numbered (sound : store.Numbered) : after.Numbered := by
  have grows := h.counters_le
  have epoch : committed.materializationEpoch ≤ after.counters.materializationCounter := by
    have chosen := h.epoch
    rw [h.leaves]
    cases kept : keptEpoch store.watches[sk]? policy with
    | none => simp
    | some old =>
      obtain ⟨row,held,-,rfl⟩ := keptEpoch_some.mp kept
      rw [kept] at chosen
      rw [chosen]
      exact sound.epochs held
  have revision : committed.revision=after.counters.revisionCounter := by rw [h.leaves]
  have lookup (other : SectionKey) : after.watches[other]?=if sk=other then
      some ⟨policy,committed.revision,committed.materializationEpoch⟩
      else store.watches[other]? := by
    rw [h.leaves]
    exact getElem?_insert_eq _ _ _ _
  refine ⟨?_,?_,?_⟩
  · intro other row held
    rw [lookup] at held
    split at held
    · cases held
      dsimp only
      omega
    · have old := sound.revisions held
      omega
  · intro other row held
    rw [lookup] at held
    split at held
    · cases held
      exact epoch
    · exact (sound.epochs held).trans grows.2
  · intro a b rowA rowB ha hb same
    rw [lookup] at ha hb
    split at ha <;> split at hb
    · rename_i first second
      exact first.symm.trans second
    · cases ha
      have old := sound.revisions hb
      dsimp only at same
      omega
    · cases hb
      have old := sound.revisions ha
      dsimp only at same
      omega
    · exact sound.distinct ha hb same

end

variable (h : WroteAll store cmds items after)

include h

theorem WroteAll.numbered (sound : store.Numbered) : after.Numbered := by
  induction h with
  | nil => exact sound
  | cons first _ ih => exact ih (first.numbered sound)

theorem WroteAll.sections : items.map DesiredWatchBatchCommitted.sectionKey=
      cmds.map DesiredWatchBatchCommand.sectionKey := by
  induction h with
  | nil => rfl
  | cons _ _ ih => rw [List.map_cons,List.map_cons,ih]

theorem WroteAll.untouched (unnamed : sk∉cmds.map DesiredWatchBatchCommand.sectionKey) :
    after.watches[sk]?=store.watches[sk]? := by
  induction h with
  | nil => rfl
  | cons first _ ih =>
    rw [List.map_cons,List.mem_cons,not_or] at unnamed
    rw [ih unnamed.2,first.leaves]
    rw [getElem?_insert_eq,if_neg (fun same => unnamed.1 same.symm)]

theorem WroteAll.revisions : store.counters.revisionCounter ≤ after.counters.revisionCounter ∧
      (items.map (fun item => item.committed.revision)).Pairwise (· < ·) ∧
      ∀item∈items,store.counters.revisionCounter < item.committed.revision ∧
        item.committed.revision ≤ after.counters.revisionCounter := by
  induction h with
  | nil => exact ⟨le_rfl,List.Pairwise.nil,nofun⟩
  | @cons _ middle _ _ _ committed _ first _ ih =>
    obtain ⟨later,sorted,between⟩ := ih
    have grows := first.counters_le
    have stamped : committed.revision=middle.counters.revisionCounter := by rw [first.leaves]
    refine ⟨by omega,?_,?_⟩
    · rw [List.map_cons,List.pairwise_cons]
      refine ⟨?_,sorted⟩
      intro revision mem
      obtain ⟨item,listed,rfl⟩ := List.mem_map.mp mem
      dsimp only
      have := between item listed
      omega
    · intro item mem
      rcases List.mem_cons.mp mem with rfl | mem
      · dsimp only
        omega
      · have := between item mem
        omega

/-- The row that a gesture leaves for a section it names: a new revision, and a new
epoch exactly where the desired value is not the one the row had. -/
theorem WroteAll.named (sound : store.Numbered)
    (distinct : (cmds.map DesiredWatchBatchCommand.sectionKey).Nodup)
    (named : sk∈cmds.map DesiredWatchBatchCommand.sectionKey) :
    ∃row,after.watches[sk]?=some row ∧ store.counters.revisionCounter<row.revision ∧
      ∀old,store.watches[sk]?=some old →
        (row.materializationEpoch≠old.materializationEpoch ↔ row.desired≠old.desired) := by
  induction h with
  | nil => simp at named
  | @cons store middle after cmd cmds committed items first rest ih =>
    have apart := List.nodup_cons.mp distinct
    by_cases here : cmd.sectionKey=sk
    · subst here
      refine ⟨⟨cmd.policy,committed.revision,committed.materializationEpoch⟩,?_,?_,?_⟩
      · rw [rest.untouched apart.1,first.leaves]
        rw [getElem?_insert_eq,if_pos rfl]
      · have := first.revision
        dsimp only
        omega
      · intro old held
        have epoch := first.epoch
        have bound := sound.epochs held
        unfold DesiredWatchRow.desired
        dsimp only
        cases kept : keptEpoch store.watches[cmd.sectionKey]? cmd.policy with
        | some value =>
          obtain ⟨row,same,agrees,rfl⟩ := keptEpoch_some.mp kept
          rw [held] at same
          cases same
          rw [kept] at epoch
          unfold DesiredWatchRow.desired at agrees
          simp [epoch,agrees]
        | none =>
          rw [kept] at epoch
          have differs : old.desired≠cmd.policy.isSome := by
            intro agrees
            have some := keptEpoch_some.mpr ⟨old,held,agrees,rfl⟩
            rw [kept] at some
            cases some
          simp only [Option.getD_none] at epoch
          constructor
          · intro _ same
            exact differs same.symm
          · intro _
            omega
    · have later : sk∈cmds.map DesiredWatchBatchCommand.sectionKey := by
        exact (List.mem_cons.mp named).resolve_left (fun same => here same.symm)
      obtain ⟨row,held,newer,changes⟩ := ih (first.numbered sound) apart.2 later
      have grows := first.counters_le
      refine ⟨row,held,by omega,?_⟩
      intro old found
      apply changes
      rw [first.leaves]
      rwa [getElem?_insert_eq,if_neg here]

end Writes

/-- What every state of the authority has: rows under their counters, and receipts of
the current generation only, each under one ledger. -/
structure Sound (store : PersonalStateStore) : Prop where
  rows : store.Numbered
  current : ∀{key : ReceiptKey} {entry : LedgerEntry},store.ledger key=some entry →
    key.authorityGeneration=store.counters.authorityGeneration
  apart : ∀key : ReceiptKey,store.receipts[key]?=none ∨ store.batchReceipts[key]?=none

structure Bounded (store : PersonalStateStore) : Prop where
  desired : store.desiredWatchCount ≤ maxDesiredWatches
  tombstones : store.desiredWatchBudget.tombstones ≤ maxDesiredWatchTombstones
  receipts : store.desiredWatchBudget.receipts ≤ maxDesiredWatchReceipts

section Record

variable [Sha256Bytes] {store : PersonalStateStore} {op : AuthorityOperation} {key : ReceiptKey}
  {en : LedgerEntry}

variable {middle : PersonalStateStore}

theorem record_sound (files : store.Files op key en) (sound : store.Sound)
    (rows : middle.Numbered) (rcs : middle.receipts=store.receipts)
    (brs : middle.batchReceipts=store.batchReceipts)
    (generation : middle.counters.authorityGeneration=store.counters.authorityGeneration) :
    (middle.record key en).Sound := by
  have free : middle.ledger key=none := (ledger_congr rcs brs key).trans files.free
  refine ⟨?_,?_,?_⟩
  · exact ⟨fun h => by simpa using rows.revisions (by simpa using h),
      fun h => by simpa using rows.epochs (by simpa using h),
      fun ha hb => rows.distinct (by simpa using ha) (by simpa using hb)⟩
  · intro other found h
    rw [record_counters,generation]
    rw [ledger_record en free] at h
    split at h
    · rename_i same
      rw [← same]
      exact files.current
    · rw [ledger_congr rcs brs] at h
      exact sound.current h
  · intro other
    obtain ⟨single,batch⟩ := ledger_none.mp files.free
    have old := sound.apart other
    rw [← rcs,← brs] at old
    rw [← rcs] at single
    rw [← brs] at batch
    cases en with
    | single receipt =>
      simp only [record,writeDesiredWatchReceipt]
      by_cases same : key=other
      · exact .inr (same ▸ batch)
      · simpa [same] using old
    | batch receipt =>
      simp only [record,writeDesiredWatchBatchReceipt]
      by_cases same : key=other
      · exact .inl (same ▸ single)
      · simpa [same] using old

variable (files : store.Files op key en) (rcs : middle.receipts=store.receipts)
  (batchReceipts brs : middle.batchReceipts=store.batchReceipts)

include files rcs batchReceipts

theorem record_receipts_le :
    (middle.record key en).desiredWatchBudget.receipts ≤ maxDesiredWatchReceipts := by
  have room := files.room
  cases en with
  | single receipt =>
    have grows : (middle.receipts.insert key receipt).size ≤ middle.receipts.size+1 :=
      ExtTreeMap.size_insert_le
    change (middle.receipts.insert key receipt).size+middle.batchReceipts.size ≤ _
    rw [rcs] at grows ⊢
    rw [batchReceipts]
    omega
  | batch receipt =>
    have grows : (middle.batchReceipts.insert key receipt).size ≤ middle.batchReceipts.size+1 :=
      ExtTreeMap.size_insert_le
    change middle.receipts.size+(middle.batchReceipts.insert key receipt).size ≤ _
    rw [batchReceipts] at grows ⊢
    rw [rcs]
    omega

theorem record_bounded (desired : middle.desiredWatchCount ≤ maxDesiredWatches)
    (tombstones : middle.desiredWatchBudget.tombstones ≤ maxDesiredWatchTombstones) :
    (middle.record key en).Bounded := by
  refine ⟨?_,?_,record_receipts_le files rcs batchReceipts⟩
  · simpa [desiredWatchCount] using desired
  · simpa [desiredWatchBudget] using tombstones

end Record

section Steps

variable [Sha256Bytes] {store after : PersonalStateStore} {op : AuthorityOperation}
  {answer : AuthorityAnswer}

omit [Sha256Bytes] in
theorem ledger_empty {store : PersonalStateStore} (rcs : store.receipts=∅)
    (brs : store.batchReceipts=∅) (key : ReceiptKey) : store.ledger key=none := by
  rw [ledger_none,rcs,brs]
  simp

variable (h : store.Happens op answer after)

include h

theorem Happens.sound (sound : store.Sound) : after.Sound := by
  cases h with
  | kept => exact sound
  | refused files => exact record_sound files sound sound.rows rfl rfl rfl
  | committed files _ applies =>
    obtain ⟨rcs,brs,-,generation⟩ := applies.wrote.keeps
    exact record_sound files sound (applies.wrote.numbered sound.rows) rcs brs generation
  | rotated _ counted rows rcs brs =>
    refine ⟨numbered_rows rows counted.1 counted.2,?_,fun key => .inl (by simp [rcs])⟩
    intro key en h
    rw [ledger_empty rcs brs] at h
    cases h
  | cleared _ rows rcs brs =>
    refine ⟨⟨?_,?_,?_⟩,?_,fun key => .inl (by simp [rcs])⟩
    · intro sk row h
      simp [rows] at h
    · intro sk row h
      simp [rows] at h
    · intro a b rowA rowB h
      simp [rows] at h
    · intro key en h
      rw [ledger_empty rcs brs] at h
      cases h

theorem Happens.bounded (bounded : store.Bounded) : after.Bounded := by
  cases h with
  | kept => exact bounded
  | refused files => exact record_bounded files rfl rfl bounded.desired bounded.tombstones
  | committed files _ applies =>
    obtain ⟨rcs,brs,-,-⟩ := applies.wrote.keeps
    exact record_bounded files rcs brs (applies.desired bounded.desired)
      (applies.tombstones bounded.tombstones)
  | @rotated preserve _ _ _ _ rows rcs brs =>
    have carried (p : DesiredWatchRow → Bool) (f : Bool → Bool)
        (reads : ∀row : DesiredWatchRow,p row=f row.policy.isSome) :
        countValues after.watches p ≤ countValues store.watches p := by
      rw [rows,numbered,countValues_map _ _ p p (fun _ row => by rw [reads,reads])]
      exact countValues_filter_le _ _ _
    refine ⟨(carried _ id (fun _ => rfl)).trans bounded.desired,
      (carried _ not (fun _ => rfl)).trans bounded.tombstones,?_⟩
    simp [desiredWatchBudget,rcs,brs]
  | cleared _ rows rcs brs =>
    have empty (p : DesiredWatchRow → Bool) : countValues after.watches p=0 := by
      have := countValues_le_size after.watches p
      rw [rows] at this ⊢
      simpa using this
    refine ⟨?_,?_,?_⟩
    · simp [desiredWatchCount,empty]
    · simp [desiredWatchBudget,empty]
    · simp [desiredWatchBudget,rcs,brs]

theorem Happens.generation_le :
    store.counters.authorityGeneration ≤ after.counters.authorityGeneration := by
  cases h with
  | kept => exact le_rfl
  | refused => simp
  | committed _ _ applies => simp [applies.wrote.keeps.2.2.2]
  | rotated | cleared => omega

theorem Happens.keeps_receipt {key : ReceiptKey}
    {en : LedgerEntry} (held : store.ledger key=some en)
    (same : after.counters.authorityGeneration=store.counters.authorityGeneration) :
    after.ledger key=some en := by
  cases h with
  | kept => exact held
  | @refused _ fresh _ files =>
    rw [ledger_record _ files.free,if_neg]
    · exact held
    · rintro rfl
      rw [files.free] at held
      cases held
  | @committed _ fresh _ _ middle files _ applies =>
    obtain ⟨rcs,batchReceipts,-,-⟩ := applies.wrote.keeps
    have kept := ledger_congr rcs batchReceipts
    rw [ledger_record _ ((kept _).trans files.free),if_neg,kept]
    · exact held
    · rintro rfl
      rw [files.free] at held
      cases held
  | rotated | cleared => omega

end Steps

end PersonalStateStore

end CoursePlanner.Personal
