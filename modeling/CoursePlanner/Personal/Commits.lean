import CoursePlanner.Personal.Authority

namespace CoursePlanner.Personal

open Std Library Contracts

theorem nextCounter_ok {current next : Nat} (h : nextCounter current=.ok next) :
    next=current+1 := by
  unfold nextCounter at h
  split at h
  · exact (Except.ok.inj h).symm
  · cases h

/-- The epoch that a write keeps: that of a row with the same desired value. -/
def keptEpoch (existing : Option DesiredWatchRow) (policy : Option WatchPolicyV1) : Option Nat :=
  (existing.filter (fun row => row.desired=policy.isSome)).map DesiredWatchRow.materializationEpoch

theorem keptEpoch_some {existing : Option DesiredWatchRow} {pol : Option WatchPolicyV1}
    {epoch : Nat} : keptEpoch existing pol=some epoch ↔
      ∃row,existing=some row ∧ row.desired=pol.isSome ∧ row.materializationEpoch=epoch := by
  unfold keptEpoch
  simp only [Option.map_eq_some_iff,Option.filter_eq_some_iff,decide_eq_true_eq]
  constructor
  · rintro ⟨row,⟨held,same⟩,rfl⟩
    exact ⟨row,held,same,rfl⟩
  · rintro ⟨row,held,same,rfl⟩
    exact ⟨row,⟨held,same⟩,rfl⟩

namespace PersonalStateStore

/-- One write: the next revision, and the next epoch where none is kept. -/
structure Wrote (store : PersonalStateStore) (sectionKey : SectionKey)
    (policy : Option WatchPolicyV1) (committed : DesiredWatchCommitted)
    (after : PersonalStateStore) : Prop where
  revision : committed.revision=store.counters.revisionCounter+1
  epoch : committed.materializationEpoch=
    (keptEpoch store.watches[sectionKey]? policy).getD (store.counters.materializationCounter+1)
  leaves : after={store with
    watches := store.watches.insert sectionKey
      ⟨policy,committed.revision,committed.materializationEpoch⟩
    counters := {store.counters with
      revisionCounter := committed.revision
      materializationCounter := if (keptEpoch store.watches[sectionKey]? policy).isSome
        then store.counters.materializationCounter
        else committed.materializationEpoch}}
  changed : committed.epochChanged=(keptEpoch store.watches[sectionKey]? policy).isNone

theorem applyDesiredWatchWrite_wrote {store after : PersonalStateStore} {key : SectionKey}
    {pol : Option WatchPolicyV1} {committed : DesiredWatchCommitted}
    (h : store.applyDesiredWatchWrite key pol store.watches[key]? store.counters=
      .ok (committed,after)) : store.Wrote key pol committed after := by
  obtain ⟨revision,next,h⟩ := bind_ok.mp h
  obtain ⟨⟨epoch,changed⟩,chosen,h⟩ := bind_ok.mp h
  have numbered := nextCounter_ok next
  unfold writtenEpoch at chosen
  cases held : store.watches[key]?.filter (fun row => row.desired=pol.isSome) with
  | some row =>
    rw [held] at chosen
    cases chosen
    cases h
    exact ⟨numbered,by simp [keptEpoch,held],by simp [keptEpoch,held],by simp [keptEpoch,held]⟩
  | none =>
    rw [held] at chosen
    cases allotted : nextCounter store.counters.materializationCounter with
    | error error =>
      rw [allotted] at chosen
      cases chosen
    | ok fresh =>
      rw [allotted] at chosen
      have stamped := nextCounter_ok allotted
      cases chosen
      cases h
      exact ⟨numbered,by simp [keptEpoch,held,stamped],by simp [keptEpoch,held],
        by simp [keptEpoch,held]⟩

/-- The writes of a gesture, each on what the ones before it left. -/
inductive WroteAll : PersonalStateStore → List DesiredWatchBatchCommand →
    List DesiredWatchBatchCommitted → PersonalStateStore → Prop
  | nil (store : PersonalStateStore) : WroteAll store [] [] store
  | cons {store middle after : PersonalStateStore} {command : DesiredWatchBatchCommand}
      {commands : List DesiredWatchBatchCommand} {committed : DesiredWatchCommitted}
      {items : List DesiredWatchBatchCommitted}
      (first : store.Wrote command.sectionKey command.policy committed middle)
      (rest : WroteAll middle commands items after) :
      WroteAll store (command::commands) (⟨command.sectionKey,committed⟩::items) after

/-- The rows that a batch loads before it writes are still those of the table when
their turn comes, for no section is named twice. -/
theorem foldlM_write_wroteAll {loaded : PersonalStateStore} {cmds : List DesiredWatchBatchCommand}
    {writes last : BatchWrites}
    (distinct : (cmds.map DesiredWatchBatchCommand.sectionKey).Nodup)
    (untouched : ∀cmd∈cmds, writes.store.watches[cmd.sectionKey]?=loaded.watches[cmd.sectionKey]?)
    (rolling : writes.rollingCounters=writes.store.counters)
    (h : (cmds.map (fun cmd => (cmd,loaded.watches[cmd.sectionKey]?))).foldlM
      BatchWrites.write writes=.ok last) :
    ∃items,last.committed=writes.committed++items ∧
      WroteAll writes.store cmds items last.store := by
  induction cmds generalizing writes with
  | nil =>
    cases h
    exact ⟨[],by simp,.nil _⟩
  | cons cmd cmds ih =>
    obtain ⟨middle,written,h⟩ := bind_ok.mp h
    obtain ⟨⟨committed,store⟩,applied,written⟩ := bind_ok.mp written
    dsimp only at applied
    rw [← untouched cmd (by simp),rolling] at applied
    have wrote := applyDesiredWatchWrite_wrote applied
    have apart := List.nodup_cons.mp distinct
    cases written
    obtain ⟨items,listed,rest⟩ := ih apart.2 (by
      intro other member
      have different : cmd.sectionKey≠other.sectionKey := by
        intro same
        exact apart.1 (same ▸ List.mem_map_of_mem member)
      rw [wrote.leaves]
      rw [getElem?_insert_eq,if_neg different]
      exact untouched other (by simp [member])) (by
      rw [rolling,wrote.leaves,wrote.changed]
      cases (keptEpoch writes.store.watches[cmd.sectionKey]? cmd.policy) <;> simp) h
    refine ⟨⟨cmd.sectionKey,committed⟩::items,?_,.cons wrote rest⟩
    rw [listed]
    simp

section Counts

variable {store after : PersonalStateStore} {p : DesiredWatchRow → Bool} {f : Bool → Bool}

theorem Wrote.count {key : SectionKey} {pol : Option WatchPolicyV1}
    {committed : DesiredWatchCommitted} (h : store.Wrote key pol committed after)
    (reads : ∀row : DesiredWatchRow,p row=f row.policy.isSome) :
    countValues after.watches p+(if store.watches[key]?.any p then 1 else 0)=
      countValues store.watches p+if f pol.isSome then 1 else 0 := by
  have count := countValues_insert store.watches key
    ⟨pol,committed.revision,committed.materializationEpoch⟩ p
  rw [reads] at count
  rw [h.leaves]
  exact count

/-- The counts that a batch works out beforehand are those of the rows it leaves. -/
theorem WroteAll.count {loaded : PersonalStateStore} {cmds : List DesiredWatchBatchCommand}
    {items : List DesiredWatchBatchCommitted} (h : WroteAll store cmds items after)
    (distinct : (cmds.map DesiredWatchBatchCommand.sectionKey).Nodup)
    (untouched : ∀cmd∈cmds, store.watches[cmd.sectionKey]?=loaded.watches[cmd.sectionKey]?)
    (reads : ∀row : DesiredWatchRow,p row=f row.policy.isSome)
    (fits : countValues store.watches p+cmds.length ≤ u64Max) :
    (cmds.map (fun cmd => (cmd,loaded.watches[cmd.sectionKey]?))).foldl
      (fun count (cmd,existing) => shifted count (existing.any p) (f cmd.desired))
      (countValues store.watches p)=countValues after.watches p := by
  induction h with
  | nil => rfl
  | @cons store middle _ cmd _ _ _ first _ ih =>
    have apart := List.nodup_cons.mp distinct
    have step := first.count reads
    have next : shifted (countValues store.watches p)
        (loaded.watches[cmd.sectionKey]?.any p) (f cmd.desired)= countValues middle.watches p := by
      rw [← untouched cmd (by simp)]
      unfold DesiredWatchBatchCommand.desired
      simp only [List.length_cons] at fits
      cases was : store.watches[cmd.sectionKey]?.any p <;>
        cases will : f cmd.policy.isSome <;>
        simp only [was,will,shifted,saturatingAdd] at step ⊢ <;> simp at step
      · exact step.symm
      · rw [step,min_eq_left (by omega)]
      · omega
      · exact step.symm
    rw [List.map_cons,List.foldl_cons]
    dsimp only
    rw [next]
    apply ih apart.2
    · intro other member
      have different : cmd.sectionKey≠other.sectionKey := by
        intro same
        exact apart.1 (same ▸ List.mem_map_of_mem member)
      rw [first.leaves]
      rw [getElem?_insert_eq,if_neg different]
      exact untouched other (by simp [member])
    · simp only [List.length_cons] at fits
      have : (if f cmd.policy.isSome then 1 else 0)≤1 := by split <;> omega
      omega

end Counts

end PersonalStateStore

end CoursePlanner.Personal
