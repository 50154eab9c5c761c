import CoursePlanner.Library.Stamp
import CoursePlanner.Personal.Soundness

namespace CoursePlanner.Personal

open Std Library Contracts

section Preimage

theorem zero_free {text : String} {allowed : Char → Bool} (nul : allowed (Char.ofNat 0)=false)
    (all : ¬(!text.toList.all allowed)=true) : (0 : UInt8)∉utf8Bytes text := by
  apply zero_notMem_utf8Bytes
  intro c member zero
  have same : c=Char.ofNat 0 := Char.toNat_inj.mp zero
  simp only [Bool.not_eq_true',Bool.not_eq_false,List.all_eq_true] at all
  have one := all c member
  rw [same,nul] at one
  cases one

theorem term_zero_free (term : TermId) : (0 : UInt8)∉utf8Bytes term.value := by
  have valid := term.valid
  unfold validateTerm at valid
  split at valid <;> [cases valid; skip]
  split at valid <;> [cases valid; skip]
  split at valid <;> [cases valid; skip]
  split at valid <;> [cases valid; skip]
  rename_i letters
  exact zero_free (by decide) letters

theorem campus_zero_free (campus : CampusCode) : (0 : UInt8)∉utf8Bytes campus.value := by
  have valid := campus.valid
  unfold validateCampus at valid
  split at valid <;> [cases valid; skip]
  split at valid <;> [cases valid; skip]
  split at valid <;> [cases valid; skip]
  split at valid <;> [cases valid; skip]
  rename_i letters
  exact zero_free (by decide) letters

theorem index_zero_free (index : SectionIndex) : (0 : UInt8)∉utf8Bytes index.value := by
  have valid := index.valid
  unfold validateSectionIndex at valid
  split at valid <;> [cases valid; skip]
  split at valid <;> [cases valid; skip]
  rename_i letters
  exact zero_free (by decide) letters

/-- The section and the end of the record can be read back from what is hashed. -/
theorem itemPreimage_inj {a b : SectionKey} {m n : Nat} {p q : Option WatchPolicyV1}
    {x y : List UInt8} (h : itemPreimage a m p++x=itemPreimage b n q++y) :
    a=b ∧ utf8Bytes ((p.map WatchPolicyV1.json).getD "")++x=
      utf8Bytes ((q.map WatchPolicyV1.json).getD "")++y := by
  unfold itemPreimage at h
  simp only [List.append_assoc] at h
  obtain ⟨term,h⟩ := append_cons_inj (term_zero_free _) (term_zero_free _) h
  obtain ⟨campus,h⟩ := append_cons_inj (campus_zero_free _) (campus_zero_free _) h
  obtain ⟨index,h⟩ := append_cons_inj (index_zero_free _) (index_zero_free _) h
  obtain ⟨-,h⟩ := List.append_inj h (by simp [toBeBytes])
  refine ⟨?_,(List.cons.inj h).2⟩
  obtain ⟨⟨_,_⟩,⟨_,_⟩,⟨_,_⟩⟩ := a
  obtain ⟨⟨_,_⟩,⟨_,_⟩,⟨_,_⟩⟩ := b
  cases utf8Bytes_inj term
  cases utf8Bytes_inj campus
  cases utf8Bytes_inj index
  rfl

theorem itemsPreimage_sections {cmds others : List DesiredWatchBatchCommand}
    (h : cmds.flatMap (fun cmd =>
        itemPreimage cmd.sectionKey cmd.basedOnRevision cmd.policy++[0xff])=
      others.flatMap (fun cmd =>
        itemPreimage cmd.sectionKey cmd.basedOnRevision cmd.policy++[0xff])) :
    cmds.map DesiredWatchBatchCommand.sectionKey=
      others.map DesiredWatchBatchCommand.sectionKey := by
  induction cmds generalizing others with
  | nil =>
    cases others with
    | nil => rfl
    | cons other others =>
      have lengths := congrArg List.length h
      simp at lengths
  | cons cmd cmds ih =>
    cases others with
    | nil =>
      have lengths := congrArg List.length h
      simp at lengths
    | cons other others =>
      simp only [List.flatMap_cons,List.append_assoc] at h
      obtain ⟨same,rest⟩ := itemPreimage_inj h
      obtain ⟨-,rest⟩ := append_cons_inj (ff_notMem_utf8Bytes _) (ff_notMem_utf8Bytes _) rest
      rw [List.map_cons,List.map_cons,same,ih rest]

end Preimage

namespace AuthorityOperation

/-- What the fingerprint of an operation is taken of. -/
def preimage : AuthorityOperation → List UInt8
  | .mutation command => commandPreimage command
  | .batch _ _ commands => toBeBytes commands.length++commands.flatMap (fun command =>
      itemPreimage command.sectionKey command.basedOnRevision command.policy++[0xff])
  | .rotate _ => []
  | .clear _ => []

/-- The same kind of command once more under the same id, with the same fingerprint. -/
def Retries [Sha256Bytes] (retry op : AuthorityOperation) : Prop :=
  match retry,op with
  | .mutation again,.mutation command =>
    again.key=command.key ∧ commandFingerprint again=commandFingerprint command
  | .batch generation mutationId again,.batch generation' mutationId' commands =>
    generation=generation' ∧ mutationId=mutationId' ∧
      batchCommandFingerprint again=batchCommandFingerprint commands
  | _,_ => False

/-- The digest does not take these two for each other. -/
def Distinguished [Sha256Bytes] (retry op : AuthorityOperation) : Prop :=
  Sha256Bytes.hex retry.preimage=Sha256Bytes.hex op.preimage → retry.preimage=op.preimage

theorem Retries.names [Sha256Bytes] {retry op : AuthorityOperation} {en : LedgerEntry}
    (h : retry.Retries op) (apart : retry.Distinguished op) (names : op.Names en)
    (wellFormed : op.WellFormed) :
    retry.key=op.key ∧ retry.Names en ∧ retry.WellFormed := by
  match retry,op,en,h with
  | .mutation again,.mutation cmd,.single receipt,⟨key,fingerprint⟩ =>
    have same : commandPreimage again++[]=commandPreimage cmd++[] :=
      congrArg (·++[]) (apart fingerprint)
    obtain ⟨sk,-⟩ := itemPreimage_inj same
    exact ⟨congrArg some key,⟨names.1.trans sk.symm,names.2.trans fingerprint.symm⟩,trivial⟩
  | .mutation _,.mutation _,.batch _,_ => exact names.elim
  | .batch _ _ again,.batch _ _ cmds,.batch receipt,⟨rfl,rfl,fingerprint⟩ =>
    obtain ⟨-,items⟩ := List.append_inj (apart fingerprint) (by simp [toBeBytes])
    have sections := itemsPreimage_sections items
    have length : again.length=cmds.length := by
      simpa using congrArg List.length sections
    obtain ⟨nonempty,short,distinct⟩ := wellFormed
    refine ⟨rfl,names.trans fingerprint.symm,?_,length ▸ short,sections ▸ distinct⟩
    rintro rfl
    exact nonempty (List.length_eq_zero_iff.mp length.symm)
  | .batch _ _ _,.batch _ _ _,.single _,_ => exact names.elim

end AuthorityOperation

namespace PersonalStateStore

variable [Sha256Bytes]

variable {op : AuthorityOperation} {store : PersonalStateStore}

/-- An operation that a ledger row names gets its answer from there. -/
theorem perform_replays {key : ReceiptKey} {entry : LedgerEntry} (sound : store.Sound)
    (keyed : op.key=some key) (current : key.authorityGeneration=store.counters.authorityGeneration)
    (held : store.ledger key=some entry) (names : op.Names entry) (wellFormed : op.WellFormed) :
    store.perform op=(entry.replay,store) := by
  cases op with
  | mutation cmd =>
    cases keyed
    cases entry with
    | batch receipt => exact names.elim
    | single receipt =>
      have single : store.receipts[cmd.key]?=some receipt := by
        unfold ledger at held
        cases found : store.receipts[cmd.key]? with
        | none => simp [found] at held
        | some other =>
          rw [found] at held
          cases held
          rfl
      have batch : store.batchReceipts[cmd.key]?=none :=
        (sound.apart cmd.key).resolve_left (by simp [single])
      have generation : cmd.authorityGeneration=store.counters.authorityGeneration := current
      simp only [perform,commitDesiredWatchMutation,generation,batch,single,ne_eq,names.1,names.2]
      rfl
  | batch generation mutationId commands =>
    cases keyed
    cases entry with
    | single receipt => exact names.elim
    | batch receipt =>
      obtain ⟨single,batch⟩ : store.receipts[(⟨generation,mutationId⟩ : ReceiptKey)]?=none ∧
          store.batchReceipts[(⟨generation,mutationId⟩ : ReceiptKey)]?=some receipt := by
        unfold ledger at held
        cases found : store.receipts[(⟨generation,mutationId⟩ : ReceiptKey)]? with
        | some other =>
          rw [found] at held
          cases held
        | none =>
          rw [found] at held
          refine ⟨rfl,?_⟩
          simpa using held
      have valid : ¬(commands=[] ∨ maxDesiredWatches < commands.length ∨
          ¬(commands.map DesiredWatchBatchCommand.sectionKey).Nodup) := by
        obtain ⟨nonempty,short,distinct⟩ := wellFormed
        rintro (empty | long | repeated)
        · exact nonempty empty
        · omega
        · exact repeated distinct
      have same : generation=store.counters.authorityGeneration := current
      have fingerprint : receipt.fingerprint=batchCommandFingerprint commands := names
      have answered : store.commitDesiredWatchBatch generation mutationId commands=
          (.ok (batchDecisionFromReceipt receipt.outcome),store) := by
        unfold commitDesiredWatchBatch
        rw [if_neg valid,if_neg (not_not.mpr same)]
        simp only [single,batch,fingerprint,Option.isSome_none,Bool.false_eq_true,if_false,ne_eq,
          not_true_eq_false]
      simp only [perform,answered]
      rfl
  | rotate | clear => cases keyed

/-- An operation wrote the section's row: it committed a command for it, or it
numbered the table anew. -/
def Written (sectionKey : SectionKey) (store : PersonalStateStore) (op : AuthorityOperation) : Prop :=
  (store.perform op).1.renews=true ∨ ∃items,op.effect (store.perform op).1=some items ∧
    sectionKey∈items.map DesiredWatchBatchCommitted.sectionKey

/-- What a client reads before it bases a command on it. -/
def stamp (sectionKey : SectionKey) (store : PersonalStateStore) : ℕ ×ₗ ℕ :=
  toLex (store.counters.authorityGeneration,currentRevision store.watches[sectionKey]?)

theorem unwritten_row {sk : SectionKey} (quiet : ¬Written sk store op) :
    (store.perform op).2.watches[sk]?=store.watches[sk]? ∧
      (store.perform op).2.counters.authorityGeneration=store.counters.authorityGeneration := by
  have happens := store.perform_happens op
  unfold Written at quiet
  generalize (store.perform op).1=answer at happens quiet
  generalize (store.perform op).2=after at happens
  cases happens with
  | kept => exact ⟨rfl,rfl⟩
  | refused => simp
  | committed files writes applies =>
    have unnamed : sk∉op.commands.map DesiredWatchBatchCommand.sectionKey := by
      rw [← applies.wrote.sections]
      exact fun named => quiet (.inr ⟨_,writes,named⟩)
    simp [applies.wrote.untouched unnamed,applies.wrote.keeps.2.2.2]
  | rotated | cleared => exact absurd (.inl rfl) quiet

/-- Each write of a row moves what is read of it, so a stamp that is still there was
not written over. -/
theorem stamped (sk : SectionKey) : Stamped perform Sound (stamp sk) (Written sk) := by
  refine ⟨fun store op sound => (store.perform_happens op).sound sound,?_,?_⟩
  · intro store op _ quiet
    obtain ⟨row,gen⟩ := unwritten_row quiet
    unfold stamp
    rw [row,gen]
  · intro store op sound written
    have happens := store.perform_happens op
    unfold Written at written
    generalize (store.perform op).1=answer at happens written
    generalize (store.perform op).2=after at happens
    cases happens with
    | kept unrecorded same =>
      rcases written with renewed | ⟨items,wrote,-⟩
      · rw [same] at renewed
        cases renewed
      · rw [op.effect_unrecorded unrecorded] at wrote
        cases wrote
    | @refused _ _ en files idle =>
      rcases written with renewed | ⟨items,wrote,-⟩
      · rw [en.renews_reply] at renewed
        cases renewed
      · rw [idle] at wrote
        cases wrote
    | @committed _ _ en items middle files writes applies =>
      rcases written with renewed | ⟨others,wrote,named⟩
      · rw [en.renews_reply] at renewed
        cases renewed
      rw [writes] at wrote
      cases wrote
      rw [applies.wrote.sections] at named
      obtain ⟨row,held,newer,-⟩ := applies.wrote.named sound.rows applies.distinct named
      have old := currentRevision_le sound.rows sk
      apply Prod.Lex.toLex_lt_toLex.mpr
      right
      refine ⟨by simp [applies.wrote.keeps.2.2.2],?_⟩
      simp only [record_watches,held]
      change _ < row.revision
      omega
    | rotated | cleared =>
      apply Prod.Lex.toLex_lt_toLex.mpr
      omega

variable {after : PersonalStateStore} {answer : AuthorityAnswer}

/-- An operation that took effect filed its receipt with what it wrote. -/
theorem Happens.took_effect {items : List DesiredWatchBatchCommitted}
    (h : store.Happens op answer after) (effect : op.effect answer=some items) :
    ∃key entry middle,store.Files op key entry ∧ store.Applies op.commands items middle ∧
      answer=entry.reply ∧ after=middle.record key entry := by
  cases h with
  | kept unrecorded =>
    rw [op.effect_unrecorded unrecorded] at effect
    cases effect
  | refused _ idle =>
    rw [idle] at effect
    cases effect
  | committed files writes applies =>
    rw [writes] at effect
    cases effect
    exact ⟨_,_,_,files,applies,rfl,rfl⟩
  | rotated | cleared => cases effect

/-- A decision that leaves a receipt leaves it where a retry finds it. -/
theorem Happens.left_receipt {again : AuthorityAnswer} (h : store.Happens op answer after)
    (recorded : answer.recorded=some again) :
    ∃key en,store.Files op key en ∧ again=en.replay ∧ after.ledger key=some en ∧
      after.counters.authorityGeneration=store.counters.authorityGeneration := by
  cases h with
  | kept unrecorded =>
    rw [unrecorded] at recorded
    cases recorded
  | @refused _ key en files =>
    rw [en.recorded_reply] at recorded
    cases recorded
    refine ⟨key,en,files,rfl,?_,by simp⟩
    rw [ledger_record _ files.free,if_pos rfl]
  | @committed _ key en _ middle files _ applies =>
    rw [en.recorded_reply] at recorded
    cases recorded
    obtain ⟨receipts,brs,-,gen⟩ := applies.wrote.keeps
    refine ⟨key,en,files,rfl,?_,by simp [gen]⟩
    rw [ledger_record _ ((ledger_congr receipts brs key).trans files.free),if_pos rfl]
  | rotated | cleared => cases recorded

theorem run_sound (sound : store.Sound) (ops : List AuthorityOperation) :
    (run perform store ops).Sound :=
  run_invariant Sound sound ops (fun store op _ sound => (store.perform_happens op).sound sound)

theorem run_generation_le (store : PersonalStateStore) (ops : List AuthorityOperation) :
    store.counters.authorityGeneration ≤ (run perform store ops).counters.authorityGeneration :=
  run_invariant (fun later : PersonalStateStore =>
      store.counters.authorityGeneration ≤ later.counters.authorityGeneration)
    le_rfl ops (fun later op _ grown => grown.trans (later.perform_happens op).generation_le)

theorem run_keeps_receipt {key : ReceiptKey} {entry : LedgerEntry}
    (held : store.ledger key=some entry) (ops : List AuthorityOperation)
    (same : (run perform store ops).counters.authorityGeneration=
      store.counters.authorityGeneration) : (run perform store ops).ledger key=some entry := by
  induction ops generalizing store with
  | nil => exact held
  | cons op ops ih =>
    have first := (store.perform_happens op).generation_le
    have rest := run_generation_le (store.perform op).2 ops
    have reached : (run perform (store.perform op).2 ops).counters.authorityGeneration=
      store.counters.authorityGeneration := same
    have middle : (store.perform op).2.counters.authorityGeneration=
      store.counters.authorityGeneration := by omega
    exact ih ((store.perform_happens op).keeps_receipt held middle) (reached.trans middle.symm)

theorem run_unwritten {sk : SectionKey} {ops : List AuthorityOperation}
    (quiet : Along perform (fun store op => ¬Written sk store op) store ops) :
    (run perform store ops).watches[sk]?=store.watches[sk]? := by
  induction ops generalizing store with
  | nil => rfl
  | cons op ops ih => exact (ih quiet.2).trans (unwritten_row quiet.1).1

/-- The revisions that a run commits, with their generations, in commit order. -/
def commitLog (store : PersonalStateStore) : List AuthorityOperation → List (Nat × Nat)
  | [] => []
  | op::ops => ((op.effect (store.perform op).1).getD []).map (fun item =>
      (store.counters.authorityGeneration,item.committed.revision))++
    commitLog (store.perform op).2 ops

theorem Happens.revisionCounter_le (h : store.Happens op answer after)
    (same : after.counters.authorityGeneration=store.counters.authorityGeneration) :
    store.counters.revisionCounter ≤ after.counters.revisionCounter := by
  cases h with
  | kept => exact le_rfl
  | refused => simp
  | committed _ _ applies => simpa using applies.wrote.revisions.1
  | rotated | cleared => omega

theorem commitLog_above (store : PersonalStateStore) (ops : List AuthorityOperation) :
    ∀stamp∈commitLog store ops,store.counters.authorityGeneration ≤ stamp.1 ∧
      (stamp.1=store.counters.authorityGeneration → store.counters.revisionCounter<stamp.2) := by
  induction ops generalizing store with
  | nil => nofun
  | cons op ops ih =>
    intro stamp member
    have happens := store.perform_happens op
    rcases List.mem_append.mp member with here | later
    · obtain ⟨item,listed,rfl⟩ := List.mem_map.mp here
      cases effect : op.effect (store.perform op).1 with
      | none => simp [effect] at listed
      | some items =>
        obtain ⟨_,_,_,-,applies,-,-⟩ := happens.took_effect effect
        rw [effect] at listed
        exact ⟨le_rfl,fun _ => (applies.wrote.revisions.2.2 item listed).1⟩
    · obtain ⟨newer,above⟩ := ih _ stamp later
      have grows := happens.generation_le
      refine ⟨grows.trans newer,?_⟩
      intro same
      have middle : (store.perform op).2.counters.authorityGeneration=
        store.counters.authorityGeneration := by omega
      exact (happens.revisionCounter_le middle).trans_lt (above (same.trans middle.symm))

theorem commitLog_increasing (store : PersonalStateStore) (ops : List AuthorityOperation) :
    (commitLog store ops).Pairwise (fun a b => a.1=b.1 → a.2<b.2) := by
  induction ops generalizing store with
  | nil => exact List.Pairwise.nil
  | cons op ops ih =>
    have happens := store.perform_happens op
    refine List.pairwise_append.mpr ⟨?_,ih _,?_⟩
    · cases effect : op.effect (store.perform op).1 with
      | none => exact List.Pairwise.nil
      | some items =>
        obtain ⟨_,_,_,-,applies,-,-⟩ := happens.took_effect effect
        have sorted := List.pairwise_map.mp applies.wrote.revisions.2.1
        apply List.pairwise_map.mpr
        refine List.Pairwise.imp ?_ sorted
        intro a b less _
        exact less
    · intro first here second later same
      obtain ⟨item,listed,rfl⟩ := List.mem_map.mp here
      cases effect : op.effect (store.perform op).1 with
      | none => simp [effect] at listed
      | some items =>
        obtain ⟨key,entry,middle,-,applies,-,left⟩ := happens.took_effect effect
        rw [effect] at listed
        have below := (applies.wrote.revisions.2.2 item listed).2
        have above := (commitLog_above _ ops second later).2
        rw [left,record_counters,applies.wrote.keeps.2.2.2] at above
        exact below.trans_lt (above same.symm)

/-- The row of a command that commits is the one that its author read: in every earlier
state with that generation and that revision, and in all states since. -/
def NoLostUpdate (start : PersonalStateStore) : Prop :=
  ∀(earlier between : List AuthorityOperation) (op : AuthorityOperation)
    (items : List DesiredWatchBatchCommitted),∀command∈op.commands,
    let read := run perform start earlier
    let store := run perform read between
    op.effect (store.perform op).1=some items →
    op.key.map ReceiptKey.authorityGeneration=some read.counters.authorityGeneration →
    command.basedOnRevision=currentRevision read.watches[command.sectionKey]? →
    Along perform (fun store op => ¬Written command.sectionKey store op) read between ∧
      store.watches[command.sectionKey]?=read.watches[command.sectionKey]?

/-- Two operations under one generation and id never both write. -/
def TakesEffectOnce (start : PersonalStateStore) : Prop :=
  ∀(earlier : List AuthorityOperation) (op : AuthorityOperation)
    (between : List AuthorityOperation) (again : AuthorityOperation) (key : ReceiptKey),op.key=some key → again.key=some key →
    let store := run perform start earlier
    let later := run perform (store.perform op).2 between
    (op.effect (store.perform op).1).isSome → again.effect (later.perform again).1=none

/-- In its generation a receipted decision is the answer to every retry, which
changes nothing. -/
def ReplaysReceipts (start : PersonalStateStore) : Prop :=
  ∀(earlier : List AuthorityOperation) (op : AuthorityOperation)
    (between : List AuthorityOperation) (retry : AuthorityOperation) (answer : AuthorityAnswer),
    let store := run perform start earlier
    let later := run perform (store.perform op).2 between
    (store.perform op).1.recorded=some answer → retry.Retries op → retry.Distinguished op →
    later.counters.authorityGeneration=store.counters.authorityGeneration →
    later.perform retry=(answer,later)

/-- Within a generation, commits are numbered upwards and no two rows share a number. -/
def NumbersInOrder (start : PersonalStateStore) : Prop :=
  ∀ops,(commitLog start ops).Pairwise (fun a b => a.1=b.1 → a.2<b.2) ∧
    ∀(a b : SectionKey) (rowA rowB : DesiredWatchRow),(run perform start ops).watches[a]?=some rowA →
      (run perform start ops).watches[b]?=some rowB → rowA.revision=rowB.revision → a=b

/-- Within a generation, the epoch of a row changes exactly with its desired value. -/
def EpochFollowsDesired (start : PersonalStateStore) : Prop :=
  ∀(ops : List AuthorityOperation) (op : AuthorityOperation) (sectionKey : SectionKey)
    (before after : DesiredWatchRow),
    let store := run perform start ops
    (store.perform op).2.counters.authorityGeneration=store.counters.authorityGeneration →
    store.watches[sectionKey]?=some before →
    (store.perform op).2.watches[sectionKey]?=some after →
    (after.materializationEpoch≠before.materializationEpoch ↔ after.desired≠before.desired)

/-- What was not carried out left rows and counters alone, and at most its own receipt. -/
def RefusalsKeep (start : PersonalStateStore) : Prop :=
  ∀(ops : List AuthorityOperation) (op : AuthorityOperation),
    let store := run perform start ops
    let after := (store.perform op).2
    op.effect (store.perform op).1=none → (store.perform op).1.renews=false →
    after.watches=store.watches ∧ after.counters=store.counters ∧
      after.stateRevision=store.stateRevision ∧
      (after=store ∨ ∃key entry,op.key=some key ∧ store.ledger key=none ∧
        after=store.record key entry)

variable {start : PersonalStateStore}

theorem noLostUpdate (sound : start.Sound) : NoLostUpdate start := by
  intro earlier between op items cmd member read store effect gen based
  obtain ⟨key,entry,middle,files,applies,-,-⟩ := (store.perform_happens op).took_effect effect
  have soundRead : read.Sound := run_sound sound earlier
  have current : store.counters.authorityGeneration=read.counters.authorityGeneration := by
    rw [files.keyed] at gen
    rw [← files.current]
    exact Option.some.inj gen
  have revision := (applies.based cmd member).symm.trans based
  have quiet := (stamped cmd.sectionKey).unwritten soundRead between (by
    unfold stamp
    rw [current,revision])
  exact ⟨quiet,run_unwritten quiet⟩

theorem takesEffectOnce (start : PersonalStateStore) : TakesEffectOnce start := by
  intro earlier op between again key keyed keyedAgain store later effect
  obtain ⟨items,effect⟩ := Option.isSome_iff_exists.mp effect
  obtain ⟨filed,entry,middle,files,applies,-,left⟩ := (store.perform_happens op).took_effect effect
  obtain rfl : filed=key := Option.some.inj (files.keyed.symm.trans keyed)
  obtain ⟨receipts,brs,-,gen⟩ := applies.wrote.keeps
  have held : (store.perform op).2.ledger filed=some entry := by
    rw [left,ledger_record _ ((ledger_congr receipts brs _).trans files.free),if_pos rfl]
  by_contra twice
  obtain ⟨others,twice⟩ := Option.ne_none_iff_exists'.mp twice
  obtain ⟨second,_,_,refiles,-,-,-⟩ := (later.perform_happens again).took_effect twice
  obtain rfl : second=filed := Option.some.inj (refiles.keyed.symm.trans keyedAgain)
  have same : later.counters.authorityGeneration=
      (store.perform op).2.counters.authorityGeneration := by
    rw [← refiles.current,files.current,left,record_counters,gen]
  have still := run_keeps_receipt held between same
  rw [refiles.free] at still
  cases still

theorem replaysReceipts (sound : start.Sound) : ReplaysReceipts start := by
  intro earlier op between retry answer store later recorded retries apart same
  obtain ⟨key,entry,files,rfl,held,gen⟩ := (store.perform_happens op).left_receipt recorded
  have soundLater : later.Sound :=
    run_sound ((store.perform_happens op).sound (run_sound sound earlier)) between
  obtain ⟨keyed,names,wellFormed⟩ := retries.names apart files.names files.wellFormed
  have still := run_keeps_receipt held between (same.trans gen.symm)
  exact perform_replays soundLater (keyed.trans files.keyed) (files.current.trans same.symm) still
    names wellFormed

theorem numbersInOrder (sound : start.Sound) : NumbersInOrder start := by
  intro ops
  refine ⟨commitLog_increasing start ops,?_⟩
  intro a b rowA rowB ha hb same
  exact (run_sound sound ops).rows.distinct ha hb same

theorem epochFollowsDesired (sound : start.Sound) : EpochFollowsDesired start := by
  intro ops op sk before after store same old new
  have soundStore : store.Sound := run_sound sound ops
  by_cases written : Written sk store op
  · have happens := store.perform_happens op
    rcases written with renewed | ⟨items,effect,named⟩
    · generalize (store.perform op).1=answer at happens renewed
      generalize (store.perform op).2=left at happens same
      cases happens with
      | kept _ unchanged =>
        rw [unchanged] at renewed
        cases renewed
      | @refused _ _ entry | @committed _ _ entry =>
        rw [entry.renews_reply] at renewed
        cases renewed
      | rotated | cleared => omega
    · obtain ⟨key,entry,middle,files,applies,-,left⟩ := happens.took_effect effect
      rw [applies.wrote.sections] at named
      obtain ⟨row,held,-,changes⟩ := applies.wrote.named soundStore.rows applies.distinct named
      rw [left,record_watches,held] at new
      cases new
      exact changes before old
  · rw [(unwritten_row written).1,old] at new
    cases new
    simp

theorem refusalsKeep (start : PersonalStateStore) : RefusalsKeep start := by
  intro ops op store after effect renewal
  have happens := store.perform_happens op
  change store.Happens op _ after at happens
  generalize (store.perform op).1=answer at happens effect renewal
  generalize after=left at happens
  cases happens with
  | kept => exact ⟨rfl,rfl,rfl,.inl rfl⟩
  | @refused _ key en files =>
    exact ⟨by simp,by simp,by simp,.inr ⟨key,en,files.keyed,files.free,rfl⟩⟩
  | committed _ writes =>
    rw [writes] at effect
    cases effect
  | rotated | cleared => cases renewal

omit [Sha256Bytes] in
theorem opened_sound (rev : Nat) (intents : ExtTreeMap SectionKey WatchPolicyV1) :
    (opened rev intents).Sound := by
  refine ⟨numbered_rows rfl rfl rfl,?_,fun _ => .inl (by simp [opened])⟩
  intro key en held
  rw [ledger_empty rfl rfl] at held
  cases held

omit [Sha256Bytes] in
theorem opened_bounded (rev : Nat) {intents : ExtTreeMap SectionKey WatchPolicyV1}
    (few : intents.size ≤ maxDesiredWatches) : (opened rev intents).Bounded := by
  have rows : (opened rev intents).watches=numbered intents some := rfl
  refine ⟨?_,?_,by simp [desiredWatchBudget,opened]⟩
  · apply (countValues_le_size _ _).trans
    rw [rows,numbered,ExtTreeMap.size_map]
    exact few
  have none : (opened rev intents).desiredWatchBudget.tombstones=
      countValues intents (fun _ => false) := by
    change countValues (numbered intents some) _=_
    exact countValues_map _ _ _ _ (fun _ _ => rfl)
  have empty : countValues intents (fun _ => false)=0 := by
    unfold countValues
    rw [ExtTreeMap.filter_eq_empty_iff.mpr] <;> simp
  rw [none,empty]
  exact Nat.zero_le _

/-- Compare-and-swap over whole runs of the personal store, from a new or migrated file:
rotations, resets and refusals included. -/
theorem desired_watch_authority (stateRevision : Nat)
    (intents : ExtTreeMap SectionKey WatchPolicyV1) :
    NoLostUpdate (opened stateRevision intents) ∧ TakesEffectOnce (opened stateRevision intents) ∧
      ReplaysReceipts (opened stateRevision intents) ∧
      NumbersInOrder (opened stateRevision intents) ∧
      EpochFollowsDesired (opened stateRevision intents) ∧
      (intents.size ≤ maxDesiredWatches →
        ∀ops,(run perform (opened stateRevision intents) ops).Bounded) ∧
      RefusalsKeep (opened stateRevision intents) := by
  have sound := opened_sound stateRevision intents
  refine ⟨noLostUpdate sound,takesEffectOnce _,replaysReceipts sound,numbersInOrder sound,
    epochFollowsDesired sound,?_,refusalsKeep _⟩
  intro few ops
  exact run_invariant Bounded (opened_bounded stateRevision few) ops
    (fun store op _ bounded => (store.perform_happens op).bounded bounded)

/-- After any run no two rows have one revision, none is above its counter, and each receipt is of
the current generation and in one ledger. -/
theorem rows_and_receipts_sound (stateRevision : Nat)
    (intents : ExtTreeMap SectionKey WatchPolicyV1) (operations : List AuthorityOperation) :
    (run perform (opened stateRevision intents) operations).Sound :=
  run_sound (opened_sound stateRevision intents) operations

end PersonalStateStore

end CoursePlanner.Personal
