import CoursePlanner.Storage.Operations

set_option maxRecDepth 8000

namespace CoursePlanner.Storage

open Std Library Contracts Database
open Open (Sha256 plainSha256)
open Relation (ReflTransGen)

/-- The counters of a key against its attempts in flight. -/
def Balanced (counters : Option OpenAttemptCounters) (inFlight : Nat) : Prop :=
  (counters.getD .zero).attempted=
      (counters.getD .zero).succeeded+(counters.getD .zero).failed+inFlight ∧
    (counters.getD .zero).empty ≤ (counters.getD .zero).succeeded+(counters.getD .zero).failed

section Keyed

variable {K : Type} [DecidableEq K]

def inFlight (key : OpenAttempt → K) (rows : List OpenAttempt) (k : K) : Nat :=
  rows.countP (fun row => row.classification=.started ∧ key row=k)

theorem inFlight_snoc (key : OpenAttempt → K) (rows : List OpenAttempt) (row : OpenAttempt)
    (k : K) : inFlight key (rows++[row]) k=inFlight key rows k+
      if row.classification=.started ∧ key row=k then 1 else 0 := by
  unfold inFlight
  simp

variable {rows : List OpenAttempt}

theorem inFlight_settled (key : OpenAttempt → K) (settled : ∀row∈rows,row.classification≠.started)
    (k : K) : inFlight key rows k=0 := by
  unfold inFlight
  rw [List.countP_eq_zero]
  intro row member
  simp [settled row member]

variable [Ord K] [TransOrd K]

/-- Counters that are kept by some column of the attempts. -/
def Ledger (key : OpenAttempt → K) (counters : ExtTreeMap K OpenAttemptCounters)
    (rows : List OpenAttempt) : Prop :=
  ∀k,Balanced counters[k]? (inFlight key rows k)

variable {key : OpenAttempt → K} {cts : ExtTreeMap K OpenAttemptCounters}

/-- Deleting rows that are not in flight changes no count. -/
theorem Ledger.pruned (h : Ledger key cts rows) {keep : OpenAttempt → Bool}
    (kept : ∀row∈rows,row.classification=.started → keep row=true) :
    Ledger key cts (rows.filter keep) := by
  intro k
  have same : inFlight key (rows.filter keep) k=inFlight key rows k := by
    unfold inFlight
    rw [List.countP_filter]
    apply List.countP_congr
    intro row member
    by_cases started : row.classification=.started
    · simp [kept row member started]
    · simp [started]
  rw [same]
  exact h k

theorem Ledger.known (h : Ledger key cts rows) {row : OpenAttempt} (listed : row∈rows)
    (started : row.classification=.started) : ∃held,cts[key row]?=some held := by
  apply Option.ne_none_iff_exists'.mp
  intro none
  have balanced := (h (key row)).1
  have counted : 0 < inFlight key rows (key row) :=
    List.countP_pos_iff.mpr ⟨row,listed,by simp [started]⟩
  rw [none] at balanced
  simp only [Option.getD_none,OpenAttemptCounters.zero] at balanced
  omega

variable [LawfulEqOrd K]

theorem Ledger.inserted (h : Ledger key cts rows) (row : OpenAttempt)
    (started : row.classification=.started) :
    Ledger key (cts.insert (key row) ((cts[key row]?.getD .zero).add ⟨1,0,0,0⟩))
      (rows++[row]) := by
  intro k
  have bef := h k
  rw [getElem?_insert_eq,inFlight_snoc]
  unfold Balanced at bef ⊢
  by_cases same : key row=k
  · subst same
    simp only [started,if_true,true_and,Option.getD_some,OpenAttemptCounters.add]
    omega
  · simp only [same,and_false]
    exact bef

/-- A finish counts the one attempt that was in flight. -/
theorem Ledger.finished {past : List OpenAttempt} {last ended : OpenAttempt}
    (h : Ledger key cts (past++[last]))
    (settled : ∀row∈past,row.classification≠.started)
    (started : last.classification=.started) (terminal : ended.classification≠.started)
    {held : OpenAttemptCounters} (known : cts[key last]?=some held)
    (succeeded empty : Bool) :
    Ledger key (cts.insert (key last)
      (held.add (TargetTables.finalCounters succeeded empty))) (past++[ended]) := by
  intro k
  have bef := h k
  rw [inFlight_snoc,inFlight_settled key settled] at bef
  rw [getElem?_insert_eq,inFlight_snoc,inFlight_settled key settled]
  unfold Balanced at bef ⊢
  by_cases same : key last=k
  · subst same
    rw [known] at bef
    simp only [started,terminal,if_true,if_false,false_and,and_self,Option.getD_some,
      OpenAttemptCounters.add,TargetTables.finalCounters] at bef ⊢
    cases succeeded <;> cases empty <;>
      simp only [Bool.toNat_false,Bool.toNat_true,Bool.not_false,Bool.not_true] <;> omega
  · simp only [same,terminal,and_false] at bef ⊢
    exact bef

end Keyed

/-- The counters of a target are balanced by day and by run. -/
structure TargetTables.Counted (tables : TargetTables) : Prop where
  daily : Ledger OpenAttempt.rutgersDay tables.dailyCounters tables.attempts
  run : Ledger OpenAttempt.runId tables.runCounters tables.attempts

/-- The rows of a target after writes: sequences and versions only grow, and every row is
one of before or a newer one. -/
structure TargetTables.Follows (before after : TargetTables) : Prop where
  sequence : before.lastSequence ≤ after.lastSequence
  version : before.catalog.currentContentVersion ≤ after.catalog.currentContentVersion
  row : ∀row∈after.attempts,(∃old∈before.attempts,row.SameStart old) ∨
    before.lastSequence < row.attemptSequence

theorem TargetTables.Follows.refl (tables : TargetTables) : tables.Follows tables :=
  ⟨Nat.le_refl _,Nat.le_refl _,fun row listed => .inl ⟨row,listed,.refl row⟩⟩

theorem TargetTables.Follows.trans {bef middle after : TargetTables}
    (h : bef.Follows middle) (g : middle.Follows after) : bef.Follows after where
  sequence := Nat.le_trans h.sequence g.sequence
  version := Nat.le_trans h.version g.version
  row := by
    intro row listed
    rcases g.row row listed with ⟨earlier,mem,same⟩ | newer
    · rcases h.row earlier mem with ⟨old,mem,first⟩ | newer
      · exact .inl ⟨old,mem,same.trans first⟩
      · rw [← same.attemptSequence] at newer
        exact .inr newer
    · exact .inr (Nat.lt_of_le_of_lt h.sequence newer)

section Writes

variable [Sha256] {pol : WritePolicy} {scope : WriteScope} {bef after : TargetTables}

theorem TargetWrite.follows (write : TargetWrite pol scope bef after) : bef.Follows after where
  sequence := by
    cases write with
    | inserted => exact Nat.le_succ _
    | retired _ _ _ _ _ _ _ _ _ _ _ held _ _ counted
    | applied _ _ _ _ _ _ _ _ _ _ _ _ _ _ held _ _ _ _ _ counted =>
      obtain ⟨daily,run,-,-,rfl⟩ := TargetTables.incrementFinalCounters_ok counted
      unfold TargetTables.lastSequence
      rw [held]
      exact Nat.le_refl _
    | pruned | published => exact Nat.le_refl _
  version := by
    rcases write.catalog with same | newer
    · rw [same]
    · exact Nat.le_of_lt newer
  row := by
    intro row mem
    rcases write.rows row mem with old | ⟨cmd,cand,secs,rfl,-,-⟩
    · exact .inl old
    · exact .inr (Nat.lt_succ_self _)

theorem TargetTables.Counted.finished (h : bef.Counted)
    (consistent : bef.Consistent pol) {batch : OpenBatchState} {att : OpenAttempt}
    (held : bef.batch=some batch) (listed : att∈bef.attempts)
    (started : att.classification=.started) (update : OpenAttempt → OpenAttempt)
    (terminal : (update att).classification≠.started) {middle : TargetTables}
    (rows : middle.attempts=(bef.updateStarted att.attemptId update).attempts)
    (daily : middle.dailyCounters=bef.dailyCounters)
    (runs : middle.runCounters=bef.runCounters) {succeeded empty : Bool}
    (counted : middle.incrementFinalCounters att.runId att.rutgersDay succeeded empty=
      .ok after) : after.Counted := by
  obtain ⟨past,last,filled⟩ := consistent.filled batch held
  obtain ⟨rfl,updated⟩ := updateStarted_last filled.rows filled.settled listed started update
  obtain ⟨days,counts,hdays,hcounts,rfl⟩ := incrementFinalCounters_ok counted
  rw [updated] at rows
  rw [daily] at hdays
  rw [runs] at hcounts
  obtain ⟨byDay,byRun⟩ := h
  rw [filled.rows] at byDay byRun
  constructor
  · change Ledger _ (middle.dailyCounters.insert _ _) middle.attempts
    rw [rows,daily]
    exact byDay.finished filled.settled started terminal hdays succeeded empty
  · change Ledger _ (middle.runCounters.insert _ _) middle.attempts
    rw [rows,runs]
    exact byRun.finished filled.settled started terminal hcounts succeeded empty

theorem TargetWrite.counted (write : TargetWrite pol scope bef after)
    (consistent : bef.Consistent pol) (h : bef.Counted) : after.Counted := by
  cases write with
  | inserted cmd cand secs =>
    exact ⟨h.daily.inserted (startedAttempt cmd (bef.lastSequence+1) cand secs)
      rfl,h.run.inserted (startedAttempt cmd (bef.lastSequence+1) cand secs) rfl⟩
  | retired _ att retire _ _ _ _ _ _ listed started held retires _ counted =>
    refine h.finished consistent held listed started retire (retires.terminal att) ?_ ?_ ?_ counted
    · rfl
    · rfl
    · rfl
  | applied _ att cmd classification _ _ _ _ _ _ _ _ listed started held success _ _ obs observed counted =>
    have terminal : (appliedAttempt att cmd.completedAt cmd.http
        cmd.gateCatalogSetIdentity obs).classification≠.started := by
      rw [observed]
      rintro rfl
      cases success
    refine h.finished consistent held listed started (fun att => appliedAttempt att
      cmd.completedAt cmd.http cmd.gateCatalogSetIdentity obs) terminal
      ?_ ?_ ?_ counted
    · rfl
    · rfl
    · rfl
  | pruned retainRecent pruneLimit positive retains =>
    have kept : ∀row∈bef.attempts,row.classification=.started →
        bef.keeps retainRecent pruneLimit row=true := by
      intro row listed started
      by_contra gone
      exact (consistent.pruned_row listed (Bool.eq_false_iff.mpr gone)).1 started
    exact ⟨h.daily.pruned kept,h.run.pruned kept⟩
  | published cat newer => exact ⟨h.daily,h.run⟩

theorem writes_follows (writes : ReflTransGen (TargetWrite pol scope) bef after) :
    bef.Follows after := by
  induction writes with
  | refl => exact .refl bef
  | tail _ write ih => exact ih.trans write.follows

theorem writes_counted (writes : ReflTransGen (TargetWrite pol scope) bef after)
    (consistent : bef.Consistent pol) (h : bef.Counted) : after.Counted := by
  induction writes with
  | refl => exact h
  | tail writes write ih => exact write.counted (writes_consistent writes consistent) ih

end Writes

def WritePolicy.any : WritePolicy := ⟨fun _ _ => True,fun _ => True⟩

def StorageScope.all : StorageScope :=
  ⟨fun _ => ⟨fun _ => True,fun _ => True,fun _ => True,0⟩,fun _ => True⟩

/-- The row of an attempt after a restart. -/
def OpenAttempt.restarted (attempt : OpenAttempt) (now : Timestamp) : OpenAttempt :=
  if attempt.classification=.started then attempt.interrupt now else attempt

theorem Database.foldlM_recovered {now : Timestamp} (recovered : TermCampusKey → TargetTables)
    (es : List (TermCampusKey × TargetTables))
    (h : ∀en∈es,en.2.recoverInterrupted now=.ok (recovered en.1)) (db : Database) :
    ∃after,es.foldlM (fun db (target,tables) => do
        let tables ← tables.recoverInterrupted now
        pure (db.setTables target tables)) db=.ok after ∧ after.staged=db.staged ∧
      ∀t,after.tables t=if t∈es.map Prod.fst then recovered t else db.tables t := by
  induction es generalizing db with
  | nil => exact ⟨db,rfl,rfl,fun _ => rfl⟩
  | cons en es ih =>
    obtain ⟨first,rest⟩ := List.forall_mem_cons.mp h
    obtain ⟨after,done,staged,each⟩ := ih rest (db.setTables en.1 (recovered en.1))
    refine ⟨after,bind_ok.mpr ⟨_,bind_ok.mpr ⟨_,first,rfl⟩,done⟩,staged,?_⟩
    intro t
    rw [each,tables_setTables]
    by_cases same : en.1=t
    · simp [same]
    · simp only [same,Ne.symm same,List.map_cons,List.mem_cons,false_or,if_false]

section Runs

variable [Sha256] {db : Database}

omit [Sha256] in
theorem StorageOperation.keeps_any (op : StorageOperation) : op.Keeps .any := by
  cases op with
  | finishSuccess | finishCandidateSuccess => exact ⟨trivial,fun _ => trivial⟩
  | _ => trivial

theorem StorageOperation.allowed_all (db : Database) (op : StorageOperation) :
    op.Allowed .any .all db :=
  op.keeps_any.allowed ⟨fun _ => trivial,fun _ _ => trivial,fun _ _ => trivial,
    fun _ => Nat.zero_le _⟩ (fun _ _ _ => trivial)

theorem Database.consistent_any (ops : List StorageOperation) :
    (run perform Database.new ops).Consistent .any :=
  consistent_run ops (fun op _ => op.keeps_any)

/-- A run from a consistent state writes to the rows of every target. -/
theorem Database.run_evolves (consistent : db.Consistent .any) (ops : List StorageOperation) :
    db.Evolves .any .all (run perform db ops) := by
  induction ops generalizing db with
  | nil => exact .refl _ _ db
  | cons op ops ih =>
    have first := Database.perform_evolves (op.allowed_all db) consistent.tables
    exact first.trans (ih (consistent.perform op.keeps_any))

theorem Database.counted_run (ops : List StorageOperation) (t : TermCampusKey) :
    ((run perform Database.new ops).tables t).Counted := by
  have evolves := Database.run_evolves (.new .any) ops
  refine writes_counted (evolves.tables t) ((Database.Consistent.new .any).tables t) ?_
  constructor
  · intro day
    exact ⟨rfl,Nat.le_refl 0⟩
  · intro run
    exact ⟨rfl,Nat.le_refl 0⟩

variable {cmd : BeginOpenPullAttemptCommand} {sequence : Nat} {t : TermCampusKey}
    {after later : Database} {cand : Option CatalogCandidateOpenSnapshot} {row : OpenAttempt}

omit [Sha256] in
theorem Database.begin_row
    (done : db.beginOpenPullAttemptWithCatalog cmd cand=.ok (sequence,after)) :
    ∃row∈(after.tables cmd.target).attempts,row.attemptSequence=sequence ∧
      row.begunBy cmd.target cmd cand ∧ row.attemptId=cmd.attemptId := by
  rcases begin_cases done with ⟨t,tb,row,found,same,rfl,rfl⟩ | ⟨secs,tb,begun,rfl,rfl⟩
  · obtain ⟨held,listed,named⟩ := findAttempt_some found
    have target := same.1
    subst t
    rw [tables_eq held]
    exact ⟨row,listed,rfl,same,named⟩
  · rw [tables_setTables,if_pos rfl]
    refine ⟨startedAttempt cmd _ cand secs,
      List.mem_append_right _ (List.mem_singleton_self _),rfl,?_,rfl⟩
    exact ⟨rfl,rfl,rfl,rfl,rfl,rfl,rfl,rfl,rfl,rfl,rfl⟩

omit [Sha256] in
theorem OpenAttempt.SameStart.begunBy {old : OpenAttempt} (h : row.SameStart old)
    (same : old.begunBy t cmd cand) : row.begunBy t cmd cand := by
  obtain ⟨a,b,c,d,e,f,g,i,j,k,l⟩ := same
  exact ⟨a,h.runId.trans b,h.rutgersDay.trans c,h.captured.trans d,h.startedAt.trans e,
    h.lane.trans f,h.requested.trans g,h.interval.trans i,h.lag.trans j,h.candidate.trans k,
    h.base.trans l⟩

/-- The Catalog that an attempt captured is still there: a serving begin needs one that is
published, a candidate one that is still staged for the version that it is based on. -/
def Database.Offers (db : Database) (target : TermCampusKey) :
    Option CatalogCandidateOpenSnapshot → Prop
  | none => True
  | some candidate => candidate.observationId∈db.staged ∧
    (db.tables target).catalog.currentContentVersion=candidate.baseContentVersion

/-- The counters of an attempt in flight exist, so a restart of its target cannot fail. -/
theorem TargetTables.Consistent.recoverInterrupted_total {tables : TargetTables} {pol : WritePolicy}
    (consistent : tables.Consistent pol) (counted : tables.Counted) (now : Timestamp) :
    ∃after,tables.recoverInterrupted now=.ok after ∧
      after.attempts=tables.attempts.map (·.restarted now) := by
  unfold TargetTables.recoverInterrupted
  rw [TargetTables.oldestFirst_eq consistent.ordered]
  cases held : tables.batch with
  | none =>
    rw [(consistent.blank held).1]
    exact ⟨tables,rfl,(consistent.blank held).1⟩
  | some batch =>
    obtain ⟨past,last,filled⟩ := consistent.filled batch held
    have idle : past.filter (fun attempt => attempt.classification=.started)=[] := by
      simpa [List.filter_eq_nil_iff] using filled.settled
    have kept : past.map (·.restarted now)=past :=
      (List.map_congr_left (fun row mem => if_neg (filled.settled row mem))).trans (List.map_id _)
    have listed : last∈tables.attempts := by simp [filled.rows]
    rw [filled.rows,List.map_append,kept,List.filter_append,idle,List.nil_append]
    by_cases started : last.classification=.started
    · obtain ⟨daily,hd⟩ := counted.daily.known listed started
      obtain ⟨run,hr⟩ := counted.run.known listed started
      have ended : ∃after,tables.interruptAttempt now last=.ok after ∧ after.attempts=
          (tables.updateStarted last.attemptId (·.interrupt now)).attempts := by
        unfold TargetTables.interruptAttempt incrementFinalCounters TargetTables.updateStarted
        simp only [hd,hr,required]
        exact ⟨_,rfl,rfl⟩
      obtain ⟨after,ended,rows⟩ := ended
      rw [(updateStarted_last filled.rows filled.settled listed started _).2] at rows
      simp only [started,List.filter_singleton,decide_true,cond_true]
      exact ⟨after,by simp [ended],by simpa [OpenAttempt.restarted,started] using rows⟩
    · simp only [started,List.filter_singleton,decide_false,cond_false]
      exact ⟨tables,rfl,by simpa [OpenAttempt.restarted,started] using filled.rows⟩

/-- Recovery after a crash succeeds from every state that operations reach: what was staged is
dropped, what was in flight is interrupted, and every other attempt stays as it is. -/
theorem Database.restart_settles (operations : List StorageOperation) (now : Timestamp) :
    let db := run perform Database.new operations
    ∃after,db.recoverInterrupted now=.ok after ∧ after.staged=∅ ∧
      ∀target,(after.tables target).attempts=
        (db.tables target).attempts.map (·.restarted now) := by
  intro db
  choose recovered ok rows using fun t => ((consistent_any operations).tables
    t).recoverInterrupted_total (counted_run operations t) now
  have entries : ∀en∈db.targets.toList,en.2.recoverInterrupted now=.ok (recovered en.1) := by
    intro en mem
    rw [← ok,← tables_eq (ExtTreeMap.mem_toList_iff_getElem?_eq_some.mp mem)]
  obtain ⟨after,done,staged,each⟩ := foldlM_recovered recovered _ entries db.forgetStaged
  refine ⟨after,done,staged,?_⟩
  intro target
  rw [each]
  split
  · exact rows target
  · next missing =>
    rw [ExtTreeMap.map_fst_toList_eq_keys,ExtTreeMap.mem_keys] at missing
    have empty : db.tables target=.new := by
      unfold Database.tables
      rw [ExtTreeMap.getElem?_eq_none missing]
      rfl
    change (db.tables target).attempts=_
    rw [empty]
    rfl

/-- Whatever was pruned, the current rows of a target are those of one recorded success, and they
cover the Catalog of that attempt. -/
theorem Database.current_rows_recorded (operations : List StorageOperation)
    (target : TermCampusKey) :
    let tables := (run perform Database.new operations).tables target
    tables.current=∅ ∨ ∃row∈tables.attempts,∃observation,row.classification.isSuccess=true ∧
      row.observation=some observation ∧ (∀index,index∈tables.current ↔ index∈row.catalogSections) ∧
      ∀(index : SectionIndex) entry,tables.current[index]?=some entry →
        entry=sectionCurrent observation entry.state := by
  intro tables
  have consistent : tables.Consistent .any := (consistent_any operations).tables target
  cases held : tables.batch with
  | none => exact .inl (consistent.blank held).2
  | some batch =>
    obtain ⟨past,last,filled⟩ := consistent.filled batch held
    rcases filled.good with never | ⟨row,observation,good⟩
    · exact .inl never.current
    · exact .inr ⟨row,good.listed,observation,good.success,good.observed,good.covers,good.current⟩

end Runs

section Closed

local instance ledgerSha256 : Sha256 := plainSha256

end Closed

end CoursePlanner.Storage
