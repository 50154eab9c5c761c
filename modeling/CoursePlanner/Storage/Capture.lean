import CoursePlanner.Storage.Ledger

namespace CoursePlanner.Storage

open Std Library Contracts
open Open (Sha256)
open Relation (ReflTransGen)

/-- A serving attempt captured a version that is not newer than the current one, and while
it is the current one its sections are those of the Catalog. -/
def TargetTables.Captures (tables : TargetTables) : Prop :=
  ∀row∈tables.attempts,row.candidateCatalogObservationId=none →
    row.capturedCatalogContentVersion ≤ tables.catalog.currentContentVersion ∧
    (row.capturedCatalogContentVersion=tables.catalog.currentContentVersion →
      row.catalogSections=tables.catalog.sections)

section Writes

variable [Sha256] {policy : WritePolicy} {scope : WriteScope} {before after : TargetTables}

omit [Sha256] in
theorem OpenAttempt.SameStart.captures {row old : OpenAttempt} (same : row.SameStart old)
    {cat : CatalogTarget}
    (h : old.candidateCatalogObservationId=none →
      old.capturedCatalogContentVersion ≤ cat.currentContentVersion ∧
      (old.capturedCatalogContentVersion=cat.currentContentVersion →
        old.catalogSections=cat.sections)) :
    row.candidateCatalogObservationId=none →
      row.capturedCatalogContentVersion ≤ cat.currentContentVersion ∧
      (row.capturedCatalogContentVersion=cat.currentContentVersion →
        row.catalogSections=cat.sections) := by
  rw [same.candidate,same.captured,same.sections]
  exact h

theorem TargetWrite.captures (write : TargetWrite policy scope before after)
    (h : before.Captures) : after.Captures := by
  intro row mem unstaged
  have held : row.capturedCatalogContentVersion ≤ before.catalog.currentContentVersion ∧
      (row.capturedCatalogContentVersion=before.catalog.currentContentVersion →
        row.catalogSections=before.catalog.sections) := by
    rcases write.rows row mem with ⟨old,listed,same⟩ | ⟨command,cand,sections,rfl,-,serving⟩
    · exact same.captures (h old listed) unstaged
    · obtain ⟨version,copied⟩ := serving (Option.map_eq_none_iff.mp unstaged)
      exact ⟨Nat.le_of_eq version,fun _ => copied⟩
  rcases write.catalog with same | newer
  · rw [same]
    exact held
  · have apart := Nat.lt_of_le_of_lt held.1 newer
    exact ⟨Nat.le_of_lt apart,fun same => absurd same (Nat.ne_of_lt apart)⟩

theorem writes_captures (writes : ReflTransGen (TargetWrite policy scope) before after)
    (h : before.Captures) : after.Captures := by
  induction writes with
  | refl => exact h
  | tail _ write ih => exact write.captures ih

end Writes

/-- What the attempts of every target captured: a candidate attempt has the sections of the
staged Catalog that it is bound to. -/
structure Database.Captures (db : Database) : Prop where
  serving : ∀target,(db.tables target).Captures
  candidate : ∀target,∀row∈(db.tables target).attempts,∀id,
    row.candidateCatalogObservationId=some id → id∈db.observations ∧
      ∀staged,db.staged[id]?=some staged → staged.target=target ∧
        row.catalogSections=staged.sections

namespace Database

variable [Sha256] {db after : Database}

namespace Captures

omit [Sha256] in
theorem new : Database.new.Captures := by
  have blank : ∀t,Database.new.tables t=.new := by
    intro t
    unfold Database.new Database.tables
    simp
  constructor
  all_goals
    intro t row mem
    rw [blank] at mem
    cases mem

theorem evolves (h : db.Captures) (evolves : db.Evolves .any .settling after) : after.Captures := by
  refine ⟨fun t => writes_captures (evolves.tables t) (h.serving t),?_⟩
  intro t row mem id bound
  obtain ⟨old,listed,same⟩ :=
    (writes_rows (evolves.tables t) row mem).resolve_right (fun begins => begins)
  rw [same.candidate] at bound
  rw [same.sections]
  obtain ⟨known,copied⟩ := h.candidate t old listed id bound
  refine ⟨evolves.observations id known,?_⟩
  intro staged found
  rcases evolves.staged id staged found with earlier | ⟨unknown,-,-⟩
  · exact copied staged earlier
  · exact absurd known unknown

theorem begin (h : db.Captures) {command : BeginOpenPullAttemptCommand}
    {cd : Option CatalogCandidateOpenSnapshot} {sequence : Nat}
    (done : db.beginOpenPullAttemptWithCatalog command cd=.ok (sequence,after)) :
    after.Captures := by
  have evolves : db.Evolves .any .all after :=
    beginOpenPullAttemptWithCatalog_evolves trivial trivial done
  refine ⟨fun tc => writes_captures (evolves.tables tc) (h.serving tc),?_⟩
  rcases begin_cases done with ⟨_,_,_,_,_,_,rfl⟩ | ⟨sections,tables,begun,rfl,rfl⟩
  · exact h.candidate
  intro tc row mem id bound
  rw [tables_setTables] at mem
  split at mem
  · next same =>
    subst same
    rcases List.mem_append.mp mem with earlier | newest
    · apply h.candidate _ row _ id bound
      rw [tables_eq begun.held]
      exact earlier
    rw [List.mem_singleton.mp newest] at bound ⊢
    have catalog := begun.catalog
    cases cd with
    | none => cases bound
    | some cd =>
      cases bound
      unfold attemptCatalog at catalog
      simp only [bind_ok,required_ok,ensure_ok,exists_const] at catalog
      obtain ⟨staged,found,⟨tc,-⟩,catalog⟩ := catalog
      obtain ⟨-,rfl⟩ := Prod.mk.inj (pure_ok.mp catalog)
      constructor
      · exact db.known _ (mem_of_getElem? found)
      · intro other here
        change db.staged[cd.observationId]?=some other at here
        rw [found] at here
        cases here
        exact ⟨tc,rfl⟩
  · exact h.candidate tc row mem id bound

theorem perform (h : db.Captures) (consistent : db.Consistent .any)
    (op : StorageOperation) : (db.perform op).2.Captures := by
  rcases perform_begins_or_settles op.keeps_any with ⟨_,_,_,_,done⟩ | same | settles
  · exact h.begin done
  · rw [same]
    exact h
  · exact h.evolves (perform_settles consistent.tables op.keeps_any settles)

end Captures

/-- Every state that the operations reach is consistent and keeps what was captured. -/
structure Sound (db : Database) : Prop where
  consistent : db.Consistent .any
  captures : db.Captures
  counted : ∀target,(db.tables target).Counted

namespace Sound

theorem perform (h : db.Sound) (operation : StorageOperation) : (db.perform operation).2.Sound where
  consistent := h.consistent.perform operation.keeps_any
  captures := h.captures.perform h.consistent operation
  counted target :=
    writes_counted ((perform_evolves (operation.allowed_all db) h.consistent.tables).tables target)
      (h.consistent.tables target) (h.counted target)

theorem run (h : db.Sound) (ops : List StorageOperation) :
    (Library.run Database.perform db ops).Sound :=
  run_invariant Sound h ops (fun _ op _ sound => sound.perform op)

theorem new : Database.new.Sound := ⟨.new .any,.new,Database.counted_run []⟩

theorem begin (h : db.Sound) {command : BeginOpenPullAttemptCommand}
    {candidate : Option CatalogCandidateOpenSnapshot} {sequence : Nat}
    (done : db.beginOpenPullAttemptWithCatalog command candidate=.ok (sequence,after)) :
    after.Sound where
  consistent := h.consistent.begin trivial done
  captures := h.captures.begin done
  counted target := by
    have evolves : db.Evolves .any .all after :=
      beginOpenPullAttemptWithCatalog_evolves trivial trivial done
    exact writes_counted (evolves.tables target) (h.consistent.tables target) (h.counted target)

theorem committed (h : db.Sound) (op : StorageOperation) {A : Type}
    {result : StorageResult A} (project : A → Database) {answer : A}
    (performs : (db.perform op).2=(db.commit result project).2)
    (done : result=.ok answer) : (project answer).Sound := by
  have performed := h.perform op
  rw [performs,done] at performed
  exact performed

end Sound

/-- In every run an attempt keeps the sections of the Catalog that it captured. -/
theorem run_captures (operations : List StorageOperation) :
    (run perform Database.new operations).Captures :=
  (Sound.new.run operations).captures

end Database

/-- Everything but a begin of one attempt. -/
def StorageScope.sparing (attemptId : TraceId) : StorageScope :=
  ⟨fun _ => ⟨(· ≠ attemptId),fun _ => True,fun _ => True,0⟩,fun _ => True⟩

section Sparing

variable [Sha256] {db after : Database} {aid : TraceId}

theorem StorageOperation.allowed_sparing (db : Database) {op : StorageOperation}
    (spares : ¬op.Begins aid) : op.Allowed .any (.sparing aid) db := by
  refine op.keeps_any.allowed ⟨fun _ => trivial,fun _ _ => trivial,fun _ _ => trivial,
    fun _ => Nat.zero_le _⟩ ?_
  rintro _ id begins rfl
  exact spares begins

theorem Database.run_sparing (consistent : db.Consistent .any) (ops : List StorageOperation)
    (spares : ∀op∈ops,¬op.Begins aid) :
    db.Evolves .any (.sparing aid) (run Database.perform db ops) := by
  induction ops generalizing db with
  | nil => exact .refl _ _ db
  | cons op ops ih =>
    have first := Database.perform_evolves
      (op.allowed_sparing db (spares op List.mem_cons_self)) consistent.tables
    exact first.trans (ih (consistent.perform op.keeps_any)
      (fun later mem => spares later (List.mem_cons_of_mem _ mem)))

/-- The row of an attempt that was not begun again has the columns of its begin. -/
theorem Database.spared_row (consistent : db.Consistent .any)
    (evolves : db.Evolves .any (.sparing aid) after) {t other : TermCampusKey}
    {old row : OpenAttempt} (listed : old∈(db.tables t).attempts)
    (named : old.attemptId=aid) (found : row∈(after.tables other).attempts)
    (same : row.attemptId=aid) : other=t ∧ row.SameStart old := by
  rcases writes_rows (evolves.tables other) row found with ⟨first,earlier,start⟩ | begins
  · have ids : first.attemptId=old.attemptId := by
      rw [← start.attemptId,same,named]
    have owner := consistent.owned other t first earlier old listed ids
    subst owner
    have equal := (consistent.tables other).unique earlier listed ids
    rw [equal] at start
    exact ⟨rfl,start⟩
  · exact absurd same begins

end Sparing

end CoursePlanner.Storage
