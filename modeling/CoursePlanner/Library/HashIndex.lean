import Mathlib

namespace CoursePlanner.Library

open Std

/-- The positions whose keys have one hash. A bucket of one is kept without a list. -/
inductive IndexBucket (n : Nat) where
  | one (position : Fin n)
  | many (positions : List (Fin n))

variable {n : Nat} {K : Type} [DecidableEq K]

def IndexBucket.positions : IndexBucket n → List (Fin n)
  | one position => [position]
  | many positions => positions

abbrev HashIndex (n : Nat) := ExtTreeMap Nat (IndexBucket n)

def insertIndexBucket (buckets : HashIndex n) (hash : Nat) (position : Fin n) : HashIndex n :=
  match buckets[hash]? with
  | none => buckets.insert hash (.one position)
  | some (.one first) => buckets.insert hash (.many [first,position])
  | some (.many positions) => buckets.insert hash (.many (positions++[position]))

def buildIndex (keys : Fin n → K) (hash : K → Nat) : HashIndex n :=
  (List.finRange n).foldl (fun buckets position =>
    insertIndexBucket buckets (hash (keys position)) position) ∅

def positionsAt (buckets : HashIndex n) (hash : Nat) : List (Fin n) :=
  (buckets[hash]?.map IndexBucket.positions).getD []

/-- An index that refuses a key it has seen, found in the bucket of its hash. -/
def buildDistinctIndex {Err : Type} (keys : Fin n → K) (hash : K → Nat) (duplicate : Err) :
    Except Err (HashIndex n) :=
  (List.finRange n).foldlM (fun buckets position =>
    if (positionsAt buckets (hash (keys position))).any (fun existing =>
        keys existing=keys position) then .error duplicate
    else .ok (insertIndexBucket buckets (hash (keys position)) position)) ∅

/-- A hit on the hash is confirmed by the key itself. -/
def lookupIndex (buckets : HashIndex n) (keys : Fin n → K) (hash : K → Nat) (key : K) :
    Option (Fin n) :=
  match buckets[hash key]? with
  | none => none
  | some (.one position) => if keys position=key then some position else none
  | some (.many positions) => positions.find? (fun position => keys position=key)

theorem positionsAt_insert (bks : HashIndex n) (hash other : Nat) (pos : Fin n) :
    positionsAt (insertIndexBucket bks hash pos) other=
      positionsAt bks other++(if hash=other then [pos] else []) := by
  have placed : ∀bucket : IndexBucket n,bucket.positions=positionsAt bks hash++[pos] →
      positionsAt (bks.insert hash bucket) other=
        positionsAt bks other++(if hash=other then [pos] else []) := by
    intro bucket filled
    by_cases here : hash=other
    · subst here
      simp [positionsAt,filled]
    · have apart : compare hash other≠.eq := by simpa using here
      simp [positionsAt,ExtTreeMap.getElem?_insert,here]
  unfold insertIndexBucket
  split
  · next held =>
    apply placed
    simp [positionsAt,held,IndexBucket.positions]
  · next first held =>
    apply placed
    simp [positionsAt,held,IndexBucket.positions]
  · next positions held =>
    apply placed
    simp [positionsAt,held,IndexBucket.positions]

omit [DecidableEq K] in
theorem positionsAt_foldl (keys : Fin n → K) (hash : K → Nat) (positions : List (Fin n))
    (bks : HashIndex n) (other : Nat) :
    positionsAt (positions.foldl (fun bks pos =>
        insertIndexBucket bks (hash (keys pos)) pos) bks) other=
      positionsAt bks other++positions.filter (fun pos => hash (keys pos)=other) := by
  induction positions generalizing bks with
  | nil => simp
  | cons pos positions ih =>
    rw [List.foldl_cons,ih,positionsAt_insert,List.append_assoc]
    by_cases here : hash (keys pos)=other <;> simp [here]

theorem lookupIndex_eq (bks : HashIndex n) (keys : Fin n → K) (hash : K → Nat) (key : K) :
    lookupIndex bks keys hash key=
      (positionsAt bks (hash key)).find? (fun pos => keys pos=key) := by
  unfold lookupIndex positionsAt
  cases bks[hash key]? with
  | none => rfl
  | some bucket =>
    cases bucket with
    | many positions => rfl
    | one pos =>
      by_cases same : keys pos=key <;> simp [IndexBucket.positions]

/-- Whatever the hash, a lookup finds the first position of the key. -/
theorem lookupIndex_buildIndex (keys : Fin n → K) (hash : K → Nat) (key : K) :
    lookupIndex (buildIndex keys hash) keys hash key=
      (List.finRange n).find? (fun pos => keys pos=key) := by
  rw [lookupIndex_eq,buildIndex,positionsAt_foldl]
  have empty : positionsAt (∅ : HashIndex n) (hash key)=[] := by simp [positionsAt]
  rw [empty,List.nil_append,List.find?_filter]
  congr 1
  funext pos
  by_cases same : keys pos=key <;> simp [same]

/-- The index is the plain one, and no key was refused. -/
theorem buildDistinctIndex_ok {Err : Type} {keys : Fin n → K} {hash : K → Nat} {duplicate : Err}
    {index : HashIndex n} (h : buildDistinctIndex keys hash duplicate=.ok index) :
    index=buildIndex keys hash ∧ ((List.finRange n).map keys).Nodup := by
  -- The bks hold the positions passed, each under the hash of its key.
  have passed : ∀(positions before : List (Fin n)) (bks : HashIndex n),
      (∀other,positionsAt bks other= before.filter (fun pos => hash (keys pos)=other)) →
      (before.map keys).Nodup →
      positions.foldlM (fun bks pos =>
        if (positionsAt bks (hash (keys pos))).any (fun existing =>
            keys existing=keys pos) then Except.error duplicate
        else .ok (insertIndexBucket bks (hash (keys pos)) pos)) bks=.ok index →
      index=positions.foldl (fun bks pos =>
        insertIndexBucket bks (hash (keys pos)) pos) bks ∧
        ((before++positions).map keys).Nodup := by
    intro positions
    induction positions with
    | nil =>
      intro before bks _ distinct done
      cases done
      rw [List.append_nil]
      exact ⟨rfl,distinct⟩
    | cons pos positions ih =>
      intro before bks held distinct done
      rw [List.foldlM_cons] at done
      by_cases seen : (positionsAt bks (hash (keys pos))).any (fun existing =>
          keys existing=keys pos)=true
      · rw [if_pos seen] at done
        exact nomatch done
      rw [if_neg seen] at done
      have fresh : keys pos∉before.map keys := by
        intro known
        obtain ⟨existing,listed,same⟩ := List.mem_map.mp known
        apply seen
        rw [held,List.any_eq_true]
        exact ⟨existing,List.mem_filter.mpr ⟨listed,by simp [same]⟩,by simp [same]⟩
      have held' : ∀other,positionsAt (insertIndexBucket bks (hash (keys pos)) pos)
          other=(before++[pos]).filter (fun pos => hash (keys pos)=other) := by
        intro other
        rw [positionsAt_insert,held]
        by_cases here : hash (keys pos)=other <;> simp [here]
      have distinct' : ((before++[pos]).map keys).Nodup := by
        rw [List.map_append,List.nodup_append]
        refine ⟨distinct,List.nodup_singleton _,?_⟩
        intro left known right single same
        rw [List.map_singleton,List.mem_singleton] at single
        exact fresh (single ▸ same ▸ known)
      have rest := ih _ _ held' distinct' done
      rw [List.append_assoc] at rest
      exact rest
  have nothing : ∀other,positionsAt (∅ : HashIndex n) other=
      ([] : List (Fin n)).filter (fun pos => hash (keys pos)=other) := by
    intro other
    simp [positionsAt]
  exact passed (List.finRange n) [] ∅ nothing List.nodup_nil h

end CoursePlanner.Library
