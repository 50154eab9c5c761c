import Mathlib

set_option linter.unusedSectionVars false

namespace CoursePlanner.Library

open Std

variable {K V W B : Type} [Ord K] [TransOrd K] [LawfulEqOrd K]

theorem nodup_toList (keys : ExtTreeSet K) : keys.toList.Nodup := by
  refine keys.distinct_toList.imp ?_
  intro a b apart same
  exact apart (by simp [same])

/-- The map that a function has on a set of keys. -/
def tabulate (keys : ExtTreeSet K) (f : K → V) : ExtTreeMap K V :=
  ExtTreeMap.ofList (keys.toList.map (fun k => (k,f k)))

theorem getElem?_tabulate (keys : ExtTreeSet K) (f : K → V) (k : K) [Decidable (k∈keys)] :
    (tabulate keys f)[k]?=if k∈keys then some (f k) else none := by
  have distinct : (keys.toList.map (fun k => (k,f k))).Pairwise
      (fun a b => ¬compare a.1 b.1=.eq) := by
    rw [List.pairwise_map]
    exact keys.distinct_toList
  by_cases h : k∈keys
  · rw [if_pos h]
    have listed : (k,f k)∈keys.toList.map (fun k => (k,f k)) :=
      List.mem_map.mpr ⟨k,ExtTreeSet.mem_toList.mpr h,rfl⟩
    exact ExtTreeMap.getElem?_ofList_of_mem ReflCmp.compare_self distinct listed
  · rw [if_neg h]
    classical
    apply ExtTreeMap.getElem?_ofList_of_contains_eq_false
    rw [← Bool.not_eq_true,List.contains_iff_mem,List.map_map,List.mem_map]
    rintro ⟨a,member,rfl⟩
    exact h (ExtTreeSet.mem_toList.mp member)

theorem size_tabulate (keys : ExtTreeSet K) (f : K → V) : (tabulate keys f).size=keys.size := by
  have distinct : (keys.toList.map (fun k => (k,f k))).Pairwise
      (fun a b => ¬compare a.1 b.1=.eq) := by
    rw [List.pairwise_map]
    exact keys.distinct_toList
  unfold tabulate
  rw [ExtTreeMap.size_ofList distinct,List.length_map,ExtTreeSet.length_toList]

theorem map_eq_tabulate {m : ExtTreeMap K V} {keys : ExtTreeSet K}
    (same : ∀k,k∈m ↔ k∈keys) (f : K → W) : m.map (fun k _ => f k)=tabulate keys f := by
  apply ExtTreeMap.ext_getElem?
  intro k
  rw [ExtTreeMap.getElem?_map,getElem?_tabulate]
  by_cases h : k∈keys
  · obtain ⟨v,hv⟩ := Option.isSome_iff_exists.mp
      (ExtTreeMap.mem_iff_isSome_getElem?.mp ((same k).mpr h))
    rw [if_pos h,hv]
    rfl
  · rw [if_neg h,ExtTreeMap.getElem?_eq_none (mt (same k).mp h)]
    rfl

/-- The values of an ordered map in key order. -/
def orderedValues (m : ExtTreeMap K V) : List V := m.toList.map Prod.snd

theorem getElem?_insert_eq (m : ExtTreeMap K V) (k a : K) (v : V) [Decidable (k=a)] :
    (m.insert k v)[a]?=if k=a then some v else m[a]? := by
  rw [ExtTreeMap.getElem?_insert]
  by_cases h : k=a <;> simp [h]

theorem getElem?_erase_eq (m : ExtTreeMap K V) (k a : K) [Decidable (k=a)] :
    (m.erase k)[a]?=if k=a then none else m[a]? := by
  rw [ExtTreeMap.getElem?_erase]
  by_cases h : k=a <;> simp [h]

theorem of_getElem?_insert {m : ExtTreeMap K V} {k a : K} {v w : V}
    (h : (m.insert k v)[a]?=some w) : (k=a ∧ v=w) ∨ m[a]?=some w := by
  classical
  rw [getElem?_insert_eq] at h
  split at h
  · exact .inl ⟨‹_›,Option.some.inj h⟩
  · exact .inr h

theorem of_getElem?_erase {m : ExtTreeMap K V} {k a : K} {v : V}
    (h : (m.erase k)[a]?=some v) : k≠a ∧ m[a]?=some v := by
  classical
  rw [getElem?_erase_eq] at h
  split at h
  · cases h
  · exact ⟨‹_›,h⟩

theorem mem_of_getElem?_ofList {l : List (K × V)} {k : K} {v : V}
    (h : (ExtTreeMap.ofList l compare)[k]?=some v) : (k,v)∈l := by
  have inserted : ∀m : ExtTreeMap K V,(m.insertMany l)[k]?=some v → (k,v)∈l ∨ m[k]?=some v := by
    clear h
    induction l with
    | nil => exact fun m found => .inr found
    | cons entry l ih =>
      intro m found
      obtain ⟨a,w⟩ := entry
      rw [ExtTreeMap.insertMany_cons] at found
      rcases ih (m.insert a w) found with later | here
      · exact .inl (List.mem_cons_of_mem _ later)
      rcases of_getElem?_insert here with ⟨rfl,rfl⟩ | before
      · exact .inl List.mem_cons_self
      · exact .inr before
  rw [ExtTreeMap.ofList_eq_insertMany_empty] at h
  rcases inserted ∅ h with listed | nowhere
  · exact listed
  · simp at nowhere

theorem mem_ofList_iff {l : List (K × V)} {k : K} :
    k∈(ExtTreeMap.ofList l : ExtTreeMap K V) ↔ k∈l.map Prod.fst := by
  classical
  rw [ExtTreeMap.mem_ofList,List.contains_iff_mem]

section

variable (m : ExtTreeMap K V)

include m

theorem mem_iff_getElem?_ne_none (k : K) : k∈m ↔ m[k]?≠none := by
  rw [ExtTreeMap.mem_iff_isSome_getElem?]
  exact Option.isSome_iff_ne_none

omit m in
theorem mem_of_getElem? {m : ExtTreeMap K V} {k : K} {v : V} (h : m[k]?=some v) : k∈m := by
  rw [mem_iff_getElem?_ne_none,h]
  exact Option.some_ne_none v

omit m in
theorem exists_getElem? {m : ExtTreeMap K V} {k : K} (h : k∈m) : ∃v,m[k]?=some v :=
  Option.ne_none_iff_exists'.mp ((mem_iff_getElem?_ne_none m k).mp h)

/-- Taking an entry out and putting a value back is one insertion. -/
@[simp] theorem insert_erase_self (k : K) (v : V) : (m.erase k).insert k v=m.insert k v := by
  apply ExtTreeMap.ext_getElem?
  intro a
  rw [ExtTreeMap.getElem?_insert,ExtTreeMap.getElem?_insert,ExtTreeMap.getElem?_erase]
  by_cases h : k=a <;> simp [h]

theorem insert_insert_self (k : K) (v w : V) : (m.insert k v).insert k w=m.insert k w := by
  apply ExtTreeMap.ext_getElem?
  intro a
  rw [ExtTreeMap.getElem?_insert,ExtTreeMap.getElem?_insert,ExtTreeMap.getElem?_insert]
  by_cases h : k=a <;> simp [h]

theorem insert_present (k : K) (v : V) (h : m[k]?=some v) : m.insert k v=m := by
  apply ExtTreeMap.ext_getElem?
  intro a
  rw [ExtTreeMap.getElem?_insert]
  by_cases ha : k=a
  · subst a; simp [h]
  · simp [ha]

theorem mem_orderedValues (v : V) : v∈orderedValues m ↔ ∃ k : K,m[k]?=some v := by
  simp only [orderedValues,List.mem_map,Prod.exists]
  constructor
  · rintro ⟨k,w,hm,rfl⟩
    exact ⟨k,ExtTreeMap.mem_toList_iff_getElem?_eq_some.mp hm⟩
  · rintro ⟨k,hk⟩
    exact ⟨k,v,ExtTreeMap.mem_toList_iff_getElem?_eq_some.mpr hk,rfl⟩

theorem toList_split (k : K) (v : V) (h : m[k]?=some v) : ∃front rest,m.toList=front++(k,v)::rest ∧
      ∀entry∈front++rest,m[entry.1]?=some entry.2 ∧ entry.1≠k := by
  obtain ⟨front,rest,hl⟩ := List.append_of_mem (ExtTreeMap.mem_toList_iff_getElem?_eq_some.mpr h)
  have nodup : (m.toList.map Prod.fst).Nodup := by
    rw [ExtTreeMap.map_fst_toList_eq_keys]
    exact ExtTreeMap.nodup_keys
  refine ⟨front,rest,hl,?_⟩
  intro entry hm
  have listed : entry∈m.toList := by
    rw [hl]
    rcases List.mem_append.mp hm with hf | hr
    · exact List.mem_append_left _ hf
    · exact List.mem_append_right _ (List.mem_cons_of_mem _ hr)
  refine ⟨ExtTreeMap.mem_toList_iff_getElem?_eq_some.mp listed,?_⟩
  rintro rfl
  rw [hl,List.map_append,List.map_cons,List.nodup_middle,←List.map_append] at nodup
  exact (List.nodup_cons.mp nodup).1 (List.mem_map.mpr ⟨entry,hm,rfl⟩)

theorem find?_toList_some (p : K × V → Bool) (k : K) (v : V)
    (h : m.toList.find? p=some (k,v)) : m[k]?=some v ∧ p (k,v)=true :=
  ⟨ExtTreeMap.mem_toList_iff_getElem?_eq_some.mp (List.mem_of_find?_eq_some h), List.find?_some h⟩

/-- An ordered read-out of the values is the read-out of the filtered map. -/
theorem orderedValues_filterMap (g : V → Option B) :
    (orderedValues m).filterMap g=orderedValues (m.filterMap (fun _ v => g v)) := by
  rw [orderedValues,orderedValues,ExtTreeMap.toList_filterMap,List.filterMap_map,List.map_filterMap]
  apply List.filterMap_congr
  intro p _
  cases hg : g p.2 <;> simp [hg]

/-- Two maps with the same read-out at each key have the same ordered read-out. -/
theorem orderedValues_filterMap_congr (n : ExtTreeMap K W) (g : V → Option B) (f : W → Option B)
    (h : ∀ k : K,m[k]?.bind g=n[k]?.bind f) :
    (orderedValues m).filterMap g=(orderedValues n).filterMap f := by
  rw [orderedValues_filterMap,orderedValues_filterMap]
  congr 1
  apply ExtTreeMap.ext_getElem?
  intro k
  have hk := h k
  simpa [Option.pbind_eq_bind] using hk

end

def countValues (m : ExtTreeMap K V) (p : V → Bool) : Nat := (m.filter (fun _ v => p v)).size

theorem countValues_insert (m : ExtTreeMap K V) (k : K) (v : V) (p : V → Bool) :
    countValues (m.insert k v) p+(if m[k]?.any p then 1 else 0)=countValues m p+if p v then 1 else 0 := by
  classical
  have present : k∈m.filter (fun _ v => p v) ↔ m[k]?.any p=true := by
    rw [mem_iff_getElem?_ne_none,ExtTreeMap.getElem?_filter']
    cases m[k]? with
    | none => simp
    | some old => by_cases h : p old <;> simp [h]
  have split : (m.insert k v).filter (fun _ v => p v)=
      if p v then (m.filter (fun _ v => p v)).insert k v
      else (m.filter (fun _ v => p v)).erase k := by
    apply ExtTreeMap.ext_getElem?
    intro a
    by_cases hv : p v <;> by_cases h : k=a <;>
      simp [hv,h,getElem?_insert_eq,getElem?_erase_eq]
  unfold countValues
  rw [split]
  by_cases hv : p v=true
  · rw [if_pos hv,if_pos hv,ExtTreeMap.size_insert]
    by_cases h : m[k]?.any p=true
    · simp [present.mpr h,h]
    · simp [mt present.mp h,h]
  · rw [if_neg hv,if_neg hv,ExtTreeMap.size_erase]
    by_cases h : m[k]?.any p=true
    · have positive : (m.filter (fun _ v => p v)).size≠0 := by
        intro zero
        have member := present.mpr h
        rw [ExtTreeMap.eq_empty_iff_size_eq_zero.mpr zero] at member
        simp at member
      simp only [ExtTreeMap.contains_iff_mem.mpr (present.mpr h),h,if_true]
      omega
    · simp [mt present.mp h,h]

theorem countValues_filter_le (m : ExtTreeMap K V) (keep : K → V → Bool) (p : V → Bool) :
    countValues (m.filter keep) p ≤ countValues m p := by
  have swap : (m.filter keep).filter (fun _ v => p v)= (m.filter (fun _ v => p v)).filter keep := by
    apply ExtTreeMap.ext_getElem?
    intro a
    simp only [ExtTreeMap.getElem?_filter',Option.filter_filter]
    congr 1
    funext v
    exact Bool.and_comm _ _
  unfold countValues
  rw [swap]
  exact ExtTreeMap.size_filter_le_size

theorem countValues_le_size (m : ExtTreeMap K V) (p : V → Bool) : countValues m p ≤ m.size :=
  ExtTreeMap.size_filter_le_size

theorem countValues_map (m : ExtTreeMap K V) (f : K → V → W) (p : W → Bool) (q : V → Bool)
    (h : ∀k v,p (f k v)=q v) : countValues (m.map f) p=countValues m q := by
  have swap : (m.map f).filter (fun _ v => p v)=(m.filter (fun _ v => q v)).map f := by
    apply ExtTreeMap.ext_getElem?
    intro a
    simp only [ExtTreeMap.getElem?_filter',ExtTreeMap.getElem?_map]
    cases m[a]? with
    | none => rfl
    | some v => by_cases hv : q v <;> simp [Option.filter,h]
  unfold countValues
  rw [swap,ExtTreeMap.size_map]

section Rank

variable [DecidableEq K]

def rank (m : ExtTreeMap K V) (k : K) : Nat := m.keys.idxOf k

theorem rank_lt {m : ExtTreeMap K V} {k : K} (h : k∈m) : rank m k < m.size := by
  rw [← ExtTreeMap.length_keys]
  exact List.idxOf_lt_length_of_mem (ExtTreeMap.mem_keys.mpr h)

theorem rank_inj {m : ExtTreeMap K V} {k l : K} (h : k∈m) (same : rank m k=rank m l) : k=l :=
  (List.idxOf_inj (ExtTreeMap.mem_keys.mpr h)).mp same

end Rank

end CoursePlanner.Library
