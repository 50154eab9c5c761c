import CoursePlanner.Library.OrderedMap

set_option linter.unusedSectionVars false

namespace CoursePlanner.Library

open Std

variable {K V : Type} [Ord K] [TransOrd K] [LawfulEqOrd K] [Ord V] [TransOrd V] [LawfulEqOrd V]

/-- A reverse index from keys to the sets of holders that have them. -/
abbrev ReverseIndex (K V : Type) [Ord K] [Ord V] := ExtTreeMap K (ExtTreeSet V)

namespace ReverseIndex

/-- Add a holder to the set of a key, creating the set if there is none. -/
def link (index : ReverseIndex K V) (holder : V) (key : K) : ReverseIndex K V :=
  index.insert key ((index[key]?.getD ∅).insert holder)

/-- Remove a holder from the set of a key, and the key with its last holder. -/
def unlink (index : ReverseIndex K V) (holder : V) (key : K) : ReverseIndex K V :=
  match index[key]? with
  | none => index
  | some holders =>
    let holders := holders.erase holder
    if holders.isEmpty then index.erase key else index.insert key holders

def Listed (index : ReverseIndex K V) (holder : V) (key : K) : Prop :=
  ∃holders,index[key]?=some holders ∧ holder∈holders

def Inhabited (index : ReverseIndex K V) : Prop :=
  ∀(key : K) (holders : ExtTreeSet V),index[key]?=some holders → holders≠∅

section

variable (index : ReverseIndex K V)

include index

theorem mem_keys_iff (h : index.Inhabited) (key : K) :
    key∈index.keys ↔ ∃holder,index.Listed holder key := by
  rw [ExtTreeMap.mem_keys,mem_iff_getElem?_ne_none]
  constructor
  · intro hk
    obtain ⟨holders,hs⟩ := Option.ne_none_iff_exists'.mp hk
    have hne := h key holders hs
    by_contra hno
    apply hne
    apply ExtTreeSet.ext_mem
    intro holder
    constructor
    · intro hm
      exact absurd ⟨holder,holders,hs,hm⟩ hno
    · intro hm
      simp at hm
  · rintro ⟨holder,holders,hs,_⟩
    simp [hs]

theorem listed_link (holder a : V) (key k : K) :
    (index.link holder key).Listed a k ↔ index.Listed a k ∨ (a=holder ∧ k=key) := by
  classical
  unfold Listed link
  rw [getElem?_insert_eq]
  by_cases hk : key=k
  · subst k
    cases index[key]? <;> simp [@eq_comm V a,or_comm]
  · simp [hk,Ne.symm hk]

theorem inhabited_link (holder : V) (key : K) (h : index.Inhabited) :
    (index.link holder key).Inhabited := by
  classical
  intro k holders hs
  rw [link,getElem?_insert_eq] at hs
  split at hs
  · cases hs
    intro he
    have hm : holder∈(index[key]?.getD ∅).insert holder := ExtTreeSet.mem_insert_self
    simp [he] at hm
  · exact h k holders hs

theorem listed_unlink (holder a : V) (key k : K) :
    (index.unlink holder key).Listed a k ↔ index.Listed a k ∧ ¬(a=holder ∧ k=key) := by
  classical
  unfold Listed unlink
  cases hs : index[key]? with
  | none =>
    by_cases hk : k=key
    · subst k
      simp [hs]
    · simp [hk]
  | some holders =>
    dsimp only
    by_cases hk : key=k
    · subst k
      split
      · next he =>
        rw [ExtTreeSet.isEmpty_iff] at he
        have hm : a∈holders.erase holder ↔ holder≠a ∧ a∈holders := by
          simp [ExtTreeSet.mem_erase]
        grind
      · simp [hs,@eq_comm V a,and_comm]
    · split
      · simp [getElem?_erase_eq,hk,Ne.symm hk]
      · simp [getElem?_insert_eq,hk,Ne.symm hk]

theorem inhabited_unlink (holder : V) (key : K)
    (h : index.Inhabited) : (index.unlink holder key).Inhabited := by
  intro k holders hs
  unfold unlink at hs
  split at hs
  · exact h k holders hs
  dsimp only at hs
  split at hs
  · exact h k holders (of_getElem?_erase hs).2
  · next he =>
    rcases of_getElem?_insert hs with ⟨-,rfl⟩ | before
    · rw [ExtTreeSet.isEmpty_iff] at he
      exact he
    · exact h k holders before

end

theorem listed_foldl_unlink (holder a : V) (k : K) (keys : List K) (index : ReverseIndex K V) :
    (keys.foldl (fun index key => index.unlink holder key) index).Listed a k ↔
      index.Listed a k ∧ ¬(a=holder ∧ k∈keys) := by
  induction keys generalizing index with
  | nil => simp
  | cons key keys ih =>
    rw [List.foldl_cons,ih,listed_unlink,List.mem_cons]
    tauto

theorem inhabited_foldl_unlink (holder : V) (keys : List K) (index : ReverseIndex K V)
    (h : index.Inhabited) :
    (keys.foldl (fun index key => index.unlink holder key) index).Inhabited := by
  induction keys generalizing index with
  | nil => exact h
  | cons key keys ih => exact ih _ (inhabited_unlink index holder key h)

end ReverseIndex

end CoursePlanner.Library
