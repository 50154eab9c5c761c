import Mathlib

namespace CoursePlanner.Library

def utf8Bytes (text : String) : List UInt8 := text.toUTF8.data.toList

theorem utf8Bytes_eq (text : String) :
    utf8Bytes text=text.toList.flatMap String.utf8EncodeChar := by
  unfold utf8Bytes
  rw [String.toUTF8_eq_toByteArray,← String.utf8Encode_toList,List.utf8Encode,
    List.toList_data_toByteArray]

theorem utf8Bytes_inj {a b : String} (h : utf8Bytes a=utf8Bytes b) : a=b := by
  have data : a.toUTF8.data=b.toUTF8.data := Array.toList_inj.mp h
  exact String.toByteArray_inj.mp (ByteArray.ext data)

/-- A byte of a character is the character itself or lies outside ASCII, and none is 0xff. -/
theorem utf8EncodeChar_bytes {c : Char} {byte : UInt8} (h : byte∈String.utf8EncodeChar c) :
    (byte.toNat=c.toNat ∨ 128 ≤ byte.toNat) ∧ byte.toNat<248 := by
  have value : c.val.toNat=c.toNat := rfl
  unfold String.utf8EncodeChar at h
  simp only [value] at h
  split at h <;> [skip; split at h <;> [skip; split at h]] <;>
    simp only [List.mem_cons,List.not_mem_nil,or_false] at h
  · subst h
    simp only [UInt8.toNat_ofNat']
    omega
  · rcases h with rfl | rfl <;> simp only [UInt8.toNat_ofNat'] <;> omega
  · rcases h with rfl | rfl | rfl <;> simp only [UInt8.toNat_ofNat'] <;> omega
  · rcases h with rfl | rfl | rfl | rfl <;> simp only [UInt8.toNat_ofNat'] <;> omega

theorem ff_notMem_utf8Bytes (text : String) : (0xff : UInt8)∉utf8Bytes text := by
  rw [utf8Bytes_eq,List.mem_flatMap]
  rintro ⟨c,-,member⟩
  exact absurd (utf8EncodeChar_bytes member).2 (by decide)

theorem zero_notMem_utf8Bytes {text : String} (h : ∀c∈text.toList,c.toNat≠0) :
    (0 : UInt8)∉utf8Bytes text := by
  rw [utf8Bytes_eq,List.mem_flatMap]
  rintro ⟨c,listed,member⟩
  rcases (utf8EncodeChar_bytes member).1 with same | large
  · exact h c listed same.symm
  · exact absurd large (by decide)

variable {A : Type}

/-- A separator that neither field contains ends both of them at the same place. -/
theorem append_cons_inj {mark : A} {a b x y : List A} (ha : mark∉a) (hb : mark∉b)
    (h : a++mark::x=b++mark::y) : a=b ∧ x=y := by
  induction a generalizing b with
  | nil =>
    cases b with
    | nil => exact ⟨rfl,(List.cons.inj h).2⟩
    | cons first b => exact absurd (List.cons.inj h).1 (by simp_all)
  | cons first a ih =>
    cases b with
    | nil => exact absurd (List.cons.inj h).1 (by simp_all [eq_comm])
    | cons second b =>
      obtain ⟨rfl,rest⟩ := List.cons.inj h
      obtain ⟨rfl,tail⟩ := ih (fun member => ha (.tail _ member)) (fun member => hb (.tail _ member))
        rest
      exact ⟨rfl,tail⟩

end CoursePlanner.Library
