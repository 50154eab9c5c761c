import Mathlib

namespace CoursePlanner.Contracts

open Std

inductive IdentityErrorCode where
  | empty
  | wrongLength
  | tooLong
  | invalidCharacter
  | nonCanonicalCase
  | wrongSegmentCount
  | invalidFingerprint
  deriving DecidableEq, Repr

structure IdentityError where
  field : String
  code : IdentityErrorCode
  deriving DecidableEq, Repr

def termMaxBytes : Nat := 16
def sectionIndexWidth : Nat := 5
def campusMaxBytes : Nat := 32

def validateTerm (value : String) : Except IdentityError Unit :=
  if value.isEmpty then .error ⟨"term",.empty⟩
  else if termMaxBytes<value.utf8ByteSize then .error ⟨"term",.tooLong⟩
  else if value.toList.any Char.isLower then .error ⟨"term",.nonCanonicalCase⟩
  else if !value.toList.all (fun c => c.isUpper || c.isDigit || c = '_' || c = '-') then
    .error ⟨"term",.invalidCharacter⟩
  else .ok ()

def validateSectionIndex (value : String) : Except IdentityError Unit :=
  if value.utf8ByteSize≠sectionIndexWidth then .error ⟨"index",.wrongLength⟩
  else if !value.toList.all Char.isDigit then .error ⟨"index",.invalidCharacter⟩
  else .ok ()

def validateCampus (value : String) : Except IdentityError Unit :=
  if value.isEmpty then .error ⟨"campus",.empty⟩
  else if campusMaxBytes<value.utf8ByteSize then .error ⟨"campus",.tooLong⟩
  else if value.toList.any Char.isLower then .error ⟨"campus",.nonCanonicalCase⟩
  else if !value.toList.all (fun c => c.isUpper || c.isDigit || c = '_') then
    .error ⟨"campus",.invalidCharacter⟩
  else .ok ()

/-- The string newtypes carry the verdict of their validator, so an identity
that the contract rejects has no value here. -/
structure TermId where
  value : String
  valid : validateTerm value=.ok ()
  deriving DecidableEq

structure CampusCode where
  value : String
  valid : validateCampus value=.ok ()
  deriving DecidableEq

structure SectionIndex where
  value : String
  valid : validateSectionIndex value=.ok ()
  deriving DecidableEq

instance : Ord TermId := ⟨compareOn TermId.value⟩
instance : TransOrd TermId := inferInstanceAs (TransCmp (compareOn TermId.value))
instance : Ord CampusCode := ⟨compareOn CampusCode.value⟩
instance : TransOrd CampusCode := inferInstanceAs (TransCmp (compareOn CampusCode.value))
instance : Ord SectionIndex := ⟨compareOn SectionIndex.value⟩
instance : TransOrd SectionIndex := inferInstanceAs (TransCmp (compareOn SectionIndex.value))

instance : LawfulEqOrd TermId where
  eq_of_compare {a b} h := by
    have hv : a.value=b.value := LawfulEqOrd.eq_of_compare h
    cases a; cases b; simpa using hv

instance : LawfulEqOrd CampusCode where
  eq_of_compare {a b} h := by
    have hv : a.value=b.value := LawfulEqOrd.eq_of_compare h
    cases a; cases b; simpa using hv

instance : LawfulEqOrd SectionIndex where
  eq_of_compare {a b} h := by
    have hv : a.value=b.value := LawfulEqOrd.eq_of_compare h
    cases a; cases b; simpa using hv

structure TermCampusKey where
  term : TermId
  campus : CampusCode
  deriving DecidableEq

/-- The derived lexicographic order of the source struct: term, then campus. -/
instance : Ord TermCampusKey :=
  ⟨compareLex (compareOn TermCampusKey.term) (compareOn TermCampusKey.campus)⟩

instance : TransOrd TermCampusKey := inferInstanceAs
  (TransCmp (compareLex (compareOn TermCampusKey.term) (compareOn TermCampusKey.campus)))

instance : LawfulEqOrd TermCampusKey where
  eq_of_compare {a b} h := by
    obtain ⟨ht,hc⟩ := compareLex_eq_eq.mp h
    have term : a.term=b.term := LawfulEqOrd.eq_of_compare ht
    have campus : a.campus=b.campus := LawfulEqOrd.eq_of_compare hc
    cases a; cases b; simp_all

structure SectionKey where
  term : TermId
  campus : CampusCode
  index : SectionIndex
  deriving DecidableEq

namespace SectionKey

def target (key : SectionKey) : TermCampusKey := ⟨key.term,key.campus⟩

/-- The derived lexicographic order of the source struct: term, campus, index. -/
instance : Ord SectionKey :=
  ⟨compareLex (compareOn SectionKey.target) (compareOn SectionKey.index)⟩

instance : TransOrd SectionKey := inferInstanceAs
  (TransCmp (compareLex (compareOn SectionKey.target) (compareOn SectionKey.index)))

instance : LawfulEqOrd SectionKey where
  eq_of_compare {a b} h := by
    obtain ⟨ht,hi⟩ := compareLex_eq_eq.mp h
    have target : a.target=b.target := LawfulEqOrd.eq_of_compare ht
    have index : a.index=b.index := LawfulEqOrd.eq_of_compare hi
    cases a; cases b
    simp only [SectionKey.target,TermCampusKey.mk.injEq] at target
    simp_all

end SectionKey

/-- The target and the section of the closed examples. -/
def nbFall2026 : TermCampusKey := ⟨⟨"92026",by decide⟩,⟨"NB",by decide⟩⟩

def firstSection : SectionKey := ⟨nbFall2026.term,nbFall2026.campus,⟨"00001",by decide⟩⟩

/-- RFC 4122 variant and version 4 of a UUID read as a 128-bit number. -/
def randomV4 (uuid : Nat) : Prop :=
  uuid<2^128 ∧ uuid/2^76%16=4 ∧ uuid/2^62%4=2

instance (uuid : Nat) : Decidable (randomV4 uuid) :=
  inferInstanceAs (Decidable (_ ∧ _ ∧ _))

/-- Correlation id. Byte order on UUIDs is the numeric order. -/
structure TraceId where
  uuid : Nat
  valid : randomV4 uuid
  deriving DecidableEq

namespace TraceId

instance : Ord TraceId := ⟨compareOn TraceId.uuid⟩
instance : TransOrd TraceId := inferInstanceAs (TransCmp (compareOn TraceId.uuid))

instance : LawfulEqOrd TraceId where
  eq_of_compare {a b} h := by
    have hv : a.uuid=b.uuid := LawfulEqOrd.eq_of_compare h
    cases a; cases b; simpa using hv

def tryFromUuid (uuid : Nat) : Option TraceId :=
  if h : randomV4 uuid then some ⟨uuid,h⟩ else none

end TraceId

/-- A stateful supply of correlation ids. Nothing is assumed about freshness. -/
class TraceIdSource (I : Type) where
  nextTraceId : I → TraceId × I

end CoursePlanner.Contracts
