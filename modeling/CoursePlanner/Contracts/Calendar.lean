import CoursePlanner.Contracts.Scalar

namespace CoursePlanner.Contracts

open Std

def i64Max : Nat := 2^63-1

/-- The instants of the years 0 to 9999, which RFC 3339 can write. -/
def rfc3339First : OffsetDateTime := -62167219200*1000000000
def rfc3339End : OffsetDateTime := 253402300800*1000000000

/-- The first instant of OffsetDateTime; its last one is that of RFC 3339. -/
def offsetDateTimeFirst : OffsetDateTime := -377705116800*1000000000

def checkedAdd (instant : OffsetDateTime) (seconds : Nat) : Option OffsetDateTime :=
  let sum := instant+1000000000*seconds
  if offsetDateTimeFirst ≤ sum ∧ sum < rfc3339End then some sum else none

/-- An RFC 3339 text, kept as the instant that it names. -/
structure Timestamp where
  instant : OffsetDateTime
  written : rfc3339First ≤ instant ∧ instant < rfc3339End
  deriving DecidableEq

/-- OffsetDateTime::format, and what parsing reads back. -/
def formatRfc3339 (instant : OffsetDateTime) : Option Timestamp :=
  if h : rfc3339First ≤ instant ∧ instant < rfc3339End then some ⟨instant,h⟩ else none

/-- A day of the America/New_York calendar, counted from the Unix epoch. -/
structure RutgersDay where
  number : Int
  deriving DecidableEq

instance : Ord RutgersDay := ⟨compareOn RutgersDay.number⟩
instance : TransOrd RutgersDay := inferInstanceAs (TransCmp (compareOn RutgersDay.number))

instance : LawfulEqOrd RutgersDay where
  eq_of_compare {a b} h := by
    have hv : a.number=b.number := LawfulEqOrd.eq_of_compare h
    cases a; cases b; simpa using hv

/-- The time zone database: the Rutgers day of an instant, where there is one. -/
class RutgersCalendar where
  dayAt : OffsetDateTime → Option RutgersDay

end CoursePlanner.Contracts
