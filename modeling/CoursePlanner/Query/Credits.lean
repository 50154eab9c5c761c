import CoursePlanner.Contracts.Query

namespace CoursePlanner.Query

open Library Contracts

/-- A credit value or range in hundredths. -/
structure CreditValue where
  minimum : Nat
  maximum : Nat
  deriving DecidableEq, Repr

inductive CreditValueParseError where
  | unbounded
  | invalid
  deriving DecidableEq, Repr

/-- str::replace, over the characters still to be skipped of a match. -/
def replaceAll (pattern replacement : List Char) : Nat → List Char → List Char
  | _,[] => []
  | skip+1,_::rest => replaceAll pattern replacement skip rest
  | 0,c::rest =>
    if pattern.isPrefixOf (c::rest) then
      replacement++replaceAll pattern replacement (pattern.length-1) rest
    else c::replaceAll pattern replacement 0 rest

/-- The digits of a text that has only such, as a number that fits 32 bits. -/
def parseU32 (digits : List Char) : Option Nat :=
  let number := digits.foldl (fun n c => 10*n+(c.toNat-48)) 0
  if digits.isEmpty || !digits.all Char.isDigit || u32Max<number then none else some number

def parseDecimal (value : List Char) : Option Nat :=
  if value.isEmpty || value.head?=some '+' || value.head?=some '-' then none
  else
    let normalized := value.map (fun c => if c = '_' then '.' else c)
    match normalized.splitOn '.' with
    | [whole] => scaled whole []
    | [whole,fractional] => scaled whole fractional
    | _ => none
where
  scaled (whole fractional : List Char) : Option Nat := do
    if whole.isEmpty || !whole.all Char.isDigit || 2<fractional.length ||
        !fractional.all Char.isDigit then none
    let whole ← parseU32 whole
    let fraction ← if fractional.isEmpty then some 0
      else (parseU32 fractional).map (fun n => n*10^(2-fractional.length))
    if whole*100+fraction ≤ u32Max then some (whole*100+fraction) else none

def unboundedCredits : List String := ["BA","BY ARRANGEMENT","ARRANGED","VARIABLE","VAR"]

def parseCreditValue (value : String) : Except CreditValueParseError CreditValue :=
  let normalized := asciiUpper (trim value)
  if normalized.isEmpty || unboundedCredits.contains normalized then .error .unbounded
  else
    let numeric := replaceAll " THROUGH ".toList [ '-'] 0
      (replaceAll " TO ".toList [ '-'] 0 normalized.toList)
    let numeric := numeric.map (fun c => if c = '–' || c = '—' then '-' else c)
    let parts := (numeric.splitOn '-').map (fun part => (trim (String.ofList part)).toList)
    match parts.mapM parseDecimal with
    | some [fixed] => .ok ⟨fixed,fixed⟩
    | some [minimum,maximum] =>
      if maximum < minimum then .error .invalid else .ok ⟨minimum,maximum⟩
    | _ => .error .invalid

end CoursePlanner.Query
