import CoursePlanner.Query.Predicates
import CoursePlanner.Library.OrderedMap

set_option maxRecDepth 8000

namespace CoursePlanner.Query

open Std Library Contracts

variable [UnicodeLowercase]

abbrev FilterOptions := ExtTreeMap String FilterOptionV2

/-- Options are told apart by their lower case. The first value stays, the longest label
wins. -/
def insertOption (options : FilterOptions) (value label : String) : FilterOptions :=
  let key := toLowercase value
  match options[key]? with
  | none => options.insert key ⟨value,label⟩
  | some existing =>
    if existing.label.utf8ByteSize<label.utf8ByteSize then
      options.insert key {existing with label := label}
    else options

def collectOptions (entries : List (String × String)) : FilterOptions :=
  entries.foldl (fun options (value,label) => insertOption options value label) ∅

def queryMatches (value : String) (query : Option String) : Bool :=
  query.all (fun query => (toLowercase query).toList <:+: (toLowercase value).toList)

def padded (number : Nat) : String :=
  let digits := (toString number).toList
  String.ofList (List.replicate (3-digits.length) '0'++digits)

/-- The trimmed text of a known field that is not blank. -/
def nonBlank (field : CatalogFieldKnowledge String) : Option String :=
  (field.knownValue.map trim).filter (fun value => !value.isEmpty)

/-- A place or an exam is offered under its code, or under its name where it has no code. -/
def codeOrName (code name : Option String) : Option (String × String) :=
  match code.map asciiUpper,name with
  | some code,some name => some (code,code++" · "++name)
  | some code,none => some (code,code)
  | none,some name => some (asciiUpper name,name)
  | none,none => none

def levelOption (level : CatalogFieldKnowledge String) : Option (String × String) :=
  (nonBlank level).map (fun level =>
    let value := asciiUpper level
    (value,if value="U" then "U · Undergraduate" else if value="G" then "G · Graduate" else value))

def bandOption (courseNumber : CatalogFieldKnowledge String) : Option (String × String) := do
  let value ← courseNumber.knownValue
  let band ← courseNumberBand value
  some (toString band,padded band++"-"++padded (band+99))

/-- What one field of the catalogs offers, in the order of the catalogs. -/
def optionEntries (catalogs : List NormalizedCatalogV1) (field : FilterOptionsFieldV2)
    (query : Option String) : List (String × String) :=
  match field with
  | .keyword => []
  | .courseNumberBand => (catalogs.flatMap NormalizedCatalogV1.courseVariants).filterMap
      (fun variant => bandOption variant.courseNumber)
  | .courseLevel => (catalogs.flatMap NormalizedCatalogV1.courseVariants).filterMap
      (fun variant => levelOption variant.level)
  | .instructor =>
    (((catalogs.flatMap NormalizedCatalogV1.sections).flatMap
      (fun «section» => («section».instructors.knownValue.getD []).map collapse)).filter
      (fun name => !name.isEmpty && queryMatches name query)).map (fun name => (name,name))
  | .meetingLocation => (catalogs.flatMap NormalizedCatalogV1.occurrences).filterMap
      (fun occurrence => codeOrName (nonBlank occurrence.campus) (nonBlank occurrence.campusName))
  | .examCode => (catalogs.flatMap NormalizedCatalogV1.sections).filterMap
      (fun «section» => codeOrName (nonBlank «section».examCode) (nonBlank «section».examCodeText))

def collectCatalogOptions (catalogs : List NormalizedCatalogV1) (field : FilterOptionsFieldV2)
    (query : Option String) : FilterOptions :=
  collectOptions (optionEntries catalogs field query)

section Keywords

variable {Err : Type} (keywordExists : NormalizedCatalogV1 → String → Except Err Bool)

end Keywords

end CoursePlanner.Query
