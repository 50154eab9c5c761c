import Mathlib

namespace CoursePlanner.Library

/-- char::is_whitespace: the code points with the property White_Space. -/
def isWhiteSpace (c : Char) : Bool :=
  let n := c.toNat
  (9 ≤ n && n ≤ 13) || n=32 || n=0x85 || n=0xA0 || n=0x1680 || (0x2000 ≤ n && n ≤ 0x200A) ||
    n=0x2028 || n=0x2029 || n=0x202F || n=0x205F || n=0x3000

/-- char::is_control: the general category Cc. -/
def isControl (c : Char) : Bool :=
  let n := c.toNat
  n<32 || (0x7F ≤ n && n<0xA0)

/-- str::trim. -/
def trim (text : String) : String :=
  String.ofList ((text.toList.dropWhile isWhiteSpace).rdropWhile isWhiteSpace)

/-- split_whitespace, the words joined by one blank. -/
def collapse (text : String) : String :=
  String.ofList (List.intercalate [ ' ']
    ((text.toList.splitOnP isWhiteSpace).filter (fun word => !word.isEmpty)))

/-- Lean's own case maps of a character are the ASCII ones. -/
def asciiLower (text : String) : String := String.ofList (text.toList.map Char.toLower)

def asciiUpper (text : String) : String := String.ofList (text.toList.map Char.toUpper)

/-- str::eq_ignore_ascii_case. -/
def eqIgnoreAsciiCase (left right : String) : Bool := asciiLower left=asciiLower right

def isAscii (text : String) : Bool := text.toList.all (fun c => c.toNat<128)

/-- str::to_lowercase. On ASCII text it is the ASCII map. -/
class UnicodeLowercase where
  toLowercase : String → String
  ascii : ∀text,isAscii text=true → toLowercase text=asciiLower text

export UnicodeLowercase (toLowercase)

variable {c : Char}

end CoursePlanner.Library
