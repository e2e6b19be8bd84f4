import NestedGroups.Text.Basic
import NestedGroups.Value

namespace NestedGroups.Toml

open NestedGroups.Text

abbrev Reader (α : Type) := List Char → Option (α × List Char)

def isSpace (c : Char) : Bool :=
  c = ' ' || c = '\t'

/-- A character that may stand for itself on a line: no control character but the tab. -/
def isPlain (c : Char) : Bool :=
  c = '\t' || (0x20 ≤ c.toNat && c.toNat ≠ 0x7F)

def afterNewline? : List Char → Option (List Char)
  | '\n' :: rest => some rest
  | '\r' :: '\n' :: rest => some rest
  | _ => none

def skipNewline (cs : List Char) : List Char :=
  (afterNewline? cs).getD cs

/-- The character of a code point, unless it is a surrogate or out of range. -/
def scalar? (ds : List Char) : Option Char := do
  let values ← ds.mapM hexDigitValue?
  let n := values.foldl (fun n d => 16 * n + d) 0
  if n.isValidChar then some (Char.ofNat n) else none

def escape? : Char → Option Char
  | 'b' => some '\x08'
  | 't' => some '\t'
  | 'n' => some '\n'
  | 'f' => some '\x0c'
  | 'r' => some '\r'
  | '"' => some '"'
  | '\\' => some '\\'
  | _ => none

def cons (c : Char) (read : Option (List Char × List Char)) : Option (List Char × List Char) :=
  read.map fun (text, rest) => (c :: text, rest)

def basicBody : Reader (List Char)
  | '"' :: rest => some ([], rest)
  | '\\' :: 'u' :: a :: b :: c :: d :: rest =>
    (scalar? [a, b, c, d]).bind (cons · (basicBody rest))
  | '\\' :: 'U' :: a :: b :: c :: d :: e :: f :: g :: h :: rest =>
    (scalar? [a, b, c, d, e, f, g, h]).bind (cons · (basicBody rest))
  | '\\' :: c :: rest => (escape? c).bind (cons · (basicBody rest))
  | c :: rest => if isPlain c && c ≠ '\\' then cons c (basicBody rest) else none
  | [] => none

def literalBody : Reader (List Char)
  | '\'' :: rest => some ([], rest)
  | c :: rest => if isPlain c then cons c (literalBody rest) else none
  | [] => none

def isLineEnd (cs : List Char) : Bool :=
  (afterNewline? (cs.dropWhile isSpace)).isSome

/-- Behind three opening quotes, up to three closing ones; two more may stand before them. While
`joining`, spaces and line breaks are dropped: a backslash at the end of a line says so. -/
def multilineBasicBody (joining : Bool) : Reader (List Char)
  | '"' :: '"' :: '"' :: '"' :: '"' :: rest => some (['"', '"'], rest)
  | '"' :: '"' :: '"' :: '"' :: rest => some (['"'], rest)
  | '"' :: '"' :: '"' :: rest => some ([], rest)
  | '\\' :: 'u' :: a :: b :: c :: d :: rest =>
    (scalar? [a, b, c, d]).bind (cons · (multilineBasicBody false rest))
  | '\\' :: 'U' :: a :: b :: c :: d :: e :: f :: g :: h :: rest =>
    (scalar? [a, b, c, d, e, f, g, h]).bind (cons · (multilineBasicBody false rest))
  | '\\' :: c :: rest =>
    if isLineEnd (c :: rest) then multilineBasicBody true (c :: rest)
    else (escape? c).bind (cons · (multilineBasicBody false rest))
  | '\r' :: '\n' :: rest =>
    if joining then multilineBasicBody true rest else cons '\n' (multilineBasicBody false rest)
  | '\n' :: rest =>
    if joining then multilineBasicBody true rest else cons '\n' (multilineBasicBody false rest)
  | c :: rest =>
    if joining && isSpace c then multilineBasicBody true rest
    else if isPlain c && c ≠ '\\' then cons c (multilineBasicBody false rest)
    else none
  | [] => none

def multilineLiteralBody : Reader (List Char)
  | '\'' :: '\'' :: '\'' :: '\'' :: '\'' :: rest => some (['\'', '\''], rest)
  | '\'' :: '\'' :: '\'' :: '\'' :: rest => some (['\''], rest)
  | '\'' :: '\'' :: '\'' :: rest => some ([], rest)
  | '\r' :: '\n' :: rest => cons '\n' (multilineLiteralBody rest)
  | '\n' :: rest => cons '\n' (multilineLiteralBody rest)
  | c :: rest => if isPlain c then cons c (multilineLiteralBody rest) else none
  | [] => none

def readLine : Reader (List Char)
  | '"' :: rest => basicBody rest
  | '\'' :: rest => literalBody rest
  | _ => none

def readText : Reader (List Char)
  | '"' :: '"' :: '"' :: rest => multilineBasicBody false (skipNewline rest)
  | '\'' :: '\'' :: '\'' :: rest => multilineLiteralBody (skipNewline rest)
  | cs => readLine cs

def readDigits (isDigit : Char → Bool) : Reader (List Char)
  | c :: '_' :: rest => if isDigit c then cons c (readDigits isDigit rest) else none
  | c :: rest =>
    if !isDigit c then none
    else if rest.head?.any isDigit then cons c (readDigits isDigit rest)
    else some ([c], rest)
  | [] => none

def readWhole : Reader (List Char)
  | '0' :: rest => some (['0'], rest)
  | cs => readDigits Char.isDigit cs

def isHexDigit (c : Char) : Bool :=
  (hexDigitValue? c).isSome

def isOctalDigit (c : Char) : Bool :=
  c.isDigit && c < '8'

def isBinaryDigit (c : Char) : Bool :=
  c = '0' || c = '1'

def valueInBase (base : Nat) (ds : List Char) : Nat :=
  ds.foldl (fun n d => base * n + (hexDigitValue? d).getD 0) 0

def minInteger : Int := -0x8000000000000000

def maxInteger : Int := 0x7FFFFFFFFFFFFFFF

def inRange? (i : Int) : Option Value :=
  if minInteger ≤ i ∧ i ≤ maxInteger then some (.int i) else none

def readInBase (base : Nat) (isDigit : Char → Bool) (cs : List Char) :
    Option (Value × List Char) := do
  let (ds, rest) ← readDigits isDigit cs
  return (← inRange? (valueInBase base ds), rest)

def taken (cs rest : List Char) : String :=
  .ofList (cs.take (cs.length - rest.length))

def readSign : List Char → Bool × List Char
  | '+' :: rest => (false, rest)
  | '-' :: rest => (true, rest)
  | cs => (false, cs)

/-- A decimal number `ds · 10 ^ scale` that is too large for double precision. -/
def isInfinite (ds : List Char) (scale : Int) : Bool :=
  let n := numeralValue ds
  let bound := Nat.pow 2 1024 - Nat.pow 2 970
  let magnitude := (Nat.toDigits 10 n).length + scale
  if n = 0 ∨ magnitude < 300 then false
  else if 310 < magnitude then true
  else if 0 ≤ scale then decide (bound ≤ n * Nat.pow 10 scale.toNat)
  else decide (bound * Nat.pow 10 (-scale).toNat ≤ n)

def readExponent : Reader Int
  | c :: rest =>
    if c = 'e' || c = 'E' then do
      let (negative, body) := readSign rest
      let (ds, rest) ← readDigits Char.isDigit body
      return (if negative then -(numeralValue ds : Int) else numeralValue ds, rest)
    else some (0, c :: rest)
  | [] => some (0, [])

/-- A fraction, with the number that it belongs to; only a positive number can be too large. -/
def readFraction (cs : List Char) (negative : Bool) (whole body : List Char) :
    Option (Value × List Char) := do
  let (digits, rest) ← match body with
    | '.' :: rest => readDigits Char.isDigit rest
    | _ => some ([], body)
  let (exponent, rest) ← readExponent rest
  if !negative && isInfinite (whole ++ digits) (exponent - digits.length) then none
  else some (.fraction (taken cs rest), rest)

def readSpecial (cs : List Char) : List Char → Option (Value × List Char)
  | 'i' :: 'n' :: 'f' :: rest => some (.fraction (taken cs rest), rest)
  | 'n' :: 'a' :: 'n' :: rest => some (.fraction (taken cs rest), rest)
  | _ => none

def readNumber : Reader Value
  | '0' :: 'x' :: rest => readInBase 16 isHexDigit rest
  | '0' :: 'o' :: rest => readInBase 8 isOctalDigit rest
  | '0' :: 'b' :: rest => readInBase 2 isBinaryDigit rest
  | cs =>
    let (negative, body) := readSign cs
    match readWhole body with
    | none => readSpecial cs body
    | some (ds, rest) =>
      match rest with
      | c :: _ =>
        if c = '.' || c = 'e' || c = 'E' then readFraction cs negative ds rest
        else (inRange? (if negative then -(numeralValue ds : Int) else numeralValue ds)).map
          (·, rest)
      | [] => (inRange? (if negative then -(numeralValue ds : Int) else numeralValue ds)).map
          (·, rest)

def twoDigits? (a b : Char) : Option Nat :=
  if a.isDigit && b.isDigit then some (10 * digitValue a + digitValue b) else none

def skipFraction : List Char → List Char
  | '.' :: d :: rest => if d.isDigit then rest.dropWhile Char.isDigit else '.' :: d :: rest
  | cs => cs

/-- The text behind a time of the day; a minute may have a leap second. -/
def afterTime? : List Char → Option (List Char)
  | a :: b :: ':' :: c :: d :: ':' :: e :: f :: rest => do
    let hour ← twoDigits? a b
    let minute ← twoDigits? c d
    let second ← twoDigits? e f
    if hour ≤ 23 ∧ minute ≤ 59 ∧ second ≤ 60 then some (skipFraction rest) else none
  | _ => none

def skipOffset : List Char → List Char
  | 'Z' :: rest => rest
  | 'z' :: rest => rest
  | sign :: a :: b :: ':' :: c :: d :: rest =>
    match twoDigits? a b, twoDigits? c d with
    | some hour, some minute =>
      if (sign = '+' ∨ sign = '-') ∧ hour ≤ 23 ∧ minute ≤ 59 then rest
      else sign :: a :: b :: ':' :: c :: d :: rest
    | _, _ => sign :: a :: b :: ':' :: c :: d :: rest
  | cs => cs

def isLeapYear (year : Nat) : Bool :=
  year % 4 = 0 && (year % 100 ≠ 0 || year % 400 = 0)

def daysInMonth (year month : Nat) : Nat :=
  if month = 2 then if isLeapYear year then 29 else 28
  else if month = 4 ∨ month = 6 ∨ month = 9 ∨ month = 11 then 30
  else 31

def afterDate? : List Char → Option (List Char)
  | y₁ :: y₂ :: y₃ :: y₄ :: '-' :: m₁ :: m₂ :: '-' :: d₁ :: d₂ :: rest => do
    let century ← twoDigits? y₁ y₂
    let year ← twoDigits? y₃ y₄
    let month ← twoDigits? m₁ m₂
    let day ← twoDigits? d₁ d₂
    if 1 ≤ month ∧ month ≤ 12 ∧ 1 ≤ day ∧ day ≤ daysInMonth (100 * century + year) month then
      match rest with
      | c :: more =>
        if c = 'T' || c = 't' || c = ' ' then some (((afterTime? more).map skipOffset).getD rest)
        else some rest
      | [] => some rest
    else none
  | _ => none

/-- Four digits and a hyphen start a date, two digits and a colon a time. -/
def startsDate : List Char → Bool
  | a :: b :: ':' :: _ => a.isDigit && b.isDigit
  | a :: b :: c :: d :: '-' :: _ => a.isDigit && b.isDigit && c.isDigit && d.isDigit
  | _ => false

def readDate (cs : List Char) : Option (Value × List Char) :=
  ((afterDate? cs).or (afterTime? cs)).map fun rest => (.date (taken cs rest), rest)

def readScalar (cs : List Char) : Option (Value × List Char) :=
  match cs with
  | 't' :: 'r' :: 'u' :: 'e' :: rest => some (.bool true, rest)
  | 'f' :: 'a' :: 'l' :: 's' :: 'e' :: rest => some (.bool false, rest)
  | c :: _ =>
    if c = '"' || c = '\'' then (readText cs).map fun (text, rest) => (.text (.ofList text), rest)
    else if startsDate cs then readDate cs
    else if c = 'i' || c = 'n' then readSpecial cs cs
    else if c = '+' || c = '-' || c.isDigit then readNumber cs
    else none
  | [] => none

end NestedGroups.Toml
