/-
  Json/NumberText.lean --- how JSON numbers are written and read.

  An integer is written in decimal digits.  A float has the fewest digits that
  read back: with a decimal point when its leading digit stands between the
  fifth place after the point and the sixteenth before it, and otherwise with an
  exponent that always carries its sign.

  A number without point and exponent is read as an integer when 64 bits hold
  it.  The leading digits of any other number that fit 64 bits are its
  significand, and one rounded multiplication or division by a power of ten
  scales it; what is too large to be finite is refused.
-/
import LoadWatch.Binary64.Shortest
import LoadWatch.Binary64.Scientific
import LoadWatch.Json.Value

set_option autoImplicit false

namespace LoadWatch.Json

/-! ## Writing -/

/-- The digits of a decimal with a point, where `lead` is the exponent of its first digit. -/
def pointForm (digits : List Char) (exponent lead : Int) : List Char :=
  if lead < 0 then ['0', '.'] ++ List.replicate (-lead - 1).toNat '0' ++ digits
  else if 0 ≤ exponent then digits ++ List.replicate exponent.toNat '0' ++ ['.', '0']
  else digits.take (lead + 1).toNat ++ ['.'] ++ digits.drop (lead + 1).toNat

/-- The digits of a decimal with an exponent, where `lead` is the exponent of its first digit. -/
def exponentForm (digits : List Char) (lead : Int) : List Char :=
  (match digits with
    | [] => []
    | [first] => [first]
    | first :: rest => first :: '.' :: rest) ++
    ['e', if lead < 0 then '-' else '+'] ++ Nat.toDigits 10 lead.natAbs

/-- The shortest text of a finite magnitude. -/
def magnitudeText (units : Nat) : List Char :=
  if units = 0 then ['0', '.', '0']
  else
    let decimal := Binary64.shortest units
    let digits := Nat.toDigits 10 decimal.digits
    let lead := decimal.exponent + (digits.length : Int) - 1
    if -5 ≤ lead && lead ≤ 15 then pointForm digits decimal.exponent lead
    else exponentForm digits lead

/-- The shortest text of a float. Only finite floats occur in documents. -/
def floatText : Binary64 → List Char
  | .finite negative units _ => (if negative then ['-'] else []) ++ magnitudeText units
  | _ => ['n', 'u', 'l', 'l']

/-- The decimal text of an integer. -/
def integerText (n : Int) : List Char :=
  (if n < 0 then ['-'] else []) ++ Nat.toDigits 10 n.natAbs

/-- The text of a number. -/
def Number.text : Number → List Char
  | .integer n => integerText n
  | .float x => floatText x

/-! ## The grammar of numbers -/

/-- The parts of the text of a number. -/
structure Numeral where
  negative : Bool
  /-- The digits before the point. -/
  whole : List Char
  /-- The digits after the point, none without a point. -/
  fraction : List Char
  /-- The number has a point or an exponent. -/
  isFloat : Bool
  /-- The power of ten after the exponent mark, zero without one. -/
  exponent : Int

/-- The value of a run of decimal digits. -/
def digitsValue (digits : List Char) : Nat := Nat.ofDigitChars 10 digits 0

/-- An exponent after its mark: an optional sign and at least one digit. -/
def readExponent (text : List Char) : Option Int :=
  let (negative, digits) := match text with
    | '-' :: rest => (true, rest)
    | '+' :: rest => (false, rest)
    | _ => (false, text)
  if digits.isEmpty || !digits.all Char.isDigit then none
  else some (if negative then -(digitsValue digits : Int) else digitsValue digits)

/-- The exponent at the end of a number, which may be missing. -/
def readExponentPart : List Char → Option (Bool × Int)
  | [] => some (false, 0)
  | mark :: rest =>
    if mark = 'e' || mark = 'E' then (readExponent rest).map fun exponent => (true, exponent)
    else none

/-- The digits before the point: a single zero, or digits that start with another one. -/
def isWhole : List Char → Bool
  | [] => false
  | [_] => true
  | first :: _ => first ≠ '0'

/-- The parts of a number, none if the text is not one. -/
def Numeral.ofText? (text : List Char) : Option Numeral :=
  let (negative, unsigned) := match text with
    | '-' :: rest => (true, rest)
    | _ => (false, text)
  let whole := unsigned.takeWhile Char.isDigit
  if !isWhole whole then none
  else
    match unsigned.dropWhile Char.isDigit with
    | '.' :: rest =>
      let fraction := rest.takeWhile Char.isDigit
      if fraction.isEmpty then none
      else
        (readExponentPart (rest.dropWhile Char.isDigit)).map fun (_, exponent) =>
          ⟨negative, whole, fraction, true, exponent⟩
    | rest =>
      (readExponentPart rest).map fun (isFloat, exponent) =>
        ⟨negative, whole, [], isFloat, exponent⟩

/-! ## Reading -/

/-- Takes digits into a significand of 64 bits, up to the first that does not fit. -/
def takeDigits : Nat → List Char → Nat × List Char
  | significand, [] => (significand, [])
  | significand, digit :: rest =>
    let next := significand * 10 + (digit.toNat - '0'.toNat)
    if next < wordCount then takeDigits next rest else (significand, digit :: rest)

/-- A power of ten. -/
def tenTo (exponent : Nat) : Binary64 := .ofScientific false 1 exponent

/-- A significand scaled by a power of ten, none if that is too large to be finite. -/
def scaleByTen? (significand : Nat) (exponent : Int) : Option Binary64 :=
  let x := Binary64.ofNat significand
  if 308 < exponent then
    if significand = 0 then some x else none
  else if 0 ≤ exponent then
    match x * tenTo exponent.toNat with
    | .infinite _ => none
    | product => some product
  else if -308 ≤ exponent then some (x / tenTo (-exponent).toNat)
  else if -616 ≤ exponent then some (x / tenTo 308 / tenTo (-exponent - 308).toNat)
  else some (.zero false)

/-- The number with the given parts, none if it is too large to be finite. -/
def Numeral.value? (numeral : Numeral) : Option Number :=
  let (head, left) := takeDigits 0 numeral.whole
  let signed := fun x : Binary64 => Number.float (if numeral.negative then -x else x)
  if !numeral.isFloat && left.isEmpty then
    if !numeral.negative then some (.integer head)
    else if head = 0 || maxInt64 + 1 < head then some (signed (.ofNat head))
    else some (.integer (-(head : Int)))
  else
    let (significand, dropped) := takeDigits head numeral.fraction
    let places : Int := (numeral.fraction.length : Int) - dropped.length
    (scaleByTen? significand (left.length - places + numeral.exponent)).map signed

/-- The number that a text stands for, none if it is not the text of a number. -/
def Number.ofText? (text : List Char) : Option Number :=
  match Numeral.ofText? text with
  | some numeral => numeral.value?
  | none => none

end LoadWatch.Json
