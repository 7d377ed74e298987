namespace PythonDocs

structure Decimal where
  digits : Nat
  power : Int
  deriving DecidableEq, Repr

structure Double where
  mantissa : Nat
  power : Int
  deriving DecidableEq, Repr

def scaledFraction (base number : Nat) (power : Int) : Nat × Nat :=
  if 0 ≤ power then (number * Nat.pow base power.toNat, 1)
  else (number, Nat.pow base (-power).toNat)

namespace Double

def leastPower : Int := -1074

def mantissaLimit : Nat := 0x20000000000000

def zero : Double := ⟨0, leastPower⟩

def roundedQuotient (numerator denominator : Nat) : Nat :=
  let quotient := numerator / denominator
  let twice := 2 * (numerator % denominator)
  if twice < denominator ∨ (twice = denominator ∧ quotient % 2 = 0) then quotient
  else quotient + 1

def mantissaAt (power : Int) (numerator denominator : Nat) : Nat :=
  if 0 ≤ power then roundedQuotient numerator (denominator * Nat.pow 2 power.toNat)
  else roundedQuotient (numerator * Nat.pow 2 (-power).toNat) denominator

/-- The fraction with a mantissa of at most 54 bits; a mantissa that is too long is even. -/
def normalized? (mantissa : Nat) (power : Int) : Option Double :=
  let result : Double :=
    if mantissa < mantissaLimit then ⟨mantissa, power⟩ else ⟨mantissa / 2, power + 1⟩
  if result.power ≤ 971 then some result else none

def nearest? (numerator denominator : Nat) : Option Double :=
  let estimate : Int := numerator.log2 - denominator.log2 - 53
  let lower := if estimate < leastPower then leastPower else estimate
  let power :=
    if mantissaAt lower numerator denominator < mantissaLimit then lower else lower + 1
  normalized? (mantissaAt power numerator denominator) power

def ofDecimal? (number : Decimal) : Option Double :=
  let size : Int := (Nat.toDigits 10 number.digits).length + number.power
  if number.digits = 0 ∨ size < -330 then some zero
  else if size > 310 then none
  else
    let (numerator, denominator) := scaledFraction 10 number.digits number.power
    nearest? numerator denominator

def places (numerator denominator : Nat) : Int :=
  (Nat.toDigits 10 (numerator * Nat.pow 10 400 / denominator)).length - 400

/-- The decimal number with the fewest digits to which this fraction is nearest. Among these it is
the nearest one, from the middle the upper one. -/
def shortest (fraction : Double) : Decimal :=
  let (numerator, denominator) := scaledFraction 2 fraction.mantissa fraction.power
  let places := places numerator denominator
  let withDigits (count : Nat) : Option Decimal :=
    let power := places - count
    let (above, below) :=
      if 0 ≤ power then (numerator, denominator * Nat.pow 10 power.toNat)
      else (numerator * Nat.pow 10 (-power).toNat, denominator)
    let down := above / below
    let neighbours :=
      if 2 * (above % below) < below then [down, down + 1] else [down + 1, down]
    (neighbours.map fun digits => Decimal.mk digits power).find? (ofDecimal? · = some fraction)
  if fraction.mantissa = 0 then ⟨0, 0⟩
  else ((List.range 18).findSome? withDigits).getD ⟨0, 0⟩

end Double

namespace Decimal

def text (number : Decimal) : String :=
  let digits := Nat.toDigits 10 number.digits
  if 0 ≤ number.power then
    .ofList (digits ++ List.replicate number.power.toNat '0' ++ ['.', '0'])
  else
    let behind := (-number.power).toNat
    let padded := List.replicate (behind + 1 - digits.length) '0' ++ digits
    .ofList (padded.take (padded.length - behind) ++ '.' :: padded.drop (padded.length - behind))

def natural (digits : List Char) : Nat :=
  digits.foldl (fun number c => 10 * number + (c.toNat - 48)) 0

def ofLiteral (literal : List Char) : Decimal :=
  let mantissa := literal.takeWhile fun c => c ≠ 'e' && c ≠ 'E'
  let exponent := literal.drop (mantissa.length + 1)
  let whole := mantissa.takeWhile (· ≠ '.')
  let behind := mantissa.drop (whole.length + 1)
  let size := natural (exponent.filter Char.isDigit)
  let power : Int := if exponent.head? = some '-' then -size else size
  ⟨natural (whole ++ behind), power - behind.length⟩

def doubleText (number : Decimal) : String :=
  match Double.ofDecimal? number with
  | some fraction => fraction.shortest.text
  | none => "inf"

end Decimal

end PythonDocs
