namespace TraversalSdk

abbrev twos (k : Nat) : Nat := Nat.pow 2 k

abbrev tens (k : Nat) : Nat := Nat.pow 10 k

/-- How many finite magnitudes there are: 2047 exponents of 2^52 fractions each. -/
def Binary64.count : Nat := 2047 * twos 52

/-- Double-precision numbers. The finite ones of one sign are numbered in order of size, zero first, so that
rounding is a search for the nearest number of the row. -/
inductive Binary64
  | finite (negative : Bool) (index : Fin Binary64.count)
  | infinite (negative : Bool)
  | notANumber
  deriving DecidableEq

namespace Binary64

/-- The magnitude with a given index, in units of 2^-1074. -/
def units (index : Nat) : Nat :=
  if index < twos 52 then index else (twos 52 + index % twos 52) * twos (index / twos 52 - 1)

/-- The greatest index whose magnitude is at most `n` units. -/
def indexBelow (n : Nat) : Nat :=
  if n < twos 53 then n else (n.log2 - 52) * twos 52 + n / twos (n.log2 - 52)

/-- The index nearest to `num / den` units; of two equally near the even one. -/
def nearestIndex (num den : Nat) : Nat :=
  let below := indexBelow (num / den)
  let middle := (units below + units (below + 1)) * den
  if 2 * num < middle then below
  else if middle < 2 * num then below + 1
  else if below % 2 = 0 then below else below + 1

def ofIndex (negative : Bool) (index : Nat) : Binary64 :=
  if h : index < count then .finite negative ⟨index, h⟩ else .infinite negative

/-- Rounds `coefficient * 10 ^ exponent`. Sizes far outside the range are decided by the number of
digits alone. -/
def ofDecimal (negative : Bool) (coefficient : Nat) (exponent : Int) : Binary64 :=
  let size : Int := (Nat.toDigits 10 coefficient).length + exponent
  if coefficient = 0 ∨ size < -400 then ofIndex negative 0
  else if 400 < size then .infinite negative
  else match exponent with
    | .ofNat e => ofIndex negative (nearestIndex (coefficient * tens e * twos 1074) 1)
    | .negSucc e => ofIndex negative (nearestIndex (coefficient * twos 1074) (tens (e + 1)))

/-- The whole number that a finite value equals, if it is one. -/
def toInt? : Binary64 → Option Int
  | .finite negative index =>
    let n := units index
    if n % twos 1074 = 0 then
      some (if negative then -(n / twos 1074 : Nat) else (n / twos 1074 : Nat))
    else none
  | _ => none

def isFinite : Binary64 → Bool
  | .finite _ _ => true
  | _ => false

end Binary64

end TraversalSdk
