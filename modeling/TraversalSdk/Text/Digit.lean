import TraversalSdk.Text.CharRun
import TraversalSdk.Text.DigitTable

namespace TraversalSdk.Text

def isAsciiDigit (c : Char) : Bool := '0' ≤ c && c ≤ '9'

def isDigit (c : Char) : Bool :=
  if c.toNat < 128 then isAsciiDigit c
  else decimalZeros.any (fun z => z ≤ c.toNat && c.toNat ≤ z + 9) || inRanges plainDigitRanges c

/-- The place value of a decimal digit of any script. -/
def decimalValue? (c : Char) : Option Nat :=
  if c.toNat < 128 then
    if isAsciiDigit c then some (c.toNat - 48) else none
  else
    (decimalZeros.find? fun z => z ≤ c.toNat && c.toNat ≤ z + 9).map (c.toNat - ·)

/-- The number that a row of decimal digits spells; `none` if one of them is not decimal. -/
def naturalOf? (cs : List Char) : Option Nat :=
  cs.foldlM (fun n c => (decimalValue? c).map (n * 10 + ·)) 0

/-- The digits of a number in a base up to sixteen, most significant first. -/
def digits (base n : Nat) : List Char := Nat.toDigits base n

/-- Lower-case hexadecimal, filled up with zeros to a width. -/
def hex (width n : Nat) : List Char :=
  let ds := digits 16 n
  List.replicate (width - ds.length) '0' ++ ds

def hexValue? (c : Char) : Option Nat :=
  if '0' ≤ c && c ≤ '9' then some (c.toNat - 48)
  else if 'a' ≤ c && c ≤ 'f' then some (c.toNat - 87)
  else if 'A' ≤ c && c ≤ 'F' then some (c.toNat - 55)
  else none

end TraversalSdk.Text
