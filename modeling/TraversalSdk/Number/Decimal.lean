import TraversalSdk.Number.Binary64

namespace TraversalSdk

/-- The digits of a positive magnitude and the place of the decimal point behind the first of them. -/
structure Decimal where
  digits : List Char
  point : Int

/-- Drops the zeros at the end of `coefficient * 10 ^ exponent`. -/
def Decimal.ofScaled (coefficient : Nat) (exponent : Int) : Decimal :=
  let all := Nat.toDigits 10 coefficient
  ⟨(all.reverse.dropWhile (· == '0')).reverse, all.length + exponent⟩

namespace Binary64

/-- The magnitude of an index times `10 ^ exponent`, rounded down. -/
def scaledDown (index : Nat) : Int → Nat
  | .ofNat e => units index * tens e / twos 1074
  | .negSucc e => units index / (twos 1074 * tens (e + 1))

/-- How far `coefficient * 10 ^ exponent` is from the magnitude of an index, in a unit that depends
on the exponent alone. -/
def distance (index coefficient : Nat) : Int → Nat
  | .ofNat e =>
    let c := coefficient * tens e * twos 1074
    (c - units index) + (units index - c)
  | .negSucc e =>
    let c := coefficient * twos 1074
    let v := units index * tens (e + 1)
    (c - v) + (v - c)

def readsBack (index coefficient : Nat) (exponent : Int) : Bool :=
  decide (ofDecimal false coefficient exponent = ofIndex false index)

/-- The neighbour on the grid of `10 ^ exponent` that reads back as the magnitude; the nearer of two. -/
def onGrid (index : Nat) (exponent : Int) : Option (Nat × Int) :=
  let low := scaledDown index (-exponent)
  match readsBack index low exponent, readsBack index (low + 1) exponent with
  | true, true =>
    let near := distance index low exponent
    let far := distance index (low + 1) exponent
    some (if near < far ∨ (near = far ∧ low % 2 = 0) then low else low + 1, exponent)
  | true, false => some (low, exponent)
  | false, true => some (low + 1, exponent)
  | false, false => none

/-- Where the decimal point of a positive magnitude stands. -/
def decimalPoint (index : Nat) : Int :=
  (Nat.toDigits 10 (scaledDown index 400)).length - 400

/-- A shortest decimal that reads back. The last resort is the exact value. -/
def shortest (index : Nat) : Nat × Int :=
  let point := decimalPoint index
  ((List.range 17).findSome? fun (n : Nat) => onGrid index (point - (n + 1))).getD
    (units index * Nat.pow 5 1074, -1074)

end Binary64

/-- How a decimal is set: positional between two places of the point, otherwise with an exponent. -/
structure DecimalStyle where
  least : Int
  greatest : Int
  plus : Bool
  exponentWidth : Nat
  infinity : String
  notANumber : String

def DecimalStyle.exponent (style : DecimalStyle) (e : Int) : String :=
  let ds := Nat.toDigits 10 e.natAbs
  let sign := if e < 0 then "-" else if style.plus then "+" else ""
  "e" ++ sign ++ String.ofList (List.replicate (style.exponentWidth - ds.length) '0' ++ ds)

def DecimalStyle.decimal (style : DecimalStyle) (d : Decimal) : String :=
  if style.least ≤ d.point ∧ d.point ≤ style.greatest then
    if d.point ≤ 0 then
      String.ofList ("0.".toList ++ List.replicate d.point.natAbs '0' ++ d.digits)
    else
      let whole := d.digits.take d.point.toNat
      let fraction := d.digits.drop d.point.toNat
      String.ofList (whole ++ List.replicate (d.point.toNat - whole.length) '0' ++ '.' ::
        (if fraction.isEmpty then ['0'] else fraction))
  else
    let mantissa := match d.digits with
      | c :: c' :: cs => c :: '.' :: c' :: cs
      | cs => cs
    String.ofList mantissa ++ style.exponent (d.point - 1)

def DecimalStyle.text (style : DecimalStyle) : Binary64 → String
  | .finite negative index =>
    let sign := if negative then "-" else ""
    if index.val = 0 then sign ++ "0.0"
    else
      let s := Binary64.shortest index
      sign ++ style.decimal (Decimal.ofScaled s.1 s.2)
  | .infinite negative => (if negative then "-" else "") ++ style.infinity
  | .notANumber => style.notANumber

/-- The spelling in JSON documents. -/
def documentDecimal : DecimalStyle := ⟨-4, 16, true, 1, "Infinity", "NaN"⟩

/-- The spelling in messages. -/
def messageDecimal : DecimalStyle := ⟨-3, 16, true, 2, "inf", "nan"⟩

end TraversalSdk
