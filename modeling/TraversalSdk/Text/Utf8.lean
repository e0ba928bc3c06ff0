import TraversalSdk.Text.Digit

namespace TraversalSdk.Text

inductive Utf8Flaw
  | badStart
  | badContinuation
  | cutOff
  deriving DecidableEq

/-- A fault: its place, and the bytes there, which began a character but did not end it. -/
structure Utf8Fault where
  flaw : Utf8Flaw
  position : Nat
  first : UInt8
  length : Nat
  deriving DecidableEq

namespace Utf8Fault

def reason : Utf8Flaw → String
  | .badStart => "invalid start byte"
  | .badContinuation => "invalid continuation byte"
  | .cutOff => "unexpected end of data"

def place (f : Utf8Fault) : String :=
  if f.length = 1 then
    "byte 0x" ++ String.ofList (hex 2 f.first.toNat) ++ " in position " ++ toString f.position
  else "bytes in position " ++ toString f.position ++ "-" ++ toString (f.position + f.length - 1)

def message (f : Utf8Fault) : String := "'utf-8' codec can't decode " ++ f.place ++ ": " ++ reason f.flaw

end Utf8Fault

namespace Utf8

def isTail (b : UInt8) : Bool := 0x80 ≤ b && b ≤ 0xBF

/-- The classes of the bytes that may follow a first byte; `none` if it starts no character. -/
def tails? (b : UInt8) : Option (List (UInt8 → Bool)) :=
  if b ≤ 0x7F then some []
  else if b < 0xC2 then none
  else if b ≤ 0xDF then some [isTail]
  else if b = 0xE0 then some [fun t => 0xA0 ≤ t && isTail t, isTail]
  else if b = 0xED then some [fun t => t ≤ 0x9F && isTail t, isTail]
  else if b ≤ 0xEF then some [isTail, isTail]
  else if b = 0xF0 then some [fun t => 0x90 ≤ t && isTail t, isTail, isTail]
  else if b ≤ 0xF3 then some [isTail, isTail, isTail]
  else if b = 0xF4 then some [fun t => t ≤ 0x8F && isTail t, isTail, isTail]
  else none

/-- How many bytes go on with a character, and what stops it short. -/
def flaw? : List (UInt8 → Bool) → List UInt8 → Nat × Option Utf8Flaw
  | [], _ => (0, none)
  | _ :: _, [] => (0, some .cutOff)
  | isNext :: others, b :: bs =>
    if isNext b then
      let (n, flaw) := flaw? others bs
      (n + 1, flaw)
    else (0, some .badContinuation)

/-- The first fault from a position on, `skip` bytes being part of a character already. -/
def faultFrom (position skip : Nat) : List UInt8 → Option Utf8Fault
  | [] => none
  | b :: bs =>
    if 0 < skip then faultFrom (position + 1) (skip - 1) bs
    else match tails? b with
      | none => some ⟨.badStart, position, b, 1⟩
      | some tails => match flaw? tails bs with
        | (n, some flaw) => some ⟨flaw, position, b, n + 1⟩
        | (n, none) => faultFrom (position + 1) n bs

def fault? (bytes : List UInt8) : Option Utf8Fault := faultFrom 0 0 bytes

end Utf8

end TraversalSdk.Text
