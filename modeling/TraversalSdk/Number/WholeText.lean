import TraversalSdk.Text.Digit
import TraversalSdk.Text.Blank

namespace TraversalSdk.WholeText
open Text

inductive Refusal
  | malformed
  | oversized
  deriving DecidableEq

/-- Numbers of more digits are not read. -/
def digitLimit : Nat := 4300

/-- The number of a row of ASCII digits. -/
def naturalOfDigits (cs : List Char) : Nat := cs.foldl (fun n c => n * 10 + (c.toNat - 48)) 0

/-- The spelling of documents: digits without a zero in front, and perhaps a minus sign. A row of digits that
is too long is told before what follows it. -/
def strict (cs : List Char) : Except Refusal Int :=
  let negative := cs.head? == some '-'
  let unsigned := if negative then cs.tail else cs
  let digits := unsigned.takeWhile isAsciiDigit
  if digits.isEmpty || (digits.head? == some '0' && digits.length ≠ 1) then .error .malformed
  else if digitLimit < digits.length then .error .oversized
  else if digits.length < unsigned.length then .error .malformed
  else
    let n : Int := naturalOfDigits digits
    .ok (if negative then -n else n)

/-- What follows zeros and underscores, `last` being the latest of them. It stays where a fraction or
nothing follows. -/
def behindZeros (last : Char) : List Char → Option (List Char)
  | [] => some [last]
  | c :: cs =>
    if c == '0' || c == '_' then behindZeros c cs
    else if isAsciiDigit c || c == '-' then some (c :: cs)
    else if c == '.' then some (last :: c :: cs)
    else none

def withoutZeros? : List Char → Option (List Char)
  | [] => none
  | c :: cs =>
    if c == '0' then behindZeros c cs
    else if isAsciiDigit c || c == '-' then some (c :: cs)
    else none

/-- Drops a plus sign, behind which no other sign may stand. -/
def withoutPlus? : List Char → Option (List Char)
  | '+' :: '-' :: _ => none
  | '+' :: cs => some cs
  | cs => some cs

/-- Drops a fraction of zeros. -/
def withoutFraction (cs : List Char) : List Char :=
  match cs.dropWhile (· != '.') with
  | _ :: c :: rest => if (c :: rest).all (· == '0') then cs.takeWhile (· != '.') else cs
  | _ => cs

def hasDoubleUnderscore : List Char → Bool
  | '_' :: '_' :: _ => true
  | _ :: cs => hasDoubleUnderscore cs
  | [] => false

/-- Drops underscores that stand alone and inside. -/
def withoutUnderscores (cs : List Char) : List Char :=
  if cs.head? == some '_' || cs.getLast? == some '_' || hasDoubleUnderscore cs then cs
  else cs.filter (· != '_')

/-- The strict spelling that a free one stands for, if it has one. -/
def cleaned? (cs : List Char) : Option (List Char) := do
  let digits ← withoutZeros? (← withoutPlus? (stripWhere isSpace cs))
  return withoutUnderscores (withoutFraction digits)

/-- The free spelling may also have blanks around it, a plus sign, zeros in front, single underscores between
digits, and a fraction of zeros. -/
def free (s : String) : Except Refusal Int :=
  match strict s.toList with
  | .error .malformed => match cleaned? s.toList with
    | some cs => strict cs
    | none => .error .malformed
  | r => r

end TraversalSdk.WholeText
