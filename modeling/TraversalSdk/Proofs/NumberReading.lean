import Mathlib.Data.List.Basic
import Mathlib.Data.List.Induction
import TraversalSdk.Json.Reader
import TraversalSdk.Json.Writer
import TraversalSdk.Proofs.FreeNames
import TraversalSdk.Proofs.RoundedDecimals

namespace TraversalSdk.Json
open Text WholeText

theorem naturalOfDigits_eq (cs : List Char) : naturalOfDigits cs = Nat.ofDigitChars 10 cs 0 := by
  simp only [naturalOfDigits, Nat.ofDigitChars_eq_foldl, Nat.mul_comm 10]
  rfl

theorem naturalOfDigits_toDigits (n : Nat) : naturalOfDigits (Nat.toDigits 10 n) = n := by
  rw [naturalOfDigits_eq, Nat.ofDigitChars_ten_toDigits]

theorem naturalOfDigits_zeros_append (k : Nat) (cs : List Char) :
    naturalOfDigits (List.replicate k '0' ++ cs) = naturalOfDigits cs := by
  simp only [naturalOfDigits_eq, Nat.ofDigitChars_append, Nat.ofDigitChars_replicate_zero,
    Nat.mul_zero]

theorem naturalOfDigits_append_zeros (cs : List Char) (k : Nat) :
    naturalOfDigits (cs ++ List.replicate k '0') = naturalOfDigits cs * 10 ^ k := by
  simp only [naturalOfDigits_eq, Nat.ofDigitChars_append, Nat.ofDigitChars_replicate_zero]
  rw [Nat.mul_comm]

/-- Digits spell a number that is no longer than they are. -/
theorem naturalOfDigits_lt {cs : List Char} (h : ∀ c ∈ cs, isAsciiDigit c = true) :
    naturalOfDigits cs < 10 ^ cs.length := by
  induction cs using List.reverseRecOn with
  | nil => decide
  | append_singleton cs c ih =>
    have hc : c.toNat - 48 < 10 := by
      have := h c (by simp)
      simp only [isAsciiDigit, Bool.and_eq_true, decide_eq_true_eq] at this
      have hle : c.toNat ≤ 57 := this.2
      omega
    have hcs := ih fun c' hc' => h c' (by simp [hc'])
    rw [List.length_append, List.length_singleton, Nat.pow_succ]
    simp only [naturalOfDigits, List.foldl_append, List.foldl_cons, List.foldl_nil] at hcs ⊢
    omega

/-- Read digits are no more when written. -/
theorem length_toDigits_naturalOfDigits {ds : List Char} (hdigits : ∀ c ∈ ds, isAsciiDigit c = true)
    (hne : ds ≠ []) : (Nat.toDigits 10 (naturalOfDigits ds)).length ≤ ds.length :=
  (Nat.length_toDigits_le_iff (by decide) (List.length_pos_iff.mpr hne)).mpr (naturalOfDigits_lt hdigits)

theorem head?_toDigits {n : Nat} (h : 0 < n) : (Nat.toDigits 10 n).head? ≠ some '0' := by
  induction n using Nat.strongRecOn with
  | ind n ih =>
    have hdigit : ∀ d < 10, 0 < d → d.digitChar ≠ '0' := by decide
    rw [Nat.toDigits_eq_if (by decide)]
    split
    · next hlt => simpa using hdigit n hlt h
    · rw [List.head?_append, Option.or_of_isSome (List.isSome_head?.mpr Nat.toDigits_ne_nil)]
      exact ih (n / 10) (by omega) (by omega)

/-- A number text in parts. The tail is what stands behind the fraction. -/
structure Spelling where
  negative : Bool
  whole : List Char
  fraction : List Char
  tail : List Char
  exponent : Option Int
  whole_digits : ∀ c ∈ whole, isAsciiDigit c = true
  whole_ne : whole ≠ []
  no_zero_ahead : whole.head? = some '0' → whole.length = 1
  fraction_digits : ∀ c ∈ fraction, isAsciiDigit c = true
  tail_reads : exponent? tail = some exponent

namespace Spelling

def sign (negative : Bool) : List Char := if negative then ['-'] else []

def point (fraction : List Char) : List Char := if fraction = [] then [] else '.' :: fraction

def chars (s : Spelling) : List Char := sign s.negative ++ (s.whole ++ (point s.fraction ++ s.tail))

def value (s : Spelling) : Json :=
  if s.fraction.isEmpty && s.exponent.isNone then
    .int (if s.negative then -(naturalOfDigits s.whole : Int) else naturalOfDigits s.whole)
  else
    .real (.ofDecimal s.negative (naturalOfDigits (s.whole ++ s.fraction))
      (s.exponent.getD 0 - s.fraction.length))

end Spelling

/-- No tail goes on with a digit or a point. -/
theorem tail_head {tail : List Char} {exponent : Option Int} (h : exponent? tail = some exponent) :
    tail = [] ∨ ∃ c rest, tail = c :: rest ∧ (c = 'e' ∨ c = 'E') := by
  cases tail with
  | nil => exact .inl rfl
  | cons c rest =>
    refine .inr ⟨c, rest, rfl, ?_⟩
    by_contra hc
    simp [exponent?, not_or.mp hc] at h

theorem run_of_digits {ds rest : List Char} (h : ∀ c ∈ ds, isAsciiDigit c = true)
    (hrest : ∀ c ∈ rest.head?, isAsciiDigit c = false) :
    (ds ++ rest).takeWhile isAsciiDigit = ds ∧ (ds ++ rest).dropWhile isAsciiDigit = rest := by
  have hstop : rest.takeWhile isAsciiDigit = [] ∧ rest.dropWhile isAsciiDigit = rest := by
    cases rest with
    | nil => exact ⟨rfl, rfl⟩
    | cons c rest => simp [hrest c rfl]
  rw [List.takeWhile_append_of_pos h, List.dropWhile_append_of_pos h, hstop.1, hstop.2]
  simp

theorem fraction?_point {fraction tail : List Char} {exponent : Option Int}
    (h : ∀ c ∈ fraction, isAsciiDigit c = true) (htail : exponent? tail = some exponent) :
    fraction? (Spelling.point fraction ++ tail) = some (fraction, tail) := by
  have hstop : ∀ c ∈ tail.head?, isAsciiDigit c = false ∧ c ≠ '.' := by
    intro c hc
    rcases tail_head htail with rfl | ⟨c', rest, rfl, rfl | rfl⟩ <;> cases hc <;> decide
  cases fraction with
  | nil =>
    unfold fraction?
    split
    · next rest heq =>
      rw [Spelling.point, if_pos rfl, List.nil_append] at heq
      exact absurd rfl (hstop '.' (by simp [heq])).2
    · rfl
  | cons c cs =>
    obtain ⟨htake, hdrop⟩ := run_of_digits h fun c hc => (hstop c hc).1
    simp only [Spelling.point, List.cons_ne_nil, if_false, List.cons_append] at htake hdrop ⊢
    simp [fraction?, htake, hdrop]

namespace Spelling

theorem rest_head (s : Spelling) :
    ∀ c ∈ (point s.fraction ++ s.tail).head?, isAsciiDigit c = false := by
  intro c hc
  by_cases hf : s.fraction = []
  · rcases tail_head s.tail_reads with ht | ⟨c', rest, ht, rfl | rfl⟩ <;>
      simp [point, hf, ht] at hc <;> subst hc <;> decide
  · simp [point, hf] at hc
    subst hc
    decide

theorem sign_read (s : Spelling) : (s.chars.head? == some '-') = s.negative ∧
    (if s.negative then s.chars.tail else s.chars) = s.whole ++ (point s.fraction ++ s.tail) := by
  cases hs : s.negative with
  | true => simp [chars, sign, hs]
  | false =>
    obtain ⟨c, cs, hw⟩ := List.exists_cons_of_ne_nil s.whole_ne
    have hc : c ≠ '-' := by
      rintro rfl
      exact absurd (s.whole_digits '-' (by simp [hw])) (by decide)
    simp [chars, sign, hs, hw, hc]

/-- A number is read from the text of its parts, if its whole part is not too long. -/
theorem number?_chars (s : Spelling) {limits : Limits} (h : s.whole.length ≤ limits.digits) :
    number? limits s.chars = some s.value := by
  obtain ⟨hnegative, hunsigned⟩ := s.sign_read
  obtain ⟨hwhole, hrest⟩ := run_of_digits s.whole_digits s.rest_head
  have hempty : s.whole.isEmpty = false := by simpa using s.whole_ne
  have hzero : (s.whole.head? == some '0' && decide (s.whole.length ≠ 1)) = false := by
    simpa using s.no_zero_ahead
  have hlimit : decide (limits.digits < s.whole.length) = false := by simpa using h
  simp only [number?, hnegative, hunsigned, hwhole, hrest, hempty, hzero, hlimit, Bool.false_or,
    fraction?_point s.fraction_digits s.tail_reads, Option.bind_eq_bind, Option.bind_some,
    s.tail_reads, Bool.false_eq_true, if_false, value]
  split <;> rfl

end Spelling

/-- What follows the point, in parts. -/
theorem fraction?_eq_some {cs fraction tail : List Char} (h : fraction? cs = some (fraction, tail)) :
    cs = Spelling.point fraction ++ tail ∧ ∀ c ∈ fraction, isAsciiDigit c = true := by
  unfold fraction? at h
  split at h
  · next rest =>
    simp only at h
    split at h
    · cases h
    · next hne =>
      cases h
      refine ⟨?_, fun c hc => List.all_eq_true.mp List.all_takeWhile c hc⟩
      rw [Spelling.point, if_neg (by simpa using hne)]
      simp
  · cases h
    exact ⟨rfl, nofun⟩

/-- A text that is read as a number has a sign, digits, a fraction and an exponent. -/
theorem spelling_of_number? {limits : Limits} {cs : List Char} {v : Json}
    (h : number? limits cs = some v) :
    ∃ s : Spelling, s.chars = cs ∧ s.value = v ∧ s.whole.length ≤ limits.digits := by
  simp only [number?] at h
  generalize hnegative : (cs.head? == some '-') = negative at h
  generalize hunsigned : (if negative = true then cs.tail else cs) = unsigned at h
  have hcs : cs = Spelling.sign negative ++ unsigned := by
    cases negative with
    | false => exact hunsigned
    | true =>
      obtain ⟨rest, rfl⟩ : ∃ rest, cs = '-' :: rest :=
        List.head?_eq_some_iff.mp (eq_of_beq hnegative)
      rw [← hunsigned]
      rfl
  split at h
  · cases h
  · next hrefused =>
    simp only [Bool.or_eq_true, Bool.and_eq_true, decide_eq_true_eq, List.isEmpty_iff, beq_iff_eq,
      not_or, not_and, Decidable.not_not, Nat.not_lt] at hrefused
    obtain ⟨⟨hne, hzero⟩, hlimit⟩ := hrefused
    obtain ⟨⟨fraction, tail⟩, hfraction, h⟩ := Option.bind_eq_some_iff.mp h
    obtain ⟨exponent, hexponent, h⟩ := Option.bind_eq_some_iff.mp h
    obtain ⟨hrest, hdigits⟩ := fraction?_eq_some hfraction
    refine ⟨⟨negative, unsigned.takeWhile isAsciiDigit, fraction, tail, exponent,
      List.all_eq_true.mp List.all_takeWhile, hne, hzero, hdigits, hexponent⟩, ?_, ?_, hlimit⟩
    · rw [Spelling.chars, ← hrest, List.takeWhile_append_dropWhile, ← hcs]
    · by_cases hint : (fraction.isEmpty && exponent.isNone) = true
      · rw [if_pos hint] at h
        exact (if_pos hint).trans (Option.some.inj h)
      · rw [if_neg hint] at h
        exact (if_neg hint).trans (Option.some.inj h)

theorem Spelling.value_eq_real {s : Spelling} (h : s.fraction ≠ [] ∨ s.exponent ≠ none) :
    s.value = .real (.ofDecimal s.negative (naturalOfDigits (s.whole ++ s.fraction))
      (s.exponent.getD 0 - s.fraction.length)) :=
  if_neg (by simpa [Decidable.imp_iff_not_or] using h)

theorem digits_toDigits (n : Nat) : ∀ c ∈ Nat.toDigits 10 n, isAsciiDigit c = true :=
  fun _ hc => Naming.isAsciiDigit_decimal hc

theorem no_zero_ahead_toDigits {n : Nat} (h : (Nat.toDigits 10 n).head? = some '0') :
    (Nat.toDigits 10 n).length = 1 := by
  rcases Nat.eq_zero_or_pos n with rfl | hpos
  · rfl
  · exact absurd h (head?_toDigits hpos)

theorem toList_intText (n : Int) :
    (intText n).toList = Spelling.sign (n < 0) ++ Nat.toDigits 10 n.natAbs := by
  cases n with
  | ofNat n =>
    change (Nat.repr n).toList = _
    simp [Spelling.sign]
  | negSucc n =>
    change ("-" ++ Nat.repr (n + 1)).toList = _
    simp [Spelling.sign, Int.negSucc_lt_zero]

def Spelling.ofInt (n : Int) : Spelling where
  negative := n < 0
  whole := Nat.toDigits 10 n.natAbs
  fraction := []
  tail := []
  exponent := none
  whole_digits := digits_toDigits _
  whole_ne := Nat.toDigits_ne_nil
  no_zero_ahead := no_zero_ahead_toDigits
  fraction_digits := nofun
  tail_reads := rfl

theorem chars_ofInt (n : Int) : (Spelling.ofInt n).chars = (intText n).toList := by
  simp [toList_intText, Spelling.chars, Spelling.ofInt, Spelling.point]

/-- A whole number is read from its own text. -/
theorem number?_intText {limits : Limits} {n : Int}
    (h : (Nat.toDigits 10 n.natAbs).length ≤ limits.digits) :
    number? limits (intText n).toList = some (.int n) := by
  have hvalue : (Spelling.ofInt n).value = .int n := by
    simp only [Spelling.value, Spelling.ofInt, naturalOfDigits_toDigits, decide_eq_true_eq,
      List.isEmpty_nil, Option.isNone_none, Bool.and_self, if_true]
    split
    · next hn => rw [Int.ofNat_natAbs_of_nonpos (Int.le_of_lt hn), Int.neg_neg]
    · next hn => rw [Int.natAbs_of_nonneg (Int.not_lt.mp hn)]
  rw [← chars_ofInt, (Spelling.ofInt n).number?_chars h, hvalue]

theorem toList_exponent (e : Int) : (documentDecimal.exponent e).toList =
    'e' :: (if e < 0 then '-' else '+') :: Nat.toDigits 10 e.natAbs := by
  have hwidth : 1 - (Nat.toDigits 10 e.natAbs).length = 0 := by
    have := Nat.length_toDigits_pos (b := 10) (n := e.natAbs)
    omega
  simp only [DecimalStyle.exponent, documentDecimal, hwidth]
  split <;> simp

theorem exponent?_sign {ds : List Char} (hne : ds ≠ []) (h : ∀ c ∈ ds, isAsciiDigit c = true) :
    exponent? ('e' :: '-' :: ds) = some (some (-(naturalOfDigits ds : Int))) ∧
      exponent? ('e' :: '+' :: ds) = some (some (naturalOfDigits ds : Int)) := by
  have hall : ds.all isAsciiDigit = true := List.all_eq_true.mpr h
  constructor <;> simp [exponent?, hne, hall]

/-- An exponent is read from its own text. -/
theorem exponent?_text (e : Int) :
    exponent? (documentDecimal.exponent e).toList = some (some e) := by
  obtain ⟨hminus, hplus⟩ := exponent?_sign Nat.toDigits_ne_nil (digits_toDigits e.natAbs)
  rw [naturalOfDigits_toDigits] at hminus hplus
  rw [toList_exponent]
  split
  · next h => rw [hminus, Int.ofNat_natAbs_of_nonpos (Int.le_of_lt h), Int.neg_neg]
  · next h => rw [hplus, Int.natAbs_of_nonneg (Int.not_lt.mp h)]

/-- Behind a sign, the text is that of a spelling with the value of a decimal. -/
def SpellsDecimal (cs : List Char) (negative : Bool) (n : Nat) (e : Int) : Prop :=
  ∃ s : Spelling, s.chars = Spelling.sign negative ++ cs ∧
    s.value = .real (.ofDecimal negative n e) ∧ s.whole.length ≤ 16

section
variable {negative : Bool} {n : Nat} {e : Int}

/-- A text with digits, a fraction and an exponent spells the decimal of these parts. -/
theorem spellsDecimal_of_parts {whole fraction tail : List Char} {exponent : Option Int}
    (hdigits : ∀ c ∈ whole ++ fraction, isAsciiDigit c = true) (hne : whole ≠ [])
    (hzero : whole.head? = some '0' → whole.length = 1) (htail : exponent? tail = some exponent)
    (hreal : fraction ≠ [] ∨ exponent ≠ none) (hlength : whole.length ≤ 16)
    (hvalue : Binary64.ofDecimal negative (naturalOfDigits (whole ++ fraction))
      (exponent.getD 0 - fraction.length) = .ofDecimal negative n e) :
    SpellsDecimal (whole ++ (Spelling.point fraction ++ tail)) negative n e :=
  ⟨⟨negative, whole, fraction, tail, exponent, fun c hc => hdigits c (List.mem_append_left _ hc), hne,
    hzero, fun c hc => hdigits c (List.mem_append_right _ hc), htail⟩, rfl,
    (Spelling.value_eq_real hreal).trans (congrArg Json.real hvalue), hlength⟩

theorem digits_zeros (k : Nat) : ∀ c ∈ List.replicate k '0', isAsciiDigit c = true := by
  intro c hc
  rw [List.eq_of_mem_replicate hc]
  decide

/-- Numbers below one, in positions. -/
theorem spellsDecimal_below {k : Nat} (hk : (Nat.toDigits 10 n).length + e = -k) :
    SpellsDecimal ("0.".toList ++ List.replicate k '0' ++ Nat.toDigits 10 n) negative n e := by
  have hzeros : ['0'] ++ (List.replicate k '0' ++ Nat.toDigits 10 n)
      = List.replicate (k + 1) '0' ++ Nat.toDigits 10 n := rfl
  have hfraction : List.replicate k '0' ++ Nat.toDigits 10 n ≠ [] := by simp
  have hparts : SpellsDecimal
      (['0'] ++ (Spelling.point (List.replicate k '0' ++ Nat.toDigits 10 n) ++ [])) negative n e := by
    refine spellsDecimal_of_parts ?_ (by simp) (fun _ => rfl) rfl (.inl hfraction) (by simp) ?_
    · rw [hzeros]
      exact List.forall_mem_append.mpr ⟨digits_zeros _, digits_toDigits n⟩
    · simp only [hzeros, naturalOfDigits_zeros_append, naturalOfDigits_toDigits, Option.getD_none,
        List.length_append, List.length_replicate]
      congr 1
      omega
  simpa [Spelling.point] using hparts

/-- Numbers with digits on both sides of the point. -/
theorem spellsDecimal_around {k : Nat} (hn : 0 < n) (hk : (Nat.toDigits 10 n).length + e = k)
    (hpos : 0 < k) (hlt : k < (Nat.toDigits 10 n).length) (hle : k ≤ 16) :
    SpellsDecimal ((Nat.toDigits 10 n).take k ++ '.' :: (Nat.toDigits 10 n).drop k) negative n e := by
  have hfraction : (Nat.toDigits 10 n).drop k ≠ [] := by simpa using hlt
  have hparts : SpellsDecimal ((Nat.toDigits 10 n).take k
      ++ (Spelling.point ((Nat.toDigits 10 n).drop k) ++ [])) negative n e := by
    refine spellsDecimal_of_parts ?_ ?_ ?_ rfl (.inl hfraction) ?_ ?_
    · rw [List.take_append_drop]
      exact digits_toDigits n
    · simpa using hpos.ne'
    · rw [List.head?_take, if_neg hpos.ne']
      exact fun h => absurd h (head?_toDigits hn)
    · rw [List.length_take]
      exact (Nat.min_le_left _ _).trans hle
    · rw [List.take_append_drop, naturalOfDigits_toDigits, List.length_drop, Option.getD_none]
      congr 1
      omega
  simpa [Spelling.point, hfraction] using hparts

/-- Whole numbers, with zeros up to the point. -/
theorem spellsDecimal_whole {k : Nat} (hn : 0 < n)
    (hk : (Nat.toDigits 10 n).length + e = (Nat.toDigits 10 n).length + k)
    (hle : (Nat.toDigits 10 n).length + k ≤ 16) :
    SpellsDecimal (Nat.toDigits 10 n ++ List.replicate k '0' ++ ['.', '0']) negative n e := by
  have hzeros : Nat.toDigits 10 n ++ List.replicate k '0' ++ ['0']
      = Nat.toDigits 10 n ++ List.replicate (k + 1) '0' := by
    rw [List.append_assoc, List.replicate_succ']
  have hparts : SpellsDecimal ((Nat.toDigits 10 n ++ List.replicate k '0')
      ++ (Spelling.point ['0'] ++ [])) negative n e := by
    refine spellsDecimal_of_parts ?_ (by simp) ?_ rfl (.inl (by simp)) (by simpa using hle) ?_
    · rw [hzeros]
      exact List.forall_mem_append.mpr ⟨digits_toDigits n, digits_zeros _⟩
    · rw [List.head?_append, Option.or_of_isSome (List.isSome_head?.mpr Nat.toDigits_ne_nil)]
      exact fun h => absurd h (head?_toDigits hn)
    · rw [hzeros, naturalOfDigits_append_zeros, naturalOfDigits_toDigits,
        Binary64.ofDecimal_scale _ hn, Option.getD_none, List.length_singleton]
      congr 1
      omega
  simpa [Spelling.point] using hparts

/-- Numbers with an exponent. -/
theorem spellsDecimal_scientific {c : Char} {cs : List Char} (h : Nat.toDigits 10 n = c :: cs) {p : Int}
    (hp : (Nat.toDigits 10 n).length + e = p) :
    SpellsDecimal ([c] ++ (Spelling.point cs ++ (documentDecimal.exponent (p - 1)).toList))
      negative n e := by
  have hsplit : [c] ++ cs = Nat.toDigits 10 n := h.symm
  refine spellsDecimal_of_parts ?_ (by simp) (fun _ => rfl) (exponent?_text _) (.inr (by simp))
    (by simp) ?_
  · rw [hsplit]
    exact digits_toDigits n
  · rw [hsplit, naturalOfDigits_toDigits, Option.getD_some]
    rw [h, List.length_cons] at hp
    congr 1
    omega

/-- A decimal far from one is written with an exponent. -/
theorem toList_decimal_of_exponent {ds : List Char} {p : Int} {c : Char} {cs : List Char}
    (hds : ds = c :: cs) (hp : ¬(-4 ≤ p ∧ p ≤ 16)) : (documentDecimal.decimal ⟨ds, p⟩).toList =
      [c] ++ (Spelling.point cs ++ (documentDecimal.exponent (p - 1)).toList) := by
  subst hds
  have hp' : ¬(documentDecimal.least ≤ p ∧ p ≤ documentDecimal.greatest) := hp
  simp only [DecimalStyle.decimal, if_neg hp', String.toList_append, String.toList_ofList]
  cases cs with
  | nil => rfl
  | cons c' cs => rfl

/-- All ways to set a decimal spell it. -/
theorem spellsDecimal_text (hn : 0 < n) : SpellsDecimal
    (documentDecimal.decimal ⟨Nat.toDigits 10 n, (Nat.toDigits 10 n).length + e⟩).toList negative n e := by
  generalize hp : (Nat.toDigits 10 n).length + e = p
  by_cases hplaces : -4 ≤ p ∧ p ≤ 16
  · have hplaces' : documentDecimal.least ≤ p ∧ p ≤ documentDecimal.greatest := hplaces
    simp only [DecimalStyle.decimal, if_pos hplaces']
    split
    · next hneg =>
      rw [String.toList_ofList]
      exact spellsDecimal_below (by omega)
    · next hpos =>
      obtain ⟨k, rfl⟩ := Int.eq_ofNat_of_zero_le (Int.le_of_lt (Int.not_le.mp hpos))
      rw [String.toList_ofList, Int.toNat_natCast]
      rcases Nat.lt_or_ge k (Nat.toDigits 10 n).length with hlt | hge
      · have hdrop : ((Nat.toDigits 10 n).drop k).isEmpty = false := by simpa using hlt
        have hzeros : k - ((Nat.toDigits 10 n).take k).length = 0 := by
          rw [List.length_take]
          omega
        rw [hdrop, hzeros]
        simpa using spellsDecimal_around hn hp (by omega) hlt (by omega)
      · obtain ⟨m, rfl⟩ := Nat.exists_eq_add_of_le hge
        rw [List.take_of_length_le (by omega), List.drop_of_length_le (by omega),
          Nat.add_sub_cancel_left]
        exact spellsDecimal_whole hn hp (by omega)
  · obtain ⟨c, cs, hds⟩ := List.exists_cons_of_ne_nil (Nat.toDigits_ne_nil (n := n) (b := 10))
    rw [toList_decimal_of_exponent hds hplaces]
    exact spellsDecimal_scientific hds hp

theorem spellsDecimal_zero : SpellsDecimal "0.0".toList negative 0 0 :=
  show SpellsDecimal (['0'] ++ (Spelling.point ['0'] ++ [])) negative 0 0 from
    spellsDecimal_of_parts (List.forall_mem_append.mpr ⟨digits_zeros 1, digits_zeros 1⟩) (by simp)
      (fun _ => rfl) rfl (.inl (by simp)) (by simp) rfl

end

/-- The text of a finite number is a spelling of it. -/
theorem spelling_finite (negative : Bool) (i : Fin Binary64.count) :
    ∃ s : Spelling, s.chars = (documentDecimal.text (.finite negative i)).toList ∧
      s.value = .real (.finite negative i) ∧ s.whole.length ≤ 16 := by
  have hindex : Binary64.ofIndex negative i = .finite negative i := dif_pos i.isLt
  have hsign : (if negative then "-" else "" : String).toList = Spelling.sign negative := by
    cases negative <;> rfl
  by_cases hzero : i.val = 0
  · have hspells : SpellsDecimal "0.0".toList negative 0 0 := spellsDecimal_zero
    obtain ⟨s, hchars, hvalue, hlength⟩ := hspells
    refine ⟨s, ?_, hvalue.trans ?_, hlength⟩
    · simp only [DecimalStyle.text, if_pos hzero, String.toList_append, hsign, hchars]
    · rw [← hindex, hzero]
      rfl
  · obtain ⟨n, e, hn, hdigits, hround⟩ := Binary64.shortest_digits (Nat.pos_of_ne_zero hzero) i.isLt
    have hspells : SpellsDecimal _ negative n e := spellsDecimal_text hn
    obtain ⟨s, hchars, hvalue, hlength⟩ := hspells
    refine ⟨s, ?_, ?_, hlength⟩
    · simp only [DecimalStyle.text, if_neg hzero, hdigits, String.toList_append, hsign, hchars]
    · rw [hvalue, hround, hindex]

theorem isWordChar_digit {c : Char} (h : isAsciiDigit c = true) : Lexer.isWordChar c = true := by
  have := Naming.nameChar_rec (P := fun c => !isAsciiDigit c || Lexer.isWordChar c)
    (by decide) (Naming.isNameChar_digit h)
  simpa [h] using this

theorem isWordChar_tail {tail : List Char} {exponent : Option Int}
    (h : exponent? tail = some exponent) : ∀ c ∈ tail, Lexer.isWordChar c = true := by
  rcases tail_head h with rfl | ⟨e, rest, rfl, he⟩
  · exact nofun
  have hletter : (e == 'e' || e == 'E') = true := by simpa using he
  simp only [exponent?, if_pos hletter] at h
  generalize hds : (if (rest.head? == some '-' || rest.head? == some '+') = true then rest.tail
    else rest) = ds at h
  have hall : ∀ c ∈ ds, isAsciiDigit c = true := by
    by_contra hall
    simp [hall] at h
  have hrest : ∀ c ∈ rest, Lexer.isWordChar c = true := by
    split at hds
    · next hsign =>
      cases rest with
      | nil => exact nofun
      | cons sign rest =>
        subst hds
        intro c hc
        rcases List.mem_cons.mp hc with rfl | hc
        · simp only [List.head?_cons, Bool.or_eq_true, beq_iff_eq, Option.some.injEq] at hsign
          rcases hsign with rfl | rfl <;> decide
        · exact isWordChar_digit (hall c hc)
    · subst hds
      exact fun c hc => isWordChar_digit (hall c hc)
  intro c hc
  rcases List.mem_cons.mp hc with rfl | hc
  · rcases he with rfl | rfl <;> decide
  · exact hrest c hc

theorem Spelling.chars_ne_nil (s : Spelling) : s.chars ≠ [] := by
  simp [chars, s.whole_ne]

/-- A number is one word. -/
theorem Spelling.isWordChar_chars (s : Spelling) : ∀ c ∈ s.chars, Lexer.isWordChar c = true := by
  intro c hc
  simp only [chars, List.mem_append] at hc
  rcases hc with hc | hc | hc | hc
  · unfold sign at hc
    split at hc
    · rw [List.mem_singleton.mp hc]
      decide
    · cases hc
  · exact isWordChar_digit (s.whole_digits c hc)
  · unfold point at hc
    split at hc
    · cases hc
    rcases List.mem_cons.mp hc with rfl | hc
    · decide
    · exact isWordChar_digit (s.fraction_digits c hc)
  · exact isWordChar_tail s.tail_reads c hc

end TraversalSdk.Json
