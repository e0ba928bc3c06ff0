import Mathlib.Algebra.Ring.Nat
import Mathlib.Order.Nat
import TraversalSdk.Number.Decimal

namespace TraversalSdk

namespace Binary64

/-- An index is below the first exponent, or it is an exponent and a fraction. -/
theorem index_cases (i : Nat) :
    i < 2 ^ 52 ∨ ∃ q f, f < 2 ^ 52 ∧ i = (q + 1) * 2 ^ 52 + f := by
  rcases Nat.lt_or_ge i (2 ^ 52) with h | h
  · exact .inl h
  · exact .inr ⟨i / 2 ^ 52 - 1, i % 2 ^ 52, Nat.mod_lt _ (by decide), by omega⟩

theorem units_small {i : Nat} (h : i < 2 ^ 52) : units i = i := if_pos h

theorem units_scaled {q f : Nat} (h : f < 2 ^ 52) :
    units ((q + 1) * 2 ^ 52 + f) = (2 ^ 52 + f) * 2 ^ q := by
  have hbig : ¬(q + 1) * 2 ^ 52 + f < 2 ^ 52 := by omega
  have hfraction : ((q + 1) * 2 ^ 52 + f) % 2 ^ 52 = f := by omega
  have hexponent : ((q + 1) * 2 ^ 52 + f) / 2 ^ 52 - 1 = q := by omega
  simp only [units, twos, Nat.pow_eq]
  rw [if_neg hbig, hfraction, hexponent]

theorem log2_scaled {q f : Nat} (h : f < 2 ^ 52) : ((2 ^ 52 + f) * 2 ^ q).log2 = q + 52 := by
  have hpow : 0 < 2 ^ q := Nat.two_pow_pos q
  rw [Nat.log2_eq_iff (Nat.mul_pos (by omega) hpow).ne', Nat.add_comm q, Nat.pow_add, Nat.add_right_comm,
    Nat.pow_add]
  exact ⟨Nat.mul_le_mul_right _ (by omega), Nat.mul_lt_mul_of_pos_right (by omega) hpow⟩

/-- A magnitude is found under its own number. -/
theorem indexBelow_units (i : Nat) : indexBelow (units i) = i := by
  rcases index_cases i with h | ⟨q, f, hf, rfl⟩
  · rw [units_small h]
    exact if_pos (show i < 2 ^ 53 by omega)
  · have hpow : 0 < 2 ^ q := Nat.two_pow_pos q
    rw [units_scaled hf]
    simp only [indexBelow, twos, Nat.pow_eq, log2_scaled hf, Nat.add_sub_cancel]
    split
    · next hlt =>
      cases q with
      | zero => omega
      | succ q =>
        have := Nat.mul_le_mul (Nat.le_add_right (2 ^ 52) f) (Nat.pow_le_pow_right
          Nat.zero_lt_two (Nat.le_add_left 1 q))
        omega
    · rw [Nat.mul_div_cancel _ hpow]
      omega

theorem units_lt_succ (i : Nat) : units i < units (i + 1) := by
  rcases index_cases i with h | ⟨q, f, hf, rfl⟩
  · rcases Nat.lt_or_ge (i + 1) (2 ^ 52) with h' | h'
    · rw [units_small h, units_small h']
      omega
    · have hfirst : units ((0 + 1) * 2 ^ 52 + 0) = (2 ^ 52 + 0) * 2 ^ 0 := units_scaled (by decide)
      rw [units_small h, show i + 1 = (0 + 1) * 2 ^ 52 + 0 by omega, hfirst]
      omega
  · have hpow : 0 < 2 ^ q := Nat.two_pow_pos q
    rcases Nat.lt_or_ge (f + 1) (2 ^ 52) with h' | h'
    · rw [units_scaled hf, Nat.add_assoc, units_scaled h']
      exact Nat.mul_lt_mul_of_pos_right (by omega) hpow
    · rw [units_scaled hf, show (q + 1) * 2 ^ 52 + f + 1 = (q + 1 + 1) * 2 ^ 52 + 0 by omega,
        units_scaled (by decide), Nat.add_comm q, Nat.pow_add, ← Nat.mul_assoc]
      exact Nat.mul_lt_mul_of_pos_right (by omega) hpow

theorem units_lt {i m : Nat} (h : i < (m + 1) * 2 ^ 52) : units i < 2 ^ 53 * 2 ^ m := by
  have hm : 0 < 2 ^ m := Nat.two_pow_pos m
  rcases index_cases i with h' | ⟨q, f, hf, rfl⟩
  · rw [units_small h']
    omega
  · have hq : 2 ^ q ≤ 2 ^ m := Nat.pow_le_pow_right (by decide) (by omega)
    rw [units_scaled hf]
    exact Nat.mul_lt_mul_of_lt_of_le (by omega) hq hm

theorem units_pos {i : Nat} (h : 0 < i) : 0 < units i := by
  obtain ⟨j, rfl⟩ := Nat.exists_eq_add_of_lt h
  exact (Nat.zero_le _).trans_lt (units_lt_succ _)

/-- A magnitude is nearest to itself. -/
theorem nearestIndex_units (i : Nat) {den : Nat} (h : 0 < den) :
    nearestIndex (units i * den) den = i := by
  have hmiddle : 2 * (units i * den) < (units i + units (i + 1)) * den := by
    rw [← Nat.mul_assoc]
    exact Nat.mul_lt_mul_of_pos_right (by have := units_lt_succ i; omega) h
  simp only [nearestIndex, Nat.mul_div_cancel _ h, indexBelow_units]
  rw [if_pos hmiddle]

/-- Nearness depends on the quotient alone. -/
theorem nearestIndex_scale (num den : Nat) {m : Nat} (h : 0 < m) :
    nearestIndex (num * m) (den * m) = nearestIndex num den := by
  simp only [nearestIndex, Nat.mul_div_mul_right _ _ h, ← Nat.mul_assoc,
    Nat.mul_lt_mul_right h]

/-- The sign takes no part in rounding. -/
theorem ofDecimal_sign (coefficient : Nat) (exponent : Int) :
    ∃ i, ∀ negative, ofDecimal negative coefficient exponent = ofIndex negative i := by
  simp only [ofDecimal]
  split
  · exact ⟨0, fun _ => rfl⟩
  split
  · exact ⟨count, fun _ => by simp [ofIndex]⟩
  cases exponent with
  | ofNat e => exact ⟨_, fun _ => rfl⟩
  | negSucc e => exact ⟨_, fun _ => rfl⟩

/-- Different numbers of a row are different values. -/
theorem ofIndex_injective {negative : Bool} {i j : Nat} (hi : i < count)
    (h : ofIndex negative j = ofIndex negative i) : j = i := by
  simp only [ofIndex, dif_pos hi] at h
  split at h
  · simpa using h
  · cases h

theorem ofDecimal_any_sign {i coefficient : Nat} {exponent : Int} (hi : i < count)
    (h : ofDecimal false coefficient exponent = ofIndex false i) (negative : Bool) :
    ofDecimal negative coefficient exponent = ofIndex negative i := by
  obtain ⟨j, hj⟩ := ofDecimal_sign coefficient exponent
  rw [hj, ofIndex_injective hi ((hj false).symm.trans h)]

end Binary64

theorem toDigits_ten_mul {n : Nat} (h : 0 < n) :
    Nat.toDigits 10 (n * 10) = Nat.toDigits 10 n ++ ['0'] := by
  have := Nat.toDigits_append_toDigits (b := 10) (d := 0) (by decide) h (by decide)
  rw [Nat.mul_comm, ← Nat.add_zero (10 * n), ← this, Nat.toDigits_zero]

theorem lt_length_toDigits_iff {k n : Nat} (h : 0 < k) :
    k < (Nat.toDigits 10 n).length ↔ 10 ^ k ≤ n := by
  rw [← Nat.not_le, Nat.length_toDigits_le_iff (by decide) h, Nat.not_lt]

theorem reverse_toDigits {n : Nat} (h : n % 10 ≠ 0) :
    (Nat.toDigits 10 n).reverse.dropWhile (· == '0') = (Nat.toDigits 10 n).reverse := by
  have hlast : ∀ d < 10, d ≠ 0 → (d.digitChar == '0') = false := by decide
  rw [Nat.toDigits_eq_if (by decide)]
  split
  · simp [hlast n (by omega) (by omega)]
  · simp [hlast (n % 10) (by omega) h]

namespace Binary64

/-- A zero at the end of a coefficient can be moved to the exponent. -/
theorem ofDecimal_ten (negative : Bool) {n : Nat} (h : 0 < n) (e : Int) :
    ofDecimal negative (n * 10) e = ofDecimal negative n (e + 1) := by
  have hsize : ((Nat.toDigits 10 (n * 10)).length : Int) + e
      = (Nat.toDigits 10 n).length + (e + 1) := by
    rw [toDigits_ten_mul h, List.length_append, List.length_singleton]
    omega
  have hzero : n * 10 = 0 ↔ n = 0 := by omega
  simp only [ofDecimal, hsize, hzero]
  split
  · rfl
  split
  · rfl
  match e with
  | .ofNat e =>
    change ofIndex negative (nearestIndex (n * 10 * tens e * _) 1)
      = ofIndex negative (nearestIndex (n * (tens e * 10) * _) 1)
    rw [Nat.mul_assoc n, Nat.mul_comm 10]
  | .negSucc 0 =>
    change ofIndex negative (nearestIndex (n * 10 * _) (1 * 10))
      = ofIndex negative (nearestIndex (n * 1 * _) 1)
    rw [Nat.mul_right_comm, nearestIndex_scale _ _ (by decide), Nat.mul_one]
  | .negSucc (e + 1) =>
    change ofIndex negative (nearestIndex (n * 10 * _) (tens (e + 1) * 10))
      = ofIndex negative (nearestIndex (n * _) (tens (e + 1)))
    rw [Nat.mul_right_comm, nearestIndex_scale _ _ (by decide)]

/-- Zeros at the end of a decimal do not change what it rounds to. -/
theorem ofDecimal_scale (negative : Bool) {n : Nat} (h : 0 < n) (k : Nat) (e : Int) :
    ofDecimal negative (n * 10 ^ k) e = ofDecimal negative n (e + k) := by
  induction k generalizing e with
  | zero => simp
  | succ k ih =>
    rw [Nat.pow_succ, ← Nat.mul_assoc, ofDecimal_ten _ (Nat.mul_pos h (Nat.pow_pos (by decide))), ih,
      Int.add_assoc, Int.add_comm 1, Int.natCast_succ]

end Binary64

/-- Dropping the zeros leaves the digits of a coefficient without them. -/
theorem Decimal.ofScaled_eq {coefficient : Nat} (h : 0 < coefficient) (e : Int) :
    ∃ n k : Nat, 0 < n ∧ coefficient = n * 10 ^ k ∧ ofScaled coefficient e =
      ⟨Nat.toDigits 10 n, (Nat.toDigits 10 n).length + (e + k)⟩ := by
  induction coefficient using Nat.strongRecOn generalizing e with
  | ind c ih =>
    by_cases hzero : c % 10 = 0
    · obtain ⟨d, rfl⟩ : ∃ d, c = d * 10 := ⟨c / 10, by omega⟩
      have hd : 0 < d := by omega
      obtain ⟨n, k, hn, heq, hscaled⟩ := ih d (by omega) hd (e + 1)
      have hsame : ofScaled (d * 10) e = ofScaled d (e + 1) := by
        simp [ofScaled, toDigits_ten_mul hd, Int.add_assoc, Int.add_comm 1]
      refine ⟨n, k + 1, hn, by rw [heq, Nat.pow_succ, Nat.mul_assoc], ?_⟩
      rw [hsame, hscaled, Int.add_assoc, Int.add_comm 1, Int.natCast_succ]
    · refine ⟨c, 0, h, by simp, ?_⟩
      simp [ofScaled, reverse_toDigits hzero]

namespace Binary64

/-- What is found on a grid of decimals rounds back. -/
theorem onGrid_readsBack {i c : Nat} {e e' : Int} (h : onGrid i e = some (c, e')) :
    readsBack i c e' = true := by
  simp only [onGrid] at h
  split at h
  · next hlow hhigh =>
    simp only [Option.some.injEq, Prod.mk.injEq] at h
    obtain ⟨rfl, rfl⟩ := h
    split
    · exact hlow
    · exact hhigh
  · next hlow _ =>
    cases h
    exact hlow
  · next _ hhigh =>
    cases h
    exact hhigh
  · cases h

theorem nearestIndex_fives (i m : Nat) :
    nearestIndex (units i * Nat.pow 5 m * twos m) (tens m) = i := by
  have htens : Nat.pow 5 m * twos m = tens m := (Nat.mul_pow 5 2 m).symm
  have hpos : 0 < tens m := Nat.pow_pos (by decide)
  rw [Nat.mul_assoc, htens, nearestIndex_units i hpos]

/-- The exact value of a magnitude, in the unit of the row, rounds to it. -/
theorem ofDecimal_exact {i : Nat} (hpos : 0 < i) (h : i < count) :
    ofDecimal false (units i * Nat.pow 5 1074) (-1074) = ofIndex false i := by
  have hcount : i < (2046 + 1) * 2 ^ 52 := h.trans_eq (by decide +kernel)
  have hlow : 10 ^ 673 ≤ units i * Nat.pow 5 1074 :=
    Nat.le_trans (by decide +kernel) (Nat.mul_le_mul_right (Nat.pow 5 1074) (units_pos hpos))
  have hhigh : units i * Nat.pow 5 1074 < 10 ^ 1474 :=
    Nat.lt_of_lt_of_le (Nat.mul_lt_mul_of_pos_right (units_lt hcount) (by decide +kernel))
      (by decide +kernel)
  -- Neither bound on sizes decides: there are between 674 and 1474 digits, and the unit has 1074 places.
  generalize hc : units i * Nat.pow 5 1074 = c at hlow hhigh
  have hmore : 673 < (Nat.toDigits 10 c).length := (lt_length_toDigits_iff (by decide)).mpr hlow
  have hless : ¬1474 < (Nat.toDigits 10 c).length :=
    (lt_length_toDigits_iff (by decide)).not.mpr (Nat.not_le.mpr hhigh)
  have hne : c ≠ 0 := by
    rintro rfl
    simp at hmore
  have hexponent : (-1074 : Int) = .negSucc 1073 := rfl
  simp only [ofDecimal]
  rw [if_neg (by omega), if_neg (by omega), hexponent]
  have hden : 1073 + 1 = 1074 := rfl
  dsimp only
  rw [← hc, hden]
  -- The powers are too large to be computed here.
  generalize 1074 = m
  rw [nearestIndex_fives]

/-- The shortest decimal of a magnitude rounds back to it. -/
theorem shortest_readsBack {i : Nat} (hpos : 0 < i) (h : i < count) :
    ofDecimal false (shortest i).1 (shortest i).2 = ofIndex false i := by
  simp only [shortest]
  cases hsome : (List.range 17).findSome? fun (n : Nat) => onGrid i (decimalPoint i - (n + 1)) with
  | none => exact ofDecimal_exact hpos h
  | some d =>
    obtain ⟨n, _, hgrid⟩ := List.exists_of_findSome?_eq_some hsome
    exact of_decide_eq_true (onGrid_readsBack hgrid)

/-- The digits of the shortest decimal are those of a number that rounds to the magnitude. -/
theorem shortest_digits {i : Nat} (hpos : 0 < i) (h : i < count) :
    ∃ (n : Nat) (e : Int), 0 < n ∧
      Decimal.ofScaled (shortest i).1 (shortest i).2 =
        ⟨Nat.toDigits 10 n, (Nat.toDigits 10 n).length + e⟩ ∧
      ∀ negative, ofDecimal negative n e = ofIndex negative i := by
  have hback := shortest_readsBack hpos h
  have hcoefficient : 0 < (shortest i).1 := by
    refine Nat.pos_of_ne_zero fun hzero => ?_
    rw [hzero] at hback
    have : 0 = i := ofIndex_injective h (by simpa [ofDecimal] using hback)
    omega
  obtain ⟨n, k, hn, heq, hscaled⟩ := Decimal.ofScaled_eq hcoefficient (shortest i).2
  rw [heq, ofDecimal_scale _ hn] at hback
  exact ⟨n, (shortest i).2 + k, hn, hscaled, ofDecimal_any_sign h hback⟩

end Binary64

end TraversalSdk
