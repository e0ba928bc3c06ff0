import Mathlib.Data.List.DropRight
import TraversalSdk.Text.Letter
import TraversalSdk.Text.Blank

namespace TraversalSdk.Text

namespace CharRun

variable (r : CharRun)

def low : Nat := (r.first + r.shift).toNat

def high : Nat := (r.last + r.shift).toNat

def misses (q : CharRun) : Bool :=
  q.last < r.low || r.high < q.first
    || ((r.stride == 2 || r.first == r.last) && q.stride == 2 && (r.low + q.first) % 2 == 1)

def avoids (range : Nat × Nat) : Bool := r.high < range.1 || range.2 < r.low

variable {r} {n : Nat}

theorem has_iff : r.has n = true ↔ (r.first ≤ n ∧ n ≤ r.last) ∧ (n - r.first) % r.stride = 0 := by
  simp [has]

/-- What a run leads to lies between its two ends. -/
theorem shift_between (h : r.has n = true) :
    r.low ≤ ((n : Int) + r.shift).toNat ∧ ((n : Int) + r.shift).toNat ≤ r.high := by
  obtain ⟨⟨hfirst, hlast⟩, -⟩ := has_iff.mp h
  unfold low high
  omega

end CharRun

def unsettled : List (Nat × Nat) := [
  (9, 13), (0x1C, 0x20), (0x41, 0x5A), (0x85, 0x85), (0xA0, 0xA0), (0x130, 0x130), (0x3A3, 0x3A3),
  (0x1680, 0x1680), (0x2000, 0x200A), (0x2028, 0x2029), (0x202F, 0x202F), (0x205F, 0x205F), (0x3000, 0x3000)]

-- the two checks are of Boolean tests, which the kernel evaluates faster than instances for bounded statements
/-- What the table of shifts leads to is not itself shifted; this is checked run by run. -/
theorem lowerShifts_misses : ∀ r ∈ lowerShifts, ∀ q ∈ lowerShifts, r.misses q = true := by
  have hall : lowerShifts.all (fun r => lowerShifts.all r.misses) = true := by decide +kernel
  exact fun r hr => List.all_eq_true.mp (List.all_eq_true.mp hall r hr)

/-- The table of shifts leads neither to blanks nor to capital letters. -/
theorem lowerShifts_avoids : ∀ r ∈ lowerShifts, 0 ≤ (r.first : Int) + r.shift ∧
    ∀ range ∈ unsettled, r.avoids range = true := by
  have hall : lowerShifts.all (fun r => decide (0 ≤ (r.first : Int) + r.shift) && unsettled.all r.avoids) = true := by
    decide +kernel
  intro r hr
  have h := Bool.and_eq_true_iff.mp (List.all_eq_true.mp hall r hr)
  exact ⟨of_decide_eq_true h.1, List.all_eq_true.mp h.2⟩

/-- A code point that a run leads to is in no run. -/
theorem not_has_of_shift {r q : CharRun} (hr : r ∈ lowerShifts) (hq : q ∈ lowerShifts) {n : Nat} (hn : r.has n = true) :
    q.has ((n : Int) + r.shift).toNat = false := by
  have hmiss : (q.last < r.low ∨ r.high < q.first) ∨
      ((r.stride = 2 ∨ r.first = r.last) ∧ q.stride = 2) ∧ (r.low + q.first) % 2 = 1 := by
    simpa [CharRun.misses] using lowerShifts_misses r hr q hq
  obtain ⟨hlow, hhigh⟩ := CharRun.shift_between hn
  apply Bool.eq_false_iff.mpr
  intro hhas
  obtain ⟨⟨hfirst, hlast⟩, hstep⟩ := CharRun.has_iff.mp hhas
  rcases hmiss with (hbelow | habove) | ⟨⟨hturn, hstride⟩, hparity⟩
  · omega
  · omega
  · -- one run leads to every second code point, and the other one lists those in between
    have hsign := (lowerShifts_avoids r hr).1
    have hstart : r.low = ((r.first : Int) + r.shift).toNat := rfl
    obtain ⟨⟨hfirst', hlast'⟩, hstep'⟩ := CharRun.has_iff.mp hn
    rw [hstride] at hstep
    rcases hturn with htwo | hone
    · rw [htwo] at hstep'
      omega
    · omega

/-- A character that is in lower case, wherever it stands. -/
structure Settled (c : Char) : Prop where
  lowerChar : lowerChar c = [c]
  ne_sigma : c ≠ 'Σ'

theorem settled_ascii {c : Char} (hc : isAscii c = true) (h : ¬ (0x41 ≤ c.toNat ∧ c.toNat ≤ 0x5A)) : Settled c where
  lowerChar := by
    have hcapital : ¬ ('A' ≤ c ∧ c ≤ 'Z') := h
    simp [Text.lowerChar, hc, asciiLower, hcapital]
  ne_sigma := by
    rintro rfl
    exact absurd hc (by decide)

theorem settled_of_not_has {c : Char} (hc : isAscii c = false) (hdotted : c ≠ 'İ') (hsigma : c ≠ 'Σ')
    (h : ∀ q ∈ lowerShifts, q.has c.toNat = false) : Settled c where
  lowerChar := by
    have hnone : lowerShifts.find? (·.has c.toNat) = none :=
      List.find?_eq_none.mpr fun q hq => by simp [h q hq]
    simp [Text.lowerChar, hc, hdotted, shifted, hnone]
  ne_sigma := hsigma

theorem inRanges_of_isBlank {c : Char} (h : isBlank c = true) : inRanges unsettled c = true := by
  simp only [isBlank, isSpace, Bool.or_eq_true, Bool.and_eq_true, decide_eq_true_eq, beq_iff_eq] at h
  simp only [inRanges, unsettled, List.any_cons, List.any_nil, Bool.or_eq_true, Bool.and_eq_true, decide_eq_true_eq,
    Bool.false_eq_true]
  omega

/-- A character that is neither a blank nor a capital and that no run shifts is in lower case. -/
theorem settled_of_outside {c : Char} (h : inRanges unsettled c = false)
    (hruns : ∀ q ∈ lowerShifts, q.has c.toNat = false) : Settled c := by
  by_cases hc : isAscii c = true
  · refine settled_ascii hc fun hcapital => ?_
    rw [inRanges, List.any_eq_false] at h
    exact h (0x41, 0x5A) (by simp [unsettled]) (by simpa using hcapital)
  · refine settled_of_not_has (Bool.eq_false_iff.mpr hc) ?_ ?_ hruns
    · rintro rfl
      exact absurd h (by decide)
    · rintro rfl
      exact absurd h (by decide)

/-- A run leads to characters in lower case that are no blanks. -/
theorem settled_shift {r : CharRun} (hr : r ∈ lowerShifts) {c : Char} (hc : r.has c.toNat = true) :
    Settled (Char.ofNat ((c.toNat : Int) + r.shift).toNat) ∧
      isBlank (Char.ofNat ((c.toNat : Int) + r.shift).toNat) = false := by
  generalize hn : ((c.toNat : Int) + r.shift).toNat = n
  by_cases hvalid : n.isValidChar
  · have htoNat : (Char.ofNat n).toNat = n := by
      rw [Char.ofNat, dif_pos hvalid]
      rfl
    have houtside : inRanges unsettled (Char.ofNat n) = false := by
      rw [inRanges, List.any_eq_false, htoNat, ← hn]
      intro range hrange
      have havoid : r.high < range.1 ∨ range.2 < r.low := by
        simpa [CharRun.avoids] using (lowerShifts_avoids r hr).2 range hrange
      obtain ⟨hlow, hhigh⟩ := CharRun.shift_between hc
      simp only [Bool.and_eq_true, decide_eq_true_eq]
      omega
    refine ⟨settled_of_outside houtside fun q hq => ?_, ?_⟩
    · rw [htoNat, ← hn]
      exact not_has_of_shift hr hq hc
    · exact Bool.eq_false_iff.mpr fun hblank => by simp [inRanges_of_isBlank hblank] at houtside
  · have hnull : Char.ofNat n = '\x00' := by
      rw [Char.ofNat, dif_neg hvalid]
      rfl
    rw [hnull]
    exact ⟨settled_ascii (by decide) (by decide), by decide⟩

/-- What holds of the ASCII characters one by one holds of every ASCII character. -/
theorem ascii_rec {P : Char → Prop} [DecidablePred P] (h : ∀ n ∈ List.range 128, P (Char.ofNat n)) {c : Char}
    (hc : isAscii c = true) : P c := by
  have hn : c.toNat < 128 := by simpa [isAscii] using hc
  have hP := h c.toNat (List.mem_range.mpr hn)
  rwa [Char.ofNat_toNat] at hP

/-- Lower case is that of ASCII, or that of the dotted capital, or where a run leads, or the character itself. -/
theorem mem_lowerChar_cases {c d : Char} (h : d ∈ lowerChar c) :
    (isAscii c = true ∧ d = asciiLower c) ∨ (d = 'i' ∨ d = '\u0307') ∨
    (∃ r ∈ lowerShifts, r.has c.toNat = true ∧ d = Char.ofNat ((c.toNat : Int) + r.shift).toNat) ∨
    (isAscii c = false ∧ c ≠ 'İ' ∧ (∀ r ∈ lowerShifts, r.has c.toNat = false) ∧ d = c) := by
  rw [lowerChar] at h
  split_ifs at h with hascii hdotted
  · exact .inl ⟨hascii, List.mem_singleton.mp h⟩
  · exact .inr (.inl (List.mem_pair.mp h))
  · rw [shifted, List.mem_singleton] at h
    split at h
    · next r hr =>
      have hhas : r.has c.toNat = true := by simpa using List.find?_some hr
      exact .inr (.inr (.inl ⟨r, List.mem_of_find?_eq_some hr, hhas, h⟩))
    · next hnone =>
      refine .inr (.inr (.inr ⟨Bool.eq_false_iff.mpr hascii, by simpa using hdotted, fun r hr => ?_, h⟩))
      simpa using List.find?_eq_none.mp hnone r hr

/-- Lower case is in lower case. -/
theorem settled_of_mem_lowerChar {c d : Char} (hc : c ≠ 'Σ') (h : d ∈ lowerChar c) : Settled d := by
  rcases mem_lowerChar_cases h with ⟨hascii, rfl⟩ | (rfl | rfl) | ⟨r, hr, hhas, rfl⟩ | ⟨hascii, hdotted, hruns, rfl⟩
  · have hlower := ascii_rec (P := fun c => isAscii (asciiLower c) = true ∧
      ¬ (0x41 ≤ (asciiLower c).toNat ∧ (asciiLower c).toNat ≤ 0x5A)) (by decide +kernel) hascii
    exact settled_ascii hlower.1 hlower.2
  · exact settled_ascii (by decide) (by decide)
  · exact ⟨by decide +kernel, by decide⟩
  · exact (settled_shift hr hhas).1
  · exact settled_of_not_has hascii hdotted hc hruns

/-- Lower case of what is no blank is no blank. -/
theorem not_isBlank_of_mem_lowerChar {c d : Char} (hc : isBlank c = false) (h : d ∈ lowerChar c) :
    isBlank d = false := by
  rcases mem_lowerChar_cases h with ⟨hascii, rfl⟩ | (rfl | rfl) | ⟨r, hr, hhas, rfl⟩ | ⟨_, _, _, rfl⟩
  · exact ascii_rec (P := fun c => isBlank c = false → isBlank (asciiLower c) = false) (by decide +kernel) hascii hc
  · decide
  · decide
  · exact (settled_shift hr hhas).2
  · exact hc

theorem lowerChar_ne_nil (c : Char) : lowerChar c ≠ [] := by
  rw [lowerChar]
  split_ifs <;> simp

/-- What one character of a text becomes. -/
theorem lowerAfter_cons (before : List Char) (c : Char) (rest : List Char) :
    ∃ chunk, lowerAfter before (c :: rest) = chunk ++ lowerAfter (c :: before) rest ∧ chunk ≠ [] ∧
      (∀ d ∈ chunk, Settled d) ∧ (isBlank c = false → ∀ d ∈ chunk, isBlank d = false) := by
  by_cases hc : c = 'Σ'
  · have hforms : ∀ d ∈ [if endsWord before rest then 'ς' else 'σ'], d = 'ς' ∨ d = 'σ' := by
      intro d hd
      rw [List.mem_singleton.mp hd]
      split <;> simp
    refine ⟨_, by rw [lowerAfter, if_pos (by simpa using hc)], List.cons_ne_nil _ _, fun d hd => ?_, fun _ d hd => ?_⟩
    · rcases hforms d hd with rfl | rfl
      · exact ⟨by decide +kernel, by decide⟩
      · exact ⟨by decide +kernel, by decide⟩
    · rcases hforms d hd with rfl | rfl <;> decide
  · exact ⟨_, by rw [lowerAfter, if_neg (by simpa using hc)], lowerChar_ne_nil c,
      fun d => settled_of_mem_lowerChar hc, fun hblank d => not_isBlank_of_mem_lowerChar hblank⟩

/-- Every character of a text in lower case is. -/
theorem settled_lowerAfter (before cs : List Char) : ∀ d ∈ lowerAfter before cs, Settled d := by
  induction cs generalizing before with
  | nil => simp [lowerAfter]
  | cons c rest ih =>
    obtain ⟨chunk, heq, -, hsettled, -⟩ := lowerAfter_cons before c rest
    intro d hd
    rw [heq] at hd
    rcases List.mem_append.mp hd with hd | hd
    · exact hsettled d hd
    · exact ih _ d hd

theorem lowerAfter_of_settled {cs : List Char} (h : ∀ c ∈ cs, Settled c) (before : List Char) :
    lowerAfter before cs = cs := by
  induction cs generalizing before with
  | nil => rfl
  | cons c rest ih =>
    have hc := h c List.mem_cons_self
    rw [lowerAfter, if_neg (by simpa using hc.ne_sigma), hc.lowerChar,
      ih (fun d hd => h d (List.mem_cons_of_mem _ hd))]
    rfl

/-- A text in lower case stays as it is when it is lowered again. -/
@[simp]
theorem lower_lower (cs : List Char) : lower (lower cs) = lower cs :=
  lowerAfter_of_settled (settled_lowerAfter [] cs) []

structure Stripped (cs : List Char) : Prop where
  head : ∀ c ∈ cs.head?, isBlank c = false
  last : ∀ c ∈ cs.getLast?, isBlank c = false

theorem strip_eq (cs : List Char) : strip cs = (cs.dropWhile isBlank).rdropWhile isBlank := rfl

theorem stripped_strip (cs : List Char) : Stripped (strip cs) where
  head := by
    intro c hc
    obtain ⟨rest, hrest⟩ : strip cs <+: cs.dropWhile isBlank := List.rdropWhile_prefix _ _
    have hhead := List.head?_dropWhile_not isBlank cs
    rw [← hrest, List.head?_append, Option.mem_def.mp hc] at hhead
    simpa using hhead
  last := by
    intro c hc
    obtain ⟨hne, rfl⟩ := List.mem_getLast?_eq_getLast hc
    exact Bool.eq_false_iff.mpr (List.rdropWhile_last_not isBlank _ hne)

theorem Stripped.strip_eq {cs : List Char} (h : Stripped cs) : strip cs = cs := by
  have hfront : cs.dropWhile isBlank = cs := by
    cases cs with
    | nil => rfl
    | cons c rest => rw [List.dropWhile_cons, if_neg (by simp [h.head c rfl])]
  rw [Text.strip_eq, hfront, List.rdropWhile_eq_self_iff]
  intro hne hblank
  rw [h.last _ (List.getLast?_eq_getLast_of_ne_nil hne)] at hblank
  cases hblank

/-- Lowering makes no blank at the end of a text. -/
theorem getLast?_lowerAfter (before : List Char) {cs : List Char} (h : ∀ c ∈ cs.getLast?, isBlank c = false) :
    ∀ d ∈ (lowerAfter before cs).getLast?, isBlank d = false := by
  induction cs generalizing before with
  | nil => simp [lowerAfter]
  | cons c rest ih =>
    obtain ⟨chunk, heq, hne, -, hblank⟩ := lowerAfter_cons before c rest
    intro d hd
    rw [heq, List.getLast?_append, Option.mem_def] at hd
    cases rest with
    | nil =>
      have hd : chunk.getLast? = some d := by simpa [lowerAfter] using hd
      exact hblank (h c (by simp)) d (List.mem_of_getLast? hd)
    | cons next rest =>
      have hmore : lowerAfter (c :: before) (next :: rest) ≠ [] := by
        obtain ⟨chunk, heq, hne, -, -⟩ := lowerAfter_cons (c :: before) next rest
        rw [heq]
        exact List.append_ne_nil_of_left_ne_nil hne _
      rw [List.getLast?_eq_getLast_of_ne_nil hmore, Option.some_or, ← List.getLast?_eq_getLast_of_ne_nil hmore] at hd
      exact ih (c :: before) (fun e he => h e (by simpa using he)) d hd

/-- A text stays stripped in lower case. -/
theorem Stripped.lower {cs : List Char} (h : Stripped cs) : Stripped (lower cs) where
  head := by
    cases cs with
    | nil => simp [Text.lower, lowerAfter]
    | cons c rest =>
      obtain ⟨chunk, heq, hne, -, hblank⟩ := lowerAfter_cons [] c rest
      intro d hd
      obtain ⟨e, chunk, rfl⟩ := List.exists_cons_of_ne_nil hne
      rw [Text.lower, heq] at hd
      cases hd
      exact hblank (h.head c rfl) d List.mem_cons_self
  last := getLast?_lowerAfter [] h.last

/-- Stripping and lowering a text once is enough. -/
theorem lower_strip_again (cs : List Char) : lower (strip (lower (strip cs))) = lower (strip cs) := by
  rw [(stripped_strip cs).lower.strip_eq, lower_lower]

end TraversalSdk.Text
