import Mathlib.Data.Nat.Find
import TraversalSdk.Naming.Registry
import TraversalSdk.Proofs.Sanitized

namespace TraversalSdk.Naming
open Text

theorem isNameChar_digit {c : Char} (hc : isAsciiDigit c = true) : isNameChar c = true := by
  simp [isNameChar, hc]

theorem isAsciiDigit_decimal {n : Nat} {c : Char} (hc : c ∈ Nat.toDigits 10 n) :
    isAsciiDigit c = true := by
  have h := Nat.isDigit_of_mem_toDigits (by decide) (by decide) hc
  simpa [Char.isDigit, isAsciiDigit, Char.le_def] using h

theorem bare_decimal (n : Nat) : bare (Nat.toDigits 10 n) = Nat.toDigits 10 n := by
  have keep {c : Char} (hc : isAsciiDigit c = true) : c ≠ '_' ∧ asciiLower c = c := by
    have h := nameChar_rec (P := fun c => !isAsciiDigit c || (c != '_' && asciiLower c == c))
      (by decide) (isNameChar_digit hc)
    simpa [hc] using h
  unfold bare
  rw [List.filter_eq_self.mpr fun c hc => by simp [(keep (isAsciiDigit_decimal hc)).1],
    List.map_congr_left fun c hc => (keep (isAsciiDigit_decimal hc)).2]
  exact List.map_id' _

theorem decimal_injective {m n : Nat} (h : Nat.toDigits 10 m = Nat.toDigits 10 n) : m = n := by
  rw [← Nat.ofDigitChars_ten_toDigits (n := m), h, Nat.ofDigitChars_ten_toDigits]

theorem toList_candidate (base : String) (n : Nat) :
    ∃ ending, (candidate base n).toList = base.toList ++ ending ∧
      (∀ c ∈ ending, isNameChar c = true) ∧
      (n ≠ 0 → '_' ∈ ending) := by
  cases n with
  | zero => exact ⟨[], by simp [candidate], by simp, by simp⟩
  | succ n =>
    refine ⟨'_' :: Nat.toDigits 10 (n + 2), by simp [candidate], ?_, by simp⟩
    intro c hc
    rcases List.mem_cons.mp hc with rfl | hc
    · decide
    · exact isNameChar_digit (isAsciiDigit_decimal hc)

theorem bare_candidate_succ (base : String) (n : Nat) :
    bare (candidate base (n + 1)).toList = bare base.toList ++ Nat.toDigits 10 (n + 2) := by
  have h : (candidate base (n + 1)).toList = base.toList ++ ['_'] ++ Nat.toDigits 10 (n + 2) := by
    simp [candidate]
  rw [h, bare_append, bare_append, bare_decimal]
  simp [bare]

/-- A number changes the bare spelling of a name. -/
theorem bare_candidate_succ_ne (base : String) (n : Nat) :
    bare (candidate base (n + 1)).toList ≠ bare base.toList := by
  rw [bare_candidate_succ]
  intro h
  exact Nat.toDigits_ne_nil (List.append_right_eq_self.mp h)

/-- The candidates for a name are bare each in its own way, so a name in use stands against one of them at
most. -/
theorem bare_candidate_injective {base : String} {m n : Nat}
    (h : bare (candidate base m).toList = bare (candidate base n).toList) : m = n := by
  cases m with
  | zero =>
    cases n with
    | zero => rfl
    | succ n => exact absurd h.symm (bare_candidate_succ_ne base n)
  | succ m =>
    cases n with
    | zero => exact absurd h (bare_candidate_succ_ne base m)
    | succ n =>
      rw [bare_candidate_succ, bare_candidate_succ] at h
      have := decimal_injective (List.append_cancel_left h)
      omega

/-- A number behind a name leaves it a name. -/
theorem candidate_plain {base : String} (h : Plain base.toList) (n : Nat) :
    Plain (candidate base n).toList := by
  obtain ⟨ending, he, hc, _⟩ := toList_candidate base n
  rw [he]
  refine ⟨fun c hm => ?_, by simp [h.bare]⟩
  rcases List.mem_append.mp hm with hm | hm
  · exact h.chars c hm
  · exact hc c hm

theorem orText_eq {fallback s : String} (h : s.toList ≠ []) : orText fallback s = s := by
  have hs : s.isEmpty = false := by
    apply Bool.eq_false_iff.mpr
    intro he
    exact h (by simp [String.isEmpty_iff.mp he])
  simp [orText, hs]

theorem NameStyle.apply_ne_nil {style : Casing.Style} (hs : NameStyle style) {s : String}
    (h : Plain s.toList) : (style.apply s).toList ≠ [] := by
  intro he
  have hb := hs.bare_chars h.chars
  rw [show style.chars s.toList = [] by simpa [Casing.Style.apply] using he] at hb
  exact h.bare hb.symm

/-- The forms of a name are its spellings in the two styles. -/
theorem Stem.snake_of {s : String} (h : Plain s.toList) :
    (Stem.of s).snake.toList = Casing.snakeStyle.chars s.toList := by
  simp only [Stem.of, Casing.snake]
  rw [orText_eq (nameStyle_snake.apply_ne_nil h)]
  simp only [Casing.Style.apply, String.toList_ofList]

theorem Stem.pascal_of {s : String} (h : Plain s.toList) :
    (Stem.of s).pascal.toList = Casing.pascalStyle.chars s.toList := by
  simp only [Stem.of, Casing.pascal]
  rw [orText_eq (nameStyle_pascal.apply_ne_nil h)]
  simp only [Casing.Style.apply, String.toList_ofList]

namespace Taken

variable (t : Taken)

def names : List String := t.modules ++ t.snakes ++ t.pascals

theorem length_names : t.names.length = t.size := by simp [names, size]; omega

/-- A name that is not free meets a name in use, and the two are bare alike. -/
theorem bare_mem_of_not_free {s : String} (h : Plain s.toList) (hf : t.isFree (Stem.of s) = false) :
    bare s.toList ∈ t.names.map fun x => bare x.toList := by
  have hmeet : (Stem.of s).module ∈ t.modules ∨ (Stem.of s).snake ∈ t.snakes ∨
      (Stem.of s).pascal ∈ t.pascals := by
    simpa [isFree, Decidable.or_iff_not_imp_left, Decidable.not_imp_iff_and_not] using hf
  rcases hmeet with hm | hm | hm
  · exact List.mem_map.mpr ⟨s, by simpa [names] using .inl hm, rfl⟩
  · refine List.mem_map.mpr ⟨_, by simpa [names] using .inr (.inl hm), ?_⟩
    rw [Stem.snake_of h, nameStyle_snake.bare_chars h.chars]
  · refine List.mem_map.mpr ⟨_, by simpa [names] using .inr (.inr hm), ?_⟩
    rw [Stem.pascal_of h, nameStyle_pascal.bare_chars h.chars]

/-- One of the candidates, as many as there are names in use and one more, is free. -/
theorem exists_free {base : String} (h : Plain base.toList) :
    ∃ n ≤ t.size, t.isFree (Stem.of (candidate base n)) = true := by
  apply Classical.byContradiction
  intro hnone
  have hblocked : ∀ n ≤ t.size, t.isFree (Stem.of (candidate base n)) = false := by
    intro n hn
    apply Bool.eq_false_iff.mpr
    intro hf
    exact hnone ⟨n, hn, hf⟩
  let spellings := (List.range (t.size + 1)).map fun n => bare (candidate base n).toList
  have hnodup : spellings.Nodup :=
    List.Pairwise.map _ (fun _ _ hne he => hne (bare_candidate_injective he)) List.nodup_range
  have hsub : spellings ⊆ t.names.map fun x => bare x.toList := by
    intro x hx
    obtain ⟨n, hn, rfl⟩ := List.mem_map.mp hx
    have hn := List.mem_range.mp hn
    exact t.bare_mem_of_not_free (candidate_plain h n) (hblocked n (by omega))
  have hlen := List.Nodup.length_le_of_subset hnodup hsub
  simp only [spellings, List.length_map, List.length_range, length_names] at hlen
  omega

/-- A stem is the first free one for a name if it is free and no candidate before it is. -/
def FirstFree (base : String) (s : Stem) : Prop :=
  ∃ n, s = Stem.of (candidate base n) ∧ t.isFree s = true ∧
    ∀ m < n, t.isFree (Stem.of (candidate base m)) = false

/-- The search stops at the first candidate that is free. -/
theorem findFrom_eq (base : String) {n k tries : Nat} (hn : n ≤ k) (hk : k ≤ n + tries)
    (hf : t.isFree (Stem.of (candidate base k)) = true)
    (hb : ∀ m < k, t.isFree (Stem.of (candidate base m)) = false) :
    t.findFrom base n tries = Stem.of (candidate base k) := by
  induction tries generalizing n with
  | zero =>
    have he : n = k := by omega
    rw [findFrom, he]
  | succ tries ih =>
    rw [findFrom]
    split
    · next hfree =>
      rcases Nat.lt_or_eq_of_le hn with hlt | he
      · rw [hb n hlt] at hfree
        cases hfree
      · rw [he]
    · next hfree =>
      apply ih _ (by omega)
      rcases Nat.lt_or_eq_of_le hn with hlt | he
      · exact hlt
      · rw [he] at hfree
        exact absurd hf hfree

/-- The search for a free name ends, and it ends at the first one. -/
theorem find_firstFree {base : String} (h : Plain base.toList) : t.FirstFree base (t.find base) := by
  obtain ⟨n, hn, hfree⟩ := t.exists_free h
  have hex : ∃ n, t.isFree (Stem.of (candidate base n)) = true := ⟨n, hfree⟩
  have hle : Nat.find hex ≤ 0 + t.size := by
    have := Nat.find_min' hex hfree
    omega
  have hb : ∀ m < Nat.find hex, t.isFree (Stem.of (candidate base m)) = false :=
    fun m hm => Bool.eq_false_iff.mpr (Nat.find_min hex hm)
  have he : t.find base = Stem.of (candidate base (Nat.find hex)) :=
    t.findFrom_eq base (Nat.zero_le _) hle (Nat.find_spec hex) hb
  exact ⟨Nat.find hex, he, he ▸ Nat.find_spec hex, hb⟩

end Taken

end TraversalSdk.Naming
