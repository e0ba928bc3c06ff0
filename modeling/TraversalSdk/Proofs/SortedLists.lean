import Mathlib.Data.List.Forall2
import Mathlib.Data.List.Nodup
import Mathlib.Data.List.Perm.Basic
import TraversalSdk.Order
import TraversalSdk.NodeType.Ref

namespace TraversalSdk

variable {α β : Type}

/-- In a list of which no two members have one key, a member is found by its key. -/
theorem find?_key {α κ : Type} [DecidableEq κ] {key : α → κ} {l : List α}
    (h : (l.map key).Nodup) {a : α} (ha : a ∈ l) : l.find? (fun x => key x = key a) = some a := by
  obtain ⟨x, hx⟩ : ∃ x, l.find? (fun x => key x = key a) = some x :=
    Option.isSome_iff_exists.mp (List.find?_isSome.mpr ⟨a, ha, by simp⟩)
  have hkey : key x = key a := by simpa using List.find?_some hx
  rw [hx, List.inj_on_of_nodup_map h (List.mem_of_find?_eq_some hx) ha hkey]

/-- Where keys do not repeat every value is found under its key. -/
theorem lookup_of_mem {κ α : Type} [DecidableEq κ] {pairs : List (κ × α)}
    (h : (pairs.map Prod.fst).Nodup) {key : κ} {value : α} (hm : (key, value) ∈ pairs) :
    lookup key pairs = some value := by
  have hfound := find?_key h hm
  rw [lookup, hfound]
  rfl

theorem assign_fresh {κ α : Type} [DecidableEq κ] {key : κ} {pairs : List (κ × α)}
    (h : key ∉ pairs.map Prod.fst) (value : α) : assign key value pairs = pairs ++ [(key, value)] := by
  induction pairs with
  | nil => rfl
  | cons p ps ih =>
    simp only [List.map_cons, List.mem_cons, not_or] at h
    rw [assign, if_neg (Ne.symm h.1), ih h.2]
    rfl

theorem keys_assign {κ α : Type} [DecidableEq κ] {key : κ} {pairs : List (κ × α)}
    (h : key ∈ pairs.map Prod.fst) (value : α) :
    (assign key value pairs).map Prod.fst = pairs.map Prod.fst := by
  induction pairs with
  | nil => cases h
  | cons p ps ih =>
    rw [assign]
    split
    · next hp => simp [hp]
    · next hp =>
      have htail : key ∈ ps.map Prod.fst := (List.mem_cons.mp h).resolve_left (Ne.symm hp)
      rw [List.map_cons, ih htail, List.map_cons]

theorem nodup_assign {κ α : Type} [DecidableEq κ] {pairs : List (κ × α)}
    (h : (pairs.map Prod.fst).Nodup) (key : κ) (value : α) :
    ((assign key value pairs).map Prod.fst).Nodup := by
  by_cases hkey : key ∈ pairs.map Prod.fst
  · rwa [keys_assign hkey]
  · rw [assign_fresh hkey, List.map_append, List.nodup_append]
    refine ⟨h, by simp, fun a ha b hb hab => hkey ?_⟩
    have hb : b = key := by simpa using hb
    rwa [← hb, ← hab]

theorem forall_mem_assign {κ α : Type} [DecidableEq κ] {P : α → Prop} {pairs : List (κ × α)}
    (h : ∀ p ∈ pairs, P p.2) (key : κ) {value : α} (hvalue : P value) :
    ∀ p ∈ assign key value pairs, P p.2 := by
  induction pairs with
  | nil => simpa [assign] using hvalue
  | cons p ps ih =>
    obtain ⟨hp, hps⟩ := List.forall_mem_cons.mp h
    rw [assign]
    split
    · exact List.forall_mem_cons.mpr ⟨hvalue, hps⟩
    · exact List.forall_mem_cons.mpr ⟨hp, ih hps⟩

/-- In a list without repetition, no two members stand both ways round. -/
theorem sublist_pair_asymm {l : List α} (hn : l.Nodup) {x y : α} (h : [x, y].Sublist l) :
    ¬[y, x].Sublist l := by
  induction hn with
  | nil => cases h
  | @cons z l hz _ ih =>
    intro h'
    cases h with
    | cons _ h =>
      cases h' with
      | cons _ h' => exact ih h h'
      | cons_cons _ h' => exact hz y (h.subset (by simp)) rfl
    | cons_cons _ h =>
      cases h' with
      | cons _ h' => exact hz x (h'.subset (by simp)) rfl
      | cons_cons _ h' => exact hz x (h'.subset (by simp)) rfl

theorem lt_of_le_of_ne_text {s t : String} (h : s ≤ t) (hne : s ≠ t) : s < t := by
  by_contra hlt
  exact hne (String.le_antisymm h (String.not_lt.mp hlt))

theorem go_eq_none [DecidableEq α] {seen l : List α} (hn : l.Nodup) (hs : ∀ a ∈ l, a ∉ seen) :
    firstRepeated?.go seen l = none := by
  induction l generalizing seen with
  | nil => rfl
  | cons a l ih =>
    obtain ⟨ha, hn⟩ := List.nodup_cons.mp hn
    rw [firstRepeated?.go, if_neg (hs a List.mem_cons_self)]
    refine ih hn fun b hb hseen => ?_
    rcases List.mem_cons.mp hseen with rfl | hseen
    · exact ha hb
    · exact hs b (List.mem_cons_of_mem _ hb) hseen

/-- Nothing is told to repeat just if nothing does. -/
theorem firstRepeated?_eq_none_iff [DecidableEq α] {l : List α} :
    firstRepeated? l = none ↔ l.Nodup :=
  ⟨nodup_of_firstRepeated?, fun h => go_eq_none h (by simp)⟩

theorem repeated_of_go [DecidableEq α] {seen l : List α} {a : α}
    (h : firstRepeated?.go seen l = some a) : a ∈ seen ∧ a ∈ l ∨ 2 ≤ l.count a := by
  induction l generalizing seen with
  | nil => cases h
  | cons b l ih =>
    unfold firstRepeated?.go at h
    split at h
    · next hb =>
      cases h
      exact .inl ⟨hb, List.mem_cons_self⟩
    · rcases ih h with ⟨hs, hl⟩ | hl
      · have hcount := List.one_le_count_iff.mpr hl
        rcases List.mem_cons.mp hs with rfl | hs
        · exact .inr (by rw [List.count_cons_self]; omega)
        · exact .inl ⟨hs, List.mem_cons_of_mem _ hl⟩
      · exact .inr (Nat.le_trans hl List.count_le_count_cons)

theorem two_le_count_of_firstRepeated? [DecidableEq α] {l : List α} {a : α}
    (h : firstRepeated? l = some a) : 2 ≤ l.count a := by
  rcases repeated_of_go h with ⟨hs, _⟩ | h
  · cases hs
  · exact h

section

variable {key : α → String} {l l' : List α}

theorem pairwise_sortOn (key : α → String) (l : List α) :
    (sortOn key l).Pairwise fun a b => key a ≤ key b := by
  refine (List.pairwise_mergeSort ?_ ?_ l).imp fun h => of_decide_eq_true h
  · intro a b c hab hbc
    simp only [decide_eq_true_eq] at hab hbc ⊢
    exact String.le_trans hab hbc
  · intro a b
    simpa using String.le_total (key a) (key b)

/-- Sorting texts by themselves drops nothing of their order: equal texts are one text. -/
theorem sortTexts_eq_of_perm {l l' : List String} (h : l.Perm l') : sortTexts l = sortTexts l' :=
  ((sortOn_perm id l).trans (h.trans (sortOn_perm id l').symm)).eq_of_pairwise
    (fun _ _ _ _ hab hba => String.le_antisymm hab hba) (pairwise_sortOn id l) (pairwise_sortOn id l')

/-- Keys that do not repeat stand in strictly rising order. -/
theorem pairwise_lt_sortOn (hk : (l.map key).Nodup) :
    ((sortOn key l).map key).Pairwise (· < ·) := by
  have hn : ((sortOn key l).map key).Nodup := ((sortOn_perm key l).map key).nodup_iff.mpr hk
  have hle : ((sortOn key l).map key).Pairwise (· ≤ ·) := List.pairwise_map.mpr (pairwise_sortOn key l)
  refine (hle.and hn).imp fun h => ?_
  obtain ⟨hle, hne⟩ := h
  exact lt_of_le_of_ne_text hle hne

/-- What is sorted depends on the members alone where no two of them have one key. -/
theorem sortOn_eq_of_perm (h : l.Perm l') (hk : (l.map key).Nodup) : sortOn key l = sortOn key l' := by
  refine ((sortOn_perm key l).trans (h.trans (sortOn_perm key l').symm)).eq_of_pairwise ?_
    (pairwise_sortOn key l) (pairwise_sortOn key l')
  intro a b ha hb hab hba
  exact List.inj_on_of_nodup_map hk (mem_sortOn.mp ha) (h.mem_iff.mpr (mem_sortOn.mp hb))
    (String.le_antisymm hab hba)

/-- A map that keeps the key can go before sorting or after it. -/
theorem map_sortOn {f : α → β} {key' : β → String} (h : ∀ a ∈ l, key' (f a) = key a) :
    (sortOn key l).map f = sortOn key' (l.map f) := by
  refine List.map_mergeSort fun a ha b hb => ?_
  rw [h a ha, h b hb]

end

theorem distinct_eq_self [DecidableEq α] {l : List α} (h : l.Nodup) : distinct l = l := by
  induction l with
  | nil => rfl
  | cons a l ih =>
    obtain ⟨ha, hl⟩ := List.nodup_cons.mp h
    rw [distinct, ih hl, List.filter_eq_self.mpr]
    exact fun b hb => decide_eq_true fun he => ha (he ▸ hb)

/-- Sets of texts are equal where their members are. -/
theorem textSet_congr {l l' : List String} (h : ∀ s, s ∈ l ↔ s ∈ l') : textSet l = textSet l' :=
  sortTexts_eq_of_perm
    ((List.perm_ext_iff_of_nodup (nodup_distinct l) (nodup_distinct l')).mpr fun s => by simp [h s])

namespace NodeRef

theorem precedes_trans {a b c : NodeRef} (hab : a.precedes b = true) (hbc : b.precedes c = true) :
    a.precedes c = true := by
  simp only [precedes, Bool.or_eq_true, decide_eq_true_eq, Bool.and_eq_true, beq_iff_eq,
    Bool.not_eq_true'] at hab hbc ⊢
  rcases hab with hab | ⟨hab, hkab⟩
  · rcases hbc with hbc | ⟨hbc, _⟩
    · exact .inl (String.lt_trans hab hbc)
    · exact .inl (hbc ▸ hab)
  · rcases hbc with hbc | ⟨hbc, hkbc⟩
    · exact .inl (hab ▸ hbc)
    · refine .inr ⟨hab.trans hbc, ?_⟩
      rcases hkab with hk | hk
      · exact .inl hk
      · rcases hkbc with hk' | hk'
        · rw [hk] at hk'
          cases hk'
        · exact .inr hk'

theorem precedes_total (a b : NodeRef) : (a.precedes b || b.precedes a) = true := by
  simp only [precedes, Bool.or_eq_true, decide_eq_true_eq, Bool.and_eq_true, beq_iff_eq]
  by_cases he : a.type = b.type
  · cases a.named <;> simp [he]
  · rcases String.le_total a.type b.type with h | h
    · exact .inl (.inl (lt_of_le_of_ne_text h he))
    · exact .inr (.inl (lt_of_le_of_ne_text h (Ne.symm he)))

theorem precedes_antisymm {a b : NodeRef} (hab : a.precedes b = true) (hba : b.precedes a = true) :
    a = b := by
  obtain ⟨s, m⟩ := a
  obtain ⟨t, n⟩ := b
  simp only [precedes, Bool.or_eq_true, decide_eq_true_eq, Bool.and_eq_true, beq_iff_eq] at hab hba
  have hst : s = t := by
    rcases hab with hab | ⟨rfl, _⟩
    · rcases hba with hba | ⟨rfl, _⟩
      · exact absurd hba (String.lt_asymm hab)
      · rfl
    · rfl
  subst hst
  have hirrefl : ¬s < s := String.lt_irrefl s
  cases m <;> cases n <;> simp only [hirrefl, true_and, Bool.not_true, Bool.not_false,
    Bool.false_eq_true, or_false, or_true] at hab hba ⊢

theorem sorted_perm (l : List NodeRef) : (sorted l).Perm l := List.mergeSort_perm l precedes

theorem pairwise_sorted (l : List NodeRef) : (sorted l).Pairwise fun a b => a.precedes b = true := by
  refine List.pairwise_mergeSort ?_ precedes_total l
  intro a b c hab hbc
  exact precedes_trans hab hbc

/-- The order of references leaves nothing open. -/
theorem sorted_eq_of_perm {l l' : List NodeRef} (h : l.Perm l') : sorted l = sorted l' := by
  have hperm : (sorted l).Perm (sorted l') := (sorted_perm l).trans (h.trans (sorted_perm l').symm)
  refine hperm.eq_of_pairwise ?_ (pairwise_sorted l) (pairwise_sorted l')
  intro a b _ _ hab hba
  exact precedes_antisymm hab hba

/-- A set of types is told by its members. -/
theorem set_congr {l l' : List NodeRef} (h : ∀ r, r ∈ l ↔ r ∈ l') : set l = set l' :=
  sorted_eq_of_perm
    ((List.perm_ext_iff_of_nodup (nodup_distinct l) (nodup_distinct l')).mpr fun r => by simp [h r])

end NodeRef

end TraversalSdk
