import TraversalSdk.Proofs.GeneratedPlan
import TraversalSdk.Proofs.SortedLists

namespace TraversalSdk

variable {α β γ δ : Type}

/-- The members of one list in another order, each changed as `R` allows. -/
def Matched (R : α → β → Prop) (l : List α) (l' : List β) : Prop :=
  ∃ m, l.Perm m ∧ List.Forall₂ R m l'

namespace Matched

variable {R : α → β → Prop} {S : γ → δ → Prop} {l : List α} {l' : List β}

theorem of_forall₂ (h : List.Forall₂ R l l') : Matched R l l' := ⟨l, .refl l, h⟩

/-- Reordering goes both ways. -/
theorem flip (h : Matched R l l') : Matched (fun b a => R a b) l' l := by
  obtain ⟨m, hperm, hm⟩ := h
  have hcomp : Relation.Comp (List.Forall₂ fun b a => R a b) List.Perm l' l :=
    ⟨m, hm.flip, hperm.symm⟩
  rwa [List.forall₂_comp_perm_eq_perm_comp_forall₂] at hcomp

theorem imp {R' : α → β → Prop} (h : Matched R l l') (hR : ∀ a b, R a b → R' a b) :
    Matched R' l l' := by
  obtain ⟨m, hperm, hm⟩ := h
  exact ⟨m, hperm, hm.imp hR⟩

/-- If what is made of a member can also be made of the one that it goes with, then what is made of one
list goes with what is made of the other. -/
theorem transfer {D : α → γ → Prop} {E : β → δ → Prop} (h : Matched R l l') {cs : List γ}
    (hcs : List.Forall₂ D l cs) (hD : ∀ a b c, R a b → D a c → ∃ d, E b d ∧ S c d) :
    ∃ ds, List.Forall₂ E l' ds ∧ Matched S cs ds := by
  obtain ⟨m, hperm, hm⟩ := h
  obtain ⟨cs', hcs', hperm'⟩ := List.perm_comp_forall₂ hperm.symm hcs
  obtain ⟨ds, hds, hsame⟩ : ∃ ds, List.Forall₂ E l' ds ∧ List.Forall₂ S cs' ds := by
    clear hperm hperm'
    induction hm generalizing cs' with
    | nil =>
      cases hcs'
      exact ⟨[], .nil, .nil⟩
    | cons hr _ ih =>
      cases hcs' with
      | cons hc hcs' =>
        obtain ⟨ds, hds, hsame⟩ := ih _ hcs'
        obtain ⟨d, hd, hs⟩ := hD _ _ _ hr hc
        exact ⟨d :: ds, .cons hd hds, .cons hs hsame⟩
  exact ⟨ds, hds, cs', hperm'.symm, hsame⟩

theorem exists_right (h : Matched R l l') {a : α} (ha : a ∈ l) : ∃ b ∈ l', R a b := by
  obtain ⟨m, hperm, hm⟩ := h
  exact TraversalSdk.exists_right hm (hperm.mem_iff.mp ha)

theorem exists_left (h : Matched R l l') {b : β} (hb : b ∈ l') : ∃ a ∈ l, R a b := by
  obtain ⟨m, hperm, hm⟩ := h
  obtain ⟨a, ha, hr⟩ := TraversalSdk.exists_left hm hb
  exact ⟨a, hperm.mem_iff.mpr ha, hr⟩

/-- What is the same of members that go together is a permutation. -/
theorem map_perm (h : Matched R l l') {f : α → γ} {g : β → γ} (hfg : ∀ a b, R a b → f a = g b) :
    (l.map f).Perm (l'.map g) := by
  obtain ⟨m, hperm, hm⟩ := h
  have hmap : m.map f = l'.map g := by
    clear hperm
    induction hm with
    | nil => rfl
    | cons hr _ ih => rw [List.map_cons, List.map_cons, hfg _ _ hr, ih]
  rw [← hmap]
  exact hperm.map f

/-- Members that go together are kept or left out together. -/
theorem filter (h : Matched R l l') {p : α → Bool} {q : β → Bool}
    (hpq : ∀ a b, R a b → p a = q b) : Matched R (l.filter p) (l'.filter q) := by
  obtain ⟨m, hperm, hm⟩ := h
  refine ⟨m.filter p, hperm.filter p, ?_⟩
  refine List.rel_filter (fun a b hr => ?_) hm
  simp only [hpq a b hr]

end Matched

theorem forall₂_map_eq {R : α → β → Prop} {l : List α} {l' : List β} (h : List.Forall₂ R l l')
    {f : α → γ} {g : β → γ} (hfg : ∀ a b, R a b → f a = g b) : l.map f = l'.map g := by
  induction h with
  | nil => rfl
  | cons hr _ ih => rw [List.map_cons, List.map_cons, hfg _ _ hr, ih]

theorem forall₂_any_eq {R : α → β → Prop} {l : List α} {l' : List β} (h : List.Forall₂ R l l')
    {f : α → Bool} {g : β → Bool} (hfg : ∀ a b, R a b → f a = g b) : l.any f = l'.any g := by
  induction h with
  | nil => rfl
  | cons hr _ ih => rw [List.any_cons, List.any_cons, hfg _ _ hr, ih]

/-- Lists that go together member by member still do when they are sorted by one key. -/
theorem forall₂_sortOn {R : α → β → Prop} {l : List α} {l' : List β} {key : α → String}
    {key' : β → String} (h : List.Forall₂ R l l') (hkey : ∀ a b, R a b → key a = key' b) :
    List.Forall₂ R (sortOn key l) (sortOn key' l') := by
  -- both lists are sorted as the list of their pairs is
  obtain ⟨ps, hps, rfl, rfl⟩ : ∃ ps : List (α × β), (∀ p ∈ ps, R p.1 p.2) ∧
      ps.map Prod.fst = l ∧ ps.map Prod.snd = l' := by
    induction h with
    | nil => exact ⟨[], by simp, rfl, rfl⟩
    | @cons a b _ _ hr _ ih =>
      obtain ⟨ps, hps, rfl, rfl⟩ := ih
      exact ⟨(a, b) :: ps, List.forall_mem_cons.mpr ⟨hr, hps⟩, rfl, rfl⟩
  have hfst : (sortOn (fun p => key p.1) ps).map Prod.fst = sortOn key (ps.map Prod.fst) :=
    map_sortOn fun _ _ => rfl
  have hsnd : (sortOn (fun p => key p.1) ps).map Prod.snd = sortOn key' (ps.map Prod.snd) :=
    map_sortOn fun p hp => (hkey _ _ (hps p hp)).symm
  rw [← hfst, ← hsnd, List.forall₂_map_left_iff, List.forall₂_map_right_iff, List.forall₂_same]
  intro p hp
  exact hps p (mem_sortOn.mp hp)

/-- Sorting brings the members that go together to the same place. -/
theorem Matched.sorted {R : α → β → Prop} {l : List α} {l' : List β} {key : α → String}
    {key' : β → String} (h : Matched R l l') (hkey : ∀ a b, R a b → key a = key' b)
    (hn : (l.map key).Nodup) : List.Forall₂ R (sortOn key l) (sortOn key' l') := by
  obtain ⟨m, hperm, hm⟩ := h
  rw [sortOn_eq_of_perm hperm hn]
  exact forall₂_sortOn hm hkey

/-- Looking up members that go together finds the same or fails alike. -/
theorem mapM_congr_forall₂ {ε : Type} {R : α → β → Prop} {l : List α} {l' : List β}
    (h : List.Forall₂ R l l') {f : α → Except ε γ} {g : β → Except ε γ}
    (hfg : ∀ a b, R a b → f a = g b) : l.mapM f = l'.mapM g := by
  induction h with
  | nil => rfl
  | cons hr _ ih => rw [List.mapM_cons, List.mapM_cons, hfg _ _ hr, ih]

theorem mapM_of_forall₂ {ε : Type} {f : α → Except ε β} {l : List α} {bs : List β}
    (h : List.Forall₂ (fun a b => f a = .ok b) l bs) : l.mapM f = .ok bs := by
  induction h with
  | nil => rfl
  | cons hb _ ih =>
    rw [List.mapM_cons]
    exact bind_eq_ok.mpr ⟨_, hb, bind_eq_ok.mpr ⟨_, ih, rfl⟩⟩

/-- A check of each member does not see their order. -/
theorem mapM_perm {ε : Type} {f : α → Except ε β} {l l' : List α} {bs : List β} (h : l.Perm l')
    (hbs : l.mapM f = .ok bs) : ∃ bs', l'.mapM f = .ok bs' ∧ bs.Perm bs' := by
  obtain ⟨bs', hbs', hperm⟩ := List.perm_comp_forall₂ h.symm (mapM_ok hbs)
  exact ⟨bs', mapM_of_forall₂ hbs', hperm.symm⟩

end TraversalSdk
