import TraversalSdk.Json.Basic
import TraversalSdk.Proofs.MatchedLists

namespace TraversalSdk

namespace Json

def OnMembers (R : List (String × Json) → List (String × Json) → Prop) : Json → Json → Prop
  | .obj ms, .obj ms' => R ms ms'
  | v, v' => v = v'

def OnItems (R : List Json → List Json → Prop) : Json → Json → Prop
  | .arr vs, .arr vs' => R vs vs'
  | v, v' => v = v'

/-- The same keys in the same order, their values related key by key. -/
def KeyByKey (R : String → Json → Json → Prop) (ms ms' : List (String × Json)) : Prop :=
  List.Forall₂ (fun m m' => m.1 = m'.1 ∧ R m.1 m.2 m'.2) ms ms'

namespace Reordered

def types : Json → Json → Prop := OnItems List.Perm

def entry : Json → Json → Prop :=
  OnMembers (KeyByKey fun key => if key = "types" then types else Eq)

def fields : Json → Json → Prop :=
  OnMembers fun ms ms' => (ms.map Prod.fst).Nodup ∧
    Matched (fun m m' => m.1 = m'.1 ∧ entry m.2 m'.2) ms ms'

/-- A declaration with its fields, its entries' types and its subtypes in another order. -/
def descriptor : Json → Json → Prop :=
  OnMembers (KeyByKey fun key =>
    if key = "fields" then fields
    else if key = "children" then entry
    else if key = "subtypes" then types
    else Eq)

/-- Rules in another order behind the same first one. -/
def rules : Json → Json → Prop :=
  OnMembers fun ms ms' => (ms.map Prod.fst).Nodup ∧ ms.head? = ms'.head? ∧ ms.Perm ms'

def grammar : Json → Json → Prop :=
  OnMembers (KeyByKey fun key => if key = "rules" then rules else Eq)

end Reordered

variable {R : List (String × Json) → List (String × Json) → Prop} {v v' : Json}

theorem OnMembers.obj {ms : List (String × Json)} (h : OnMembers R (.obj ms) v') :
    ∃ ms', v' = .obj ms' ∧ R ms ms' := by
  cases v' with
  | obj ms' => exact ⟨ms', rfl, h⟩
  | _ => cases h

theorem OnMembers.symm (h : OnMembers R v v') (hR : ∀ ms ms', R ms ms' → R ms' ms) :
    OnMembers R v' v := by
  cases v with
  | obj ms =>
    obtain ⟨ms', rfl, hms⟩ := h.obj
    exact hR ms ms' hms
  | _ =>
    cases v' with
    | obj _ => cases h
    | _ => exact Eq.symm h

theorem OnItems.arr {R : List Json → List Json → Prop} {vs : List Json}
    (h : OnItems R (.arr vs) v') : ∃ vs', v' = .arr vs' ∧ R vs vs' := by
  cases v' with
  | arr vs' => exact ⟨vs', rfl, h⟩
  | _ => cases h

theorem OnItems.symm {R : List Json → List Json → Prop} (h : OnItems R v v')
    (hR : ∀ vs vs', R vs vs' → R vs' vs) : OnItems R v' v := by
  cases v with
  | arr vs =>
    obtain ⟨vs', rfl, hvs⟩ := h.arr
    exact hR vs vs' hvs
  | _ =>
    cases v' with
    | arr _ => cases h
    | _ => exact Eq.symm h

theorem KeyByKey.symm {R : String → Json → Json → Prop} {ms ms' : List (String × Json)}
    (h : KeyByKey R ms ms') (hR : ∀ key, ∀ v v', R key v v' → R key v' v) : KeyByKey R ms' ms :=
  h.flip.imp fun m' m hm => ⟨hm.1.symm, hm.1 ▸ hR m.1 m.2 m'.2 hm.2⟩

/-- Related objects have related values under each key. -/
theorem KeyByKey.lookup {R : String → Json → Json → Prop} {ms ms' : List (String × Json)}
    (h : KeyByKey R ms ms') (key : String) :
    Option.Rel (R key) (lookup key ms) (TraversalSdk.lookup key ms') := by
  induction h with
  | nil => exact .none
  | @cons m m' ms ms' hm _ ih =>
    obtain ⟨hkey, hvalue⟩ := hm
    unfold TraversalSdk.lookup at ih ⊢
    rw [List.find?_cons, List.find?_cons, ← hkey]
    by_cases hk : m.1 = key
    · subst hk
      simpa using hvalue
    · simpa [hk] using ih

namespace Reordered

theorem types_symm (h : types v v') : types v' v := h.symm fun _ _ hp => hp.symm

theorem entry_symm (h : entry v v') : entry v' v := by
  refine h.symm fun _ _ hms => hms.symm fun key => ?_
  split
  · exact fun _ _ => types_symm
  · exact fun _ _ => Eq.symm

theorem fields_symm (h : fields v v') : fields v' v := by
  refine h.symm fun ms ms' hms => ?_
  obtain ⟨hn, hms⟩ := hms
  exact ⟨(hms.map_perm fun _ _ hm => hm.1).nodup_iff.mp hn,
    hms.flip.imp fun _ _ hm => ⟨hm.1.symm, entry_symm hm.2⟩⟩

/-- Reordering a declaration goes both ways. -/
theorem descriptor_symm (h : descriptor v v') : descriptor v' v := by
  refine h.symm fun _ _ hms => hms.symm fun key => ?_
  split
  · exact fun _ _ => fields_symm
  · split
    · exact fun _ _ => entry_symm
    · split
      · exact fun _ _ => types_symm
      · exact fun _ _ => Eq.symm

theorem rules_symm (h : rules v v') : rules v' v := by
  refine h.symm fun ms ms' hms => ?_
  obtain ⟨hn, hhead, hperm⟩ := hms
  exact ⟨(hperm.map _).nodup_iff.mp hn, hhead.symm, hperm.symm⟩

theorem grammar_symm (h : grammar v v') : grammar v' v := by
  refine h.symm fun _ _ hms => hms.symm fun key => ?_
  split
  · exact fun _ _ => rules_symm
  · exact fun _ _ => Eq.symm

end Reordered

theorem depthOfItems_perm {vs vs' : List Json} (h : vs.Perm vs') :
    depthOfItems vs = depthOfItems vs' := by
  induction h with
  | nil => rfl
  | cons v _ ih => rw [depthOfItems, depthOfItems, ih]
  | swap v v' vs =>
    simp only [depthOfItems]
    omega
  | trans _ _ ih ih' => exact ih.trans ih'

theorem depthOfItems_forall₂ {vs vs' : List Json}
    (h : List.Forall₂ (fun v v' => v.depth = v'.depth) vs vs') :
    depthOfItems vs = depthOfItems vs' := by
  induction h with
  | nil => rfl
  | cons hv _ ih => rw [depthOfItems, depthOfItems, hv, ih]

theorem depthOfMembers_eq (ms : List (String × Json)) :
    depthOfMembers ms = depthOfItems (ms.map Prod.snd) := by
  induction ms with
  | nil => rfl
  | cons m ms ih =>
    rw [depthOfMembers, List.map_cons, depthOfItems, ih]

/-- Reordering keeps the depth of a list. -/
theorem depthOfItems_matched {vs vs' : List Json}
    (h : Matched (fun v v' => v.depth = v'.depth) vs vs') : depthOfItems vs = depthOfItems vs' := by
  obtain ⟨us, hperm, hus⟩ := h
  rw [depthOfItems_perm hperm, depthOfItems_forall₂ hus]

theorem OnMembers.depth_eq (h : OnMembers R v v')
    (hR : ∀ ms ms', R ms ms' → depthOfMembers ms = depthOfMembers ms') : v.depth = v'.depth := by
  cases v with
  | obj ms =>
    obtain ⟨ms', rfl, hms⟩ := h.obj
    rw [depth, depth, hR ms ms' hms]
  | _ =>
    cases v' with
    | obj _ => cases h
    | _ => exact congrArg Json.depth h

theorem KeyByKey.depth_eq {R : String → Json → Json → Prop} {ms ms' : List (String × Json)}
    (h : KeyByKey R ms ms') (hR : ∀ key v v', R key v v' → v.depth = v'.depth) :
    depthOfMembers ms = depthOfMembers ms' := by
  rw [depthOfMembers_eq, depthOfMembers_eq]
  refine depthOfItems_forall₂ ?_
  rw [List.forall₂_map_left_iff, List.forall₂_map_right_iff]
  exact h.imp fun m m' hm => hR m.1 m.2 m'.2 hm.2

namespace Reordered

theorem types_depth (h : types v v') : v.depth = v'.depth := by
  cases v with
  | arr vs =>
    obtain ⟨vs', rfl, hvs⟩ := OnItems.arr h
    rw [depth, depth, depthOfItems_perm hvs]
  | _ =>
    cases v' with
    | arr _ => cases h
    | _ => exact congrArg Json.depth h

theorem entry_depth (h : entry v v') : v.depth = v'.depth := by
  refine OnMembers.depth_eq h fun _ _ hms => hms.depth_eq fun key v v' hv => ?_
  split at hv
  · exact types_depth hv
  · rw [hv]

theorem fields_depth (h : fields v v') : v.depth = v'.depth := by
  refine OnMembers.depth_eq h fun ms ms' hms => ?_
  obtain ⟨us, hperm, hus⟩ := hms.2
  rw [depthOfMembers_eq, depthOfMembers_eq]
  refine depthOfItems_matched ⟨us.map Prod.snd, hperm.map _, ?_⟩
  rw [List.forall₂_map_left_iff, List.forall₂_map_right_iff]
  exact hus.imp fun _ _ hm => entry_depth hm.2

theorem descriptor_depth (h : descriptor v v') : v.depth = v'.depth := by
  refine OnMembers.depth_eq h fun _ _ hms => hms.depth_eq fun key v v' hv => ?_
  split at hv
  · exact fields_depth hv
  · split at hv
    · exact entry_depth hv
    · split at hv
      · exact types_depth hv
      · rw [hv]

/-- Reordering a grammar keeps its depth. -/
theorem grammar_depth (h : grammar v v') : v.depth = v'.depth := by
  refine OnMembers.depth_eq h fun _ _ hms => hms.depth_eq fun key v v' hv => ?_
  split at hv
  · refine OnMembers.depth_eq hv fun ms ms' hrules => ?_
    rw [depthOfMembers_eq, depthOfMembers_eq, depthOfItems_perm (hrules.2.2.map _)]
  · rw [hv]

end Reordered

end Json

end TraversalSdk
