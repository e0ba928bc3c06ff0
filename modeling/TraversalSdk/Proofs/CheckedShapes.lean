import Mathlib.Data.List.Forall2
import TraversalSdk.Checked

namespace TraversalSdk.Checked

variable {α β : Type}

theorem map_eq_sound_iff {f : α → β} {x : Checked α} {b : β} :
    f <$> x = .sound b ↔ ∃ a, x = .sound a ∧ f a = b := by
  cases x with
  | sound a => simp [Functor.map, Checked.map]
  | faulty i is => simp [Functor.map, Checked.map]

theorem seq_eq_sound_iff {f : Checked (α → β)} {x : Checked α} {b : β} :
    f <*> x = .sound b ↔ ∃ g a, f = .sound g ∧ x = .sound a ∧ g a = b := by
  cases f with
  | sound g =>
    cases x with
    | sound a => simp [Seq.seq, Checked.seq]
    | faulty i is => simp [Seq.seq, Checked.seq]
  | faulty i is =>
    cases x with
    | sound a => simp [Seq.seq, Checked.seq]
    | faulty j js => simp [Seq.seq, Checked.seq]

@[simp]
theorem under_eq_sound_iff {place : Place} {x : Checked α} {a : α} :
    under place x = .sound a ↔ x = .sound a := by
  cases x with
  | sound a => simp [under]
  | faulty i is => simp [under]

@[simp]
theorem fail_ne_sound {fault : Fault} {a : α} : (fail fault : Checked α) ≠ .sound a := by
  simp [fail]

theorem cons_eq_sound_iff {x : Checked α} {l : Checked (List α)} {as : List α} :
    cons x l = .sound as ↔ ∃ a as', x = .sound a ∧ l = .sound as' ∧ a :: as' = as := by
  simp only [cons, seq_eq_sound_iff, map_eq_sound_iff]
  constructor
  · rintro ⟨_, as', ⟨a, ha, rfl⟩, hl, rfl⟩
    exact ⟨a, as', ha, hl, rfl⟩
  · rintro ⟨a, as', ha, hl, rfl⟩
    exact ⟨_, as', ⟨a, ha, rfl⟩, hl, rfl⟩

/-- A list is sound just if each of its members is. -/
theorem eachFrom_eq_sound_iff {check : Json → Checked α} {i : Nat} {vs : List Json} {as : List α} :
    eachFrom check i vs = .sound as ↔ List.Forall₂ (fun v a => check v = .sound a) vs as := by
  induction vs generalizing i as with
  | nil => simp [eachFrom, eq_comm]
  | cons v vs ih =>
    rw [eachFrom, cons_eq_sound_iff, List.forall₂_cons_left_iff]
    simp only [under_eq_sound_iff, ih]
    constructor
    · rintro ⟨a, as', ha, hvs, rfl⟩
      exact ⟨a, as', ha, hvs, rfl⟩
    · rintro ⟨a, as', ha, hvs, rfl⟩
      exact ⟨a, as', ha, hvs, rfl⟩

theorem each_eq_sound_iff {check : Json → Checked α} {vs : List Json} {as : List α} :
    each check vs = .sound as ↔ List.Forall₂ (fun v a => check v = .sound a) vs as :=
  eachFrom_eq_sound_iff

theorem eachMember_eq_sound_iff {check : Json → Checked α} {ms : List (String × Json)}
    {as : List (String × α)} : eachMember check ms = .sound as ↔
      List.Forall₂ (fun m a => m.1 = a.1 ∧ check m.2 = .sound a.2) ms as := by
  induction ms generalizing as with
  | nil => simp [eachMember, eq_comm]
  | cons m ms ih =>
    obtain ⟨key, v⟩ := m
    rw [eachMember, List.forall₂_cons_left_iff]
    simp only [seq_eq_sound_iff, map_eq_sound_iff, under_eq_sound_iff, ih]
    constructor
    · rintro ⟨_, as', ⟨_, ⟨a, ha, rfl⟩, rfl⟩, hms, rfl⟩
      exact ⟨(key, a), as', ⟨rfl, ha⟩, hms, rfl⟩
    · rintro ⟨⟨_, a⟩, as', ⟨rfl, ha⟩, hms, rfl⟩
      exact ⟨_, as', ⟨_, ⟨a, ha, rfl⟩, rfl⟩, hms, rfl⟩

theorem tuple_eq_sound_iff {check : Json → Checked α} {v : Json} {as : List α} :
    tuple check v = .sound as ↔
      ∃ vs, v = .arr vs ∧ List.Forall₂ (fun v a => check v = .sound a) vs as := by
  cases v <;> simp [tuple, each_eq_sound_iff]

theorem mapping_eq_sound_iff {check : Json → Checked α} {v : Json} {as : List (String × α)} :
    mapping check v = .sound as ↔ ∃ ms, v = .obj ms ∧
      List.Forall₂ (fun m a => m.1 = a.1 ∧ check m.2 = .sound a.2) ms as := by
  cases v <;> simp [mapping, eachMember_eq_sound_iff]

theorem object_eq_sound_iff {check : List (String × Json) → Checked α} {v : Json} {a : α} :
    object check v = .sound a ↔ ∃ ms, v = .obj ms ∧ check ms = .sound a := by
  cases v <;> simp [object]

/-- A null stands for no value, and any other value has to be sound. -/
theorem nullable_eq_sound_iff {check : Json → Checked α} {v : Json} {o : Option α} :
    nullable check v = .sound o ↔
      v = .null ∧ none = o ∨ v ≠ .null ∧ ∃ a, check v = .sound a ∧ some a = o := by
  cases v <;> simp [nullable, map_eq_sound_iff]

theorem toExcept_eq_ok_iff {x : Checked α} {a : α} : x.toExcept = .ok a ↔ x = .sound a := by
  cases x <;> simp [toExcept]

/-- A required member is there and sound. -/
theorem required_eq_sound_iff {key : String} {check : Json → Checked α}
    {ms : List (String × Json)} {a : α} :
    required key check ms = .sound a ↔ ∃ v, lookup key ms = some v ∧ check v = .sound a := by
  unfold required
  cases lookup key ms <;> simp

/-- A member with a default is not there, or it is there and sound. -/
theorem defaulted_eq_sound_iff {key : String} {default : α} {check : Json → Checked α}
    {ms : List (String × Json)} {a : α} : defaulted key default check ms = .sound a ↔
      lookup key ms = none ∧ default = a ∨ ∃ v, lookup key ms = some v ∧ check v = .sound a := by
  unfold defaulted
  cases lookup key ms <;> simp

end TraversalSdk.Checked
