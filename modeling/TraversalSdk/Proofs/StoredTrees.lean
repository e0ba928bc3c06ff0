import TraversalSdk.Proofs.StoredFiles
import Mathlib.Data.List.Infix

namespace TraversalSdk

namespace Files

variable {f f' : Files} {l m : Location} {e : StoredEntry}

/-- Whatever is stored stands in a directory. -/
def Rooted (f : Files) : Prop := ∀ l s, f.get? (l ++ [s]) ≠ none → f.get? l = some .directory

def file? (f : Files) (l : Location) : Option ByteArray := (f.get? l).bind StoredEntry.bytes?

theorem file?_eq_some_iff {bytes : ByteArray} :
    f.file? l = some bytes ↔ f.get? l = some (.file bytes) := by
  unfold file?
  cases f.get? l with
  | none => simp
  | some e => cases e <;> simp [StoredEntry.bytes?]

theorem isAbove_append {s : String} (h : isAbove (l ++ [s]) = true) : isAbove l = true := by
  simp only [isAbove, List.all_append, Bool.and_eq_true] at h
  exact h.1

theorem get?_of_isAbove (h : isAbove l = true) : f.get? l = some .directory := by
  simp [get?, h]

theorem rooted_of_entries (h : ∀ e ∈ f.entries, f.get? e.1.dropLast = some .directory) :
    f.Rooted := by
  intro l s hne
  cases habove : isAbove (l ++ [s]) with
  | true => exact get?_of_isAbove (isAbove_append habove)
  | false =>
    obtain ⟨e, he⟩ := Option.ne_none_iff_exists'.mp hne
    unfold get? at he
    split at he
    · next htop =>
      simp only [habove, Bool.false_or, decide_eq_true_eq] at htop
      rcases List.append_eq_singleton_iff.mp htop with ⟨rfl, _⟩ | ⟨_, hs⟩
      · rfl
      · cases hs
    · simpa using h _ (mem_of_lookup he)

theorem rooted_empty : empty.Rooted := rooted_of_entries nofun

/-- What stands in no directory is not there. -/
theorem Rooted.absent_below (hf : f.Rooted) (h : f.get? l ≠ some .directory) {t : List String}
    (ht : t ≠ []) : f.get? (l ++ t) = none := by
  induction t using List.reverseRecOn with
  | nil => exact absurd rfl ht
  | append_singleton t s ih =>
    by_contra hs
    rw [← List.append_assoc] at hs
    have hd := hf _ _ hs
    cases t with
    | nil => exact h (by simpa using hd)
    | cons u t => exact nomatch hd.symm.trans (ih (List.cons_ne_nil u t))

/-- From a directory, a step leads to another one or on. -/
theorem Rooted.step_eq (hf : f.Rooted) (hl : f.get? l = some .directory) {s : String}
    (h : f.get? (step l s) ≠ some .directory) : step l s = l ++ [s] := by
  unfold step at h ⊢
  split
  · next hup =>
    rw [if_pos hup] at h
    split
    · next htop =>
      rw [if_pos htop] at h
      exact absurd hl h
    · next htop =>
      rw [if_neg htop] at h
      rcases List.eq_nil_or_concat l with rfl | ⟨init, t, rfl⟩
      · simp [isAbove] at hup
      · rw [List.concat_eq_append] at hl h
        rw [List.dropLast_concat] at h
        exact absurd (hf init t (by rw [hl]; nofun)) h
  · rfl

theorem Rooted.put (hf : f.Rooted) (hl : f.get? l = some .directory) {s : String}
    (h : f.get? (l ++ [s]) ≠ some .directory) (e : StoredEntry) : (f.put (l ++ [s]) e).Rooted := by
  intro m t hmt
  have hkeeps : Keeps f (f.put (l ++ [s]) e) [l ++ [s]] := put_keeps h
  by_cases hsame : l ++ [s] = m ++ [t]
  · rw [← (List.append_inj' hsame rfl).1]
    exact hkeeps.directory l hl
  · rw [get?_put_ne hsame] at hmt
    exact hkeeps.directory m (hf m t hmt)

theorem Rooted.put_step (hf : f.Rooted) (hl : f.get? l = some .directory) {s : String}
    (h : f.get? (step l s) ≠ some .directory) (e : StoredEntry) : (f.put (step l s) e).Rooted := by
  have hstep := hf.step_eq hl h
  rw [hstep] at h ⊢
  exact hf.put hl h e

/-- Where the steps of a path lead, one after another. -/
def Passes (l : Location) (steps : List String) (m : Location) : Prop :=
  ∃ taken, taken <+: steps ∧ m = taken.foldl step l

theorem Passes.cons {s : String} {rest : List String} (h : Passes (step l s) rest m) :
    Passes l (s :: rest) m := by
  obtain ⟨taken, htaken, rfl⟩ := h
  exact ⟨s :: taken, List.cons_prefix_cons.mpr ⟨rfl, htaken⟩, rfl⟩

theorem passes_self (l : Location) (steps : List String) : Passes l steps l :=
  ⟨[], List.nil_prefix, rfl⟩

/-- Making directories adds directories along the way. -/
theorem makeDirectoriesFrom_adds (hf : f.Rooted) (hl : f.get? l = some .directory)
    (steps : List String) : (makeDirectoriesFrom f l steps).1.Rooted ∧
      ∀ m e, (makeDirectoriesFrom f l steps).1.get? m = some e →
        f.get? m = some e ∨ e = .directory ∧ Passes l steps m := by
  induction steps generalizing f l with
  | nil => exact ⟨hf, fun m e h => .inl h⟩
  | cons s rest ih =>
    rw [makeDirectoriesFrom]
    split
    · exact ⟨hf, fun m e h => .inl h⟩
    · split
      · next hnext =>
        obtain ⟨hrooted, hadds⟩ := ih hf hnext
        exact ⟨hrooted, fun m e h => (hadds m e h).imp_right fun h => ⟨h.1, h.2.cons⟩⟩
      · exact ⟨hf, fun m e h => .inl h⟩
      · next hnext =>
        have hfree : f.get? (step l s) ≠ some .directory := by simp [hnext]
        obtain ⟨hrooted, hadds⟩ := ih (hf.put_step hl hfree _) (get?_put_self hfree)
        refine ⟨hrooted, fun m e h => ?_⟩
        rcases hadds m e h with h | ⟨he, h⟩
        · by_cases hm : step l s = m
          · subst hm
            rw [get?_put_self hfree] at h
            exact .inr ⟨(Option.some.inj h).symm, (passes_self _ _).cons⟩
          · exact .inl (get?_put_ne hm ▸ h)
        · exact .inr ⟨he, h.cons⟩

theorem makeDirectories_adds (hf : f.Rooted) (p : Path) : (f.makeDirectories p).1.Rooted ∧
    ∀ m e, (f.makeDirectories p).1.get? m = some e →
      f.get? m = some e ∨ e = .directory ∧ Passes [] p.steps m := by
  unfold makeDirectories
  split
  · exact ⟨hf, fun m e h => .inl h⟩
  · exact makeDirectoriesFrom_adds hf rfl p.steps

/-- Writing adds directories along the way, and the file. -/
theorem write_adds (hf : f.Rooted) (p : Path) (bytes : ByteArray) :
    (f.write p bytes).1.Rooted ∧ ∀ m e, (f.write p bytes).1.get? m = some e →
      f.get? m = some e ∨ m = p.location ∧ e = .file bytes ∨
        e = .directory ∧ Passes [] p.parent.steps m := by
  have hmade := makeDirectories_adds hf p.parent
  unfold write
  split
  · exact ⟨hf, fun m e h => .inl h⟩
  · next s hs =>
    split
    · next g o hmake =>
      rw [hmake] at hmade
      exact ⟨hmade.1, fun m e h => (hmade.2 m e h).imp_right .inr⟩
    · next g l hmake =>
      rw [hmake] at hmade
      obtain ⟨_, _, rfl, hdirectory⟩ := makeDirectories_ok hmake
      split
      · exact ⟨hmade.1, fun m e h => (hmade.2 m e h).imp_right .inr⟩
      · next t htarget =>
        obtain ⟨_, _, hfree, rfl⟩ := target_ok htarget
        have hlocation : p.location = step p.parent.location s := by
          rw [Path.location, Path.steps_eq_parent hs, List.foldl_append]
          rfl
        refine ⟨hmade.1.put_step hdirectory hfree _, fun m e h => ?_⟩
        by_cases hm : step p.parent.location s = m
        · subst hm
          rw [get?_put_self hfree] at h
          exact .inr (.inl ⟨hlocation.symm, (Option.some.inj h).symm⟩)
        · exact (hmade.2 m e (get?_put_ne hm ▸ h)).imp_right .inr

/-- Writing files adds them, and directories along the ways to them. -/
theorem writeAll_adds (hf : f.Rooted) (p : Path) (as : List Artifact) :
    (f.writeAll p as).1.Rooted ∧ ∀ m e, (f.writeAll p as).1.get? m = some e →
      f.get? m = some e ∨ ∃ a ∈ as, m = (p.below a.path).location ∧ e = .file a.content.bytes ∨
        e = .directory ∧ Passes [] (p.below a.path).parent.steps m := by
  induction as generalizing f with
  | nil => exact ⟨hf, fun m e h => .inl h⟩
  | cons a as ih =>
    have hfirst := write_adds hf (p.below a.path) a.content.bytes
    rw [writeAll]
    split
    · next g o hwrite =>
      rw [hwrite] at hfirst
      exact ⟨hfirst.1, fun m e h => (hfirst.2 m e h).imp_right fun h => ⟨a, List.mem_cons_self, h⟩⟩
    · next g hwrite =>
      rw [hwrite] at hfirst
      obtain ⟨hrooted, hadds⟩ := ih hfirst.1
      refine ⟨hrooted, fun m e h => ?_⟩
      rcases hadds m e h with h | ⟨b, hb, h⟩
      · exact (hfirst.2 m e h).imp_right fun h => ⟨a, List.mem_cons_self, h⟩
      · exact .inr ⟨b, List.mem_cons_of_mem a hb, h⟩

theorem writeAll_paths {p : Path} {as : List Artifact} {written : List Path}
    (h : f.writeAll p as = (f', .ok written)) : written = as.map fun a => p.below a.path := by
  induction as generalizing f f' written with
  | nil =>
    cases h
    rfl
  | cons a as ih =>
    rw [writeAll] at h
    split at h
    · cases h
    · next g _ =>
      cases hrest : g.writeAll p as with
      | mk g' result =>
        cases result with
        | error e => simp [hrest, Except.map] at h
        | ok rest =>
          simp only [hrest, Except.map, Prod.mk.injEq, Except.ok.injEq] at h
          rw [← h.2, ih hrest]
          rfl

theorem lookup_filter {κ α : Type} [DecidableEq κ] (key : κ) (q : κ → Bool) (pairs : List (κ × α)) :
    lookup key (pairs.filter fun p => q p.1) = if q key then lookup key pairs else none := by
  induction pairs with
  | nil => simp [lookup]
  | cons p ps ih =>
    unfold lookup at ih ⊢
    by_cases hk : p.1 = key
    · subst hk
      cases hq : q p.1
      · rw [hq] at ih
        simpa [hq] using ih
      · simp [hq]
    · cases hq : q p.1 <;> simpa [hq, hk] using ih

theorem get?_filter (q : Location → Bool) : get? ⟨f.entries.filter fun e => q e.1⟩ m =
    if isAbove m || m = ["/"] then some .directory else if q m then f.get? m else none := by
  by_cases hm : (isAbove m || m = ["/"]) = true
  · simp only [get?, if_pos hm]
  · simp only [get?, if_neg hm]
    exact lookup_filter m q f.entries

theorem isWithin_iff : isWithin l m = true ↔ ∃ t, m = l ++ t ∧
    (isAbove l = true → ∀ s ∈ t.head?, s ∉ ["..", "/", "//"]) := by
  simp only [isWithin, Bool.and_eq_true, List.isPrefixOf_iff_prefix, Bool.or_eq_true,
    Bool.not_eq_true']
  constructor
  · rintro ⟨⟨t, rfl⟩, h⟩
    refine ⟨t, rfl, fun ha s hs => ?_⟩
    rw [List.drop_left, ha] at h
    cases t with
    | nil => cases hs
    | cons u t =>
      cases hs
      simpa using h
  · rintro ⟨t, rfl, h⟩
    refine ⟨⟨t, rfl⟩, ?_⟩
    rw [List.drop_left]
    cases ha : isAbove l with
    | false => exact .inl rfl
    | true =>
      cases t with
      | nil => exact .inr rfl
      | cons s t => exact .inr (by simpa using h ha s rfl)

/-- What is strictly within a directory is neither the top nor above the working directory. -/
theorem isWithin_strict (h : isWithin l m = true) (hne : m ≠ l) :
    (isAbove m || m = ["/"]) = false := by
  obtain ⟨t, rfl, hhead⟩ := isWithin_iff.mp h
  cases t with
  | nil => exact absurd (List.append_nil l) hne
  | cons s t =>
    cases ha : isAbove l with
    | true =>
      have hs := hhead ha s rfl
      simp only [List.mem_cons, List.not_mem_nil, or_false, not_or] at hs
      simp [isAbove, List.append_eq_singleton_iff, hs]
    | false =>
      have hl : l ≠ [] := by
        rintro rfl
        cases ha
      unfold isAbove at ha
      simp [isAbove, List.append_eq_singleton_iff, ha, hl]

/-- What lies below something within lies within, save where it stands above everything. -/
theorem isWithin_append (h : isWithin l m = true) (t : List String) :
    isAbove m = true ∨ isWithin l (m ++ t) = true := by
  obtain ⟨u, rfl, hhead⟩ := isWithin_iff.mp h
  cases ha : isAbove l with
  | false => exact .inr (isWithin_iff.mpr ⟨u ++ t, List.append_assoc .., by simp [ha]⟩)
  | true =>
    cases u with
    | nil => exact .inl (by rwa [List.append_nil])
    | cons s u =>
      exact .inr (isWithin_iff.mpr ⟨s :: u ++ t, List.append_assoc .., fun h => hhead h⟩)

/-- What is left is still rooted if nothing stays without its directory. -/
theorem Rooted.filter (hf : f.Rooted) {q : Location → Bool}
    (hq : ∀ m s, q (m ++ [s]) = true → isAbove m = true ∨ q m = true) :
    Rooted ⟨f.entries.filter fun e => q e.1⟩ := by
  intro m s h
  rw [get?_filter] at h ⊢
  by_cases habove : isAbove m = true
  · simp [habove]
  · have hm : m ++ [s] ≠ ["/"] := by
      intro hm
      rcases List.append_eq_singleton_iff.mp hm with ⟨rfl, _⟩ | ⟨_, hs⟩
      · exact habove rfl
      · cases hs
    have hms : isAbove (m ++ [s]) ≠ true := fun h => habove (isAbove_append h)
    simp only [hms, hm, decide_false, Bool.or_self, Bool.false_eq_true, if_false] at h
    split at h
    · next hqs =>
      rw [(hq m s hqs).resolve_left habove, if_pos rfl, hf m s h, ite_self]
    · exact absurd rfl h

theorem Rooted.remove (hf : f.Rooted) (l : Location) : (f.remove l).Rooted := by
  refine hf.filter (q := fun m => !isWithin l m) fun m s h => ?_
  by_contra hnot
  obtain ⟨habove, hm⟩ := not_or.mp hnot
  have hms := (isWithin_append (by simpa using hm) [s]).resolve_left habove
  simp [hms] at h

theorem Rooted.removeBelow (hf : f.Rooted) (l : Location) : (f.removeBelow l).Rooted := by
  refine hf.filter (q := fun m => !(isWithin l m && m ≠ l)) fun m s h => ?_
  by_contra hnot
  obtain ⟨habove, hm⟩ := not_or.mp hnot
  simp only [Bool.not_eq_true', Bool.not_eq_false, Bool.and_eq_true, decide_eq_true_eq] at hm
  have hms := (isWithin_append hm.1 [s]).resolve_left habove
  obtain ⟨t, rfl, _⟩ := isWithin_iff.mp hm.1
  rw [hms] at h
  simp at h

/-- Nothing is left within a directory that was emptied. -/
theorem get?_removeBelow (h : isWithin l m = true) (hne : m ≠ l) : (f.removeBelow l).get? m = none := by
  rw [removeBelow, get?_filter fun m => !(isWithin l m && m ≠ l), isWithin_strict h hne]
  simp [h, hne]

theorem get?_remove (h : isWithin l m = true) (hne : m ≠ l) : (f.remove l).get? m = none := by
  rw [remove, get?_filter fun m => !isWithin l m, isWithin_strict h hne]
  simp [h]

/-- What is not within a location stays when that is removed. -/
theorem get?_remove_of_not (h : isWithin l m = false) : (f.remove l).get? m = f.get? m := by
  rw [remove, get?_filter fun m => !isWithin l m, h]
  split
  · next hm => rw [get?, if_pos hm]
  · rfl

theorem get?_removeBelow_of_not (h : isWithin l m = false) : (f.removeBelow l).get? m = f.get? m := by
  rw [removeBelow, get?_filter fun m => !(isWithin l m && m ≠ l), h]
  split
  · next hm => rw [get?, if_pos hm]
  · rfl

theorem locateFrom_location {steps : List String} (h : f.locateFrom l steps = .ok m) :
    m = steps.foldl step l := by
  induction steps generalizing l with
  | nil => exact (Except.ok.inj h).symm
  | cons s rest ih => exact ih (locateFrom_cons_ok.mp h).2.2

/-- A path that can be followed passes directories alone before its end. -/
theorem directory_of_passes {steps : List String} (h : f.locateFrom l steps = .ok m)
    {k : Location} (hk : Passes l steps k) : k = m ∨ f.get? k = some .directory := by
  obtain ⟨taken, htaken, rfl⟩ := hk
  induction steps generalizing l taken with
  | nil =>
    rw [List.prefix_nil.mp htaken]
    exact .inl (Except.ok.inj h)
  | cons s rest ih =>
    obtain ⟨hd, _, hrest⟩ := locateFrom_cons_ok.mp h
    cases taken with
    | nil => exact .inr hd
    | cons t taken =>
      obtain ⟨rfl, hprefix⟩ := List.cons_prefix_cons.mp htaken
      exact ih hrest taken hprefix

/-- A path without a step up that cannot be followed has something else than a directory on its way. -/
theorem obstructed_of_locateFrom_error {steps : List String} {o : Obstacle} (hdown : ".." ∉ steps)
    (h : f.locateFrom l steps = .error o) (ho : o ≠ .nameTooLong) :
    ∃ taken, taken <+: steps ∧ f.get? (l ++ taken) ≠ some .directory := by
  induction steps generalizing l with
  | nil => cases h
  | cons s rest ih =>
    obtain ⟨hs, hrest⟩ := not_or.mp fun hm => hdown (List.mem_cons.mpr hm)
    by_cases hd : f.get? l = some .directory
    · rw [locateFrom, hd] at h
      cases hlong : isTooLong s with
      | true =>
        simp only [hlong, if_true, Except.error.injEq] at h
        exact absurd h.symm ho
      | false =>
        have hstep : step l s = l ++ [s] := by
          rw [step]
          simp [Ne.symm hs]
        simp only [hlong, Bool.false_eq_true, if_false, hstep] at h
        obtain ⟨taken, htaken, hblocked⟩ := ih hrest h
        refine ⟨s :: taken, List.cons_prefix_cons.mpr ⟨rfl, htaken⟩, ?_⟩
        rwa [List.append_assoc] at hblocked
    · exact ⟨[], List.nil_prefix, by rwa [List.append_nil]⟩

end Files

end TraversalSdk
