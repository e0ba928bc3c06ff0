import TraversalSdk.Storage.Write

namespace TraversalSdk

def Path.location (p : Path) : Files.Location := p.steps.foldl Files.step []

/-- Without a step up, steps lead down. -/
theorem Path.foldl_step (l : Files.Location) {steps : List String} (h : ".." ∉ steps) :
    steps.foldl Files.step l = l ++ steps := by
  induction steps generalizing l with
  | nil => simp
  | cons t steps ih =>
    obtain ⟨ht, hsteps⟩ := not_or.mp fun hm => h (List.mem_cons.mpr hm)
    have hstep : Files.step l t = l ++ [t] := by
      rw [Files.step]
      simp [Ne.symm ht]
    rw [List.foldl_cons, hstep, ih _ hsteps, List.append_assoc]
    rfl

theorem Path.steps_eq_parent {p : Path} {s : String} (h : p.steps.getLast? = some s) :
    p.steps = p.parent.steps ++ [s] := by
  obtain ⟨init, hinit⟩ := List.getLast?_eq_some_iff.mp h
  rw [Path.parent, hinit, List.dropLast_concat]

namespace Files

variable {f f' f'' : Files} {l m : Location} {e : StoredEntry}

/-- Directories stay, and so do files but for those at the given locations. -/
structure Keeps (f f' : Files) (written : List Location) : Prop where
  directory : ∀ l, f.get? l = some .directory → f'.get? l = some .directory
  file : ∀ l bytes, l ∉ written → f.get? l = some (.file bytes) → f'.get? l = some (.file bytes)

theorem Keeps.refl (f : Files) : Keeps f f [] := ⟨fun _ h => h, fun _ _ _ h => h⟩

/-- What two steps keep both of them keep. -/
theorem Keeps.trans {ls ms : List Location} (h : Keeps f f' ls) (h' : Keeps f' f'' ms) :
    Keeps f f'' (ls ++ ms) where
  directory l hl := h'.directory l (h.directory l hl)
  file l bytes hn hl := by
    obtain ⟨hls, hms⟩ := not_or.mp fun hm => hn (List.mem_append.mpr hm)
    exact h'.file l bytes hms (h.file l bytes hls hl)

theorem get?_put_self (h : f.get? l ≠ some .directory) : (f.put l e).get? l = some e := by
  unfold get? at h ⊢
  split at h
  · exact absurd rfl h
  · next hl => rw [if_neg hl, put, lookup_assign, if_pos rfl]

theorem get?_put_ne (h : l ≠ m) : (f.put l e).get? m = f.get? m := by
  unfold get?
  rw [put, lookup_assign, if_neg h]

theorem put_keeps (h : f.get? l ≠ some .directory) : Keeps f (f.put l e) [l] where
  directory m hm := by
    rw [get?_put_ne (by rintro rfl; exact h hm), hm]
  file m bytes hn hm := by
    rw [get?_put_ne (by rintro rfl; exact hn List.mem_cons_self), hm]

/-- Where nothing was, nothing is lost. -/
theorem put_keeps_of_none (h : f.get? l = none) : Keeps f (f.put l e) [] := by
  have hput : Keeps f (f.put l e) [l] := put_keeps (by rw [h]; nofun)
  refine ⟨hput.directory, fun m bytes _ hm => hput.file m bytes ?_ hm⟩
  rintro hl
  rw [List.mem_singleton.mp hl, h] at hm
  cases hm

theorem locateFrom_cons_ok {s : String} {rest : List String} :
    f.locateFrom l (s :: rest) = .ok m ↔
      f.get? l = some .directory ∧ isTooLong s = false ∧ f.locateFrom (step l s) rest = .ok m := by
  rw [locateFrom]
  split
  · next h => simp [h]
  · next h => simp [h]
  · next h =>
    cases hs : isTooLong s with
    | true => simp
    | false => simp [h]

/-- A path that could be followed still can. -/
theorem locateFrom_keeps {ls : List Location} (h : Keeps f f' ls) {steps : List String}
    (hl : f.locateFrom l steps = .ok m) : f'.locateFrom l steps = .ok m := by
  induction steps generalizing l with
  | nil => exact hl
  | cons s rest ih =>
    obtain ⟨hd, hs, hrest⟩ := locateFrom_cons_ok.mp hl
    exact locateFrom_cons_ok.mpr ⟨h.directory l hd, hs, ih hrest⟩

/-- Steps go on from where the ones before have led. -/
theorem locateFrom_append {steps : List String} (h : f.locateFrom l steps = .ok m)
    (rest : List String) : f.locateFrom l (steps ++ rest) = f.locateFrom m rest := by
  induction steps generalizing l with
  | nil =>
    cases h
    rfl
  | cons s steps ih =>
    obtain ⟨hd, hs, h⟩ := locateFrom_cons_ok.mp h
    rw [List.cons_append, locateFrom, hd, ← ih h]
    simp [hs]

theorem locate_keeps {ls : List Location} (h : Keeps f f' ls) {p : Path}
    (hp : f.locate p = .ok l) : f'.locate p = .ok l := by
  unfold locate at hp ⊢
  split at hp
  · cases hp
  · exact locateFrom_keeps h hp

theorem bytes_of_locate {p : Path} {bytes : ByteArray} (hp : f.locate p = .ok l)
    (hl : f.get? l = some (.file bytes)) : f.bytes p = .ok bytes := by
  simp [Files.bytes, find, hp, hl, bind, Except.bind]

/-- One step down: the directory is there, or it is made where nothing was. -/
theorem makeDirectoriesFrom_cons_ok {s : String} {rest : List String}
    (h : makeDirectoriesFrom f l (s :: rest) = (f', .ok m)) :
    isTooLong s = false ∧ ∃ g, Keeps f g [] ∧ g.get? (step l s) = some .directory ∧
      makeDirectoriesFrom g (step l s) rest = (f', .ok m) := by
  rw [makeDirectoriesFrom] at h
  cases hs : isTooLong s with
  | true => simp [hs] at h
  | false =>
    simp only [hs, Bool.false_eq_true, if_false] at h
    refine ⟨rfl, ?_⟩
    cases hn : f.get? (step l s) with
    | none =>
      rw [hn] at h
      exact ⟨_, put_keeps_of_none hn, get?_put_self (by rw [hn]; nofun), h⟩
    | some e =>
      cases e with
      | directory =>
        rw [hn] at h
        exact ⟨f, .refl f, hn, h⟩
      | file bytes =>
        rw [hn] at h
        cases h

/-- Making directories adds directories, and in the end the path leads to one. -/
theorem makeDirectoriesFrom_ok {steps : List String}
    (h : makeDirectoriesFrom f l steps = (f', .ok m)) (hl : f.get? l = some .directory) :
    Keeps f f' [] ∧ f'.locateFrom l steps = .ok m ∧ m = steps.foldl step l ∧
      f'.get? m = some .directory := by
  induction steps generalizing f l with
  | nil =>
    cases h
    exact ⟨.refl _, rfl, rfl, hl⟩
  | cons s rest ih =>
    obtain ⟨hs, g, hg, hnext, h⟩ := makeDirectoriesFrom_cons_ok h
    obtain ⟨hkeeps, hlocate, hm, hd⟩ := ih h hnext
    exact ⟨hg.trans hkeeps, locateFrom_cons_ok.mpr
      ⟨hkeeps.directory l (hg.directory l hl), hs, hlocate⟩, hm, hd⟩

/-- A file is put next to the directories that were made for it, and never in the place of one. -/
theorem target_ok {p : Path} {s : String} (h : f.target l p s = .ok m) :
    bar? p = none ∧ isTooLong s = false ∧ f.get? (step l s) ≠ some .directory ∧ m = step l s := by
  unfold target at h
  split at h
  · cases h
  · next hbar =>
    split at h
    · cases h
    · next hs =>
      split at h
      · cases h
      · next hd =>
        cases h
        refine ⟨hbar, by simpa using hs, fun hdirectory => ?_, rfl⟩
        simp [isDirectoryAt, hdirectory] at hd

theorem makeDirectories_ok {p : Path} (h : f.makeDirectories p = (f', .ok m)) :
    Keeps f f' [] ∧ f'.locateFrom [] p.steps = .ok m ∧ m = p.location ∧
      f'.get? m = some .directory := by
  unfold makeDirectories at h
  split at h
  · cases h
  · exact makeDirectoriesFrom_ok h rfl

/-- A file that was written is found under its path; the rest is kept. -/
theorem write_ok {p : Path} {bytes : ByteArray} (h : f.write p bytes = (f', .ok ())) :
    Keeps f f' [p.location] ∧ f'.locate p = .ok p.location ∧
      f'.get? p.location = some (.file bytes) := by
  unfold write at h
  split at h
  · cases h
  · next s hs =>
    split at h
    · cases h
    · next g l hmake =>
      split at h
      · cases h
      · next t htarget =>
        cases h
        obtain ⟨hkeeps, hlocate, hl, hdirectory⟩ := makeDirectories_ok hmake
        obtain ⟨hbar, hshort, hfree, rfl⟩ := target_ok htarget
        have hsteps := Path.steps_eq_parent hs
        have hlocation : p.location = step l s := by
          rw [Path.location, hsteps, List.foldl_append, hl]
          rfl
        rw [hlocation]
        have hput : Keeps g (g.put (step l s) (.file bytes)) [step l s] := put_keeps hfree
        refine ⟨hkeeps.trans hput, ?_, get?_put_self hfree⟩
        rw [locate, hbar, hsteps]
        refine (locateFrom_append (locateFrom_keeps hput hlocate) [s]).trans ?_
        exact locateFrom_cons_ok.mpr ⟨hput.directory l hdirectory, hshort, rfl⟩

section

variable {p : Path} {a : Artifact} {as : List Artifact} {written : List Path}

theorem writeAll_cons_ok (h : f.writeAll p (a :: as) = (f', .ok written)) :
    ∃ g rest, f.write (p.below a.path) a.content.bytes = (g, .ok ()) ∧
      g.writeAll p as = (f', .ok rest) := by
  rw [writeAll] at h
  cases hwrite : f.write (p.below a.path) a.content.bytes with
  | mk g result =>
    cases result with
    | error o => simp [hwrite] at h
    | ok _ =>
      cases hrest : g.writeAll p as with
      | mk g' result =>
        cases result with
        | error o => simp [hwrite, hrest, Except.map] at h
        | ok rest =>
          simp only [hwrite, hrest, Except.map, Prod.mk.injEq] at h
          obtain ⟨rfl, _⟩ := h
          exact ⟨g, rest, rfl, hrest⟩

/-- Writing files changes no other. -/
theorem writeAll_keeps (h : f.writeAll p as = (f', .ok written)) :
    Keeps f f' (as.map fun a => (p.below a.path).location) := by
  induction as generalizing f written with
  | nil =>
    cases h
    exact .refl _
  | cons a as ih =>
    obtain ⟨g, rest, hwrite, hrest⟩ := writeAll_cons_ok h
    exact (write_ok hwrite).1.trans (ih hrest)

/-- Every file that was written reads back, unless another one went to its place. -/
theorem writeAll_bytes (h : f.writeAll p as = (f', .ok written)) (ha : a ∈ as)
    (hapart : ∀ b ∈ as, (p.below b.path).location = (p.below a.path).location → b = a) :
    f'.bytes (p.below a.path) = .ok a.content.bytes := by
  induction as generalizing f written with
  | nil => cases ha
  | cons b as ih =>
    obtain ⟨g, rest, hwrite, hrest⟩ := writeAll_cons_ok h
    by_cases hmem : a ∈ as
    · exact ih hrest hmem fun c hc => hapart c (List.mem_cons_of_mem _ hc)
    · obtain rfl : a = b := (List.mem_cons.mp ha).resolve_right hmem
      obtain ⟨_, hlocate, hfile⟩ := write_ok hwrite
      have hkeeps := writeAll_keeps hrest
      refine bytes_of_locate (locate_keeps hkeeps hlocate) (hkeeps.file _ _ ?_ hfile)
      intro hm
      obtain ⟨c, hc, hsame⟩ := List.mem_map.mp hm
      exact hmem (hapart c (List.mem_cons_of_mem _ hc) hsame ▸ hc)

end

structure Open (f : Files) (p : Path) : Prop where
  allowed : bar? p = none ∧ bar? p.parent = none
  above : f.locateFrom [] p.parent.steps = .ok p.parent.location ∧
    f.get? p.parent.location = some .directory
  name : ∃ s, p.steps.getLast? = some s ∧ isTooLong s = false ∧
    p.location = step p.parent.location s
  free : f.get? p.location ≠ some .directory

/-- Directories that are there need not be made. -/
theorem makeDirectoriesFrom_eq {steps : List String} (h : f.locateFrom l steps = .ok m)
    (hm : f.get? m = some .directory) : makeDirectoriesFrom f l steps = (f, .ok m) := by
  induction steps generalizing l with
  | nil =>
    cases h
    rfl
  | cons s rest ih =>
    obtain ⟨_, hs, hrest⟩ := locateFrom_cons_ok.mp h
    have hnext : f.get? (step l s) = some .directory := by
      cases rest with
      | nil =>
        cases hrest
        exact hm
      | cons t rest => exact (locateFrom_cons_ok.mp hrest).1
    rw [makeDirectoriesFrom]
    simp only [hs, hnext, Bool.false_eq_true, if_false]
    exact ih hrest

/-- Where a place is open, the file is put there. -/
theorem Open.write_eq {p : Path} (h : Open f p) (bytes : ByteArray) :
    f.write p bytes = (f.put p.location (.file bytes), .ok ()) := by
  obtain ⟨s, hlast, hs, hlocation⟩ := h.name
  have hmake : f.makeDirectories p.parent = (f, .ok p.parent.location) := by
    rw [makeDirectories, h.allowed.2]
    exact makeDirectoriesFrom_eq h.above.1 h.above.2
  have hfree : f.isDirectoryAt (step p.parent.location s) = false := by
    rw [← hlocation, isDirectoryAt]
    split
    · next hd => exact absurd hd h.free
    · rfl
  have htarget : f.target p.parent.location p s = .ok p.location := by
    rw [target, h.allowed.1, hlocation]
    simp [hs, hfree]
  simp [write, hlast, hmake, htarget]

theorem Open.put {p : Path} (h : Open f p) (hl : f.get? l ≠ some .directory) (bytes : ByteArray) :
    Open (f.put l (.file bytes)) p where
  allowed := h.allowed
  above := ⟨locateFrom_keeps (put_keeps hl) h.above.1, (put_keeps hl).directory _ h.above.2⟩
  name := h.name
  free := by
    by_cases he : l = p.location
    · rw [← he, get?_put_self hl]
      nofun
    · rw [get?_put_ne he]
      exact h.free

/-- Files with a place each can all be written. -/
theorem writeAll_isOk {p : Path} {as : List Artifact} (h : ∀ a ∈ as, Open f (p.below a.path)) :
    ∃ f' written, f.writeAll p as = (f', .ok written) := by
  induction as generalizing f with
  | nil => exact ⟨f, [], rfl⟩
  | cons a as ih =>
    obtain ⟨hopen, hrest⟩ := List.forall_mem_cons.mp h
    obtain ⟨f', written, hwritten⟩ := ih fun b hb =>
      (hrest b hb).put hopen.free a.content.bytes
    refine ⟨f', p.below a.path :: written, ?_⟩
    simp [writeAll, hopen.write_eq, hwritten, Except.map]

end Files

end TraversalSdk
