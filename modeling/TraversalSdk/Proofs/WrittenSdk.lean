import TraversalSdk.Command.Session
import TraversalSdk.Proofs.StoredDocuments
import TraversalSdk.Proofs.StoredTrees

namespace TraversalSdk

structure Path.Straight (p : Path) : Prop where
  down : ".." ∉ p.steps
  named : ∃ s, p.steps.getLast? = some s ∧ '/' ∉ s.toList

theorem Path.Straight.location_eq {p : Path} (h : p.Straight) : p.location = p.steps := by
  rw [location, foldl_step [] h.down, List.nil_append]

namespace Files

variable {f g f' : Files} {p : Path} {l m : Location} {e : StoredEntry}

theorem stored?_eq_none (h : f.stored? p = .ok none) :
    ∃ o, f.find p = .error o ∧ o ≠ .nameTooLong := by
  unfold stored? at h
  cases hfind : f.find p with
  | ok e => simp [hfind] at h
  | error o =>
    refine ⟨o, rfl, ?_⟩
    rintro rfl
    simp [hfind] at h

theorem find_eq (hbar : bar? p = none) : f.find p = (f.locateFrom [] p.steps).bind fun l =>
    match f.get? l with
    | some e => .ok e
    | none => .error .absent := by
  rw [find, locate, hbar]
  rfl

theorem find_ok_iff : f.find p = .ok e ↔
    bar? p = none ∧ f.locateFrom [] p.steps = .ok p.location ∧ f.get? p.location = some e := by
  cases hbar : bar? p with
  | some o => simp [find, locate, hbar, bind, Except.bind]
  | none =>
    rw [find_eq hbar]
    cases hsteps : f.locateFrom [] p.steps with
    | error o => simp [Except.bind]
    | ok l =>
      obtain rfl : l = p.location := locateFrom_location hsteps
      cases hl : f.get? p.location <;> simp [Except.bind, hl]

theorem find_error {o : Obstacle} (h : f.find p = .error o) (hbar : bar? p = none) :
    f.locateFrom [] p.steps = .error o ∨
      f.locateFrom [] p.steps = .ok p.location ∧ f.get? p.location = none := by
  rw [find_eq hbar] at h
  cases hsteps : f.locateFrom [] p.steps with
  | error o' =>
    simp only [hsteps, Except.bind] at h
    rw [Except.error.inj h]
    exact .inl rfl
  | ok l =>
    obtain rfl : l = p.location := locateFrom_location hsteps
    cases hl : f.get? p.location with
    | none => exact .inr ⟨rfl, rfl⟩
    | some e => simp [hsteps, hl, Except.bind] at h

theorem isPresent_ok {present : Bool} (h : f.isPresent p = .ok present) :
    ∃ e, f.stored? p = .ok e ∧ e.isSome = present := by
  unfold isPresent at h
  cases hentry : f.stored? p with
  | error e => simp [hentry, Except.map] at h
  | ok e => exact ⟨e, rfl, by simpa [hentry, Except.map] using h⟩

theorem stored?_some (h : f.stored? p = .ok (some e)) : f.find p = .ok e := by
  unfold stored? at h
  split at h <;> cases h
  assumption

theorem bytes_ok {bytes : ByteArray} (h : f.bytes p = .ok bytes) : f.find p = .ok (.file bytes) := by
  obtain ⟨e, hfind, h⟩ := bind_eq_ok.mp h
  cases e with
  | directory => cases h
  | file bytes' =>
    cases h
    exact hfind

theorem locateFrom_of_append {steps t : List String} (h : f.locateFrom l (steps ++ t) = .ok m) :
    ∃ k, f.locateFrom l steps = .ok k ∧ f.locateFrom k t = .ok m := by
  induction steps generalizing l with
  | nil => exact ⟨l, rfl, h⟩
  | cons s steps ih =>
    obtain ⟨hd, hs, hrest⟩ := locateFrom_cons_ok.mp h
    obtain ⟨k, hk, ht⟩ := ih hrest
    exact ⟨k, locateFrom_cons_ok.mpr ⟨hd, hs, hk⟩, ht⟩

/-- What has something below it is a directory. -/
theorem find_of_append {steps t : List String} (h : f.find ⟨steps ++ t⟩ = .ok e) (ht : t ≠ []) :
    f.find ⟨steps⟩ = .ok .directory := by
  obtain ⟨hbar, hsteps, _⟩ := find_ok_iff.mp h
  obtain ⟨k, hk, hrest⟩ := locateFrom_of_append hsteps
  obtain rfl : k = Path.location ⟨steps⟩ := locateFrom_location hk
  cases t with
  | nil => exact absurd rfl ht
  | cons s t =>
    exact find_ok_iff.mpr ⟨bar?_of_append hbar, hk, (locateFrom_cons_ok.mp hrest).1⟩

theorem stored?_of_find (h : f.find p = .ok e) : f.stored? p = .ok (some e) := by
  rw [stored?, h]

theorem isDirectory_ok (h : f.isDirectory p = .ok true) : f.find p = .ok .directory := by
  unfold isDirectory at h
  cases hentry : f.stored? p with
  | error e => simp [hentry, Except.map] at h
  | ok e =>
    cases e with
    | none => simp [hentry, Except.map] at h
    | some e =>
      cases e with
      | directory => exact stored?_some hentry
      | file bytes => simp [hentry, Except.map, StoredEntry.bytes?] at h

/-- An SDK is in a directory that can be found. -/
theorem find_of_holdsSdk (h : f.holdsSdk p = .ok true) : f.find p = .ok .directory := by
  obtain ⟨directory, hdirectory, h⟩ := bind_eq_ok.mp h
  cases directory with
  | false => cases h
  | true => exact find_of_append (isDirectory_ok hdirectory) (by decide)

/-- Where a straight path leads to nothing, nothing is stored within its directory. -/
theorem Rooted.absent_within (hf : f.Rooted) (hp : p.Straight) (h : f.stored? p = .ok none)
    (hbar : bar? p = none) (hm : isWithin p.location m = true) (hne : m ≠ p.location) :
    f.get? m = none := by
  obtain ⟨t, rfl, _⟩ := isWithin_iff.mp hm
  have ht : t ≠ [] := by
    rintro rfl
    exact hne (List.append_nil _)
  obtain ⟨o, hfind, ho⟩ := stored?_eq_none h
  rcases find_error hfind hbar with herror | ⟨_, hnone⟩
  · obtain ⟨taken, ⟨rest, hrest⟩, hblocked⟩ := obstructed_of_locateFrom_error hp.down herror ho
    rw [hp.location_eq, ← hrest, List.append_assoc]
    exact hf.absent_below hblocked (by simp [ht])
  · exact hf.absent_below (by rw [hnone]; nofun) ht

/-- Cleaning is not needed where nothing is; else an SDK is there. -/
theorem needsCleaning_ok {c : Bool} (h : f.needsCleaning p = .ok c) :
    c = false ∧ f.stored? p = .ok none ∨
      c = true ∧ f.holdsSdk p = .ok true := by
  obtain ⟨present, hpresent, h⟩ := bind_eq_ok.mp h
  obtain ⟨e, hentry, hsome⟩ := isPresent_ok hpresent
  cases present with
  | false =>
    cases h
    obtain rfl : e = none := by simpa using hsome
    exact .inl ⟨rfl, hentry⟩
  | true =>
    obtain ⟨holds, hholds, h⟩ := bind_eq_ok.mp h
    cases holds with
    | true =>
      cases h
      exact .inr ⟨rfl, hholds⟩
    | false => cases h

/-- Cleaning does nothing, or it empties a directory with an SDK and then removes it by its name. -/
theorem clean_ok (h : f.clean p = (g, .ok ())) : f.stored? p = .ok none ∧ g = f ∨
    f.holdsSdk p = .ok true ∧ (f.removeBelow p.location).removable p = .ok () ∧
      g = (f.removeBelow p.location).remove p.location := by
  unfold clean at h
  split at h
  · cases h
  · next hneeds =>
    cases h
    rcases needsCleaning_ok hneeds with ⟨_, hentry⟩ | ⟨hc, _⟩
    · exact .inl ⟨hentry, rfl⟩
    · cases hc
  · next hneeds =>
    rcases needsCleaning_ok hneeds with ⟨hc, _⟩ | ⟨_, hholds⟩
    · cases hc
    · right
      unfold removeTree at h
      split at h
      · cases h
      · next l hlocate =>
        have hl : l = p.location := by
          unfold locate at hlocate
          split at hlocate
          · cases hlocate
          · exact locateFrom_location hlocate
        subst hl
        dsimp only at h
        split at h
        · cases h
        · next hremovable =>
          cases h
          exact ⟨hholds, hremovable, rfl⟩

/-- The store in which the files are written, once the directory has been cleaned if asked. -/
theorem writeOutput_ok {as : List Artifact} {clean : Bool} {written : List Path}
    (h : f.writeOutput p as clean = (f', .ok written)) : ∃ g, g.writeAll p as = (f', .ok written) ∧
      (clean = false ∧ g = f ∨ clean = true ∧ f.clean p = (g, .ok ())) := by
  cases clean with
  | false => exact ⟨f, h, .inl ⟨rfl, rfl⟩⟩
  | true =>
    simp only [writeOutput, if_true] at h
    split at h
    · cases h
    · next g hclean => exact ⟨g, h, .inr ⟨rfl, hclean⟩⟩

theorem clean_rooted (hf : f.Rooted) (p : Path) : (f.clean p).1.Rooted := by
  unfold clean
  split
  · exact hf
  · exact hf
  · unfold removeTree
    split
    · exact hf
    · dsimp only
      split
      · exact hf.removeBelow _
      · exact (hf.removeBelow _).remove _

/-- Whether or not it succeeds, writing an SDK leaves everything in a directory. -/
theorem writeOutput_rooted (hf : f.Rooted) (p : Path) (as : List Artifact) (clean : Bool) :
    (f.writeOutput p as clean).1.Rooted := by
  cases clean with
  | false => exact (writeAll_adds hf p as).1
  | true =>
    have hclean := clean_rooted hf p
    simp only [writeOutput, if_true]
    split
    · next heq => rwa [heq] at hclean
    · next heq =>
      rw [heq] at hclean
      exact (writeAll_adds hclean p as).1

/-- Cleaning leaves alone what is not within the directory. -/
theorem clean_outside (h : f.clean p = (g, .ok ())) (hm : isWithin p.location m = false) :
    g.get? m = f.get? m := by
  rcases clean_ok h with ⟨_, rfl⟩ | ⟨_, _, rfl⟩
  · rfl
  · rw [get?_remove_of_not hm, get?_removeBelow_of_not hm]

/-- A file at no written location is as it was. -/
theorem writeAll_file? {as : List Artifact} {written : List Path} (hf : f.Rooted)
    (h : f.writeAll p as = (f', .ok written)) (hm : ∀ a ∈ as, m ≠ (p.below a.path).location) :
    f'.file? m = f.file? m := by
  refine Option.ext fun bytes => ?_
  rw [file?_eq_some_iff, file?_eq_some_iff]
  constructor
  · intro hfile
    have hadds := (writeAll_adds hf p as).2 m (.file bytes)
    rw [h] at hadds
    rcases hadds hfile with hold | ⟨a, ha, ⟨rfl, _⟩ | ⟨he, _⟩⟩
    · exact hold
    · exact absurd rfl (hm a ha)
    · cases he
  · intro hfile
    refine (writeAll_keeps h).file m bytes (fun hmem => ?_) hfile
    obtain ⟨a, ha, rfl⟩ := List.mem_map.mp hmem
    exact hm a ha rfl

/-- On its way to a directory, the path does not pass through it. -/
def Aside (p : Path) : Prop :=
  ∀ m, Passes [] p.steps m → isWithin p.location m = true → m = p.location

theorem aside_of_straight (hp : p.Straight) : Aside p := by
  rintro m ⟨taken, htaken, rfl⟩ hwithin
  rw [Path.foldl_step [] fun h => hp.down (htaken.subset h), hp.location_eq, List.nil_append] at *
  obtain ⟨t, ht, _⟩ := isWithin_iff.mp hwithin
  exact htaken.eq_of_length_le (by simp [ht])

/-- A directory that was emptied can be removed by its name just if nothing of it was on the way. -/
theorem aside_of_removable (h : (f.removeBelow p.location).removable p = .ok ()) : Aside p := by
  obtain ⟨e, hparent, hlast⟩ := bind_eq_ok.mp h
  obtain ⟨_, hsteps, hparent⟩ := find_ok_iff.mp hparent
  cases hname : p.steps.getLast? with
  | none => simp [hname] at hlast
  | some s =>
    rintro m ⟨taken, htaken, rfl⟩ hwithin
    by_contra hne
    have hgone : (f.removeBelow p.location).get? (taken.foldl step []) = none :=
      get?_removeBelow hwithin hne
    rw [Path.steps_eq_parent hname] at htaken
    rcases List.prefix_concat_iff.mp htaken with rfl | htaken
    · exact hne (by rw [Path.location, Path.steps_eq_parent hname])
    · rcases directory_of_passes hsteps ⟨taken, htaken, rfl⟩ with hm | hm
      · rw [hm, hparent] at hgone
        cases hgone
      · rw [hm] at hgone
        cases hgone

/-- Written into a directory that was empty or not there, an SDK is all that it holds. -/
theorem writeAll_exact {as : List Artifact} (hf : f.Rooted) (haside : Aside p)
    (hempty : ∀ m, isWithin p.location m = true → m ≠ p.location → f.get? m = none)
    (hdown : ∀ a ∈ as, ".." ∉ Path.relativeSteps a.path) (hwithin : isWithin p.location m = true)
    (hne : m ≠ p.location) (hm : (f.writeAll p as).1.get? m = some e) :
    (∃ a ∈ as, m = (p.below a.path).location ∧ e = .file a.content.bytes) ∨
      e = .directory ∧ ∃ a ∈ as, m <+: (p.below a.path).location := by
  rcases (writeAll_adds hf p as).2 m e hm with hold | ⟨a, ha, hfile | ⟨rfl, taken, htaken, rfl⟩⟩
  · rw [hempty m hwithin hne] at hold
    cases hold
  · exact .inl ⟨a, ha, hfile⟩
  · refine .inr ⟨rfl, a, ha, ?_⟩
    have hbelow : taken <+: p.steps ++ Path.relativeSteps a.path :=
      htaken.trans (List.dropLast_prefix _)
    rcases List.prefix_or_prefix_of_prefix hbelow (List.prefix_append ..) with h | ⟨t, rfl⟩
    · exact absurd (haside _ ⟨taken, h, rfl⟩ hwithin) hne
    · have ht : t <+: Path.relativeSteps a.path := (List.prefix_append_right_inj _).mp hbelow
      rw [Path.location_below p (hdown a ha), List.foldl_append,
        Path.foldl_step _ fun h => hdown a ha (ht.subset h)]
      exact (List.prefix_append_right_inj _).mpr ht

/-- A directory with the first documents of an SDK is one with an SDK. -/
theorem needsCleaning_of_bytes {bytes bytes' : ByteArray}
    (hinit : f.bytes (p.below "__init__.py") = .ok bytes)
    (hgrammar : f.bytes (p.below "__artifacts__/grammar.json") = .ok bytes') :
    f.needsCleaning p = .ok true := by
  have hsteps : p.below "__artifacts__/grammar.json" =
      ⟨(p.steps ++ ["__artifacts__"]) ++ ["grammar.json"]⟩ := by
    rw [List.append_assoc]
    rfl
  have hdocument := bytes_ok hgrammar
  rw [hsteps] at hdocument
  have hdocuments := find_of_append hdocument (by simp)
  have hp : f.find p = .ok .directory := find_of_append hdocuments (by simp)
  have hbelow : p.below Sdk.artifactsDir = ⟨p.steps ++ ["__artifacts__"]⟩ := rfl
  have hpresent : f.isPresent p = .ok true := by
    rw [isPresent, stored?_of_find hp]
    rfl
  have hdirectory : f.isDirectory (p.below Sdk.artifactsDir) = .ok true := by
    rw [isDirectory, hbelow, stored?_of_find hdocuments]
    rfl
  have hfile : f.isFile (p.below "__init__.py") = .ok true := by
    rw [isFile, stored?_of_find (bytes_ok hinit)]
    rfl
  simp [needsCleaning, holdsSdk, hpresent, hdirectory, hfile, bind, Except.bind, pure, Except.pure]

theorem remove_removeBelow (f : Files) (l : Location) : (f.removeBelow l).remove l = f.remove l := by
  simp only [remove, removeBelow, List.filter_filter]
  congr 1
  refine List.filter_congr fun e _ => ?_
  cases isWithin l e.1 <;> simp

theorem locateFrom_congr {steps : List String}
    (h : ∀ m, Passes l steps m → g.get? m = f.get? m) :
    g.locateFrom l steps = f.locateFrom l steps := by
  induction steps generalizing l with
  | nil => rfl
  | cons s rest ih =>
    rw [locateFrom, locateFrom, h l (passes_self l _), ih fun m hm => h m hm.cons]

/-- By a straight path an SDK is removed, and nothing else. -/
theorem clean_of_straight (hp : p.Straight) (h : f.needsCleaning p = .ok true) :
    f.clean p = (f.remove p.location, .ok ()) := by
  have hfind : f.find p = .ok .directory := by
    rcases needsCleaning_ok h with ⟨hc, _⟩ | ⟨_, hholds⟩
    · cases hc
    · exact find_of_holdsSdk hholds
  obtain ⟨s, hlast, _⟩ := hp.named
  have hsteps := Path.steps_eq_parent hlast
  have hparent : f.find p.parent = .ok .directory := by
    have happend : p = ⟨p.parent.steps ++ [s]⟩ := by rw [← hsteps]
    rw [happend] at hfind
    exact find_of_append hfind (by simp)
  -- Emptying the directory takes nothing from the way to it.
  have hkept (m : Location) (hm : Passes [] p.parent.steps m) :
      (f.removeBelow p.location).get? m = f.get? m := by
    refine get?_removeBelow_of_not (Bool.eq_false_iff.mpr fun hwithin => ?_)
    obtain ⟨taken, htaken, rfl⟩ := hm
    obtain ⟨t, ht, _⟩ := isWithin_iff.mp hwithin
    have hdown : ".." ∉ taken := fun h => hp.down (hsteps ▸ List.mem_append_left _ (htaken.subset h))
    rw [Path.foldl_step [] hdown, hp.location_eq, hsteps, List.nil_append] at ht
    have hlength := htaken.length_le
    rw [ht, List.length_append, List.length_append] at hlength
    simp at hlength
    omega
  have hemptied : (f.removeBelow p.location).find p.parent = .ok .directory := by
    obtain ⟨hbar, hway, hdirectory⟩ := find_ok_iff.mp hparent
    refine find_ok_iff.mpr ⟨hbar, (locateFrom_congr hkept).trans hway, ?_⟩
    exact (hkept p.parent.location ⟨_, List.prefix_rfl, rfl⟩).trans hdirectory
  have hup : s ≠ ".." := by
    rintro rfl
    exact hp.down (List.mem_of_getLast? hlast)
  have hlocate : f.locate p = .ok p.location := by
    obtain ⟨hbar, hway, _⟩ := find_ok_iff.mp hfind
    rw [locate, hbar, hway]
  simp [clean, h, removeTree, hlocate, removable, hemptied, hlast, hup, bind, Except.bind,
    remove_removeBelow]

/-- A file right below something can be asked about, unless its path is too long. -/
theorem stored?_below (hp : f.find p = .ok e) (name : String)
    (hname : Path.relativeSteps name = [name]) (hshort : isTooLong name = false) : (∃ e, f.stored? (p.below name) = .ok e) ∨
      bar? (p.below name) = some .nameTooLong ∧
        f.stored? (p.below name) = .error (.barred (p.below name).text .nameTooLong) := by
  obtain ⟨_, hway, hl⟩ := find_ok_iff.mp hp
  cases hfind : f.find (p.below name) with
  | ok e' => exact .inl ⟨_, stored?_of_find hfind⟩
  | error o =>
    cases o with
    | nameTooLong =>
      right
      cases hbar : bar? (p.below name) with
      | some o =>
        simp only [find, locate, hbar, bind, Except.bind, Except.error.injEq] at hfind
        rw [hfind]
        exact ⟨rfl, by simp [stored?, find, locate, hbar, bind, Except.bind, hfind]⟩
      | none =>
        have hsteps : (p.below name).steps = p.steps ++ [name] := by rw [Path.below, hname]
        rw [find_eq hbar, hsteps, locateFrom_append hway] at hfind
        cases e with
        | file bytes => simp [locateFrom, hl, Except.bind] at hfind
        | directory =>
          cases hnext : f.get? (step p.location name) <;>
            simp [locateFrom, hl, hshort, Except.bind, hnext] at hfind
    | _ => exact .inl ⟨none, by rw [stored?, hfind]⟩

/-- What is there and is no SDK is not removed, and nothing is written. -/
theorem writeOutput_refused (hpresent : f.isPresent p = .ok true) (hsdk : f.holdsSdk p ≠ .ok true)
    (as : List Artifact) : ∃ failure, f.writeOutput p as true = (f, .error failure) ∧
      (failure = .notGenerated p.text ∨ ∃ name ∈ [Sdk.artifactsDir, "__init__.py"],
        bar? (p.below name) = some .nameTooLong ∧
          failure = .barred (p.below name).text .nameTooLong) := by
  obtain ⟨e, hentry, hsome⟩ := isPresent_ok hpresent
  obtain ⟨e, rfl⟩ := Option.isSome_iff_exists.mp hsome
  have hfind := stored?_some hentry
  have hfails {failure : Failure} (h : f.needsCleaning p = .error failure) :
      f.writeOutput p as true = (f, .error failure) := by
    simp [writeOutput, clean, h]
  have hholds : f.holdsSdk p = .ok false ∨ ∃ name ∈ [Sdk.artifactsDir, "__init__.py"],
      bar? (p.below name) = some .nameTooLong ∧
        f.holdsSdk p = .error (.barred (p.below name).text .nameTooLong) := by
    rcases stored?_below hfind Sdk.artifactsDir (by decide) (by decide) with ⟨e, he⟩ | ⟨hbar, he⟩
    · rcases stored?_below hfind "__init__.py" (by decide) (by decide) with ⟨e', he'⟩ | ⟨hbar, he'⟩
      · cases hboth : f.holdsSdk p with
        | ok holds => exact .inl (by simpa [hboth] using hsdk)
        | error failure =>
          simp only [holdsSdk, isDirectory, isFile, he, he', Except.map, bind, Except.bind, pure,
            Except.pure] at hboth
          split at hboth <;> cases hboth
      · cases hdirectory : e.any fun e => e.bytes?.isNone with
        | false => exact .inl (by simp [holdsSdk, isDirectory, he, hdirectory, Except.map, bind,
            Except.bind, pure, Except.pure])
        | true =>
          refine .inr ⟨_, List.mem_cons_of_mem _ List.mem_cons_self, hbar, ?_⟩
          simp [holdsSdk, isDirectory, isFile, he, he', hdirectory, Except.map, bind, Except.bind]
    · refine .inr ⟨_, List.mem_cons_self, hbar, ?_⟩
      simp [holdsSdk, isDirectory, he, Except.map, bind, Except.bind]
  rcases hholds with hfalse | ⟨name, hname, hbar, herror⟩
  · refine ⟨_, hfails ?_, .inl rfl⟩
    simp [needsCleaning, hpresent, hfalse, bind, Except.bind]
  · refine ⟨_, hfails ?_, .inr ⟨name, hname, hbar, rfl⟩⟩
    simp [needsCleaning, hpresent, herror, bind, Except.bind]

/-- What it is that an SDK was written: its files are there, in order; what is not within the directory
has stayed, and without cleaning also what is; and after cleaning nothing else is within it. -/
structure Delivered (f f' : Files) (p : Path) (as : List Artifact) (clean : Bool)
    (written : List Path) : Prop where
  rooted : f'.Rooted
  bytes : ∀ a ∈ as, f'.bytes (p.below a.path) = .ok a.content.bytes
  listed : written = as.map fun a => p.below a.path
  outside : ∀ m, isWithin p.location m = false → f'.file? m = f.file? m
  kept : clean = false → ∀ m, (∀ a ∈ as, m ≠ (p.below a.path).location) → f'.file? m = f.file? m
  exact : clean = true → f.holdsSdk p = .ok true ∨ p.Straight → ∀ m e,
    isWithin p.location m = true → m ≠ p.location → f'.get? m = some e →
      (∃ a ∈ as, m = (p.below a.path).location ∧ e = .file a.content.bytes) ∨
        e = .directory ∧ ∃ a ∈ as, m <+: (p.below a.path).location

end Files

namespace Sdk

open Files

variable {b : Built} {config : Option Json} {o : Output}

theorem leadsDown_artifacts (h : generate b config = .ok o) : ∀ a ∈ o.artifacts, LeadsDown a.path := by
  intro a ha
  obtain ⟨_, plan, _, _, hplan, _, hartifacts⟩ := generate_inv h
  refine leadsDown_plannedPaths (b := b) ?_
  rw [← paths_artifacts (Blueprint.ofBuilt?_covers hplan)]
  rw [hartifacts] at ha
  exact List.mem_map.mpr ⟨a, mem_sortOn.mp ha, rfl⟩

/-- Every planned path has its file. -/
theorem artifact_of_planned (h : generate b config = .ok o) (path : String)
    (hpath : path ∈ plannedPaths b) : ∃ a ∈ o.artifacts, a.path = path := by
  obtain ⟨_, plan, _, _, hplan, _, hartifacts⟩ := generate_inv h
  rw [← paths_artifacts (Blueprint.ofBuilt?_covers hplan)] at hpath
  obtain ⟨a, ha, hpath⟩ := List.mem_map.mp hpath
  exact ⟨a, hartifacts ▸ mem_sortOn.mpr ha, hpath⟩

/-- A file of an SDK is within the directory that it is written to. -/
theorem isWithin_below {path : String} (h : LeadsDown path) (p : Path) :
    isWithin p.location (p.below path).location = true := by
  rw [Path.location_below p h.down]
  refine isWithin_iff.mpr ⟨_, rfl, fun _ s hs => ?_⟩
  have hmem := List.mem_of_mem_head? hs
  have hslash := Path.slash_not_mem_relativeSteps hmem
  simp only [List.mem_cons, List.not_mem_nil, or_false]
  rintro (rfl | rfl | rfl)
  · exact h.down hmem
  · exact hslash (by decide)
  · exact hslash (by decide)

theorem delivered (h : generate b config = .ok o) {f f' : Files} (hf : f.Rooted) {p : Path}
    {clean : Bool} {written : List Path}
    (hwrite : f.writeOutput p o.artifacts clean = (f', .ok written)) :
    Delivered f f' p o.artifacts clean written := by
  have hdown := leadsDown_artifacts h
  obtain ⟨g, hall, hclean⟩ := writeOutput_ok hwrite
  have hrooted := writeOutput_rooted hf p o.artifacts clean
  rw [hwrite] at hrooted
  have hg : g.Rooted := by
    rcases hclean with ⟨_, rfl⟩ | ⟨_, hclean⟩
    · exact hf
    · have hg := clean_rooted hf p
      rwa [hclean] at hg
  have hbytes : ∀ a ∈ o.artifacts, f'.bytes (p.below a.path) = .ok a.content.bytes := by
    obtain ⟨_, plan, _, _, hplan, hnodup, hartifacts⟩ := generate_inv h
    intro a ha
    refine writeAll_bytes hall ha fun a' ha' hsame => ?_
    rw [hartifacts] at ha ha'
    exact artifacts_apart (Blueprint.ofBuilt?_covers hplan) hnodup p (mem_sortOn.mp ha')
      (mem_sortOn.mp ha) hsame
  refine ⟨hrooted, hbytes, writeAll_paths hall, fun m hm => ?_, fun hkeep m hm => ?_,
    fun _ hdirectory m e hwithin hne hm => ?_⟩
  · have hold : g.get? m = f.get? m := by
      rcases hclean with ⟨_, rfl⟩ | ⟨_, hclean⟩
      · rfl
      · exact clean_outside hclean hm
    rw [writeAll_file? hg hall, file?, file?, hold]
    rintro a ha rfl
    exact nomatch hm.symm.trans (isWithin_below (hdown a ha) p)
  · rcases hclean with ⟨_, rfl⟩ | ⟨htrue, _⟩
    · exact writeAll_file? hf hall hm
    · exact nomatch hkeep.symm.trans htrue
  · have hclean : f.clean p = (g, .ok ()) := by
      rcases hclean with ⟨hfalse, _⟩ | ⟨_, hclean⟩
      · exact nomatch hfalse.symm.trans ‹clean = true›
      · exact hclean
    have hm : (g.writeAll p o.artifacts).1.get? m = some e := by rwa [hall]
    rcases clean_ok hclean with ⟨hnone, rfl⟩ | ⟨_, hremovable, rfl⟩
    · have hstraight : p.Straight := by
        refine hdirectory.resolve_left fun hholds => ?_
        have hentry := stored?_of_find (find_of_holdsSdk hholds)
        exact nomatch hnone.symm.trans hentry
      have hbar : bar? p = none := by
        obtain ⟨a, ha, _⟩ := artifact_of_planned h "py.typed" (by simp [plannedPaths, ownPaths])
        exact bar?_of_append (find_ok_iff.mp (bytes_ok (hbytes a ha))).1
      exact writeAll_exact hg (aside_of_straight hstraight)
        (fun m => hf.absent_within hstraight hnone hbar) (fun a ha => (hdown a ha).down) hwithin hne hm
    · exact writeAll_exact hg (aside_of_removable hremovable) (fun m => get?_remove)
        (fun a ha => (hdown a ha).down) hwithin hne hm

end Sdk

namespace Session

variable {s s' : Session} {environment : List (String × String)} {words : List String}

/-- Nothing is written before all of an SDK has been made. -/
theorem outcome_files {out : Command.Outcome} (h : s.outcome environment words = (s', out)) :
    s'.files = s.files ∧ ∀ d, out = .write d → ∃ settings o,
      Command.ofWords? words = some (.generate o) ∧ Command.delivery s.files settings o = .ok d := by
  unfold outcome at h
  split at h
  case h_4 o hwords =>
    split at h
    · cases h
      exact ⟨rfl, nofun⟩
    · next settings _ =>
      cases h
      refine ⟨rfl, fun d hd => ⟨settings, o, hwords, ?_⟩⟩
      unfold Command.generated at hd
      split at hd
      · next hdelivery =>
        cases hd
        exact hdelivery
      · cases hd
  case h_5 =>
    split at h <;> cases h <;> exact ⟨rfl, nofun⟩
  all_goals
    cases h
    exact ⟨rfl, nofun⟩

theorem delivery_ok {f : Files} {settings : Settings} {o : GenerateOptions} {d : Delivery}
    (h : Command.delivery f settings o = .ok d) : ∃ b config,
      Built.load f (Path.ofText o.grammarDir) = .ok b ∧ Sdk.generate b (some config) = .ok d.output := by
  obtain ⟨b, hload, h⟩ := bind_eq_ok.mp h
  obtain ⟨output, hgenerate, h⟩ := bind_eq_ok.mp h
  cases h
  exact ⟨b, _, hload, hgenerate⟩

/-- A command line writes an SDK: its grammar was loaded, the SDK generated, and nothing barred the cleaning that
was asked for. -/
structure Writes (s : Session) (environment : List (String × String)) (words : List String) (o : GenerateOptions)
    (b : Built) (config : Json) (d : Delivery) : Prop where
  command : Command.ofWords? words = some (.generate o)
  loaded : Built.load s.files (Path.ofText o.grammarDir) = .ok b
  generated : Sdk.generate b (some config) = .ok d.output
  cleanable : d.clean = true → ∃ c, s.files.needsCleaning d.target = .ok c
  files : (s.run environment words).1.files = (s.files.writeOutput d.target d.output.artifacts d.clean).1

/-- A command line changes files just by writing an SDK. -/
theorem run_files (s : Session) (environment : List (String × String)) (words : List String) :
    (s.run environment words).1.files = s.files ∨ ∃ o b config d, s.Writes environment words o b config d := by
  cases houtcome : s.outcome environment words with
  | mk s' out =>
    obtain ⟨hfiles, hwrite⟩ := outcome_files houtcome
    cases out with
    | answer r =>
      left
      rw [run, houtcome]
      exact hfiles
    | write d =>
      obtain ⟨settings, o, hwords, hdelivery⟩ := hwrite d rfl
      obtain ⟨b, config, hload, hgenerate⟩ := delivery_ok hdelivery
      have hrun : (s.run environment words).1.files =
          (s.files.writeOutput d.target d.output.artifacts d.clean).1 := by
        simp only [run, houtcome, Delivery.deliver, hfiles]
        split
        · next hwritten => rw [hwritten]
        · next hwritten => rw [hwritten]
      by_cases hbarred : ∃ e, d.clean = true ∧ s.files.needsCleaning d.target = .error e
      · obtain ⟨e, hclean, hneeds⟩ := hbarred
        left
        rw [hrun, hclean]
        simp [Files.writeOutput, Files.clean, hneeds]
      · refine .inr ⟨o, b, config, d, ⟨hwords, hload, hgenerate, fun hclean => ?_, hrun⟩⟩
        cases hneeds : s.files.needsCleaning d.target with
        | ok c => exact ⟨c, rfl⟩
        | error e => exact absurd ⟨e, hclean, hneeds⟩ hbarred

/-- Command lines leave everything in a directory, whatever comes of them. -/
theorem run_rooted (h : s.files.Rooted) : (s.run environment words).1.files.Rooted := by
  rcases run_files s environment words with hsame | ⟨_, _, _, d, hwrites⟩
  · rwa [hsame]
  · rw [hwrites.files]
    exact Files.writeOutput_rooted h d.target d.output.artifacts d.clean

end Session

namespace Sdk

open Files

/-- Where the files of an SDK are found, the directory is accepted for cleaning. -/
theorem needsCleaning_of_artifacts {b : Built} {config : Option Json} {o : Output} (h : generate b config = .ok o)
    {f : Files} {p : Path} (hf : ∀ a ∈ o.artifacts, f.bytes (p.below a.path) = .ok a.content.bytes) :
    f.needsCleaning p = .ok true := by
  obtain ⟨a, ha, hinit⟩ := artifact_of_planned h "__init__.py" (by simp [plannedPaths, ownPaths])
  obtain ⟨a', ha', hgrammar⟩ := artifact_of_planned h "__artifacts__/grammar.json"
    (by simp [plannedPaths, documentPaths])
  exact needsCleaning_of_bytes (hinit ▸ hf a ha) (hgrammar ▸ hf a' ha')

/-- What it is that an SDK is written faithfully to a path. If writing succeeds, the SDK is delivered. Where its files
are found, the directory is accepted for cleaning, and by a straight path it is removed. What is no SDK is refused,
and nothing has changed; the refusal is another one if the path is too long to ask what is below it. -/
structure Faithful (o : Output) (f : Files) (p : Path) : Prop where
  delivered : ∀ clean f' written, f.writeOutput p o.artifacts clean = (f', .ok written) →
    Delivered f f' p o.artifacts clean written
  accepted : ∀ g : Files, (∀ a ∈ o.artifacts, g.bytes (p.below a.path) = .ok a.content.bytes) →
    g.needsCleaning p = .ok true
  removed : ∀ g : Files, (∀ a ∈ o.artifacts, g.bytes (p.below a.path) = .ok a.content.bytes) → p.Straight →
    g.clean p = (g.remove p.location, .ok ())
  refused : f.isPresent p = .ok true → f.holdsSdk p ≠ .ok true →
    ∃ failure, f.writeOutput p o.artifacts true = (f, .error failure) ∧
      (failure = .notGenerated p.text ∨ ∃ name ∈ [artifactsDir, "__init__.py"],
        bar? (p.below name) = some .nameTooLong ∧ failure = .barred (p.below name).text .nameTooLong)

/-- An SDK is written faithfully to every path, and a command line writes nothing unless the grammar was loaded, the
SDK generated, and the directory cleaned or in no need of it. -/
theorem written_faithfully {b : Built} {config : Option Json} {o : Output}
    (h : generate b config = .ok o) {f : Files} (hf : f.Rooted) (p : Path) :
    Faithful o f p ∧
    ∀ (s : Session) (environment : List (String × String)) (words : List String),
      (s.run environment words).1.files = s.files ∨ ∃ options b config d, s.Writes environment words options b config d := by
  have hfaithful : Faithful o f p :=
    { delivered := fun _ _ _ => delivered h hf
      accepted := fun _ => needsCleaning_of_artifacts h
      removed := fun _ hg hp => clean_of_straight hp (needsCleaning_of_artifacts h hg)
      refused := fun hpresent hsdk => writeOutput_refused hpresent hsdk o.artifacts }
  exact ⟨hfaithful, Session.run_files⟩

end Sdk

theorem Built.rooted_foreign : foreignFiles.Rooted := by
  refine Files.rooted_of_entries fun e he => ?_
  simp only [foreignFiles, List.mem_cons, List.not_mem_nil, or_false] at he
  rcases he with rfl | rfl | rfl | rfl | rfl | rfl | rfl | rfl <;> rfl

/-- An SDK next to its grammar is written, accepted for cleaning and removed; the directory of the grammar
is not cleaned. -/
theorem Sdk.written_faithfully_foreign : ∃ o f₂ written,
    Sdk.generate Built.foreignBuilt none = .ok o ∧
    Built.foreignFiles.writeOutput ⟨["out"]⟩ o.artifacts false = (f₂, .ok written) ∧
    Files.Delivered Built.foreignFiles f₂ ⟨["out"]⟩ o.artifacts false written ∧
    f₂.clean ⟨["out"]⟩ = (f₂.remove ["out"], .ok ()) ∧
    ∃ failure, Built.foreignFiles.writeOutput ⟨["g"]⟩ o.artifacts true =
      (Built.foreignFiles, .error failure) := by
  obtain ⟨o, f₂, written, hgenerate, hwrite⟩ := Built.generate_foreign
  obtain ⟨hout, -⟩ := Sdk.written_faithfully hgenerate Built.rooted_foreign ⟨["out"]⟩
  obtain ⟨hgrammar, -⟩ := Sdk.written_faithfully hgenerate Built.rooted_foreign ⟨["g"]⟩
  have hdelivered := hout.delivered false f₂ written hwrite
  have hstraight : Path.Straight ⟨["out"]⟩ := ⟨by decide, "out", rfl, by decide⟩
  obtain ⟨failure, hfailure, -⟩ := hgrammar.refused rfl nofun
  exact ⟨o, f₂, written, hgenerate, hwrite, hdelivered,
    hout.removed f₂ hdelivered.bytes hstraight, failure, hfailure⟩

def Files.inPlace : Files := ⟨[(["__artifacts__"], .directory), (["__init__.py"], .file ⟨#[]⟩)]⟩

/-- The working directory cannot be removed by its name: its SDK is lost, and no new one is written. -/
theorem Sdk.lost_in_place : ∃ o, Sdk.generate Built.foreignBuilt none = .ok o ∧
    Files.inPlace.needsCleaning ⟨[]⟩ = .ok true ∧
    Files.inPlace.writeOutput ⟨[]⟩ o.artifacts true = (.empty, .error (.barred "." .invalid)) := by
  obtain ⟨o, _, _, hgenerate, _⟩ := Built.generate_foreign
  have hneeds : Files.inPlace.needsCleaning ⟨[]⟩ = .ok true := rfl
  have hclean : Files.inPlace.clean ⟨[]⟩ = (.empty, .error (.barred "." .invalid)) := rfl
  refine ⟨o, hgenerate, hneeds, ?_⟩
  simp [Files.writeOutput, hclean]

end TraversalSdk
