import TraversalSdk.Proofs.ReorderedJson
import TraversalSdk.Proofs.SortedLists
import TraversalSdk.Proofs.TokenReading

namespace TraversalSdk.Json

mutual

/-- What decoding a text can give: the keys of an object differ, and no whole number has too many digits. -/
def Decoded (limits : Limits) : Json → Prop
  | .int n => (Nat.toDigits 10 n.natAbs).length ≤ limits.digits
  | .arr vs => DecodedItems limits vs
  | .obj ms => (ms.map Prod.fst).Nodup ∧ DecodedMembers limits ms
  | _ => True

def DecodedItems (limits : Limits) : List Json → Prop
  | [] => True
  | v :: vs => Decoded limits v ∧ DecodedItems limits vs

def DecodedMembers (limits : Limits) : List (String × Json) → Prop
  | [] => True
  | (_, v) :: ms => Decoded limits v ∧ DecodedMembers limits ms

end

section
variable {limits : Limits}

theorem scalar?_of_number? {cs : List Char} {v : Json} (h : number? limits cs = some v) :
    scalar? limits cs = some v := by
  have hne {w : String} (hw : number? limits w.toList = none) : cs ≠ w.toList := by
    rintro rfl
    rw [hw] at h
    cases h
  rw [scalar?, if_neg (hne (by rfl)), if_neg (hne (by rfl)), if_neg (hne (by rfl)),
    if_neg (hne (by rfl)), if_neg (hne (by rfl)), if_neg (hne (by rfl)), h]

/-- A whole number that is not too long is read from its text. -/
theorem scalar?_intText {n : Int} (h : (Nat.toDigits 10 n.natAbs).length ≤ limits.digits) :
    scalar? limits (intText n).toList = some (.int n) :=
  scalar?_of_number? (number?_intText h)

/-- Every other number is read from its shortest text. -/
theorem scalar?_real (h : 16 ≤ limits.digits) (x : Binary64) :
    scalar? limits (documentDecimal.text x).toList = some (.real x) := by
  cases x with
  | finite negative i =>
    obtain ⟨s, hchars, hvalue, hlength⟩ := spelling_finite negative i
    rw [← hchars, ← hvalue]
    exact scalar?_of_number? (s.number?_chars (hlength.trans h))
  | infinite negative => cases negative <;> rfl
  | notANumber => rfl

end

namespace Reader

variable {limits : Limits} {fs : List Frame}

def within (limits : Limits) (n : Nat) (r : Reader) : Option Reader :=
  if n ≤ limits.depth + 1 then some r else none

theorem within_eq {n : Nat} {r : Reader} (h : n ≤ limits.depth + 1) : within limits n r = some r :=
  if_pos h

/-- Values that are read one after the other lie as deep as the deepest of them. -/
theorem within_bind {n m k : Nat} {r r' : Reader} {f : Reader → Option Reader} (hk : k = max n m)
    (h : n ≤ limits.depth + 1 → f r = within limits m r') :
    (within limits n r).bind f = within limits k r' := by
  subst hk
  by_cases hn : n ≤ limits.depth + 1
  · rw [within_eq hn, Option.bind_some, h hn]
    simp [within, hn]
  · simp [within, hn]

theorem within_bind_some {n : Nat} {r r' : Reader} {f : Reader → Option Reader} (h : f r = some r') :
    (within limits n r).bind f = within limits n r' :=
  within_bind (Nat.max_zero n).symm fun _ => h.trans (within_eq (Nat.zero_le _)).symm

theorem put_array (v : Json) (items : List Json) (fs : List Frame) :
    put v (.array items :: fs) = ⟨.array (v :: items) :: fs, .commaOrEnd⟩ := rfl

theorem put_object (v : Json) (members : List (String × Json)) (key : String) (fs : List Frame) :
    put v (.object members key :: fs) = ⟨.object (assign key v members) key :: fs, .commaOrEnd⟩ := rfl

theorem step_first {due : Due} (hdue : due = .value ∨ due = .itemOrEnd) {t : Token}
    (ht : t ≠ .closeArray) : step limits ⟨fs, due⟩ t = begin? limits fs t := by
  rcases hdue with rfl | rfl
  · rfl
  · cases t <;> first | rfl | exact absurd rfl ht

/-- What begins a value is refused if it lies too deep, and for no other reason. -/
theorem begin?_within {t : Token} {r : Reader}
    (h : fs.length ≤ limits.depth → begin? limits fs t = some r) :
    begin? limits fs t = within limits (fs.length + 1) r := by
  by_cases hdepth : fs.length ≤ limits.depth
  · rw [h hdepth, within_eq (by omega)]
  · rw [within, if_neg (by omega)]
    exact if_pos (Nat.not_le.mp hdepth)

/-- A value that is one token is read if there is room for it. -/
theorem foldlM_single {due : Due} (hdue : due = .value ∨ due = .itemOrEnd) {t : Token} {v : Json}
    (ht : t ≠ .closeArray) (hv : v.depth = 1)
    (hbegin : fs.length ≤ limits.depth → begin? limits fs t = some (put v fs)) :
    [t].foldlM (step limits) ⟨fs, due⟩ = within limits (v.depth + fs.length) (put v fs) := by
  rw [List.foldlM_cons, step_first hdue ht, begin?_within hbegin, hv, Nat.add_comm 1]
  exact within_bind_some rfl

theorem begin?_openArray (h : fs.length ≤ limits.depth) :
    begin? limits fs .openArray = some ⟨.array [] :: fs, .itemOrEnd⟩ := if_neg (Nat.not_lt.mpr h)

theorem begin?_openObject (h : fs.length ≤ limits.depth) :
    begin? limits fs .openObject = some ⟨.object [] "" :: fs, .keyOrEnd⟩ := if_neg (Nat.not_lt.mpr h)

theorem begin?_text (s : String) (h : fs.length ≤ limits.depth) :
    begin? limits fs (.text s) = some (put (.str s) fs) := if_neg (Nat.not_lt.mpr h)

theorem begin?_word {cs : List Char} {v : Json} (hv : scalar? limits cs = some v)
    (h : fs.length ≤ limits.depth) : begin? limits fs (.word cs) = some (put v fs) := by
  rw [begin?, if_neg (Nat.not_lt.mpr h)]
  simp [hv]

end Reader

section
open Reader
variable {limits : Limits}

mutual

/-- The tokens of a value are read as the value, wherever it stands, if it lies not too deep. The induction is on
the value; what it stands within only counts by its number. -/
theorem foldlM_tokens (hdigits : 16 ≤ limits.digits) : ∀ (v : Json), v.Decoded limits → ∀ (fs : List Frame) (due : Due),
    due = .value ∨ due = .itemOrEnd →
    (tokens v).foldlM (step limits) ⟨fs, due⟩ = within limits (v.depth + fs.length) (put v fs)
  | .str s, _, fs, due, hdue => foldlM_single hdue (by simp) rfl (begin?_text s)
  | .null, _, fs, due, hdue => foldlM_single hdue (by simp) rfl (begin?_word rfl)
  | .bool true, _, fs, due, hdue => foldlM_single hdue (by simp) rfl (begin?_word rfl)
  | .bool false, _, fs, due, hdue => foldlM_single hdue (by simp) rfl (begin?_word rfl)
  | .int n, hn, fs, due, hdue => foldlM_single hdue (by simp) rfl (begin?_word (scalar?_intText hn))
  | .real x, _, fs, due, hdue => foldlM_single hdue (by simp) rfl (begin?_word (scalar?_real hdigits x))
  | .arr [], _, fs, due, hdue => by
    have hdepth : (arr []).depth + fs.length = fs.length + 1 := Nat.add_comm _ _
    rw [tokens, List.foldlM_cons, step_first hdue (by simp), begin?_within begin?_openArray, hdepth]
    exact within_bind_some rfl
  | .arr (v :: vs), hvs, fs, due, hdue => by
    simp only [Decoded, DecodedItems] at hvs
    rw [tokens, List.foldlM_cons, step_first hdue (by simp), begin?_within begin?_openArray]
    refine within_bind (m := max (v.depth + (fs.length + 1)) (depthOfItems vs + (fs.length + 1)))
      (by simp only [depth, depthOfItems]; omega) fun hfs => ?_
    rw [List.foldlM_append, foldlM_tokens hdigits v hvs.1 _ _ (.inr rfl)]
    refine within_bind rfl fun _ => ?_
    rw [List.foldlM_append, put_array, foldlM_itemTokens hdigits vs hvs.2 [v] fs (by omega)]
    refine within_bind_some ?_
    change close? .closeArray (.array (vs.reverse ++ [v]) :: fs) = _
    simp [close?]
  | .obj [], _, fs, due, hdue => by
    have hdepth : (obj []).depth + fs.length = fs.length + 1 := Nat.add_comm _ _
    rw [tokens, List.foldlM_cons, step_first hdue (by simp), begin?_within begin?_openObject, hdepth]
    exact within_bind_some rfl
  | .obj ((key, v) :: ms), hms, fs, due, hdue => by
    simp only [Decoded, DecodedMembers] at hms
    obtain ⟨hn, hv, hms⟩ := hms
    rw [tokens, List.foldlM_cons, step_first hdue (by simp), begin?_within begin?_openObject]
    refine within_bind (m := max (v.depth + (fs.length + 1)) (depthOfMembers ms + (fs.length + 1)))
      (by simp only [depth, depthOfMembers]; omega) fun hfs => ?_
    change (tokens v ++ _).foldlM (step limits) ⟨.object [] key :: fs, .value⟩ = _
    rw [List.foldlM_append, foldlM_tokens hdigits v hv _ _ (.inl rfl)]
    refine within_bind rfl fun _ => ?_
    obtain ⟨last, hlast⟩ := foldlM_memberTokens hdigits ms hms [(key, v)] key fs (by omega) hn
    rw [List.foldlM_append, put_object, assign, hlast]
    exact within_bind_some rfl

/-- The items of an array are read one after the other. -/
theorem foldlM_itemTokens (hdigits : 16 ≤ limits.digits) : ∀ (vs : List Json), DecodedItems limits vs →
    ∀ (acc : List Json) (fs : List Frame), fs.length ≤ limits.depth →
    (itemTokens vs).foldlM (step limits) ⟨.array acc :: fs, .commaOrEnd⟩
      = within limits (depthOfItems vs + (fs.length + 1)) ⟨.array (vs.reverse ++ acc) :: fs, .commaOrEnd⟩
  | [], _, acc, fs, hfs => by
    rw [within_eq (by simpa [depthOfItems] using hfs)]
    rfl
  | v :: vs, hvs, acc, fs, hfs => by
    simp only [DecodedItems] at hvs
    change (tokens v ++ itemTokens vs).foldlM (step limits) ⟨.array acc :: fs, .value⟩ = _
    rw [List.foldlM_append, foldlM_tokens hdigits v hvs.1 _ _ (.inl rfl)]
    refine within_bind (m := depthOfItems vs + (fs.length + 1))
      (by simp only [depthOfItems, List.length_cons]; omega) fun _ => ?_
    rw [put_array, foldlM_itemTokens hdigits vs hvs.2 (v :: acc) fs hfs]
    simp

/-- So are the members of an object, if no key comes twice. -/
theorem foldlM_memberTokens (hdigits : 16 ≤ limits.digits) : ∀ (ms : List (String × Json)), DecodedMembers limits ms →
    ∀ (acc : List (String × Json)) (key : String) (fs : List Frame), fs.length ≤ limits.depth →
    ((acc ++ ms).map Prod.fst).Nodup → ∃ last,
    (memberTokens ms).foldlM (step limits) ⟨.object acc key :: fs, .commaOrEnd⟩
      = within limits (depthOfMembers ms + (fs.length + 1)) ⟨.object (acc ++ ms) last :: fs, .commaOrEnd⟩
  | [], _, acc, key, fs, hfs, _ => by
    refine ⟨key, ?_⟩
    rw [within_eq (by simpa [depthOfMembers] using hfs), List.append_nil]
    rfl
  | (key', v) :: ms, hms, acc, key, fs, hfs, hn => by
    simp only [DecodedMembers] at hms
    have hfresh : key' ∉ acc.map Prod.fst := by
      simp only [List.map_append, List.map_cons, List.nodup_append, List.mem_cons] at hn
      exact fun hmem => hn.2.2 _ hmem _ (.inl rfl) rfl
    obtain ⟨last, hlast⟩ := foldlM_memberTokens hdigits ms hms.2 (acc ++ [(key', v)]) key' fs hfs (by simpa using hn)
    refine ⟨last, ?_⟩
    change (tokens v ++ memberTokens ms).foldlM (step limits) ⟨.object acc key' :: fs, .value⟩ = _
    rw [List.foldlM_append, foldlM_tokens hdigits v hms.1 _ _ (.inl rfl)]
    refine within_bind (m := depthOfMembers ms + (fs.length + 1))
      (by simp only [depthOfMembers, List.length_cons]; omega) fun _ => ?_
    rw [put_object, assign_fresh hfresh, hlast]
    simp

end

end

section
variable {limits : Limits}

theorem decodedItems_iff {vs : List Json} :
    DecodedItems limits vs ↔ ∀ v ∈ vs, v.Decoded limits := by
  induction vs with
  | nil => simp [DecodedItems]
  | cons v vs ih => simp [DecodedItems, ih]

theorem decodedMembers_iff {ms : List (String × Json)} :
    DecodedMembers limits ms ↔ ∀ m ∈ ms, m.2.Decoded limits := by
  induction ms with
  | nil => simp [DecodedMembers]
  | cons m ms ih => simp [DecodedMembers, ih]

theorem depthOfItems_le_iff {vs : List Json} {n : Nat} :
    depthOfItems vs ≤ n ↔ ∀ v ∈ vs, v.depth ≤ n := by
  induction vs with
  | nil => simp [depthOfItems]
  | cons v vs ih => simp [depthOfItems, ih]

theorem depthOfMembers_le_iff {ms : List (String × Json)} {n : Nat} :
    depthOfMembers ms ≤ n ↔ ∀ m ∈ ms, m.2.depth ≤ n := by
  rw [depthOfMembers_eq, depthOfItems_le_iff, List.forall_mem_map]

/-- A decoded value that may stand within a number of arrays and objects. -/
structure Fits (limits : Limits) (height : Nat) (v : Json) : Prop where
  decoded : v.Decoded limits
  depth_le : v.depth + height ≤ limits.depth + 1

theorem Fits.arr {height : Nat} {vs : List Json} (hheight : height ≤ limits.depth)
    (h : ∀ v ∈ vs, Fits limits (height + 1) v) : Fits limits height (.arr vs) := by
  refine ⟨decodedItems_iff.mpr fun v hv => (h v hv).decoded, ?_⟩
  have hdepth : depthOfItems vs ≤ limits.depth - height := by
    refine depthOfItems_le_iff.mpr fun v hv => ?_
    have := (h v hv).depth_le
    omega
  rw [depth]
  omega

theorem Fits.obj {height : Nat} {ms : List (String × Json)} (hheight : height ≤ limits.depth)
    (hn : (ms.map Prod.fst).Nodup) (h : ∀ m ∈ ms, Fits limits (height + 1) m.2) :
    Fits limits height (.obj ms) := by
  refine ⟨⟨hn, decodedMembers_iff.mpr fun m hm => (h m hm).decoded⟩, ?_⟩
  have hdepth : depthOfMembers ms ≤ limits.depth - height := by
    refine depthOfMembers_le_iff.mpr fun m hm => ?_
    have := (h m hm).depth_le
    omega
  rw [depth]
  omega

theorem decoded_spelling {s : Spelling} (h : s.whole.length ≤ limits.digits) :
    s.value.Decoded limits ∧ s.value.depth = 1 := by
  rw [Spelling.value]
  split
  · refine ⟨?_, rfl⟩
    have hlength := length_toDigits_naturalOfDigits s.whole_digits s.whole_ne
    simp only [Decoded]
    split
    · rw [Int.natAbs_neg, Int.natAbs_natCast]
      exact hlength.trans h
    · rw [Int.natAbs_natCast]
      exact hlength.trans h
  · exact ⟨trivial, rfl⟩

/-- What one word is read as is decoded and lies one level deep. -/
theorem decoded_scalar {cs : List Char} {v : Json} (h : scalar? limits cs = some v) :
    v.Decoded limits ∧ v.depth = 1 := by
  unfold scalar? at h
  iterate 6
    split at h
    · cases h
      exact ⟨trivial, rfl⟩
  obtain ⟨s, -, rfl, hlength⟩ := spelling_of_number? h
  exact decoded_spelling hlength

namespace Reader

def Frame.Sound (limits : Limits) (height : Nat) : Frame → Prop
  | .array items => ∀ v ∈ items, Fits limits (height + 1) v
  | .object members _ =>
    (members.map Prod.fst).Nodup ∧ ∀ m ∈ members, Fits limits (height + 1) m.2

def SoundFrames (limits : Limits) : List Frame → Prop
  | [] => True
  | f :: fs => (fs.length ≤ limits.depth ∧ f.Sound limits fs.length) ∧ SoundFrames limits fs

structure Sound (limits : Limits) (r : Reader) : Prop where
  frames : SoundFrames limits r.frames
  result : ∀ v, r.due = .nothing v → Fits limits 0 v

theorem Sound.of_frames {fs : List Frame} {due : Due} (h : SoundFrames limits fs)
    (hdue : ∀ v, due ≠ .nothing v) : Sound limits ⟨fs, due⟩ :=
  ⟨h, fun v hv => absurd hv (hdue v)⟩

/-- A value that fits may be put where it stands. -/
theorem put_sound {fs : List Frame} {v : Json} (h : SoundFrames limits fs)
    (hv : Fits limits fs.length v) : (put v fs).Sound limits := by
  match fs, h with
  | [], _ => exact ⟨trivial, fun w hw => by cases hw; exact hv⟩
  | .array items :: fs, ⟨⟨hdepth, hitems⟩, hfs⟩ =>
    refine .of_frames ⟨⟨hdepth, ?_⟩, hfs⟩ (by simp)
    exact List.forall_mem_cons.mpr ⟨hv, hitems⟩
  | .object members key :: fs, ⟨⟨hdepth, hn, hmembers⟩, hfs⟩ =>
    refine .of_frames ⟨⟨hdepth, ?_, ?_⟩, hfs⟩ (by simp)
    · exact nodup_assign hn key v
    · exact forall_mem_assign hmembers key hv

/-- What a token begins fits where it stands. -/
theorem begin?_sound {fs : List Frame} {t : Token} {r : Reader} (h : SoundFrames limits fs)
    (hr : begin? limits fs t = some r) : r.Sound limits := by
  unfold begin? at hr
  split at hr
  · cases hr
  · next hdepth =>
    have hheight : fs.length ≤ limits.depth := Nat.not_lt.mp hdepth
    split at hr
    · cases hr
      exact .of_frames ⟨⟨hheight, nofun⟩, h⟩ (by simp)
    · cases hr
      exact .of_frames ⟨⟨hheight, List.nodup_nil, nofun⟩, h⟩ (by simp)
    · next s =>
      cases hr
      have hone : (str s).depth = 1 := rfl
      exact put_sound h ⟨trivial, by omega⟩
    · obtain ⟨v, hv, rfl⟩ := Option.map_eq_some_iff.mp hr
      obtain ⟨hdecoded, hone⟩ := decoded_scalar hv
      exact put_sound h ⟨hdecoded, by omega⟩
    · cases hr

theorem close?_sound {fs : List Frame} {t : Token} {r : Reader} (h : SoundFrames limits fs)
    (hr : close? t fs = some r) : r.Sound limits := by
  unfold close? at hr
  split at hr
  · next items fs =>
    obtain ⟨⟨hdepth, hitems⟩, hfs⟩ := h
    cases hr
    exact put_sound hfs (.arr hdepth fun v hv => hitems v (List.mem_reverse.mp hv))
  · next members _ fs =>
    obtain ⟨⟨hdepth, hn, hmembers⟩, hfs⟩ := h
    cases hr
    exact put_sound hfs (.obj hdepth hn hmembers)
  · cases hr

theorem next?_sound {fs : List Frame} {r : Reader} (h : SoundFrames limits fs)
    (hr : next? fs = some r) : r.Sound limits := by
  unfold next? at hr
  split at hr <;> cases hr
  · exact .of_frames h (by simp)
  · exact .of_frames h (by simp)

theorem setKey?_sound {fs : List Frame} {s : String} {r : Reader} (h : SoundFrames limits fs)
    (hr : setKey? s fs = some r) : r.Sound limits := by
  unfold setKey? at hr
  split at hr <;> cases hr
  exact .of_frames h (by simp)

/-- Every token keeps what is held fit for its place. -/
theorem step_sound {r r' : Reader} {t : Token} (h : r.Sound limits) (hr : step limits r t = some r') :
    r'.Sound limits := by
  unfold step at hr
  split at hr
  · exact begin?_sound h.frames hr
  · exact close?_sound h.frames hr
  · exact begin?_sound h.frames hr
  · exact next?_sound h.frames hr
  · exact close?_sound h.frames hr
  · exact close?_sound h.frames hr
  · exact setKey?_sound h.frames hr
  · exact setKey?_sound h.frames hr
  · cases hr
    exact .of_frames h.frames (by simp)
  · cases hr

/-- A run over tokens leaves the reader sound. -/
theorem run_sound {ts : List Token} {r r' : Reader} (h : r.Sound limits)
    (hr : ts.foldlM (step limits) r = some r') : r'.Sound limits := by
  induction ts generalizing r with
  | nil =>
    cases hr
    exact h
  | cons t ts ih =>
    rw [List.foldlM_cons] at hr
    obtain ⟨r₁, hstep, hr⟩ := Option.bind_eq_some_iff.mp hr
    exact ih (step_sound h hstep) hr

end Reader

/-- What tokens are read as is decoded and lies within the depth that is read. -/
theorem fits_of_ofTokens? {ts : List Token} {v : Json} (h : ofTokens? limits ts = some v) :
    Fits limits 0 v := by
  obtain ⟨r, hr, hfinish⟩ := Option.bind_eq_some_iff.mp h
  have hstart : Reader.Sound limits ⟨[], .value⟩ := .of_frames trivial (by simp)
  have hsound : r.Sound limits := Reader.run_sound hstart hr
  refine hsound.result v ?_
  unfold Reader.finish at hfinish
  split at hfinish
  · next hdue =>
    cases hfinish
    exact hdue
  · cases hfinish

/-- The tokens of a decoded value are read as this value, unless it is too deep. -/
theorem ofTokens?_tokens (hdigits : 16 ≤ limits.digits) {v : Json} (h : v.Decoded limits) :
    ofTokens? limits (tokens v) = if v.depth ≤ limits.depth + 1 then some v else none := by
  rw [ofTokens?, foldlM_tokens hdigits v h [] .value (.inl rfl), Reader.within]
  simp only [List.length_nil, Nat.add_zero]
  split <;> rfl

end

/-- The text of a decoded value is read as the value, unless the value is too deep. -/
theorem ofText?_document {v : Json} (h : v.Decoded documentLimits) :
    ofText? v.document = if v.depth ≤ documentLimits.depth + 1 then some v else none := by
  rw [ofText?, Token.ofText?_document, Option.bind_some]
  exact ofTokens?_tokens (by decide) h

structure Readable (v : Json) : Prop where
  decoded : v.Decoded documentLimits
  depth_le : v.depth ≤ documentLimits.depth + 1

/-- The text of such a value is read as the value. -/
theorem Readable.ofText?_document {v : Json} (h : v.Readable) : ofText? v.document = some v :=
  (Json.ofText?_document h.decoded).trans (if_pos h.depth_le)

/-- The readable values are those that texts are read as. -/
theorem readable_iff {v : Json} : v.Readable ↔ ∃ s, ofText? s = some v := by
  constructor
  · exact fun h => ⟨v.document, h.ofText?_document⟩
  · rintro ⟨s, hs⟩
    obtain ⟨ts, _, hv⟩ := Option.bind_eq_some_iff.mp hs
    have hfits := fits_of_ofTokens? hv
    exact ⟨hfits.decoded, hfits.depth_le⟩

end TraversalSdk.Json
