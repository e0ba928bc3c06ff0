import TraversalSdk.Proofs.JsonReading

namespace TraversalSdk.Json

variable {limits limits' : Limits}

theorem one_le_depth (v : Json) : 1 ≤ v.depth := by
  cases v <;> simp [depth]

mutual

/-- Longer numbers may be allowed, and any depth. -/
theorem Decoded.mono (h : limits.digits ≤ limits'.digits) : (v : Json) →
    v.Decoded limits → v.Decoded limits'
  | .int _, hv => Nat.le_trans hv h
  | .arr vs, hv => DecodedItems.mono h vs hv
  | .obj ms, hv => ⟨hv.1, DecodedMembers.mono h ms hv.2⟩
  | .null, _ | .bool _, _ | .real _, _ | .str _, _ => trivial

theorem DecodedItems.mono (h : limits.digits ≤ limits'.digits) : (vs : List Json) →
    DecodedItems limits vs → DecodedItems limits' vs
  | [], _ => trivial
  | v :: vs, hvs => ⟨Decoded.mono h v hvs.1, DecodedItems.mono h vs hvs.2⟩

theorem DecodedMembers.mono (h : limits.digits ≤ limits'.digits) :
    (ms : List (String × Json)) → DecodedMembers limits ms → DecodedMembers limits' ms
  | [], _ => trivial
  | m :: ms, hms => ⟨Decoded.mono h m.2 hms.1, DecodedMembers.mono h ms hms.2⟩

end

/-- A number is read alike where more digits are allowed. -/
theorem number?_mono (h : limits.digits ≤ limits'.digits) {cs : List Char} {v : Json}
    (hv : number? limits cs = some v) : number? limits' cs = some v := by
  obtain ⟨spelling, rfl, rfl, hlength⟩ := spelling_of_number? hv
  exact spelling.number?_chars (hlength.trans h)

theorem ite_some_mono {p : Prop} [Decidable p] {o o' : Option Json} {v w : Json}
    (h : (if p then some w else o) = some v) (hrest : o = some v → o' = some v) :
    (if p then some w else o') = some v := by
  split at h
  · next hp => rwa [if_pos hp]
  · next hp => rw [if_neg hp, hrest h]

theorem scalar?_mono (h : limits.digits ≤ limits'.digits) {cs : List Char} {v : Json}
    (hv : scalar? limits cs = some v) : scalar? limits' cs = some v := by
  unfold scalar? at hv ⊢
  iterate 6
    refine ite_some_mono hv fun hv => ?_
  exact number?_mono h hv

namespace Reader

variable {r r' : Reader} {fs : List Frame} {t : Token} {ts : List Token}

theorem begin?_mono (hdigits : limits.digits ≤ limits'.digits) (hdepth : limits.depth ≤ limits'.depth)
    (h : begin? limits fs t = some r) : begin? limits' fs t = some r := by
  unfold begin? at h ⊢
  split at h
  · cases h
  · next hroom =>
    rw [if_neg fun hdeep => hroom (Nat.lt_of_le_of_lt hdepth hdeep)]
    cases t with
    | word cs =>
      obtain ⟨v, hv, rfl⟩ := Option.map_eq_some_iff.mp h
      exact Option.map_eq_some_iff.mpr ⟨v, scalar?_mono hdigits hv, rfl⟩
    | _ => exact h

/-- Limits count only where a value begins. -/
theorem step_mono (hdigits : limits.digits ≤ limits'.digits) (hdepth : limits.depth ≤ limits'.depth)
    (h : step limits r t = some r') : step limits' r t = some r' := by
  unfold step at h ⊢
  split at h <;> first | exact begin?_mono hdigits hdepth h | exact h

/-- A run that succeeds does so with more room. -/
theorem run_mono (hdigits : limits.digits ≤ limits'.digits) (hdepth : limits.depth ≤ limits'.depth)
    (h : ts.foldlM (step limits) r = some r') : ts.foldlM (step limits') r = some r' := by
  induction ts generalizing r with
  | nil => exact h
  | cons t ts ih =>
    rw [List.foldlM_cons] at h ⊢
    obtain ⟨r₁, hstep, hrun⟩ := Option.bind_eq_some_iff.mp h
    exact Option.bind_eq_some_iff.mpr ⟨r₁, step_mono hdigits hdepth hstep, ih hrun⟩

end Reader

theorem ofTokens?_mono (hdigits : limits.digits ≤ limits'.digits) (hdepth : limits.depth ≤ limits'.depth)
    {ts : List Token} {v : Json} (h : ofTokens? limits ts = some v) : ofTokens? limits' ts = some v := by
  obtain ⟨r, hrun, hfinish⟩ := Option.bind_eq_some_iff.mp h
  exact Option.bind_eq_some_iff.mpr ⟨r, Reader.run_mono hdigits hdepth hrun, hfinish⟩

/-- What the text of a value is read as is the value. The limits of the value are any in which its numbers lie. -/
theorem eq_of_ofText?_document {v w : Json} (hv : v.Decoded limits) (h : ofText? v.document = some w) :
    w = v := by
  rw [ofText?, Token.ofText?_document, Option.bind_some] at h
  -- Within these limits both the value and the document fit.
  let room : Limits := ⟨max limits.digits documentLimits.digits, max v.depth documentLimits.depth⟩
  have hdigits : 16 ≤ room.digits := le_trans (by decide) (le_max_right _ _)
  have hdecoded : v.Decoded room := Decoded.mono (le_max_left _ _) v hv
  have hdepth : v.depth ≤ room.depth + 1 := (le_max_left _ _).trans (Nat.le_succ _)
  have hvalue := ofTokens?_tokens hdigits hdecoded
  rw [if_pos hdepth, ofTokens?_mono (le_max_right _ _) (le_max_right _ _) h] at hvalue
  exact Option.some.inj hvalue

/-- The text of a value is read as the value if that is readable, and else it is not read. -/
theorem ofText?_document_cases {v : Json} (hv : v.Decoded limits) :
    v.Readable ∧ ofText? v.document = some v ∨ ¬v.Readable ∧ ofText? v.document = none := by
  cases hread : ofText? v.document with
  | none =>
    refine .inr ⟨fun h => ?_, rfl⟩
    rw [h.ofText?_document] at hread
    cases hread
  | some w =>
    obtain rfl := eq_of_ofText?_document hv hread
    exact .inl ⟨readable_iff.mpr ⟨_, hread⟩, rfl⟩

end TraversalSdk.Json
