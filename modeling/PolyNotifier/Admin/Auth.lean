import PolyNotifier.Admin.Api

/-!
# Who is let in

The middleware compares text: the header is read as visible ASCII, a prefix is cut off, and what
is left must be the password. Here the same is said of bytes. A request is `Authorized` if its
first `Authorization` header is the UTF-8 of `Bearer `, followed by the password, and the
password is visible ASCII; with any other password nobody is let in.
-/

namespace PolyNotifier
namespace Admin

open Lib (Prog Pool Event Steps)

/-- The UTF-8 of a text. -/
def utf8 (s : List Char) : List UInt8 := s.flatMap String.utf8EncodeChar

/-- The first `authorization` header is the password behind `Bearer`, byte for byte, and the
    password can stand in a header that is read as text. A password with other characters lets
    nobody in. -/
def Authorized (state : AdminState) (req : Request) : Prop :=
  req.header "authorization" = some (utf8 ("Bearer " ++ state.adminPassword).toList) ∧
    (utf8 state.adminPassword.toList).all isVisibleAscii

instance (state : AdminState) (req : Request) : Decidable (Authorized state req) :=
  inferInstanceAs (Decidable (_ ∧ _))

/-! ## Bytes and characters -/

theorem toNat_lt_of_isVisibleAscii {b : UInt8} (h : isVisibleAscii b = true) : b.toNat < 128 := by
  unfold isVisibleAscii at h
  rw [Bool.or_eq_true, Bool.and_eq_true, decide_eq_true_eq, decide_eq_true_eq, beq_iff_eq] at h
  rcases h with ⟨_, hlt⟩ | rfl
  · have hb : b.toNat < 127 := hlt
    omega
  · decide

theorem toNat_ofNat {n : Nat} (h : n < 128) : (Char.ofNat n).toNat = n := by
  unfold Char.ofNat
  rw [dif_pos (.inl (by omega))]
  rfl

/-- A byte below 128 is the encoding of the character it stands for. -/
theorem utf8EncodeChar_ofNat {b : UInt8} (h : b.toNat < 128) :
    String.utf8EncodeChar (Char.ofNat b.toNat) = [b] := by
  have hval : (Char.ofNat b.toNat).val.toNat = b.toNat := toNat_ofNat h
  unfold String.utf8EncodeChar
  rw [hval, if_pos (by omega), UInt8.ofNat_toNat]

/-- A character whose encoding is below 128 is encoded as one byte. -/
theorem ofNat_of_utf8EncodeChar {c : Char} (h : ∀ b ∈ String.utf8EncodeChar c, b.toNat < 128) :
    (String.utf8EncodeChar c).map (fun b => Char.ofNat b.toNat) = [c] := by
  by_cases hc : c.val.toNat ≤ 127
  · unfold String.utf8EncodeChar
    rw [if_pos hc, List.map_singleton, UInt8.toNat_ofNat', Nat.mod_eq_of_lt (by omega)]
    exact congrArg (fun c => [c]) (Char.ofNat_toNat c)
  · -- the first byte of a longer encoding is 192 or more
    exfalso
    unfold String.utf8EncodeChar at h
    rw [if_neg hc] at h
    split at h
    · have := h _ (List.mem_cons_self ..)
      rw [UInt8.toNat_ofNat'] at this
      omega
    · split at h
      · have := h _ (List.mem_cons_self ..)
        rw [UInt8.toNat_ofNat'] at this
        omega
      · have := h _ (List.mem_cons_self ..)
        rw [UInt8.toNat_ofNat'] at this
        omega

theorem stripPrefix_eq_some {p s t : List Char} : stripPrefix p s = some t ↔ s = p ++ t := by
  induction p generalizing s with
  | nil => simp [stripPrefix]
  | cons c p ih =>
    cases s with
    | nil => simp [stripPrefix]
    | cons c' s =>
      rw [stripPrefix]
      by_cases hc : c = c'
      · rw [if_pos hc, ih, hc, List.cons_append, List.cons_inj_right]
      · rw [if_neg hc]
        simp [Ne.symm hc]

/-- **Reading a header as text is the inverse of UTF-8**, on visible ASCII. -/
theorem toStr_eq_some {value : List UInt8} {s : List Char} :
    toStr value = some s ↔ value = utf8 s ∧ (utf8 s).all isVisibleAscii = true := by
  unfold toStr
  constructor
  · intro h
    split at h
    · rename_i hall
      cases h
      have hutf8 : utf8 (value.map fun b => Char.ofNat b.toNat) = value := by
        rw [utf8, List.flatMap_map]
        have hone : ∀ b ∈ value, String.utf8EncodeChar (Char.ofNat b.toNat) = [b] :=
          fun b hb => utf8EncodeChar_ofNat
            (toNat_lt_of_isVisibleAscii (List.all_eq_true.mp hall b hb))
        rw [List.flatMap_congr hone, List.flatMap_singleton']
      exact ⟨hutf8.symm, hutf8.symm ▸ hall⟩
    · cases h
  · rintro ⟨rfl, hall⟩
    rw [if_pos hall, utf8, List.map_flatMap]
    have hone : ∀ c ∈ s, (String.utf8EncodeChar c).map (fun b => Char.ofNat b.toNat) = [c] := by
      intro c hc
      apply ofNat_of_utf8EncodeChar
      intro b hb
      exact toNat_lt_of_isVisibleAscii
        (List.all_eq_true.mp hall b (List.mem_flatMap.mpr ⟨c, hc, hb⟩))
    rw [List.flatMap_congr hone, List.flatMap_singleton']

/-! ## The middleware -/

variable {state : AdminState} {req : Request}

theorem utf8_append (s t : List Char) : utf8 (s ++ t) = utf8 s ++ utf8 t := List.flatMap_append

/-- The token is the password if and only if the request is authorized. -/
theorem extractBearerToken_eq_password :
    extractBearerToken req = .ok state.adminPassword.toList ↔ Authorized state req := by
  have hbearer : (utf8 "Bearer ".toList).all isVisibleAscii = true := by decide
  have hall : (utf8 ("Bearer " ++ state.adminPassword).toList).all isVisibleAscii =
      (utf8 state.adminPassword.toList).all isVisibleAscii := by
    rw [String.toList_append, utf8_append, List.all_append, hbearer, Bool.true_and]
  unfold Authorized extractBearerToken
  constructor
  · intro h
    split at h
    · cases h
    · rename_i value hvalue
      split at h
      · cases h
      · rename_i s hs
        split at h
        · cases h
        · rename_i token htoken
          cases h
          have hs' := toStr_eq_some.mp hs
          rw [stripPrefix_eq_some.mp htoken, ← String.toList_append, hall] at hs'
          exact ⟨congrArg some hs'.1 ▸ hvalue, hs'.2⟩
  · rintro ⟨hvalue, hvisible⟩
    have hs := toStr_eq_some.mpr ⟨rfl, hall.trans hvisible⟩
    have htoken := stripPrefix_eq_some.mpr
      (String.toList_append (s := "Bearer ") (t := state.adminPassword))
    rw [hvalue]
    simp only [hs, htoken]

/-- **An authorized request is served; any other is answered with 401**, whatever it asks for. -/
theorem serve_eq (x : AdminCrates) (state : AdminState) (req : Request) :
    serve x state req =
      if Authorized state req then dispatch x req else .ret ⟨.unauthorized, .empty⟩ := by
  unfold serve authMiddleware
  by_cases hauth : Authorized state req
  · rw [if_pos hauth, extractBearerToken_eq_password.mpr hauth]
    simp
  · rw [if_neg hauth]
    cases htoken : extractBearerToken req with
    | error status =>
      have hstatus : status = .unauthorized := by
        unfold extractBearerToken at htoken
        split at htoken
        · exact (Except.error.inj htoken).symm
        · split at htoken
          · exact (Except.error.inj htoken).symm
          · split at htoken
            · exact (Except.error.inj htoken).symm
            · cases htoken
      rw [hstatus]
      rfl
    | ok token =>
      have hne : token ≠ state.adminPassword.toList := by
        rintro rfl
        exact hauth (extractBearerToken_eq_password.mp htoken)
      simp [hne]

/-! ## Requests served together -/

/-- The positions of the authorized requests. -/
def letIn (state : AdminState) (reqs : List Request) (i : Nat) : Bool :=
  reqs[i]?.any fun req => Authorized state req

variable {x : AdminCrates} {env : Env} {reqs : List Request} {w : Store}
  {es : List (Event adminSig)} {P : Pool adminSig Empty Response Store}

/-- **However requests are served together, those that are not authorized might as well not have
    been made**: they are answered with 401 and make no call, and without them the same calls are
    a run of the handlers, with no layer around them, that ends in the same database and with the
    same answers to the others. -/
theorem unauthorized_take_no_part
    (hrun : Steps (Pool.Step (perform x env)) ⟨reqs.map (serve x state), w⟩ es P) :
    (∀ (i : Nat) req, reqs[i]? = some req → ¬ Authorized state req →
      P.threads[i]? = some (.ret ⟨.unauthorized, .empty⟩) ∧ ∀ ev ∈ es, ev.thread ≠ i) ∧
    Steps (Pool.Step (perform x env))
      ⟨(reqs.filter fun req => Authorized state req).map (dispatch x), w⟩
      (es.map (Pool.renumber (letIn state reqs)))
      ⟨Pool.select (letIn state reqs) P.threads, P.state⟩ := by
  have hthread : ∀ (i : Nat) req, reqs[i]? = some req → ¬ Authorized state req →
      (reqs.map (serve x state))[i]? = some (.ret ⟨.unauthorized, .empty⟩) := by
    intro i req hi hauth
    rw [List.getElem?_map, hi, Option.map_some, serve_eq, if_neg hauth]
  -- a request that is kept out is answered before its first call
  have hdone : ∀ (i : Nat) p, (reqs.map (serve x state))[i]? = some p →
      letIn state reqs i = false → p.Done := by
    intro i p hi hout
    rw [List.getElem?_map, Option.map_eq_some_iff] at hi
    obtain ⟨req, hreq, rfl⟩ := hi
    rw [letIn, hreq, Option.any_some, decide_eq_false_iff_not] at hout
    rw [serve_eq, if_neg hout]
    trivial
  obtain ⟨hsel, hsame, hkept⟩ := Pool.steps_select hdone hrun
  refine ⟨fun i req hi hauth => ?_, ?_⟩
  · have hout : letIn state reqs i = false := by
      rw [letIn, hi, Option.any_some, decide_eq_false_iff_not]
      exact hauth
    refine ⟨(hsame i hout).trans (hthread i req hi hauth), fun ev hev hi' => ?_⟩
    rw [← hi', hkept ev hev] at hout
    cases hout
  · have hlet : Pool.select (letIn state reqs) (reqs.map (serve x state)) =
        (reqs.filter fun req => Authorized state req).map (dispatch x) := by
      unfold letIn
      rw [Pool.select_map]
      apply List.map_congr_left
      intro req hreq
      rw [serve_eq, if_pos (of_decide_eq_true (List.mem_filter.mp hreq).2)]
    rw [← hlet]
    exact hsel

/-- The last request of the sample comes with another password. -/
theorem unauthorized_take_no_part_sample :
    ∃ es P, Steps (Pool.Step (perform .reference sampleEnv)) samplePool es P ∧ es.length = 11 ∧
      P.threads[5]? = some (.ret ⟨.unauthorized, .empty⟩) ∧ ∀ ev ∈ es, ev.thread ≠ 5 := by
  obtain ⟨es, P, hrun, hlen, _⟩ := sample_run
  exact ⟨es, P, hrun, hlen, (unauthorized_take_no_part hrun).1 5 _ rfl (by decide +kernel)⟩

end Admin
end PolyNotifier
