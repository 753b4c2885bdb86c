import OpenDSLite.RawBlocks

/-!
# The wire formats of the two builds

`ULong32` is four bytes with the Windows headers and eight with the Linux headers, and `WRITE_DWORD`
and `READ_DWORD` move the whole variable. Every other value has the same image in both builds. A
response is therefore common to both, and readable by both, as long as the narrow build accepts no
`DWORD`.
-/

namespace OpenDSLite

open ByteArea

namespace TypedValue

def IsDword : TypedValue → Prop
  | dword _ => True
  | _ => False

instance : DecidablePred IsDword := fun v => by
  cases v <;> unfold IsDword <;> infer_instance

def wireSize (P : Platform) : TypedValue → ℕ
  | word _ => 2
  | dword _ => P.sizeofULong32
  | float _ => 4
  | byte _ => 1
  | string v => v.val.length + 1

theorem length_encode (P : Platform) (v : TypedValue) :
    (v.call.encode P).length = v.wireSize P := by
  cases v with
  | dword v => exact WriteCall.length_encode_dword P v.toUInt64
  | _ => simp [call, WriteCall.encode, wireSize]

theorem encode_congr (P Q : Platform) (v : TypedValue) (h : ¬ v.IsDword) :
    v.call.encode P = v.call.encode Q := by
  cases v with
  | dword v => exact absurd trivial h
  | _ => rfl

theorem carried_of_not_dword (P : Platform) (v : TypedValue) (h : ¬ v.IsDword) : v.Carried P := by
  cases v with
  | dword v => exact absurd trivial h
  | _ => trivial

theorem wireSize_windows_le_linux (v : TypedValue) : v.wireSize .windows ≤ v.wireSize .linux := by
  cases v with
  | dword v =>
    change 4 ≤ 8
    decide
  | _ => exact le_rfl

end TypedValue

def succeeded : List TypedValue → List ℤ → List TypedValue
  | v :: vs, ret :: rets => if 0 ≤ ret then v :: succeeded vs rets else succeeded vs rets
  | _, _ => []

/-- The values a build accepts into an empty buffer, each when it has room behind those before. -/
def acceptedBy (P : Platform) (vs : List TypedValue) : List TypedValue :=
  BoundedLog.accepted maxRtpMsgSize (TypedValue.wireSize P) 0 vs

theorem succeeded_eq_accepted (P : Platform) (vs : List TypedValue) (b b' : CResponseBuffer)
    (bytes : List UInt8) (rets : List ℤ) (h : Holds b bytes) (hl : b.length = b.tail)
    (hw : writeAll P (vs.map TypedValue.call) b = some (rets, b')) :
    succeeded vs rets =
      BoundedLog.accepted maxRtpMsgSize (TypedValue.wireSize P) bytes.length vs := by
  induction vs generalizing b bytes rets with
  | nil =>
    obtain ⟨rfl, -⟩ := Prod.mk.inj (Option.some.inj hw)
    rfl
  | cons v vs ih =>
    obtain ⟨ret, rest, b₁, hr, hrest, rfl⟩ := (writeAll_cons_eq_some_iff P _ _ b b' rets).1 hw
    obtain ⟨ret', b₂, hr', hh, hl', hret⟩ := run_typed_offer P b bytes _ v.isTyped_call h hl
    obtain ⟨rfl, rfl⟩ := Prod.mk.inj (Option.some.inj (hr.symm.trans hr'))
    have hih := ih b₁ _ rest hh hl' hrest
    rw [BoundedLog.length_offer] at hih
    rw [v.length_encode P] at hret hih
    by_cases hroom : bytes.length + v.wireSize P ≤ maxRtpMsgSize
    · have hnn : 0 ≤ ret := by
        rw [hret, if_pos hroom]
        exact Int.natCast_nonneg _
      rw [if_pos hroom] at hih
      rw [succeeded, if_pos hnn, BoundedLog.accepted, if_pos hroom, hih]
    · have hneg : ¬ 0 ≤ ret := by
        rw [hret, if_neg hroom]
        omega
      rw [if_neg hroom] at hih
      rw [succeeded, if_neg hneg, BoundedLog.accepted, if_neg hroom, hih]

/-- The reads of build `Q` that match the values `ws` get them from the body of `b`. -/
def ReadBy (Q : Platform) (b : CResponseBuffer) (ws : List TypedValue) : Prop :=
  ∀ (req₀ : CRequestBuffer) (ds : List Destination),
    List.Forall₂ WriteCall.Ready (ws.map TypedValue.call) ds →
    ∃ req got ds' req', transfer b (cRequestBufferInit req₀) = some req ∧
      readAll Q ds req = some (got, ds', req') ∧ (∀ r ∈ got, 0 ≤ r) ∧
      List.Forall₂ TypedValue.Delivered ws ds'

/-- The same calls leave the same bytes and length in both builds, and each reads the body of the
other. -/
def CommonFormat (resp₀ : CResponseBuffer) (vs : List TypedValue) : Prop :=
  ∃ retsW bw retsL bl,
    writeAll .windows (vs.map TypedValue.call) (cResponseBufferInit resp₀) = some (retsW, bw) ∧
    writeAll .linux (vs.map TypedValue.call) (cResponseBufferInit resp₀) = some (retsL, bl) ∧
    bw.buffer = bl.buffer ∧ bw.length = bl.length ∧
    ReadBy .linux bw (succeeded vs retsW) ∧ ReadBy .windows bl (succeeded vs retsL)

/-- What a build leaves in a cleared buffer is the image of the values it accepts. -/
theorem writeAll_accepted (P : Platform) (vs : List TypedValue) (resp₀ : CResponseBuffer) :
    ∃ rets b, writeAll P (vs.map TypedValue.call) (cResponseBufferInit resp₀) = some (rets, b) ∧
      succeeded vs rets = acceptedBy P vs ∧ b.length = b.tail ∧
      Holds b (((acceptedBy P vs).map TypedValue.call).map (WriteCall.encode P)).flatten := by
  obtain ⟨rets, b, hw, hh, hl, -⟩ := writeAll_offers P _
    (TypedValue.isTyped_of_mem_calls vs) _ [] (holds_init resp₀) rfl
  refine ⟨rets, b, hw, succeeded_eq_accepted P vs _ b [] rets (holds_init resp₀) rfl hw, hl, ?_⟩
  have hsize : (fun v : TypedValue => (v.call.encode P).length) = TypedValue.wireSize P :=
    funext (fun v => v.length_encode P)
  have hoffers := BoundedLog.offers_eq_append_accepted maxRtpMsgSize
    (fun v : TypedValue => v.call.encode P) [] vs
  rw [hsize, List.nil_append] at hoffers
  rw [List.map_map] at hh
  rw [List.map_map]
  exact hoffers ▸ hh

theorem readBy_of_holds (P Q : Platform) (b : CResponseBuffer) (ws : List TypedValue)
    (hl : b.length = b.tail)
    (hh : Holds b ((ws.map TypedValue.call).map (WriteCall.encode P)).flatten)
    (hno : ∀ v ∈ ws, ¬ v.IsDword) : ReadBy Q b ws := by
  intro req₀ ds hd
  have himage : (ws.map TypedValue.call).map (WriteCall.encode P) =
      (ws.map TypedValue.call).map (WriteCall.encode Q) := by
    rw [List.map_map, List.map_map]
    exact List.map_congr_left (fun v hv => v.encode_congr P Q (hno v hv))
  obtain ⟨req, got, ds', req', ht, hr, hok, hdel, -⟩ := readAll_of_holds Q ws
    (fun v hv => v.carried_of_not_dword Q (hno v hv)) b hl (himage ▸ hh) req₀ ds hd
  exact ⟨req, got, ds', req', ht, hr, hok, hdel⟩

theorem readField_advances {α : Type} (size : ℕ) (decode : List UInt8 → α) (value x : α)
    (b b' : CRequestBuffer) (r : ℤ) (hrun : readField size decode value b = some (r, x, b'))
    (hr : 0 ≤ r) : b' = { b with head := b.head + UInt16.ofNat size } ∧
      b'.head.toNat = b.head.toNat + size ∧ b'.head.toNat ≤ b.length.toNat := by
  by_cases hguard : b.head.toNat + size ≤ b.length.toNat
  · rw [readField, if_pos hguard] at hrun
    obtain ⟨bs, -, hb⟩ := Option.bind_eq_some_iff.mp hrun
    obtain rfl := (Prod.mk.inj (Prod.mk.inj (Option.some.inj hb)).2).2
    have hlt := b.length.toNat_lt
    have hhead : (b.head + UInt16.ofNat size).toNat = b.head.toNat + size := by
      rw [UInt16.toNat_add, UInt16.toNat_ofNat']
      omega
    exact ⟨rfl, hhead, by rw [hhead]; exact hguard⟩
  · rw [readField, if_neg hguard] at hrun
    rw [← (Prod.mk.inj (Option.some.inj hrun)).1] at hr
    omega

/-- A string read that does not return `-1` finds its string inside the body, but for the
terminator. -/
theorem readString_advances (m : ℕ) (b b' : CRequestBuffer) (body value : List UInt8)
    (hf : b.buffer.Filled body) (hl : b.length.toNat = body.length) (r : ℤ)
    (hrun : readString (List.replicate m 0) b = some (r, value, b')) (hr : 0 ≤ r) (s : CString)
    (hs : cstringOf value = some s) :
    b' = { b with head := b.head + UInt16.ofNat (s.val.length + 1) } ∧
      b'.head.toNat = b.head.toNat + (s.val.length + 1) ∧ b'.head.toNat ≤ body.length + 1 := by
  by_cases hguard : b.head.toNat + 1 ≤ b.length.toNat
  · rw [readString, if_pos hguard] at hrun
    obtain ⟨src, hsrc, hrun⟩ := Option.bind_eq_some_iff.mp hrun
    obtain ⟨value', hcopy, hrun⟩ := Option.bind_eq_some_iff.mp hrun
    obtain ⟨copied, hcopied, hb⟩ := Option.bind_eq_some_iff.mp hrun
    obtain ⟨-, hb⟩ := Prod.mk.inj (Option.some.inj hb)
    obtain ⟨rfl, rfl⟩ := Prod.mk.inj hb
    obtain rfl := Option.some.inj (hcopied.symm.trans hs)
    have hle : src.val.length ≤ body.length - b.head.toNat := by
      obtain ⟨k, hk⟩ := hf
      rw [ByteArea.cstring, hk, List.drop_append_of_le_length (by omega)] at hsrc
      simpa using length_le_of_cstringOf _ k src hsrc
    have hcopied_le : copied.val.length ≤ src.val.length := by
      unfold copyOver at hcopy
      split_ifs at hcopy with hroom
      rw [← Option.some.inj hcopy, List.drop_replicate] at hcopied
      exact length_le_of_cstringOf _ _ copied hcopied
    have hm := hf.length_le
    have hlen := maxRtpMsgSize_eq
    have hhead : (b.head + UInt16.ofNat copied.val.length + 1).toNat =
        b.head.toNat + (copied.val.length + 1) := by
      rw [UInt16.toNat_add, UInt16.toNat_add, UInt16.toNat_ofNat']
      change ((b.head.toNat + copied.val.length % 2 ^ 16) % 2 ^ 16 + 1) % 2 ^ 16 = _
      omega
    refine ⟨?_, hhead, by rw [hhead]; omega⟩
    rw [UInt16.ofNat_add, ← UInt16.add_assoc]
    rfl
  · rw [readString, if_neg hguard] at hrun
    rw [← (Prod.mk.inj (Option.some.inj hrun)).1] at hr
    omega

/-- A read that delivers a value advances over its size and stays at the body, but for the
terminator of a string. -/
theorem read_delivered (P : Platform) (v : TypedValue) (b b' : CRequestBuffer)
    (body : List UInt8) (hf : b.buffer.Filled body) (hl : b.length.toNat = body.length) (r : ℤ)
    (d' : Destination) (hrun : v.call.room.read P b = some (r, d', b')) (hr : 0 ≤ r)
    (hdel : v.Delivered d') : b'.buffer = b.buffer ∧ b'.length = b.length ∧
      b'.head.toNat = b.head.toNat + v.wireSize P ∧ b'.head.toNat ≤ body.length + 1 := by
  have hfield : ∀ {α : Type} (size : ℕ) (decode : List UInt8 → α) (value x : α),
      readField size decode value b = some (r, x, b') → b'.buffer = b.buffer ∧
        b'.length = b.length ∧ b'.head.toNat = b.head.toNat + size ∧
        b'.head.toNat ≤ body.length + 1 := by
    intro α size decode value x h
    obtain ⟨he, hhead, hle⟩ := readField_advances size decode value x b b' r h hr
    exact ⟨by rw [he], by rw [he], hhead, by omega⟩
  cases v with
  | string s =>
    obtain ⟨⟨ret, value, b₁⟩, hread, he⟩ := Option.map_eq_some_iff.mp hrun
    obtain ⟨rfl, hd'⟩ := Prod.mk.inj he
    obtain ⟨rfl, rfl⟩ := Prod.mk.inj hd'
    obtain ⟨he, hhead, hle⟩ := readString_advances _ b b₁ body value hf hl ret hread hr s hdel
    exact ⟨by rw [he], by rw [he], hhead, hle⟩
  | word | dword | float | byte =>
    obtain ⟨⟨ret, value, b₁⟩, hread, he⟩ := Option.map_eq_some_iff.mp hrun
    obtain ⟨rfl, hd'⟩ := Prod.mk.inj he
    obtain ⟨rfl, rfl⟩ := Prod.mk.inj hd'
    exact hfield _ _ _ value hread

/-- The values a build reads from a body are together no longer than the body and one byte. -/
theorem sum_wireSize_le (P : Platform) (ws : List TypedValue) (b b' : CRequestBuffer)
    (body : List UInt8) (hf : b.buffer.Filled body) (hl : b.length.toNat = body.length)
    (got : List ℤ) (ds' : List Destination)
    (hrun : readAll P ((ws.map TypedValue.call).map WriteCall.room) b = some (got, ds', b'))
    (hgot : ∀ r ∈ got, 0 ≤ r) (hdel : List.Forall₂ TypedValue.Delivered ws ds')
    (hb : b.head.toNat ≤ body.length + 1) :
    b.head.toNat + (ws.map (TypedValue.wireSize P)).sum ≤ body.length + 1 := by
  induction ws generalizing b got ds' with
  | nil => simpa using hb
  | cons v ws ih =>
    obtain ⟨ret, rest, d', rest', b₁, hr, hrest, rfl, rfl⟩ :=
      (readAll_cons_eq_some_iff P _ _ ds' b b' got).1 hrun
    obtain ⟨hd, hds⟩ := List.forall₂_cons.mp hdel
    obtain ⟨hbuf, hlen, hhead, hle⟩ :=
      read_delivered P v b b₁ body hf hl ret d' hr (hgot ret List.mem_cons_self) hd
    have hsum := ih b₁ (hbuf ▸ hf) (hlen ▸ hl) rest rest' hrest
      (fun r hmem => hgot r (List.mem_cons_of_mem ret hmem)) hds hle
    rw [List.map_cons, List.sum_cons]
    omega

theorem sum_wireSize_dword (ws : List TypedValue) (h : ∃ v ∈ ws, v.IsDword) :
    (ws.map (TypedValue.wireSize .windows)).sum + 4 ≤
      (ws.map (TypedValue.wireSize .linux)).sum := by
  obtain ⟨v, hv, hd⟩ := h
  obtain ⟨front, back, rfl⟩ := List.append_of_mem hv
  have hfront : (front.map (TypedValue.wireSize .windows)).sum ≤
      (front.map (TypedValue.wireSize .linux)).sum :=
    List.sum_le_sum (fun x _ => x.wireSize_windows_le_linux)
  have hback : (back.map (TypedValue.wireSize .windows)).sum ≤
      (back.map (TypedValue.wireSize .linux)).sum :=
    List.sum_le_sum (fun x _ => x.wireSize_windows_le_linux)
  have hsize : v.wireSize .linux = v.wireSize .windows + 4 := by
    cases v with
    | dword v => rfl
    | _ => exact absurd hd not_false
  simp only [List.map_append, List.map_cons, List.sum_append, List.sum_cons]
  omega

theorem not_readBy_linux (b : CResponseBuffer) (ws : List TypedValue) (hl : b.length = b.tail)
    (hh : Holds b ((ws.map TypedValue.call).map (WriteCall.encode .windows)).flatten)
    (hd : ∃ v ∈ ws, v.IsDword) : ¬ ReadBy .linux b ws := by
  intro hread
  have hlen := hl ▸ hh.tail
  obtain ⟨req, got, ds', req', ht, hr, hgot, hdel⟩ :=
    hread ⟨zeros maxRtpMsgSize, 0, 0⟩ _ (forall₂_ready_room _)
  obtain ⟨req₁, ht₁, hlr, hhead, hf⟩ := transfer_of_holds b _ [] (by rwa [List.append_nil]) hlen
    ⟨zeros maxRtpMsgSize, 0, 0⟩
  obtain rfl := Option.some.inj (ht.symm.trans ht₁)
  have hsum := sum_wireSize_le .linux ws req req' _ hf (by rw [hlr, hlen]) got ds' hr hgot hdel
    (by rw [hhead]; exact Nat.zero_le _)
  have hdword := sum_wireSize_dword ws hd
  have hbody : ((ws.map TypedValue.call).map (WriteCall.encode .windows)).flatten.length =
      (ws.map (TypedValue.wireSize .windows)).sum := by
    rw [List.length_flatten, List.map_map, List.map_map]
    exact congrArg List.sum (List.map_congr_left (fun v _ => v.length_encode .windows))
  rw [hbody, hhead] at hsum
  change 0 + _ ≤ _ at hsum
  omega

/-- The builds have one format for a sequence of calls exactly when the narrow build accepts no
`DWORD` in it. -/
theorem commonFormat_iff (resp₀ : CResponseBuffer) (vs : List TypedValue) :
    CommonFormat resp₀ vs ↔ ∀ v ∈ acceptedBy .windows vs, ¬ v.IsDword := by
  obtain ⟨retsW, bw, hw, hsw, hlw, hhw⟩ := writeAll_accepted .windows vs resp₀
  obtain ⟨retsL, bl, hl, hsl, hll, hhl⟩ := writeAll_accepted .linux vs resp₀
  constructor
  · rintro ⟨retsW', bw', retsL', bl', hw', -, -, -, hread, -⟩ v hv hd
    obtain ⟨rfl, rfl⟩ := Prod.mk.inj (Option.some.inj (hw.symm.trans hw'))
    rw [hsw] at hread
    exact not_readBy_linux bw _ hlw hhw ⟨v, hv, hd⟩ hread
  · intro hno
    have himage : ∀ v ∈ acceptedBy .windows vs, v.call.encode .windows = v.call.encode .linux :=
      fun v hv => v.encode_congr .windows .linux (hno v hv)
    have hsize : ∀ v ∈ acceptedBy .windows vs, v.wireSize .linux = v.wireSize .windows := by
      intro v hv
      rw [← v.length_encode, ← v.length_encode, himage v hv]
    have hsame : acceptedBy .linux vs = acceptedBy .windows vs :=
      BoundedLog.accepted_congr maxRtpMsgSize _ _ TypedValue.wireSize_windows_le_linux 0 vs hsize
    rw [hsame] at hsl hhl
    have hbytes : ((acceptedBy .windows vs).map TypedValue.call).map (WriteCall.encode .linux) =
        ((acceptedBy .windows vs).map TypedValue.call).map (WriteCall.encode .windows) := by
      rw [List.map_map, List.map_map]
      exact List.map_congr_left (fun v hv => (himage v hv).symm)
    have hbuf : bw.buffer = bl.buffer := hhw.filled.eq (hbytes ▸ hhl.filled)
    have htail : bw.tail = bl.tail := by
      apply UInt16.toNat_inj.mp
      rw [hhw.tail, hhl.tail, hbytes]
    refine ⟨retsW, bw, retsL, bl, hw, hl, hbuf, by rw [hlw, hll, htail], ?_, ?_⟩
    · rw [hsw]
      exact readBy_of_holds .windows .linux bw _ hlw hhw hno
    · rw [hsl]
      exact readBy_of_holds .linux .windows bl _ hll hhl hno

/-- One `DWORD` takes four bytes in one build and eight in the other. -/
theorem one_dword_formats_differ :
    ¬ CommonFormat ⟨zeros maxRtpMsgSize, 0, 0⟩ [.dword 1] := by
  rintro ⟨retsW, bw, retsL, bl, hw, hl, -, hlen, -⟩
  obtain ⟨rets, bw', hw', -, hlw, hhw⟩ :=
    writeAll_accepted .windows [.dword 1] ⟨zeros maxRtpMsgSize, 0, 0⟩
  obtain ⟨rets', bl', hl', -, hll, hhl⟩ :=
    writeAll_accepted .linux [.dword 1] ⟨zeros maxRtpMsgSize, 0, 0⟩
  obtain ⟨-, rfl⟩ := Prod.mk.inj (Option.some.inj (hw.symm.trans hw'))
  obtain ⟨-, rfl⟩ := Prod.mk.inj (Option.some.inj (hl.symm.trans hl'))
  have hfour : bw.tail.toNat = 4 := hhw.tail
  have height : bl.tail.toNat = 8 := hhl.tail
  rw [← hlw, hlen, hll, height] at hfour
  omega

end OpenDSLite
