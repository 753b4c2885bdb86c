import OpenDSLite.TypedRoundTrip
import OpenDSLite.WriteSequences

/-!
# The messages of the sample application

The two messages are packed structs, modelled as the arrays they occupy. Each field of four bytes
is read through a pointer to `ULong32`, so on the wide builds every read also overwrites the four
bytes behind its field, with zeros or, where the sign of an undeclared `ntohl` is extended, with
`0xFF`. The fields come in rising order, so in the response this shows behind the last number only;
the second field of the request is its last, and its read leaves the struct.
-/

namespace OpenDSLite

open ByteOrder ByteArea

/-- `id`, `d1` and `d2`. -/
abbrev CRequestIndex := ByteArea 10

/-- `id`, `d1`, `d2`, `r1` and `r2[256]`. -/
abbrev CResponseIndex := ByteArea 270

abbrev offsetD1 : ℕ := 2
abbrev offsetD2 : ℕ := 6
abbrev offsetR1 : ℕ := 10
abbrev offsetR2 : ℕ := 14

variable {n : ℕ}

def int32At (message : ByteArea n) (off : ℕ) : Int32 :=
  (loadUInt32 ((message.bytes.drop off).take 4)).toInt32

/-- `READ_DWORD((ULong32*)&field)` for the field at `off`. -/
def readDwordInto (P : Platform) (off : ℕ) (message : ByteArea n) (req : CRequestBuffer) :
    Option (ByteArea n × CRequestBuffer) := do
  let (ret, value, req) ← readDword P 0 req
  if ret = -1 then some (message, req)
  else do
    let message ← message.store off (leBytes P.sizeofULong32 value.toNat)
    some (message, req)

/-- `READ_STRING(field)` for the field at `off`, the last of its struct. -/
def readStringInto (off : ℕ) (message : ByteArea n) (req : CRequestBuffer) :
    Option (ByteArea n × CRequestBuffer) := do
  let (_, value, req) ← readString (message.bytes.drop off) req
  let message ← message.store off value
  some (message, req)

def cRequestIndexPackup (P : Platform) (message : CRequestIndex) (resp : CResponseBuffer) :
    Option CResponseBuffer := do
  let (_, resp) ← writeDword P (toULong32 (int32At message offsetD1)) resp
  let (_, resp) ← writeDword P (toULong32 (int32At message offsetD2)) resp
  some resp

def cRequestIndexUnpack (P : Platform) (message : CRequestIndex) (req : CRequestBuffer) :
    Option (CRequestIndex × CRequestBuffer) := do
  let (message, req) ← readDwordInto P offsetD1 message req
  readDwordInto P offsetD2 message req

def cResponseIndexPackup (P : Platform) (message : CResponseIndex) (resp : CResponseBuffer) :
    Option CResponseBuffer := do
  let (_, resp) ← writeDword P (toULong32 (int32At message offsetD1)) resp
  let (_, resp) ← writeDword P (toULong32 (int32At message offsetD2)) resp
  let (_, resp) ← writeDword P (toULong32 (int32At message offsetR1)) resp
  let r2 ← message.cstring offsetR2
  let (_, resp) ← writeString r2 resp
  some resp

def cResponseIndexUnpack (P : Platform) (message : CResponseIndex) (req : CRequestBuffer) :
    Option (CResponseIndex × CRequestBuffer) := do
  let (message, req) ← readDwordInto P offsetD1 message req
  let (message, req) ← readDwordInto P offsetD2 message req
  let (message, req) ← readDwordInto P offsetR1 message req
  readStringInto offsetR2 message req

/-- Of the value written as a `ULong32` only the low half shows. -/
theorem writeDword_toULong32 (P : Platform) (value : Int32) (resp : CResponseBuffer) :
    writeDword P (toULong32 value) resp = (WriteCall.dword value.toUInt32.toUInt64).run P resp := by
  rw [WriteCall.run, writeDword, writeDword, toUInt32_toULong32, UInt32.toUInt32_toUInt64]

theorem int32At_clear (message : ByteArea n) (off k : ℕ)
    (h : message.bytes.drop off = List.replicate k 0) : int32At message off = 0 := by
  have hzero : loadUInt32 (List.replicate (min 4 k) 0) = 0 := by
    have h := ofLeBytes_append_zeros [] (min 4 k)
    rw [List.nil_append] at h
    rw [loadUInt32, h]
    rfl
  rw [int32At, h, List.take_replicate, hzero]
  rfl

theorem int32At_of_drop (message : ByteArea n) (off : ℕ) (value : UInt32) (rest : List UInt8)
    (h : message.bytes.drop off = leBytes 4 value.toNat ++ rest) :
    int32At message off = value.toInt32 := by
  rw [int32At, h, List.take_left' (length_leBytes 4 _), loadUInt32_leBytes]

theorem int32At_congr (message message' : ByteArea n) (off : ℕ)
    (h : (message'.bytes.drop off).take 4 = (message.bytes.drop off).take 4) :
    int32At message' off = int32At message off := by
  rw [int32At, h, int32At]

theorem readDwordInto_refused (P : Platform) (off : ℕ) (message : ByteArea n)
    (req req' : CRequestBuffer) (value : UInt64)
    (h : readDword P 0 req = some (-1, value, req')) :
    readDwordInto P off message req = some (message, req') := by
  simp only [readDwordInto, h, Option.bind_eq_bind, Option.bind_some, if_true]

/-- A successful read fills its field and what a wide `ULong32` covers behind it. -/
theorem readDwordInto_stored (P : Platform) (off : ℕ) (message : ByteArea n)
    (req req' : CRequestBuffer) (ret : ℤ) (v : UInt32)
    (h : readDword P 0 req = some (ret, P.assigned v, req')) (hret : ret ≠ -1)
    (hfits : off + P.sizeofULong32 ≤ n) :
    ∃ message', readDwordInto P off message req = some (message', req') ∧
      message'.bytes.drop off = leBytes 4 v.toNat ++
        (List.replicate (P.sizeofULong32 - 4) (P.highByte v) ++
          message.bytes.drop (off + P.sizeofULong32)) ∧
      ∀ k, k + 4 ≤ off → int32At message' k = int32At message k := by
  obtain ⟨message', hstore⟩ := message.store_of_fits off
    (leBytes P.sizeofULong32 (P.assigned v).toNat) (by rwa [length_leBytes])
  refine ⟨message', ?_, ?_, ?_⟩
  · simp only [readDwordInto, h, Option.bind_eq_bind, Option.bind_some, if_neg hret, hstore]
  · rw [drop_store hstore, length_leBytes, leBytes_assigned, List.append_assoc]
  · intro k hk
    exact int32At_congr message message' k (block_store_before hstore k 4 hk)

/-- On the wide builds a field at the end of its struct has no room for a `ULong32`. -/
theorem readDwordInto_overruns (P : Platform) (off : ℕ) (message : ByteArea n)
    (req req' : CRequestBuffer) (ret : ℤ) (value : UInt64)
    (h : readDword P 0 req = some (ret, value, req')) (hret : ret ≠ -1)
    (hover : n < off + P.sizeofULong32) : readDwordInto P off message req = none := by
  have hnone : message.store off (leBytes P.sizeofULong32 value.toNat) = none := by
    rw [store_eq_none_iff, length_leBytes]
    exact hover
  simp only [readDwordInto, h, Option.bind_eq_bind, Option.bind_some, if_neg hret, hnone,
    Option.bind_none]

theorem length_of_readString (dst value : List UInt8) (req req' : CRequestBuffer) (ret : ℤ)
    (h : readString dst req = some (ret, value, req')) : value.length = dst.length := by
  unfold readString at h
  split_ifs at h with hguard
  · obtain ⟨src, -, h⟩ := Option.bind_eq_some_iff.mp h
    obtain ⟨copied, hcopy, h⟩ := Option.bind_eq_some_iff.mp h
    obtain ⟨s, -, h⟩ := Option.bind_eq_some_iff.mp h
    have hvalue : copied = value := (Prod.mk.inj (Prod.mk.inj (Option.some.inj h)).2).1
    unfold copyOver at hcopy
    split_ifs at hcopy with hle
    rw [← hvalue, ← Option.some.inj hcopy, List.length_append, List.length_drop]
    omega
  · rw [(Prod.mk.inj (Prod.mk.inj (Option.some.inj h)).2).1]

theorem drop_behind_field (P : Platform) (message message' : ByteArea n) (off j : ℕ) (v : UInt32)
    (h : message'.bytes.drop off = leBytes 4 v.toNat ++
      (List.replicate (P.sizeofULong32 - 4) (P.highByte v) ++
        message.bytes.drop (off + P.sizeofULong32)))
    (hj : off + P.sizeofULong32 ≤ j) : message'.bytes.drop j = message.bytes.drop j := by
  obtain ⟨m, rfl⟩ := Nat.exists_eq_add_of_le hj
  obtain ⟨k, hk, -⟩ := sizeofULong32_eq P
  have hlen : (leBytes 4 v.toNat ++ List.replicate (P.sizeofULong32 - 4) (P.highByte v)).length =
      P.sizeofULong32 := by
    rw [List.length_append, length_leBytes, List.length_replicate]
    omega
  rw [← List.append_assoc] at h
  rw [Nat.add_assoc, ← List.drop_drop, h, ← List.drop_drop, List.drop_left' hlen, List.drop_drop,
    Nat.add_assoc]

/-- The text field of a cleared response struct once the number in front of it has been read. -/
def textField (P : Platform) (r1 : UInt32) : List UInt8 :=
  List.replicate (P.sizeofULong32 - 4) (P.highByte r1) ++
    List.replicate (256 - (P.sizeofULong32 - 4)) 0

theorem length_textField (P : Platform) (r1 : UInt32) : (textField P r1).length = 256 := by
  obtain ⟨k, hk, hk4⟩ := sizeofULong32_eq P
  rw [textField, List.length_append, List.length_replicate, List.length_replicate]
  omega

theorem cResponseIndexUnpack_of_reads (P : Platform) (req₀ req₁ req₂ req₃ req₄ : CRequestBuffer)
    (r₁ r₂ r₃ r₄ : ℤ) (v₁ v₂ v₃ : UInt32) (value : List UInt8)
    (h₁ : readDword P 0 req₀ = some (r₁, P.assigned v₁, req₁)) (hr₁ : r₁ ≠ -1)
    (h₂ : readDword P 0 req₁ = some (r₂, P.assigned v₂, req₂)) (hr₂ : r₂ ≠ -1)
    (h₃ : readDword P 0 req₂ = some (r₃, P.assigned v₃, req₃)) (hr₃ : r₃ ≠ -1)
    (h₄ : readString (textField P v₃) req₃ = some (r₄, value, req₄)) :
    ∃ message, cResponseIndexUnpack P (zeros 270) req₀ = some (message, req₄) ∧
      int32At message offsetD1 = v₁.toInt32 ∧ int32At message offsetD2 = v₂.toInt32 ∧
      int32At message offsetR1 = v₃.toInt32 ∧ message.bytes.drop offsetR2 = value := by
  obtain ⟨k, hk, hk4⟩ := sizeofULong32_eq P
  have hfits : ∀ off, off ≤ 10 → off + P.sizeofULong32 ≤ 270 := by
    intro off hoff
    omega
  obtain ⟨m₁, hm₁, hd₁, -⟩ := readDwordInto_stored P offsetD1 (zeros 270) req₀ req₁ r₁ v₁
    h₁ hr₁ (hfits 2 (by decide))
  obtain ⟨m₂, hm₂, hd₂, hkeep₂⟩ := readDwordInto_stored P offsetD2 m₁ req₁ req₂ r₂ v₂ h₂ hr₂
    (hfits 6 (by decide))
  obtain ⟨m₃, hm₃, hd₃, hkeep₃⟩ := readDwordInto_stored P offsetR1 m₂ req₂ req₃ r₃ v₃ h₃ hr₃
    (hfits 10 (by decide))
  -- behind what the read of `r1` covered nothing has been stored
  have hfield : m₃.bytes.drop offsetR2 = textField P v₃ := by
    have hm₂' := drop_behind_field P m₁ m₂ offsetD2 (offsetR1 + P.sizeofULong32) v₂ hd₂
      (Nat.add_le_add_right (by decide) _)
    have hm₁' := drop_behind_field P (zeros 270) m₁ offsetD1 (offsetR1 + P.sizeofULong32) v₁ hd₁
      (Nat.add_le_add_right (by decide) _)
    have hzeros : (zeros 270).bytes.drop (offsetR1 + P.sizeofULong32) =
        List.replicate (256 - (P.sizeofULong32 - 4)) 0 := by
      change (List.replicate 270 0).drop (10 + P.sizeofULong32) = _
      rw [List.drop_replicate]
      congr 1
      omega
    change m₃.bytes.drop (offsetR1 + 4) = _
    rw [← List.drop_drop, hd₃, List.drop_left' (length_leBytes 4 _), hm₂', hm₁', hzeros, textField]
  have hlen := length_of_readString _ _ _ _ _ h₄
  rw [length_textField] at hlen
  obtain ⟨m₄, hstore⟩ := m₃.store_of_fits offsetR2 value (by rw [hlen])
  have hkeep₄ : ∀ off, off + 4 ≤ offsetR2 → int32At m₄ off = int32At m₃ off := fun off hoff =>
    int32At_congr m₃ m₄ off (block_store_before hstore off 4 hoff)
  refine ⟨m₄, ?_, ?_, ?_, ?_, ?_⟩
  · simp only [cResponseIndexUnpack, hm₁, hm₂, hm₃, readStringInto, hfield, h₄, hstore,
      Option.bind_eq_bind, Option.bind_some]
  · rw [hkeep₄ offsetD1 (by decide), hkeep₃ offsetD1 (by decide), hkeep₂ offsetD1 (by decide)]
    exact int32At_of_drop m₁ offsetD1 v₁ _ hd₁
  · rw [hkeep₄ offsetD2 (by decide), hkeep₃ offsetD2 (by decide)]
    exact int32At_of_drop m₂ offsetD2 v₂ _ hd₂
  · rw [hkeep₄ offsetR1 (by decide)]
    exact int32At_of_drop m₃ offsetR1 v₃ _ hd₃
  · rw [drop_store hstore, hlen]
    have hend : m₃.bytes.drop 270 = [] := List.drop_of_length_le m₃.length_bytes.le
    change value ++ m₃.bytes.drop 270 = value
    rw [hend, List.append_nil]

def numberCalls (d1 d2 r1 : Int32) : List TypedValue :=
  [.dword d1.toUInt32, .dword d2.toUInt32, .dword r1.toUInt32]

/-- The calls the response struct is packed with. -/
def responseCalls (d1 d2 r1 : Int32) (r2 : CString) : List TypedValue :=
  numberCalls d1 d2 r1 ++ [.string r2]

/-- The buffer after some calls, when what they return is not looked at. -/
theorem writeAll_snd_cons (P : Platform) (c : WriteCall) (cs : List WriteCall)
    (b : CResponseBuffer) : (writeAll P (c :: cs) b).map Prod.snd =
      (c.run P b).bind fun r => (writeAll P cs r.2).map Prod.snd := by
  rw [writeAll]
  cases c.run P b with
  | none => rfl
  | some r =>
    simp only [Option.bind_some, Option.map_map]
    rfl

theorem cResponseIndexPackup_eq (P : Platform) (message : CResponseIndex) (r2 : CString)
    (hr2 : message.cstring offsetR2 = some r2) (resp : CResponseBuffer) :
    cResponseIndexPackup P message resp =
      (writeAll P ((responseCalls (int32At message offsetD1) (int32At message offsetD2)
        (int32At message offsetR1) r2).map TypedValue.call) resp).map Prod.snd := by
  simp only [cResponseIndexPackup, writeDword_toULong32, hr2, responseCalls, numberCalls,
    List.cons_append, List.nil_append, List.map_cons, List.map_nil, TypedValue.call,
    writeAll_snd_cons, Option.bind_eq_bind, Option.bind_some]
  rfl

theorem cRequestIndexPackup_eq (P : Platform) (message : CRequestIndex) (resp : CResponseBuffer) :
    cRequestIndexPackup P message resp =
      (writeAll P [.dword (int32At message offsetD1).toUInt32.toUInt64,
        .dword (int32At message offsetD2).toUInt32.toUInt64] resp).map Prod.snd := by
  simp only [cRequestIndexPackup, writeDword_toULong32, writeAll_snd_cons, Option.bind_eq_bind]
  rfl

def typedImages (P : Platform) (vs : List TypedValue) : List UInt8 :=
  images P (vs.map TypedValue.call)

theorem typedImages_cons (P : Platform) (v : TypedValue) (vs : List TypedValue) :
    typedImages P (v :: vs) = v.call.encode P ++ typedImages P vs := rfl

theorem length_encode_dword (P : Platform) (v : UInt32) :
    ((TypedValue.dword v).call.encode P).length = P.sizeofULong32 :=
  WriteCall.length_encode_dword P v.toUInt64

theorem length_encode_string (P : Platform) (s : CString) :
    ((TypedValue.string s).call.encode P).length = s.val.length + 1 := by
  simp only [TypedValue.call, WriteCall.encode, List.length_append, List.length_singleton]

theorem length_numberCalls (P : Platform) (d1 d2 r1 : Int32) :
    (typedImages P (numberCalls d1 d2 r1)).length = 3 * P.sizeofULong32 := by
  rw [numberCalls, typedImages_cons, typedImages_cons, typedImages_cons]
  simp only [List.length_append, length_encode_dword]
  change _ + (_ + (_ + 0)) = _
  omega

theorem typedImages_append (P : Platform) (vs ws : List TypedValue) :
    typedImages P (vs ++ ws) = typedImages P vs ++ typedImages P ws := by
  simp only [typedImages, images, List.map_append, List.flatten_append]

theorem writeAll_fits (P : Platform) (vs : List TypedValue) (resp : CResponseBuffer)
    (bytes : List UInt8) (h : Holds resp bytes) (hl : resp.length = resp.tail)
    (hfit : bytes.length + (typedImages P vs).length ≤ maxRtpMsgSize) :
    ∃ resp', (writeAll P (vs.map TypedValue.call) resp).map Prod.snd = some resp' ∧
      resp'.length = resp'.tail ∧ Holds resp' (bytes ++ typedImages P vs) := by
  obtain ⟨rets, resp', hw, hholds, hl', -⟩ :=
    writeAll_offers P _ (TypedValue.isTyped_of_mem_calls vs) resp bytes h hl
  rw [BoundedLog.offers_of_fits _ _ _ hfit] at hholds
  exact ⟨resp', by rw [hw]; rfl, hl', hholds⟩

theorem readDword_facing (P : Platform) (v : UInt32) (b : CRequestBuffer)
    (pre rest post : List UInt8)
    (h : Facing b pre ((TypedValue.dword v).call.encode P ++ rest) post) :
    ∃ ret b', readDword P 0 b = some (ret, P.assigned v, b') ∧ ret ≠ -1 ∧ b'.length = b.length ∧
      Facing b' (pre ++ (TypedValue.dword v).call.encode P) rest post := by
  have hw := h.within
  have hfront : Facing b pre ((TypedValue.dword v).call.encode P) (rest ++ post) :=
    ⟨by rw [h.bytes, List.append_assoc], h.head, by rw [List.length_append] at hw; omega⟩
  obtain ⟨d, hread, hdelivered⟩ := (TypedValue.dword v).call.read_encode P trivial (.dword 0)
    trivial b pre _ hfront
  obtain ⟨⟨ret, value, b'⟩, hdword, heq⟩ := Option.map_eq_some_iff.mp hread
  obtain ⟨hret, hrest⟩ := Prod.mk.inj heq
  obtain ⟨rfl, rfl⟩ := Prod.mk.inj hrest
  have hvalue : value = P.assigned v := by
    rwa [TypedValue.call, WriteCall.Delivered, UInt32.toUInt32_toUInt64] at hdelivered
  refine ⟨ret, { b with head := b.head + UInt16.ofNat ((TypedValue.dword v).call.encode P).length },
    by rw [hdword, hvalue], ?_, rfl, h.next⟩
  change ret = _ at hret
  omega

/-- A response struct is unpacked from the images of its numbers and whatever `READ_STRING` then
makes of the rest. -/
theorem cResponseIndexUnpack_facing (P : Platform) (d1 d2 r1 : Int32) (req : CRequestBuffer)
    (pre rest post : List UInt8)
    (h : Facing req pre (typedImages P (numberCalls d1 d2 r1) ++ rest) post) :
    ∃ req₃, req₃.length = req.length ∧
      Facing req₃ (pre ++ typedImages P (numberCalls d1 d2 r1)) rest post ∧
      ∀ ret value req₄, readString (textField P r1.toUInt32) req₃ = some (ret, value, req₄) →
        ∃ message, cResponseIndexUnpack P (zeros 270) req = some (message, req₄) ∧
          int32At message offsetD1 = d1 ∧ int32At message offsetD2 = d2 ∧
          int32At message offsetR1 = r1 ∧ message.cstring offsetR2 = cstringOf value := by
  have himages : ∀ tail, typedImages P (numberCalls d1 d2 r1) ++ tail =
      (TypedValue.dword d1.toUInt32).call.encode P ++
        ((TypedValue.dword d2.toUInt32).call.encode P ++
          ((TypedValue.dword r1.toUInt32).call.encode P ++ tail)) := by
    intro tail
    rw [numberCalls, typedImages_cons, typedImages_cons, typedImages_cons]
    simp only [List.append_assoc]
    rfl
  rw [himages] at h
  obtain ⟨r₁, req₁, h₁, hr₁, hl₁, hf₁⟩ := readDword_facing P _ req _ _ _ h
  obtain ⟨r₂, req₂, h₂, hr₂, hl₂, hf₂⟩ := readDword_facing P _ req₁ _ _ _ hf₁
  obtain ⟨r₃, req₃, h₃, hr₃, hl₃, hf₃⟩ := readDword_facing P _ req₂ _ _ _ hf₂
  have hpre := himages []
  rw [List.append_nil, List.append_nil] at hpre
  refine ⟨req₃, by rw [hl₃, hl₂, hl₁], ?_, ?_⟩
  · rw [hpre]
    simpa only [List.append_assoc] using hf₃
  · intro ret value req₄ h₄
    obtain ⟨message, hunpack, hd1, hd2, hr1, hdrop⟩ := cResponseIndexUnpack_of_reads P req req₁
      req₂ req₃ req₄ r₁ r₂ r₃ ret _ _ _ value h₁ hr₁ h₂ hr₂ h₃ hr₃ h₄
    exact ⟨message, hunpack, hd1, hd2, hr1, by rw [ByteArea.cstring, hdrop]⟩

def TextFits (P : Platform) (r2 : CString) : Prop :=
  3 * P.sizeofULong32 + r2.val.length + 1 ≤ maxRtpMsgSize

instance (P : Platform) (r2 : CString) : Decidable (TextFits P r2) :=
  inferInstanceAs (Decidable (_ ≤ _))

/-- What of the text field the sign of the number in front of it still covers behind `k` bytes. -/
def signBytes (P : Platform) (r1 : UInt32) (k : ℕ) : List UInt8 :=
  if P.DeclaresHtonl ∨ r1.toNat < 2 ^ 31 then [] else List.replicate (4 - k) 0xFF

/-- The text that is sent. One that does not fit is not. -/
def sentText (P : Platform) (r2 : CString) : List UInt8 :=
  if TextFits P r2 then r2.val else []

/-- The text a response struct is unpacked with. -/
def unpackedText (P : Platform) (r1 : UInt32) (r2 : CString) : CString :=
  untilNul (sentText P r2 ++ signBytes P r1 (sentText P r2).length)

/-- What is written behind the numbers. -/
def writtenText (P : Platform) (r2 : CString) : List UInt8 :=
  if TextFits P r2 then r2.val ++ [0] else []

theorem offers_response (P : Platform) (d1 d2 r1 : Int32) (r2 : CString) :
    BoundedLog.offers maxRtpMsgSize []
      (((responseCalls d1 d2 r1 r2).map TypedValue.call).map (WriteCall.encode P)) =
      typedImages P (numberCalls d1 d2 r1) ++ writtenText P r2 := by
  have hm := maxRtpMsgSize_eq
  have hlen := length_numberCalls P d1 d2 r1
  obtain ⟨k, hk, hk4⟩ := sizeofULong32_eq P
  have hnumbers : BoundedLog.offers maxRtpMsgSize []
      (((numberCalls d1 d2 r1).map TypedValue.call).map (WriteCall.encode P)) =
      typedImages P (numberCalls d1 d2 r1) :=
    BoundedLog.offers_of_fits _ [] _ (by
      change 0 + (typedImages P (numberCalls d1 d2 r1)).length ≤ _
      omega)
  rw [responseCalls, List.map_append, List.map_append, BoundedLog.offers_append, hnumbers]
  simp only [List.map_cons, List.map_nil, BoundedLog.offers, BoundedLog.offer,
    length_encode_string, hlen]
  by_cases hfit : TextFits P r2
  · have hle : 3 * P.sizeofULong32 + (r2.val.length + 1) ≤ maxRtpMsgSize := hfit
    rw [if_pos hle, writtenText, if_pos hfit]
    rfl
  · have hnle : ¬ 3 * P.sizeofULong32 + (r2.val.length + 1) ≤ maxRtpMsgSize := hfit
    rw [if_neg hnle, writtenText, if_neg hfit, List.append_nil]

theorem length_signBytes_le (P : Platform) (r1 : UInt32) (k : ℕ) :
    (signBytes P r1 k).length ≤ 4 := by
  unfold signBytes
  split_ifs
  · exact Nat.zero_le 4
  · rw [List.length_replicate]
    omega

theorem notMem_signBytes (P : Platform) (r1 : UInt32) (k : ℕ) : (0 : UInt8) ∉ signBytes P r1 k := by
  unfold signBytes
  split_ifs
  · exact List.not_mem_nil
  · exact fun h => absurd (List.eq_of_mem_replicate h) (by decide)

theorem val_unpackedText (P : Platform) (r1 : UInt32) (r2 : CString) :
    (unpackedText P r1 r2).val = sentText P r2 ++ signBytes P r1 (sentText P r2).length := by
  apply untilNul_of_notMem
  rw [List.mem_append, not_or]
  refine ⟨?_, notMem_signBytes P r1 _⟩
  unfold sentText
  split_ifs
  · exact r2.property
  · exact List.not_mem_nil

theorem drop_textField (P : Platform) (r1 : UInt32) (k : ℕ) (hk : k < 256) :
    ∃ m, 0 < m ∧ (textField P r1).drop k = signBytes P r1 k ++ List.replicate m 0 := by
  obtain ⟨j, hj, hj4⟩ := sizeofULong32_eq P
  by_cases hsign : P.DeclaresHtonl ∨ r1.toNat < 2 ^ 31
  · refine ⟨256 - k, by omega, ?_⟩
    rw [textField, Platform.highByte, signBytes, if_pos hsign, if_pos hsign, List.nil_append,
      ← List.replicate_add, List.drop_replicate]
    congr 1
    omega
  · obtain rfl : P = .linux := not_not.mp (not_or.mp hsign).1
    refine ⟨252 - (k - 4), by omega, ?_⟩
    rw [textField, Platform.highByte, signBytes, if_neg hsign, if_neg hsign, List.drop_append,
      List.length_replicate, List.drop_replicate, List.drop_replicate]
    rfl

theorem readString_written (P : Platform) (r1 : UInt32) (r2 : CString) (req : CRequestBuffer)
    (pre post : List UInt8) (h : Facing req pre (writtenText P r2) post)
    (hl : req.length.toNat = pre.length + (writtenText P r2).length) :
    ∃ ret value req', readString (textField P r1) req = some (ret, value, req') ∧
      cstringOf value = some (unpackedText P r1 r2) ∧ req'.length = req.length ∧
      (TextFits P r2 → req'.head.toNat =
        req.length.toNat + (signBytes P r1 r2.val.length).length) := by
  have hm := maxRtpMsgSize_eq
  have hfits := h.fits
  by_cases hfit : TextFits P r2
  · have hsent : sentText P r2 = r2.val := if_pos hfit
    have htext := val_unpackedText P r1 r2
    rw [writtenText, if_pos hfit] at h hl hfits
    rw [List.length_append, List.length_singleton] at hfits hl
    rw [hsent] at htext
    obtain ⟨m, hm0, hdrop⟩ := drop_textField P r1 r2.val.length (by omega)
    have hover : cstringOf (r2.val ++ (textField P r1).drop r2.val.length) =
        some (unpackedText P r1 r2) := by
      rw [hdrop, ← List.append_assoc, ← htext]
      exact cstringOf_append_zeros _ m hm0
    have hread := readString_over r2 _ _ (by rw [length_textField]; omega) hover req pre post h
    refine ⟨_, _, _, hread, hover, rfl, fun _ => ?_⟩
    have hsign := length_signBytes_le P r1 r2.val.length
    have hhead := h.head
    change (req.head + UInt16.ofNat _).toNat = _
    rw [htext, List.length_append, UInt16.toNat_add, UInt16.toNat_ofNat']
    omega
  · have hsent : sentText P r2 = [] := if_neg hfit
    have htext := val_unpackedText P r1 r2
    rw [writtenText, if_neg hfit] at h hl
    rw [hsent, List.nil_append, List.length_nil] at htext
    have hhead : req.head = req.length := UInt16.toNat_inj.mp (h.head.trans hl.symm)
    obtain ⟨m, hm0, hdrop⟩ := drop_textField P r1 0 (by decide)
    rw [List.drop_zero, ← htext] at hdrop
    refine ⟨-1, _, req, by rw [readString, if_neg (by rw [hhead]; omega)], ?_, rfl,
      fun h => absurd h hfit⟩
    rw [hdrop]
    exact cstringOf_append_zeros _ m hm0

/-- What a response struct was packed into is unpacked field by field into a cleared struct. -/
theorem cResponseIndexUnpack_written (P : Platform) (d1 d2 r1 : Int32) (r2 : CString)
    (req : CRequestBuffer) (pre post : List UInt8)
    (h : Facing req pre (typedImages P (numberCalls d1 d2 r1) ++ writtenText P r2) post)
    (hl : req.length.toNat =
      pre.length + (typedImages P (numberCalls d1 d2 r1) ++ writtenText P r2).length) :
    ∃ message req', cResponseIndexUnpack P (zeros 270) req = some (message, req') ∧
      int32At message offsetD1 = d1 ∧ int32At message offsetD2 = d2 ∧
      int32At message offsetR1 = r1 ∧
      message.cstring offsetR2 = some (unpackedText P r1.toUInt32 r2) ∧ req'.length = req.length ∧
      (TextFits P r2 → req'.head.toNat =
        req.length.toNat + (signBytes P r1.toUInt32 r2.val.length).length) := by
  obtain ⟨req₃, hl₃, hfacing₃, hunpack⟩ :=
    cResponseIndexUnpack_facing P d1 d2 r1 req pre (writtenText P r2) post h
  obtain ⟨ret, value, req', hread, hvalue, hlength, hhead⟩ :=
    readString_written P r1.toUInt32 r2 req₃ _ post hfacing₃ (by
      rw [hl₃, hl, List.length_append, List.length_append, Nat.add_assoc])
  obtain ⟨message, hmessage, hd1, hd2, hr1, htext⟩ := hunpack ret value req' hread
  exact ⟨message, req', hmessage, hd1, hd2, hr1, htext.trans hvalue, hlength.trans hl₃,
    fun hfit => hl₃ ▸ hhead hfit⟩

/-- The text fits, and no sign of the number in front of it gets behind it. -/
def TextSurvives (P : Platform) (r1 : Int32) (r2 : CString) : Prop :=
  TextFits P r2 ∧ (P.DeclaresHtonl ∨ 0 ≤ r1.toInt ∨ 4 ≤ r2.val.length)

theorem signBytes_eq_nil_iff (P : Platform) (r1 : Int32) (k : ℕ) :
    signBytes P r1.toUInt32 k = [] ↔ P.DeclaresHtonl ∨ 0 ≤ r1.toInt ∨ 4 ≤ k := by
  have hsign : r1.toUInt32.toNat < 2 ^ 31 ↔ 0 ≤ r1.toInt := by
    have hlt := r1.toUInt32.toNat_lt
    have hint := toInt_toInt32 r1.toUInt32
    rw [Int32.toInt32_toUInt32] at hint
    split_ifs at hint with h <;> omega
  rw [← hsign, signBytes]
  split_ifs with h
  · exact iff_of_true rfl (h.imp_right Or.inl)
  · rw [List.replicate_eq_nil_iff, ← or_assoc, or_iff_right h]
    omega

theorem unpackedText_eq_iff (P : Platform) (r1 : Int32) (r2 : CString) :
    unpackedText P r1.toUInt32 r2 = r2 ↔ TextSurvives P r1 r2 := by
  obtain ⟨k, hk, hk4⟩ := sizeofULong32_eq P
  have hm := maxRtpMsgSize_eq
  have htext := val_unpackedText P r1.toUInt32 r2
  rw [Subtype.ext_iff, htext, TextSurvives, ← signBytes_eq_nil_iff]
  by_cases hfit : TextFits P r2
  · rw [sentText, if_pos hfit, List.append_right_eq_self, and_iff_right hfit]
  · refine iff_of_false (fun h => ?_) (fun h => hfit h.1)
    have hsign := length_signBytes_le P r1.toUInt32 (sentText P r2).length
    have hlen := congrArg List.length h
    rw [sentText, if_neg hfit] at hlen hsign
    rw [List.nil_append] at hlen
    unfold TextFits at hfit
    omega

theorem transfer_facing (resp : CResponseBuffer) (bytes : List UInt8) (h : Holds resp bytes)
    (hl : resp.length = resp.tail) (req₀ : CRequestBuffer) : ∃ req post,
      transfer resp (cRequestBufferInit req₀) = some req ∧ req.length.toNat = bytes.length ∧
      Facing req [] bytes post := by
  have hlen := hl ▸ h.tail
  obtain ⟨req, htransfer, hlr, hhead, hfilled⟩ :=
    transfer_of_holds resp bytes [] (by rwa [List.append_nil]) hlen req₀
  have hreq : req.length.toNat = bytes.length := by rw [hlr, hlen]
  obtain ⟨post, hfacing⟩ := facing_of_filled hfilled hhead hreq
  exact ⟨req, post, htransfer, hreq, hfacing⟩

/-- A response struct packed into a cleared buffer, whose body becomes a request, is unpacked field
by field into a cleared struct, whatever the width of `ULong32`. Its text comes through, and the
request is used up, exactly when the text survives. -/
theorem response_struct_round_trip (P : Platform) (message : CResponseIndex) (r2 : CString)
    (hr2 : message.cstring offsetR2 = some r2) (resp₀ : CResponseBuffer)
    (req₀ : CRequestBuffer) : ∃ resp req message' req',
      cResponseIndexPackup P message (cResponseBufferInit resp₀) = some resp ∧
      transfer resp (cRequestBufferInit req₀) = some req ∧
      cResponseIndexUnpack P (zeros 270) req = some (message', req') ∧
      int32At message' offsetD1 = int32At message offsetD1 ∧
      int32At message' offsetD2 = int32At message offsetD2 ∧
      int32At message' offsetR1 = int32At message offsetR1 ∧
      message'.cstring offsetR2 =
        some (unpackedText P (int32At message offsetR1).toUInt32 r2) ∧
      (message'.cstring offsetR2 = some r2 ∧ req'.head = req'.length ↔
        TextSurvives P (int32At message offsetR1) r2) := by
  obtain ⟨rets, resp, hwrite, hholds, hl, -⟩ := writeAll_offers P _
    (TypedValue.isTyped_of_mem_calls (responseCalls (int32At message offsetD1)
      (int32At message offsetD2) (int32At message offsetR1) r2)) _ [] (holds_init resp₀) rfl
  rw [offers_response] at hholds
  obtain ⟨req, post, htransfer, hlen, hfacing⟩ := transfer_facing resp _ hholds hl req₀
  obtain ⟨message', req', hunpack, hd1, hd2, hr1, htext, hlength, hhead⟩ :=
    cResponseIndexUnpack_written P _ _ _ r2 req [] post hfacing
      (by rw [hlen, List.length_nil, Nat.zero_add])
  refine ⟨resp, req, message', req', ?_, htransfer, hunpack, hd1, hd2, hr1, htext, ?_⟩
  · rw [cResponseIndexPackup_eq P message r2 hr2, hwrite]
    rfl
  · rw [htext, Option.some_inj, unpackedText_eq_iff]
    refine ⟨And.left, fun hsurvives => ⟨hsurvives, ?_⟩⟩
    apply UInt16.toNat_inj.mp
    rw [hhead hsurvives.1, (signBytes_eq_nil_iff P _ _).2 hsurvives.2, hlength]
    rfl

def smallResponse : CResponseIndex :=
  holding 270 [0, 0, 1, 0, 0, 0, 2, 0, 0, 0, 0xFF, 0xFF, 0xFF, 0xFF, 0x48, 0x69]

theorem response_struct_round_trip_small : ∃ resp req message' req',
    cResponseIndexPackup .linux smallResponse (cResponseBufferInit ⟨zeros maxRtpMsgSize, 0, 0⟩) =
      some resp ∧
    transfer resp (cRequestBufferInit ⟨zeros maxRtpMsgSize, 0, 0⟩) = some req ∧
    cResponseIndexUnpack .linux (zeros 270) req = some (message', req') ∧
    int32At message' offsetD1 = int32At smallResponse offsetD1 ∧
    int32At message' offsetD2 = int32At smallResponse offsetD2 ∧
    int32At message' offsetR1 = int32At smallResponse offsetR1 ∧
    message'.cstring offsetR2 =
      some (unpackedText .linux (int32At smallResponse offsetR1).toUInt32
        ⟨[0x48, 0x69], by decide⟩) ∧
    (message'.cstring offsetR2 = some ⟨[0x48, 0x69], by decide⟩ ∧ req'.head = req'.length ↔
      TextSurvives .linux (int32At smallResponse offsetR1) ⟨[0x48, 0x69], by decide⟩) :=
  response_struct_round_trip .linux smallResponse ⟨[0x48, 0x69], by decide⟩ (by decide +kernel) _ _

/-- Two numbers that stand in a request are unpacked on the build of 32 bits only. On the wide
builds the second field overruns the struct it is read into. -/
theorem cRequestIndexUnpack_facing (P : Platform) (d1 d2 : Int32) (req : CRequestBuffer)
    (pre post : List UInt8) (old : CRequestIndex)
    (h : Facing req pre (typedImages P [.dword d1.toUInt32, .dword d2.toUInt32]) post) :
    (cRequestIndexUnpack P old req = none ↔ P ≠ .windows) ∧
    ∀ message req', cRequestIndexUnpack P old req = some (message, req') →
      int32At message offsetD1 = d1 ∧ int32At message offsetD2 = d2 ∧
      req'.head.toNat = pre.length + 2 * P.sizeofULong32 ∧ req'.length = req.length := by
  obtain ⟨k, hk, hk4⟩ := sizeofULong32_eq P
  obtain ⟨r₁, req₁, h₁, hr₁, hl₁, hf₁⟩ := readDword_facing P d1.toUInt32 req pre
    ((TypedValue.dword d2.toUInt32).call.encode P ++ []) post h
  obtain ⟨r₂, req₂, h₂, hr₂, hl₂, hf₂⟩ := readDword_facing P d2.toUInt32 req₁ _ [] post hf₁
  obtain ⟨m₁, hm₁, hd₁, -⟩ := readDwordInto_stored P offsetD1 old req req₁ r₁ _ h₁ hr₁
    (show 2 + P.sizeofULong32 ≤ 10 by omega)
  have hunpack : cRequestIndexUnpack P old req = readDwordInto P offsetD2 m₁ req₁ := by
    rw [cRequestIndexUnpack, hm₁]
    rfl
  rw [hunpack]
  cases P with
  | linux | linuxDeclared =>
    have hover := readDwordInto_overruns _ offsetD2 m₁ req₁ req₂ r₂ _ h₂ hr₂ (by decide)
    rw [hover]
    exact ⟨iff_of_true rfl (by decide), fun message req' h => absurd h (by simp)⟩
  | windows =>
    obtain ⟨m₂, hm₂, hd₂, hkeep⟩ := readDwordInto_stored .windows offsetD2 m₁ req₁ req₂ r₂ _ h₂
      hr₂ (by decide)
    rw [hm₂]
    refine ⟨iff_of_false (by simp) (by decide), fun message req' h => ?_⟩
    obtain ⟨rfl, rfl⟩ := Prod.mk.inj (Option.some.inj h)
    refine ⟨?_, int32At_of_drop m₂ offsetD2 _ _ hd₂, ?_, hl₂.trans hl₁⟩
    · rw [hkeep offsetD1 (by decide)]
      exact int32At_of_drop m₁ offsetD1 _ _ hd₁
    · rw [hf₂.head]
      simp only [List.length_append, length_encode_dword]
      omega

/-- A struct packed as a request can be unpacked on the build of 32 bits only, and there field by
field, which uses the request up. -/
theorem request_struct_round_trip (P : Platform) (message : CRequestIndex)
    (resp₀ : CResponseBuffer) (req₀ : CRequestBuffer) : ∃ resp req,
      cRequestIndexPackup P message (cResponseBufferInit resp₀) = some resp ∧
      transfer resp (cRequestBufferInit req₀) = some req ∧
      ∀ old : CRequestIndex,
        (cRequestIndexUnpack P old req = none ↔ P ≠ .windows) ∧
        ∀ message' req', cRequestIndexUnpack P old req = some (message', req') →
          int32At message' offsetD1 = int32At message offsetD1 ∧
          int32At message' offsetD2 = int32At message offsetD2 ∧ req'.head = req'.length := by
  have hm := maxRtpMsgSize_eq
  obtain ⟨k, hk, hk4⟩ := sizeofULong32_eq P
  set numbers : List TypedValue :=
    [.dword (int32At message offsetD1).toUInt32, .dword (int32At message offsetD2).toUInt32]
  have hsize : (typedImages P numbers).length = 2 * P.sizeofULong32 := by
    rw [typedImages_cons, typedImages_cons]
    simp only [List.length_append, length_encode_dword]
    change _ + (_ + 0) = _
    omega
  obtain ⟨resp, hwrite, hl, hholds⟩ := writeAll_fits P numbers (cResponseBufferInit resp₀) []
    (holds_init resp₀) rfl (by rw [hsize, List.length_nil]; omega)
  obtain ⟨req, post, htransfer, hlen, hfacing⟩ := transfer_facing resp _ hholds hl req₀
  refine ⟨resp, req, by rw [cRequestIndexPackup_eq]; exact hwrite, htransfer, fun old => ?_⟩
  obtain ⟨hfault, hfields⟩ := cRequestIndexUnpack_facing P _ _ req [] post old hfacing
  refine ⟨hfault, fun message' req' h => ?_⟩
  obtain ⟨hd1, hd2, hhead, hlength⟩ := hfields message' req' h
  refine ⟨hd1, hd2, UInt16.toNat_inj.mp ?_⟩
  rw [hhead, hlength, hlen, List.nil_append, hsize, List.length_nil, Nat.zero_add]

end OpenDSLite
