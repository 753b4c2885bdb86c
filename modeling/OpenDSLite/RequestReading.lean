import OpenDSLite.ResponseWriting

/-!
# Reading back what was written

A read meets the image of the matching call in the request array at `head`, inside `length`. It
then returns the new head, delivers the value and advances over exactly that image; the terminator
of a string and the declared length of raw data are part of it. A list of reads follows a list of
images in the same way.
-/

namespace OpenDSLite

open ByteOrder ByteArea

/-- The array is `pre`, then `mid` at `head`, then `post`, and `mid` lies inside `length`. -/
structure Facing (b : CRequestBuffer) (pre mid post : List UInt8) : Prop where
  bytes : b.buffer.bytes = pre ++ (mid ++ post)
  head : b.head.toNat = pre.length
  within : pre.length + mid.length ≤ b.length.toNat

theorem Facing.fits {b : CRequestBuffer} {pre mid post : List UInt8} (h : Facing b pre mid post) :
    pre.length + mid.length + post.length = maxRtpMsgSize := by
  have hn := b.buffer.length_bytes
  rw [h.bytes, List.length_append, List.length_append] at hn
  omega

theorem Facing.load_mid {b : CRequestBuffer} {pre mid post : List UInt8}
    (h : Facing b pre mid post) : b.buffer.load b.head.toNat mid.length = some mid := by
  rw [h.head]
  exact load_append b.buffer pre mid post (by rw [h.bytes, List.append_assoc])

theorem Facing.toNat_advance {b : CRequestBuffer} {pre mid post : List UInt8}
    (h : Facing b pre mid post) :
    (b.head + UInt16.ofNat mid.length).toNat = pre.length + mid.length := by
  have hf := h.fits
  have hm := maxRtpMsgSize_eq
  rw [UInt16.toNat_add, UInt16.toNat_ofNat', h.head]
  omega

theorem readField_mid {α : Type} (decode : List UInt8 → α) (value : α) (b : CRequestBuffer)
    (pre mid post : List UInt8) (h : Facing b pre mid post) :
    readField mid.length decode value b = some (((pre.length + mid.length : ℕ) : ℤ), decode mid,
      { b with head := b.head + UInt16.ofNat mid.length }) := by
  have hguard : b.head.toNat + mid.length ≤ b.length.toNat := h.head ▸ h.within
  rw [readField, if_pos hguard, h.load_mid]
  simp only [Option.bind_eq_bind, Option.bind_some, h.toNat_advance]

theorem decode_word (value : UInt16) : ntohs (loadUInt16 (beBytes 2 value.toNat)) = value := by
  rw [← leBytes_byteSwap, ← toNat_htons, loadUInt16_leBytes, ntohs_htons]

/-- Whatever stands behind the four bytes. -/
theorem decode_dword (value : UInt32) (fill : List UInt8) :
    ntohl (UInt64.ofNat (ofLeBytes (beBytes 4 value.toNat ++ fill))).toUInt32 = value := by
  have htake : (beBytes 4 value.toNat ++ fill).take 4 = leBytes 4 (htonl value).toNat := by
    rw [List.take_left' (length_beBytes 4 _), toNat_htonl, leBytes_byteSwap]
  rw [toUInt32_ofLeBytes _ (by simp), htake, loadUInt32_leBytes, ntohl_htonl]

/-- The string is copied over what the destination held, and `head` advances by the length of what
it holds afterwards. -/
theorem readString_over (s t : CString) (dst : List UInt8) (hdst : s.val.length ≤ dst.length)
    (ht : cstringOf (s.val ++ dst.drop s.val.length) = some t) (b : CRequestBuffer)
    (pre post : List UInt8) (h : Facing b pre (s.val ++ [0]) post) :
    readString dst b = some ((((b.head + UInt16.ofNat (t.val.length + 1)).toNat : ℕ) : ℤ),
      s.val ++ dst.drop s.val.length,
      { b with head := b.head + UInt16.ofNat (t.val.length + 1) }) := by
  have hw := h.within
  rw [List.length_append, List.length_singleton] at hw
  have hguard : b.head.toNat + 1 ≤ b.length.toNat := by
    rw [h.head]
    omega
  have hsrc : b.buffer.cstring b.head.toNat = some s := by
    rw [h.head]
    exact cstring_append b.buffer pre s post (by simp [h.bytes])
  have hcopy : copyOver dst s.val = some (s.val ++ dst.drop s.val.length) := if_pos hdst
  have hhead : b.head + UInt16.ofNat t.val.length + 1 =
      b.head + UInt16.ofNat (t.val.length + 1) := by
    rw [UInt16.ofNat_add, ← UInt16.add_assoc]
    rfl
  rw [readString, if_pos hguard]
  simp only [hsrc, hcopy, ht, hhead, Option.bind_eq_bind, Option.bind_some]

/-- Over zeros its length is found again in the destination. -/
theorem readString_mid (s : CString) (k : ℕ) (hk : s.val.length < k) (b : CRequestBuffer)
    (pre post : List UInt8) (h : Facing b pre (s.val ++ [0]) post) :
    readString (List.replicate k 0) b =
      some (((pre.length + (s.val ++ [0]).length : ℕ) : ℤ),
        s.val ++ List.replicate (k - s.val.length) 0,
        { b with head := b.head + UInt16.ofNat (s.val ++ [0]).length }) := by
  have hzeros : cstringOf (s.val ++ (List.replicate k 0).drop s.val.length) = some s := by
    rw [List.drop_replicate]
    exact cstringOf_append_zeros s _ (by omega)
  have hread := readString_over s s _ (by rw [List.length_replicate]; omega) hzeros b pre post h
  rw [List.drop_replicate] at hread
  rw [hread, ← h.toNat_advance, List.length_append, List.length_singleton]

theorem toInt16_toUInt16 (len : Int16) : len.toUInt16.toInt16 = len := rfl

theorem readRaw_mid (P : Platform) (len : Int16) (hnn : 0 ≤ len.toInt) (data dst : List UInt8)
    (len₀ : Int16) (hdata : data.length = len.toInt.toNat) (hdst : data.length ≤ dst.length)
    (b : CRequestBuffer) (pre post : List UInt8)
    (h : Facing b pre (beBytes 2 len.toUInt16.toNat ++ data) post) :
    readRaw P dst len₀ b =
      some (((pre.length + (beBytes 2 len.toUInt16.toNat ++ data).length : ℕ) : ℤ),
        data ++ dst.drop data.length, len,
        { b with head := b.head +
          UInt16.ofNat (beBytes 2 len.toUInt16.toNat ++ data).length }) := by
  have hm := maxRtpMsgSize_eq
  have hfits := h.fits
  have hw := h.within
  have hlen : (beBytes 2 len.toUInt16.toNat ++ data).length = 2 + data.length := by simp
  rw [hlen] at hw hfits
  have hguard : b.head.toNat + 1 ≤ b.length.toNat := by
    rw [h.head]
    omega
  have hfront : Facing b pre (beBytes 2 len.toUInt16.toNat) (data ++ post) :=
    ⟨by rw [h.bytes, List.append_assoc], h.head, by rw [length_beBytes]; omega⟩
  have hload : b.buffer.load b.head.toNat 2 = some (beBytes 2 len.toUInt16.toNat) := by
    simpa only [length_beBytes] using hfront.load_mid
  have htwo : (b.head + 2).toNat = (pre ++ beBytes 2 len.toUInt16.toNat).length := by
    rw [List.length_append, length_beBytes, UInt16.toNat_add, h.head]
    change (pre.length + 2) % 2 ^ 16 = _
    omega
  have hsize : P.toSizeT len.toInt = data.length := by
    rw [hdata]
    simpa using WriteCall.toSizeT_of_nonneg P len 0 (by norm_num) hnn
  have hrest : b.buffer.load (b.head + 2).toNat data.length = some data := by
    rw [htwo]
    exact load_append b.buffer _ data post (by rw [h.bytes]; simp only [List.append_assoc])
  have hhead : b.head + 2 + UInt16.ofNat data.length =
      b.head + UInt16.ofNat (beBytes 2 len.toUInt16.toNat ++ data).length := by
    rw [hlen, UInt16.ofNat_add, ← UInt16.add_assoc]
    rfl
  rw [readRaw, if_pos hguard]
  simp only [hload, decode_word, toInt16_toUInt16, hsize, hrest, copyOver, if_pos hdst, hhead,
    h.toNat_advance, Option.bind_eq_bind, Option.bind_some]

namespace WriteCall

/-- A destination that can take the value: of the same kind, zero-filled and large enough for a
string, large enough for raw data. -/
def Ready : WriteCall → Destination → Prop
  | word _, .word _ => True
  | dword _, .dword _ => True
  | float _, .float _ => True
  | byte _, .byte _ => True
  | string v, .string dst => ∃ k, dst = List.replicate k 0 ∧ v.val.length < k
  | raw _ len _, .raw dst _ => len.toInt.toNat ≤ dst.length
  | _, _ => False

/-- The destination holds the value; of a `ULong32` the low 32 bits are sent. -/
def Delivered (P : Platform) : WriteCall → Destination → Prop
  | word v, .word w => w = v
  | dword v, .dword w => w = P.assigned v.toUInt32
  | float v, .float w => w = v
  | byte v, .byte w => w = v
  | string v, .string dst => cstringOf dst = some v
  | raw v len _, .raw dst l => l = len ∧ dst.take len.toInt.toNat = v.take len.toInt.toNat
  | _, _ => False

theorem read_encode (P : Platform) (c : WriteCall) (hc : c.Nonneg) (d : Destination)
    (hd : c.Ready d) (b : CRequestBuffer) (pre post : List UInt8)
    (h : Facing b pre (c.encode P) post) :
    ∃ d', d.read P b = some (((pre.length + (c.encode P).length : ℕ) : ℤ), d',
      { b with head := b.head + UInt16.ofNat (c.encode P).length }) ∧ c.Delivered P d' := by
  cases c with
  | word v =>
    cases d with
    | word w =>
      have hr := readField_mid (fun bs => ntohs (loadUInt16 bs)) w b pre _ post h
      simp only [encode, length_beBytes] at hr ⊢
      exact ⟨.word _, by rw [Destination.read, readWord, hr]; rfl, decode_word v⟩
    | _ => exact hd.elim
  | dword v =>
    cases d with
    | dword w =>
      have hr := readField_mid
        (fun bs => P.assigned (ntohl (UInt64.ofNat (ofLeBytes bs)).toUInt32)) w b pre _ post h
      rw [length_encode_dword] at hr ⊢
      refine ⟨.dword _, by rw [Destination.read, readDword, hr]; rfl, ?_⟩
      exact congrArg P.assigned (decode_dword v.toUInt32 _)
    | _ => exact hd.elim
  | float v =>
    cases d with
    | float w =>
      have hr := readField_mid loadUInt32 w b pre _ post h
      simp only [encode, length_leBytes] at hr ⊢
      exact ⟨.float _, by rw [Destination.read, readFloat, hr]; rfl, loadUInt32_leBytes v⟩
    | _ => exact hd.elim
  | byte v =>
    cases d with
    | byte w =>
      have hr := readField_mid (fun bs => bs.headD 0) w b pre _ post h
      exact ⟨.byte v, by rw [Destination.read, readByte]; exact congrArg _ hr, rfl⟩
    | _ => exact hd.elim
  | string v =>
    cases d with
    | string dst =>
      obtain ⟨k, rfl, hk⟩ := hd
      have hr := readString_mid v k hk b pre post h
      exact ⟨.string _, by rw [Destination.read, hr]; rfl, cstringOf_append_zeros v _ (by omega)⟩
    | _ => exact hd.elim
  | raw v len hread =>
    cases d with
    | raw dst len₀ =>
      have hnn : 0 ≤ len.toInt := hc
      have hlen : (v.take len.toInt.toNat).length = len.toInt.toNat := by
        rw [List.length_take]
        omega
      have hr := readRaw_mid P len hnn (v.take len.toInt.toNat) dst len₀ hlen
        (by rw [hlen]; exact hd) b pre post h
      refine ⟨.raw _ _, by rw [Destination.read, hr]; rfl, rfl, ?_⟩
      rw [List.take_append_of_le_length (by omega), List.take_take, Nat.min_self]
    | _ => exact hd.elim

end WriteCall

/-- A destination for the value a call writes. -/
def WriteCall.room : WriteCall → Destination
  | word _ => .word 0
  | dword _ => .dword 0
  | float _ => .float 0
  | byte _ => .byte 0
  | string v => .string (List.replicate (v.val.length + 1) 0)
  | raw _ len _ => .raw (List.replicate len.toInt.toNat 0) 0

theorem ready_room (c : WriteCall) : c.Ready c.room := by
  cases c with
  | string v => exact ⟨v.val.length + 1, rfl, Nat.lt_succ_self _⟩
  | raw v len h => exact (List.length_replicate (n := len.toInt.toNat) (a := (0 : UInt8))).ge
  | _ => trivial

theorem forall₂_ready_room (cs : List WriteCall) :
    List.Forall₂ WriteCall.Ready cs (cs.map WriteCall.room) := by
  rw [List.forall₂_map_right_iff]
  exact List.forall₂_same.mpr (fun c _ => ready_room c)

theorem Facing.next {b : CRequestBuffer} {pre mid rest post : List UInt8}
    (h : Facing b pre (mid ++ rest) post) :
    Facing { b with head := b.head + UInt16.ofNat mid.length } (pre ++ mid) rest post := by
  have hw := h.within
  have hfront : Facing b pre mid (rest ++ post) :=
    ⟨by rw [h.bytes, List.append_assoc], h.head, by rw [List.length_append] at hw; omega⟩
  refine ⟨?_, ?_, ?_⟩
  · rw [h.bytes]
    simp only [List.append_assoc]
  · rw [hfront.toNat_advance, List.length_append]
  · rw [List.length_append] at hw ⊢
    change _ ≤ b.length.toNat
    omega

/-- Reads that match a list of images one by one succeed, deliver every value and end behind the
last image. -/
theorem readAll_encodes (P : Platform) (cs : List WriteCall) (hc : ∀ c ∈ cs, c.Nonneg)
    (ds : List Destination) (hd : List.Forall₂ WriteCall.Ready cs ds) (b : CRequestBuffer)
    (pre post : List UInt8) (h : Facing b pre (cs.map (WriteCall.encode P)).flatten post) :
    ∃ rets ds' head, readAll P ds b = some (rets, ds', { b with head }) ∧ (∀ r ∈ rets, 0 ≤ r) ∧
      List.Forall₂ (WriteCall.Delivered P) cs ds' ∧
      head.toNat = pre.length + (cs.map (WriteCall.encode P)).flatten.length := by
  induction hd generalizing b pre with
  | nil => exact ⟨[], [], b.head, rfl, by simp, .nil, h.head⟩
  | @cons c d cs ds hcd hd ih =>
    rw [List.map_cons, List.flatten_cons] at h
    have hw := h.within
    have hfront : Facing b pre (c.encode P) ((cs.map (WriteCall.encode P)).flatten ++ post) :=
      ⟨by rw [h.bytes, List.append_assoc], h.head, by rw [List.length_append] at hw; omega⟩
    obtain ⟨d', hr, hdel⟩ := c.read_encode P (hc c List.mem_cons_self) d hcd b pre _ hfront
    obtain ⟨rets, ds', head, hrest, hnn, hdels, hhead⟩ :=
      ih (fun x hx => hc x (List.mem_cons_of_mem c hx)) _ _ h.next
    refine ⟨((pre.length + (c.encode P).length : ℕ) : ℤ) :: rets, d' :: ds', head, ?_, ?_,
      .cons hdel hdels, ?_⟩
    · rw [readAll_cons_eq_some_iff]
      exact ⟨_, rets, d', ds', _, hr, hrest, rfl, rfl⟩
    · intro r hmem
      rcases List.mem_cons.mp hmem with rfl | hmem
      · exact Int.natCast_nonneg _
      · exact hnn r hmem
    · rw [hhead, List.map_cons, List.flatten_cons, List.length_append, List.length_append]
      omega

/-- Nothing is read once `head` has reached `length`. -/
theorem read_exhausted (P : Platform) (d : Destination) (b : CRequestBuffer)
    (h : b.length.toNat ≤ b.head.toNat) : d.read P b = some (-1, d, b) := by
  have hsize : ∀ k, 0 < k → ¬ b.head.toNat + k ≤ b.length.toNat := by
    intro k hk
    omega
  have hfield : ∀ {α : Type} (k : ℕ) (decode : List UInt8 → α) (v : α), 0 < k →
      readField k decode v b = some (-1, v, b) :=
    fun k decode v hk => by rw [readField, if_neg (hsize k hk)]
  cases d with
  | word v => rw [Destination.read, readWord, hfield 2 _ v (by omega)]; rfl
  | dword v =>
    rw [Destination.read, readDword, hfield _ _ v (by cases P <;> decide)]
    rfl
  | float v => rw [Destination.read, readFloat, hfield 4 _ v (by omega)]; rfl
  | byte v => rw [Destination.read, readByte, hfield 1 _ v (by omega)]; rfl
  | string v => rw [Destination.read, readString, if_neg (hsize 1 (by omega))]; rfl
  | raw v len => rw [Destination.read, readRaw, if_neg (hsize 1 (by omega))]; rfl

theorem readAll_exhausted (P : Platform) (ds : List Destination) (b : CRequestBuffer)
    (h : b.length.toNat ≤ b.head.toNat) :
    readAll P ds b = some (ds.map (fun _ => -1), ds, b) := by
  induction ds with
  | nil => rfl
  | cons d ds ih =>
    exact (readAll_cons_eq_some_iff P d ds _ b b _).2
      ⟨-1, _, d, ds, b, read_exhausted P d b h, ih, rfl, rfl⟩

end OpenDSLite
