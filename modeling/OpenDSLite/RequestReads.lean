import OpenDSLite.RequestIngress

/-!
# Reading a received request

The request array is the body followed by zeros, and the longest body that is received leaves some
of them. `READ_STRING` looks for the end of a string without regard to `length`; the zeros end the
search inside the array, and of an unterminated string just the rest of the body is taken. The
terminator it counts then puts `head` one byte behind the body, where every reader refuses.
-/

namespace OpenDSLite

open ByteOrder ByteArea

def Destination.fixedSize (P : Platform) : Destination → Option ℕ
  | word _ => some 2
  | dword _ => some P.sizeofULong32
  | float _ => some 4
  | byte _ => some 1
  | string _ => none
  | raw _ _ => none

/-- A destination for one of the five typed reads; the one of a string is zero-filled and larger
than the string. -/
def Roomy (body : List UInt8) (b : CRequestBuffer) (d : Destination) : Prop :=
  match d with
  | .string value => ∃ m, value = List.replicate m 0 ∧ (b.head.toNat < b.length.toNat →
      (untilNul (body.drop b.head.toNat)).val.length < m)
  | .raw _ _ => False
  | _ => True

/-- What a read takes from the body when it is not refused. -/
def Taken (P : Platform) (body : List UInt8) (head : ℕ) (d : Destination) (b : CRequestBuffer) :
    Prop :=
  match d with
  | .string value => cstringOf value = some (untilNul (body.drop head)) ∧
      ((0 : UInt8) ∉ body.drop head → ∀ later,
        readAll P later b = some (later.map (fun _ => -1), later, b))
  | _ => True

/-- The read stays inside the array and leaves nothing but a new head, at most one byte behind the
body. It is refused exactly when too little of the body is left, and then changes nothing. -/
def ReadSafe (P : Platform) (body : List UInt8) (b : CRequestBuffer) (d : Destination) : Prop :=
  ∃ ret d' b', d.read P b = some (ret, d', b') ∧ b' = { b with head := b'.head } ∧
    b'.head.toNat ≤ b'.length.toNat + 1 ∧
    (ret = -1 ↔ b.length.toNat < b.head.toNat + (d.fixedSize P).getD 1) ∧
    (ret = -1 → d' = d ∧ b' = b) ∧ (ret ≠ -1 → Taken P body b.head.toNat d' b')

def readNext (P : Platform) (b : CRequestBuffer) (d : Destination) : Except Unit CRequestBuffer :=
  match d.read P b with
  | some r => .ok r.2.2
  | none => .error ()

/-- The request is the loaded body, read up to `head` or one byte past its end. -/
structure Reading (body : List UInt8) (b : CRequestBuffer) : Prop where
  filled : b.buffer.Filled body
  length : b.length.toNat = body.length
  head : b.head.toNat ≤ body.length + 1

theorem reading_loadedRequest (body : List UInt8) (h : body.length < maxRtpMsgSize) :
    Reading body (loadedRequest body) := by
  refine ⟨filled_holding body h.le, length_loadedRequest body h.le, ?_⟩
  unfold loadedRequest
  split_ifs with h2
  · change 2 ≤ body.length + 1
    omega
  · exact Nat.zero_le _

theorem Reading.step {body : List UInt8} {b b' : CRequestBuffer} (h : Reading body b)
    (hb' : b' = { b with head := b'.head }) (hhead : b'.head.toNat ≤ b'.length.toNat + 1) :
    Reading body b' := by
  rw [hb'] at hhead ⊢
  exact ⟨h.filled, h.length, h.length ▸ hhead⟩

theorem toNat_add_ofNat (b : CRequestBuffer) (k : ℕ)
    (h : b.head.toNat + k ≤ b.length.toNat + 1) (hl : b.length.toNat < maxRtpMsgSize) :
    (b.head + UInt16.ofNat k).toNat = b.head.toNat + k := by
  have hm := maxRtpMsgSize_eq
  rw [UInt16.toNat_add, UInt16.toNat_ofNat']
  omega

/-- A fixed-size read takes its bytes when they all lie below `length`, else nothing. -/
theorem readField_spec {α : Type} (size : ℕ) (decode : List UInt8 → α) (value : α)
    (b : CRequestBuffer) (hl : b.length.toNat < maxRtpMsgSize) :
    ∃ ret value' b', readField size decode value b = some (ret, value', b') ∧
      b' = { b with head := b'.head } ∧
      (b'.head.toNat ≤ b.head.toNat ∨ b'.head.toNat ≤ b'.length.toNat) ∧
      (ret = -1 ↔ b.length.toNat < b.head.toNat + size) ∧
      (ret = -1 → value' = value ∧ b' = b) := by
  by_cases hguard : b.head.toNat + size ≤ b.length.toNat
  · have hload : b.buffer.load b.head.toNat size =
        some ((b.buffer.bytes.drop b.head.toNat).take size) := if_pos (by omega)
    have hhead := toNat_add_ofNat b size (by omega) hl
    have hne : ¬ (((b.head + UInt16.ofNat size).toNat : ℕ) : ℤ) = -1 := by omega
    refine ⟨_, _, _, by rw [readField, if_pos hguard, hload]; rfl, rfl, Or.inr ?_,
      iff_of_false hne (by omega), fun h => absurd h hne⟩
    change (b.head + UInt16.ofNat size).toNat ≤ b.length.toNat
    omega
  · exact ⟨-1, value, b, if_neg hguard, rfl, Or.inl le_rfl, iff_of_true rfl (by omega),
      fun _ => ⟨rfl, rfl⟩⟩

/-- The string at `head` ends where the body has a NUL or is over. -/
theorem Reading.cstring {body : List UInt8} {b : CRequestBuffer} (h : Reading body b)
    (hbody : body.length < maxRtpMsgSize) (hlt : b.head.toNat < b.length.toNat) :
    b.buffer.cstring b.head.toNat = some (untilNul (body.drop b.head.toNat)) := by
  obtain ⟨k, hk⟩ := h.filled
  have hn := b.buffer.length_bytes
  have hlen := h.length
  rw [hk, List.length_append, List.length_replicate] at hn
  rw [ByteArea.cstring, hk, List.drop_append_of_le_length (by omega)]
  exact cstringOf_append_zeros_eq _ k (by omega)

theorem readString_reading {body : List UInt8} {b : CRequestBuffer} (h : Reading body b)
    (hbody : body.length < maxRtpMsgSize) (hlt : b.head.toNat < b.length.toNat) (m : ℕ)
    (hm : (untilNul (body.drop b.head.toNat)).val.length < m) :
    ∃ value' head, readString (List.replicate m 0) b =
        some (((head.toNat : ℕ) : ℤ), value', { b with head }) ∧
      cstringOf value' = some (untilNul (body.drop b.head.toNat)) ∧
      head.toNat = b.head.toNat + (untilNul (body.drop b.head.toNat)).val.length + 1 := by
  have hsrc := h.cstring hbody hlt
  have hlen := h.length
  generalize hs : untilNul (body.drop b.head.toNat) = s at hsrc hm
  have hle : s.val.length ≤ body.length - b.head.toNat := by
    rw [← hs, ← List.length_drop]
    exact length_untilNul_le _
  have hcopy : copyOver (List.replicate m 0) s.val =
      some (s.val ++ List.replicate (m - s.val.length) 0) := by
    rw [copyOver, if_pos (by rw [List.length_replicate]; omega), List.drop_replicate]
  have hcopied : cstringOf (s.val ++ List.replicate (m - s.val.length) 0) = some s :=
    cstringOf_append_zeros s _ (by omega)
  have hhead : (b.head + UInt16.ofNat s.val.length + 1).toNat =
      b.head.toNat + s.val.length + 1 := by
    have hadd := toNat_add_ofNat b (s.val.length + 1) (by omega) (by omega)
    rw [UInt16.ofNat_add, ← UInt16.add_assoc] at hadd
    exact hadd
  have hguard : b.head.toNat + 1 ≤ b.length.toNat := hlt
  refine ⟨_, _, ?_, hcopied, hhead⟩
  rw [readString, if_pos hguard, hsrc]
  simp only [Option.bind_eq_bind, Option.bind_some, hcopy, hcopied]

theorem readSafe_field {α : Type} (P : Platform) (body : List UInt8)
    (hbody : body.length < maxRtpMsgSize) (b : CRequestBuffer) (h : Reading body b) (size : ℕ)
    (decode : List UInt8 → α) (f : α → Destination) (v : α)
    (hread : (f v).read P b = (readField size decode v b).map fun r => (r.1, f r.2.1, r.2.2))
    (hsize : (f v).fixedSize P = some size)
    (htaken : ∀ v' b', Taken P body b.head.toNat (f v') b') : ReadSafe P body b (f v) := by
  have hlen := h.length
  have hbound := h.head
  obtain ⟨ret, v', b', hrun, hb', hhead, hret, hsame⟩ :=
    readField_spec size decode v b (hlen ▸ hbody)
  refine ⟨ret, f v', b', by rw [hread, hrun]; rfl, hb', ?_, by rw [hsize]; exact hret,
    fun hr => ⟨congrArg f (hsame hr).1, (hsame hr).2⟩, fun _ => htaken v' b'⟩
  rw [hb'] at hhead ⊢
  change b'.head.toNat ≤ b.head.toNat ∨ b'.head.toNat ≤ b.length.toNat at hhead
  change b'.head.toNat ≤ b.length.toNat + 1
  omega

/-- A string read of zeros is safe; behind an unterminated string everything is refused. -/
theorem readSafe_string (P : Platform) (body : List UInt8) (hbody : body.length < maxRtpMsgSize)
    (b : CRequestBuffer) (h : Reading body b) (m : ℕ) (hm : b.head.toNat < b.length.toNat →
      (untilNul (body.drop b.head.toNat)).val.length < m) :
    ReadSafe P body b (.string (List.replicate m 0)) := by
  have hlen := h.length
  by_cases hlt : b.head.toNat < b.length.toNat
  · obtain ⟨value', head, hrun, hvalue, hhead⟩ := readString_reading h hbody hlt m (hm hlt)
    have hle := length_untilNul_le (body.drop b.head.toNat)
    rw [List.length_drop] at hle
    have hne : ¬ ((head.toNat : ℕ) : ℤ) = -1 := by omega
    refine ⟨_, .string value', { b with head }, by rw [Destination.read, hrun]; rfl, rfl, ?_,
      iff_of_false hne ?_, fun hr => absurd hr hne, fun _ => ⟨hvalue, fun hnone later => ?_⟩⟩
    · change head.toNat ≤ b.length.toNat + 1
      omega
    · change ¬ b.length.toNat < b.head.toNat + 1
      omega
    · apply readAll_exhausted
      change b.length.toNat ≤ head.toNat
      rw [untilNul_of_notMem _ hnone, List.length_drop] at hhead
      omega
  · have hread := read_exhausted P (.string (List.replicate m 0)) b (by omega)
    refine ⟨-1, _, b, hread, rfl, ?_, iff_of_true rfl ?_, fun _ => ⟨rfl, rfl⟩,
      fun hr => absurd rfl hr⟩
    · rw [hlen]
      exact h.head
    · change b.length.toNat < b.head.toNat + 1
      omega

theorem readSafe (P : Platform) (body : List UInt8) (hbody : body.length < maxRtpMsgSize)
    (b : CRequestBuffer) (h : Reading body b) (d : Destination) (hd : Roomy body b d) :
    ReadSafe P body b d := by
  cases d with
  | word v => exact readSafe_field P body hbody b h 2 _ .word v rfl rfl (fun _ _ => trivial)
  | dword v =>
    exact readSafe_field P body hbody b h P.sizeofULong32 _ .dword v rfl rfl (fun _ _ => trivial)
  | float v => exact readSafe_field P body hbody b h 4 _ .float v rfl rfl (fun _ _ => trivial)
  | byte v => exact readSafe_field P body hbody b h 1 _ .byte v rfl rfl (fun _ _ => trivial)
  | raw v l => exact hd.elim
  | string v =>
    obtain ⟨m, rfl, hm⟩ := hd
    exact readSafe_string P body hbody b h m hm

theorem reading_next (P : Platform) (body : List UInt8) (hbody : body.length < maxRtpMsgSize)
    (b b' : CRequestBuffer) (d : Destination) (h : Reading body b) (hd : Roomy body b d)
    (hstep : readNext P b d = .ok b') : Reading body b' := by
  obtain ⟨ret, d', b₁, hrun, hb₁, hhead, -⟩ := readSafe P body hbody b h d hd
  rw [readNext, hrun] at hstep
  obtain rfl := Except.ok.inj hstep
  exact h.step hb₁ hhead

/-- The application is called on a received data request with its body, and any typed reads it then
makes are safe. -/
theorem request_reads_safe (P : Platform) (main : DeviceServer) (w : World) (d : Datagram)
    (hs : w.ctx.mStatus = .online) (hid : d.IsDirect ∨ d.IsRelayed)
    (hn : d.headerSize ≤ d.bytes.length) :
    (∃ later id, (outcome (dtplinkDSLoop P main w (.data d.src d.bytes))).log =
      later ++ .deviceServerMain id (loadedRequest d.body) ::
        .requestCopy d.body.length :: w.log) ∧
    d.body.length ≤ 252 ∧
    ∀ ds, PartialRun.Along (readNext P) (Roomy d.body) (loadedRequest d.body) ds →
      PartialRun.Along (readNext P) (ReadSafe P d.body) (loadedRequest d.body) ds := by
  have hfits := d.fits
  have hm := maxRtpMsgSize_eq
  have hheader : 2 ≤ d.headerSize := by
    rcases hid with hid | hid
    · exact (headerSize_direct d hid).ge
    · exact (headerSize_relayed d hid).1
  have hbody : d.body.length ≤ 252 := by
    rw [d.length_body]
    omega
  have hlt : d.body.length < maxRtpMsgSize := by omega
  obtain ⟨later, hlog, -⟩ := dataRequest_served P main w d hs hid hn
  refine ⟨⟨later, _, hlog⟩, hbody, fun ds hds => ?_⟩
  exact PartialRun.along_mono (Reading d.body) (Roomy d.body) (ReadSafe P d.body)
    (fun b e hb he => readSafe P d.body hlt b hb e he)
    (fun b e b' hb he hstep => reading_next P d.body hlt b b' e hb he hstep)
    (loadedRequest d.body) ds (reading_loadedRequest d.body hlt) hds

def unterminatedRequest : Datagram :=
  ⟨sampleAddress, [queryDataToRemoteDS, space, 0, 7, 0x68, 0x69], by decide, by decide⟩

theorem request_reads_safe_unterminated :
    PartialRun.Along (readNext .linux) (ReadSafe .linux unterminatedRequest.body)
      (loadedRequest unterminatedRequest.body)
      [.string (List.replicate 8 0), .word 0, .string (List.replicate 8 0)] :=
  (request_reads_safe .linux (fun _ _ => .done) onlineWorld unterminatedRequest rfl
    (Or.inl (Or.inl rfl)) (by decide)).2.2 _
    ⟨⟨8, rfl, fun _ => by decide +kernel⟩, fun _ _ => ⟨trivial, fun _ _ =>
      ⟨⟨8, rfl, fun _ => lt_of_le_of_lt (length_untilNul_le _) (by
        rw [List.length_drop]
        exact (Nat.sub_le _ _).trans_lt (by decide))⟩, fun _ _ => trivial⟩⟩⟩

end OpenDSLite
