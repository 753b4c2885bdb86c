import OpenDSLite.TypedRoundTrip

/-!
# What becomes of a raw block

`WRITE_RAW` advances `tail` and not `length`, and the handlers send what lies below `length`. After
calls that all succeeded the body is therefore the image of the calls up to the last typed one.
The raw blocks behind it stand in the array and are not sent, so the reads that match the calls
run out of body before they reach them.
-/

namespace OpenDSLite

open ByteOrder ByteArea

/-- The state after successful calls `cs`: either the array holds their images and `length` ends
the last typed one, or a string has pushed both cursors past the end. -/
def Written (P : Platform) (cs : List WriteCall) (b : CResponseBuffer) : Prop :=
  (Holds b (cs.map (WriteCall.encode P)).flatten ∧ (∀ c ∈ cs, c.Nonneg) ∧
    ∃ sent raws, cs = sent ++ raws ∧
      b.length.toNat = (sent.map (WriteCall.encode P)).flatten.length) ∨
  (maxRtpMsgSize < b.length.toNat ∧ maxRtpMsgSize < b.tail.toNat)

theorem written_step (P : Platform) (cs : List WriteCall) (b b' : CResponseBuffer) (c : WriteCall)
    (ret : ℤ) (h : Written P cs b) (hrun : c.run P b = some (ret, b')) (hret : 0 ≤ ret) :
    Written P (cs ++ [c]) b' := by
  have hguard : c.Guard P b := by
    by_contra hn
    have he := Option.some.inj ((c.run_of_not_guard P b hn).symm.trans hrun)
    rw [← (Prod.mk.inj he).1] at hret
    omega
  rcases h with ⟨hh, hnn, sent, raws, rfl, hl⟩ | ⟨hl, ht⟩
  · by_cases hfit : c.Fits P b
    · have hnn' : ∀ x ∈ sent ++ raws ++ [c], x.Nonneg := by
        intro x hx
        rcases List.mem_append.mp hx with hx | hx
        · exact hnn x hx
        · rw [List.mem_singleton.mp hx]
          exact hfit.1
      have himage : (((sent ++ raws) ++ [c]).map (WriteCall.encode P)).flatten =
          ((sent ++ raws).map (WriteCall.encode P)).flatten ++ c.encode P := by simp
      by_cases hc : c.IsTyped
      · obtain ⟨b₁, hr, hh', hl'⟩ := c.run_typed P b _ hc hh hguard hfit
        obtain ⟨-, rfl⟩ := Prod.mk.inj (Option.some.inj (hr.symm.trans hrun))
        refine Or.inl ⟨himage ▸ hh', hnn', sent ++ raws ++ [c], [], by simp, ?_⟩
        rw [hl', hh'.tail, himage]
      · cases c with
        | raw value len hread =>
          obtain ⟨b₁, hr, hh', hl'⟩ := WriteCall.run_raw P b _ value len hread hh hguard hfit
          obtain ⟨-, rfl⟩ := Prod.mk.inj (Option.some.inj (hr.symm.trans hrun))
          exact Or.inl ⟨himage ▸ hh', hnn', sent, raws ++ [.raw value len hread], by simp,
            by rw [hl', hl]⟩
        | _ => exact absurd trivial hc
    · obtain ⟨hc, hover⟩ := c.run_overruns P b _ hh hguard hfit ret b' hrun
      have hcursors := c.length_of_run_typed P b hc hguard ret b' hrun
      exact Or.inr ⟨by rw [hcursors]; exact hover, hover⟩
  · exfalso
    by_cases hc : c.IsTyped
    · rw [c.guard_typed_iff P b hc] at hguard
      omega
    · cases c with
      | raw value len hread =>
        have hfit := WriteCall.fits_of_run_raw P b value len hread hguard ret b' hrun
        have hroom := hfit.2
        omega
      | _ => exact absurd trivial hc

theorem written_of_writeAll (P : Platform) (cs done : List WriteCall) (b b' : CResponseBuffer)
    (rets : List ℤ) (h : Written P done b) (hw : writeAll P cs b = some (rets, b'))
    (hok : ∀ r ∈ rets, 0 ≤ r) : Written P (done ++ cs) b' := by
  induction cs generalizing done b rets with
  | nil =>
    obtain ⟨-, rfl⟩ := Prod.mk.inj (Option.some.inj hw)
    rwa [List.append_nil]
  | cons c cs ih =>
    obtain ⟨ret, rest, b₁, hr, hrest, rfl⟩ := (writeAll_cons_eq_some_iff P c cs b b' rets).1 hw
    have hstep := written_step P done b b₁ c ret h hr (hok ret List.mem_cons_self)
    have hnext := ih (done ++ [c]) b₁ rest hstep hrest
      (fun r hmem => hok r (List.mem_cons_of_mem ret hmem))
    rwa [List.append_assoc, List.singleton_append] at hnext

/-- A raw write returns and, unless it is refused, the body sent right afterwards ends with the
length and the bytes of the block, and the reads that match all the writes end with a `READ_RAW`
that delivers the block and uses up the body. -/
def BlockDelivered (P : Platform) (cs : List WriteCall) (b : CResponseBuffer) (v : List UInt8)
    (n : Int16) : Prop :=
  ∃ ret b', writeRaw P v n b = some (ret, b') ∧ (0 ≤ ret →
    (∃ front, b'.buffer.bytes.take b'.length.toNat = front ++ (beBytes 2 n.toUInt16.toNat ++ v)) ∧
    ∀ (req₀ : CRequestBuffer) (ds : List Destination) (dst : List UInt8) (len₀ : Int16),
      List.Forall₂ WriteCall.Ready cs ds → v.length ≤ dst.length →
      ∃ req got ds' req₁ r dst' len req', transfer b' (cRequestBufferInit req₀) = some req ∧
        readAll P ds req = some (got, ds', req₁) ∧
        readRaw P dst len₀ req₁ = some (r, dst', len, req') ∧
        0 ≤ r ∧ len = n ∧ dst'.take v.length = v ∧ req'.head = req'.length)

theorem readAll_stops_at_length (P : Platform) (sent raws : List WriteCall)
    (hnn : ∀ c ∈ sent ++ raws, c.Nonneg) (req : CRequestBuffer)
    (hf : req.buffer.Filled (sent.map (WriteCall.encode P)).flatten) (hh : req.head = 0)
    (hl : req.length.toNat = (sent.map (WriteCall.encode P)).flatten.length)
    (ds : List Destination) (hd : List.Forall₂ WriteCall.Ready (sent ++ raws) ds) :
    ∃ got ds' req₁, readAll P ds req = some (got, ds', req₁) ∧ req₁.head = req₁.length := by
  obtain ⟨ds₁, ds₂, rfl, hd₁⟩ :
      ∃ ds₁ ds₂, ds = ds₁ ++ ds₂ ∧ List.Forall₂ WriteCall.Ready sent ds₁ :=
    ⟨ds.take sent.length, ds.drop sent.length, (List.take_append_drop _ _).symm,
      by simpa using List.forall₂_take sent.length hd⟩
  obtain ⟨post, hfacing⟩ := facing_of_filled hf hh hl
  obtain ⟨rets, ds', head, hr, -, -, hend⟩ := readAll_encodes P sent
    (fun c hc => hnn c (List.mem_append_left raws hc)) ds₁ hd₁ req [] post hfacing
  have hstop : head = req.length := by
    apply UInt16.toNat_inj.mp
    rw [hend, hl, List.length_nil, Nat.zero_add]
  have hr₂ := readAll_exhausted P ds₂ { req with head } (by rw [hstop])
  refine ⟨rets ++ ds₂.map (fun _ => (-1 : ℤ)), ds' ++ ds₂, { req with head }, ?_, hstop⟩
  rw [readAll_append, hr]
  simp only [Option.bind_some, hr₂, Option.map_some]

theorem not_blockDelivered (P : Platform) (cs : List WriteCall) (b : CResponseBuffer)
    (h : Written P cs b) (v : List UInt8) (n : Int16) (hn : n.toInt = v.length)
    (hroom : b.length.toNat + v.length ≤ maxRtpMsgSize) : ¬ BlockDelivered P cs b v n := by
  rintro ⟨ret, b', hrun, hdel⟩
  rcases h with ⟨hh, hnn, sent, raws, rfl, hl⟩ | ⟨hl, -⟩
  · have hguard : (WriteCall.raw v n hn.le).Guard P b := by
      change P.toSizeT (b.length.toNat + n.toInt) ≤ maxRtpMsgSize
      rw [WriteCall.toSizeT_of_nonneg P n _ b.length.toNat_lt (by omega)]
      omega
    have hfit := WriteCall.fits_of_run_raw P b v n hn.le hguard ret b' hrun
    obtain ⟨b₁, hr, hh', hl'⟩ := WriteCall.run_raw P b _ v n hn.le hh hguard hfit
    obtain ⟨rfl, rfl⟩ := Prod.mk.inj (Option.some.inj (hr.symm.trans hrun))
    obtain ⟨-, hreads⟩ := hdel (Int.natCast_nonneg _)
    have himage : Holds b₁ ((sent.map (WriteCall.encode P)).flatten ++
        ((raws.map (WriteCall.encode P)).flatten ++ (WriteCall.raw v n hn.le).encode P)) := by
      simpa using hh'
    obtain ⟨req, ht, hlr, hhr, hf⟩ :=
      transfer_of_holds b₁ _ _ himage (by rw [hl', hl]) ⟨zeros maxRtpMsgSize, 0, 0⟩
    obtain ⟨got, ds', req₁, hra, hstop⟩ := readAll_stops_at_length P sent raws hnn req hf hhr
      (by rw [hlr, hl', hl]) _ (forall₂_ready_room _)
    obtain ⟨req', got', ds'', req₂, r, dst', len, req₃, ht', hra', hraw, hr0, -⟩ :=
      hreads _ _ (List.replicate v.length 0) 0 (forall₂_ready_room _)
        (by rw [List.length_replicate])
    obtain rfl := Option.some.inj (ht.symm.trans ht')
    have he := Prod.mk.inj (Option.some.inj (hra.symm.trans hra'))
    obtain ⟨-, rfl⟩ := Prod.mk.inj he.2
    have hguard' : ¬ req₁.head.toNat + 1 ≤ req₁.length.toNat := by
      rw [hstop]
      omega
    rw [readRaw, if_neg hguard'] at hraw
    rw [← (Prod.mk.inj (Option.some.inj hraw)).1] at hr0
    omega
  · omega

/-- After any successful calls a raw block is lost unless `WRITE_RAW` refuses it. -/
theorem blockDelivered_iff (P : Platform) (cs : List WriteCall) (resp₀ b : CResponseBuffer)
    (rets : List ℤ) (hw : writeAll P cs (cResponseBufferInit resp₀) = some (rets, b))
    (hok : ∀ r ∈ rets, 0 ≤ r) (v : List UInt8) (n : Int16) (hn : n.toInt = v.length) :
    BlockDelivered P cs b v n ↔ maxRtpMsgSize < b.length.toNat + v.length := by
  constructor
  · intro hdel
    have hinit : Written P [] (cResponseBufferInit resp₀) :=
      Or.inl ⟨holds_init resp₀, by simp, [], [], rfl, rfl⟩
    have hwritten := written_of_writeAll P cs [] _ b rets hinit hw hok
    by_contra hroom
    exact not_blockDelivered P cs b hwritten v n hn (by omega) hdel
  · intro hroom
    have hguard : ¬ P.toSizeT (b.length.toNat + n.toInt) ≤ maxRtpMsgSize := by
      rw [WriteCall.toSizeT_of_nonneg P n _ b.length.toNat_lt (by omega)]
      omega
    refine ⟨-1, b, by rw [writeRaw, if_neg hguard], fun h => ?_⟩
    omega

theorem blockDelivered_iff_behind_word : ∃ b,
    writeAll .linux [.word 7] (cResponseBufferInit ⟨zeros maxRtpMsgSize, 0, 0⟩) = some ([2], b) ∧
      (BlockDelivered .linux [.word 7] b [0x41] 1 ↔ maxRtpMsgSize < b.length.toNat + 1) :=
  ⟨_, rfl, blockDelivered_iff .linux [.word 7] _ _ [2] rfl (by decide) [0x41] 1 rfl⟩

/-- One raw byte written into an empty buffer: the call returns 0 and the byte is not sent. -/
theorem raw_byte_is_lost :
    (∃ b', writeRaw .linux [0x41] 1 (cResponseBufferInit ⟨zeros maxRtpMsgSize, 0, 0⟩) =
      some (0, b')) ∧
    ¬ BlockDelivered .linux [] (cResponseBufferInit ⟨zeros maxRtpMsgSize, 0, 0⟩) [0x41] 1 := by
  refine ⟨⟨_, rfl⟩, ?_⟩
  have hinit : Written .linux [] (cResponseBufferInit ⟨zeros maxRtpMsgSize, 0, 0⟩) :=
    Or.inl ⟨holds_init _, by simp, [], [], rfl, rfl⟩
  exact not_blockDelivered .linux [] _ hinit [0x41] 1 rfl (by decide)

end OpenDSLite
