import OpenDSLite.RequestReading

/-!
# Typed values survive the trip from a response to a request

The body of a response is what stands in its array below `length`. Placed in a cleared request
buffer it gives back the values written, for either width of `ULong32`, as long as `htonl` and
`ntohl` are the functions on 32 bits they are meant to be.
-/

namespace OpenDSLite

open ByteArea

/-- The values the five typed writers and readers are for. -/
inductive TypedValue
  | word (value : UInt16)
  | dword (value : UInt32)
  | float (value : UInt32)
  | byte (value : UInt8)
  | string (value : CString)
  deriving DecidableEq

namespace TypedValue

def call : TypedValue → WriteCall
  | word value => .word value
  | dword value => .dword value.toUInt64
  | float value => .float value
  | byte value => .byte value
  | string value => .string value

/-- The destination holds exactly the value. -/
def Delivered : TypedValue → Destination → Prop
  | word v, .word w => w = v
  | dword v, .dword w => w = v.toUInt64
  | float v, .float w => w = v
  | byte v, .byte w => w = v
  | string v, .string dst => cstringOf dst = some v
  | _, _ => False

theorem isTyped_call (v : TypedValue) : v.call.IsTyped := by
  cases v <;> trivial

theorem isTyped_of_mem_calls (vs : List TypedValue) : ∀ c ∈ vs.map call, c.IsTyped := by
  intro c hc
  obtain ⟨v, -, rfl⟩ := List.mem_map.mp hc
  exact v.isTyped_call

/-- The value is what a `ULong32` holds after it has come through `ntohl`. -/
def Carried (P : Platform) : TypedValue → Prop
  | dword value => P.assigned value = value.toUInt64
  | _ => True

theorem carried_of_declared (P : Platform) (hP : P.DeclaresHtonl) (v : TypedValue) :
    v.Carried P := by
  cases v with
  | dword v => exact assigned_of_declared P hP v
  | _ => trivial

theorem delivered_of_call (P : Platform) (v : TypedValue) (hv : v.Carried P) (d : Destination)
    (h : v.call.Delivered P d) : v.Delivered d := by
  cases v with
  | dword v =>
    cases d with
    | dword w =>
      rw [call, WriteCall.Delivered, UInt32.toUInt32_toUInt64] at h
      exact h.trans hv
    | _ => exact h
  | _ => cases d <;> exact h

theorem delivered_of_calls (P : Platform) (vs : List TypedValue) (hv : ∀ v ∈ vs, v.Carried P)
    (ds : List Destination) (h : List.Forall₂ (WriteCall.Delivered P) (vs.map call) ds) :
    List.Forall₂ Delivered vs ds := by
  induction vs generalizing ds with
  | nil => simpa using h
  | cons v vs ih =>
    obtain ⟨d, rest, hd, hrest, rfl⟩ := List.forall₂_cons_left_iff.mp h
    exact .cons (v.delivered_of_call P (hv v List.mem_cons_self) d hd)
      (ih (fun x hx => hv x (List.mem_cons_of_mem v hx)) rest hrest)

end TypedValue

/-- The body of a response placed at the start of a request buffer. -/
def transfer (resp : CResponseBuffer) (req : CRequestBuffer) : Option CRequestBuffer := do
  let body ← resp.buffer.load 0 resp.length.toNat
  let buffer ← req.buffer.store 0 body
  some { req with buffer, length := resp.length }

theorem transfer_of_holds (resp : CResponseBuffer) (body rest : List UInt8)
    (h : Holds resp (body ++ rest)) (hl : resp.length.toNat = body.length)
    (req₀ : CRequestBuffer) :
    ∃ req, transfer resp (cRequestBufferInit req₀) = some req ∧ req.length = resp.length ∧
      req.head = 0 ∧ req.buffer.Filled body := by
  obtain ⟨k, hk⟩ := h.filled
  have hload : resp.buffer.load 0 resp.length.toNat = some body := by
    rw [hl]
    exact load_append resp.buffer [] body (rest ++ List.replicate k 0) (by simp [hk])
  have hle : body.length ≤ maxRtpMsgSize := by
    have := h.length_le
    rw [List.length_append] at this
    omega
  obtain ⟨buffer, hs, hf⟩ := (filled_zeros maxRtpMsgSize).store_append body 0 (by simpa using hle)
  refine ⟨{ buffer, head := 0, length := resp.length }, ?_, rfl, rfl, by simpa using hf⟩
  rw [List.length_nil] at hs
  simp only [transfer, cRequestBufferInit, hload, hs, Option.bind_eq_bind, Option.bind_some]

theorem facing_of_filled {b : CRequestBuffer} {body : List UInt8} (h : b.buffer.Filled body)
    (hh : b.head = 0) (hl : b.length.toNat = body.length) :
    ∃ post, Facing b [] body post := by
  obtain ⟨k, hk⟩ := h
  exact ⟨List.replicate k 0, by rw [hk, List.nil_append], by rw [hh]; rfl, by simp [hl]⟩

/-- A body that consists of the images of values gives them back one by one, and the reads use up
the body. -/
theorem readAll_of_holds (P : Platform) (vs : List TypedValue) (hv : ∀ v ∈ vs, v.Carried P)
    (resp : CResponseBuffer)
    (hl : resp.length = resp.tail)
    (hh : Holds resp ((vs.map TypedValue.call).map (WriteCall.encode P)).flatten)
    (req₀ : CRequestBuffer) (ds : List Destination)
    (hd : List.Forall₂ WriteCall.Ready (vs.map TypedValue.call) ds) :
    ∃ req got ds' req', transfer resp (cRequestBufferInit req₀) = some req ∧
      readAll P ds req = some (got, ds', req') ∧ (∀ r ∈ got, 0 ≤ r) ∧
      List.Forall₂ TypedValue.Delivered vs ds' ∧ req'.head = req'.length := by
  have hlen := hl ▸ hh.tail
  obtain ⟨req, ht, hlr, hhead, hf⟩ :=
    transfer_of_holds resp _ [] (by rwa [List.append_nil]) hlen req₀
  obtain ⟨post, hfacing⟩ := facing_of_filled hf hhead (by rw [hlr, hlen])
  have hnn : ∀ c ∈ vs.map TypedValue.call, c.Nonneg :=
    fun c hc => c.nonneg_of_typed (TypedValue.isTyped_of_mem_calls vs c hc)
  obtain ⟨got, ds', head, hr, hok, hdel, hend⟩ := readAll_encodes P _ hnn ds hd req [] post hfacing
  refine ⟨req, got, ds', _, ht, hr, hok, ?_, ?_⟩
  · exact TypedValue.delivered_of_calls P vs hv ds' hdel
  · apply UInt16.toNat_inj.mp
    change head.toNat = req.length.toNat
    rw [hend, hlr, hlen, List.length_nil, Nat.zero_add]

/-- Where `htonl` and `ntohl` are declared, values written into a cleared response buffer, every
call succeeding, are read back from its body one by one, and the reads use up the body. -/
theorem typed_round_trip (P : Platform) (hP : P.DeclaresHtonl) (vs : List TypedValue)
    (resp₀ resp : CResponseBuffer) (req₀ : CRequestBuffer) (rets : List ℤ)
    (hw : writeAll P (vs.map TypedValue.call) (cResponseBufferInit resp₀) = some (rets, resp))
    (hok : ∀ r ∈ rets, 0 ≤ r) (ds : List Destination)
    (hd : List.Forall₂ WriteCall.Ready (vs.map TypedValue.call) ds) :
    ∃ req got ds' req', transfer resp (cRequestBufferInit req₀) = some req ∧
      readAll P ds req = some (got, ds', req') ∧ (∀ r ∈ got, 0 ≤ r) ∧
      List.Forall₂ TypedValue.Delivered vs ds' ∧ req'.head = req'.length := by
  obtain ⟨rets', b', hw', hh, hl, hall⟩ := writeAll_offers P _
    (TypedValue.isTyped_of_mem_calls vs) _ [] (holds_init resp₀) rfl
  obtain ⟨rfl, rfl⟩ := Prod.mk.inj (Option.some.inj (hw.symm.trans hw'))
  rw [hall hok, List.nil_append] at hh
  exact readAll_of_holds P vs (fun v _ => v.carried_of_declared P hP) resp hl hh req₀ ds hd

def mixedValues : List TypedValue := [.word 7, .dword 1, .string ⟨[0x48, 0x69], by decide⟩]

theorem typed_round_trip_mixed : ∃ resp, writeAll .linuxDeclared (mixedValues.map TypedValue.call)
      (cResponseBufferInit ⟨zeros maxRtpMsgSize, 0, 0⟩) = some ([2, 10, 13], resp) ∧
    ∃ req got ds' req', transfer resp (cRequestBufferInit ⟨zeros maxRtpMsgSize, 0, 0⟩) =
        some req ∧
      readAll .linuxDeclared ((mixedValues.map TypedValue.call).map WriteCall.room) req =
        some (got, ds', req') ∧ (∀ r ∈ got, 0 ≤ r) ∧
      List.Forall₂ TypedValue.Delivered mixedValues ds' ∧ req'.head = req'.length :=
  ⟨_, rfl, typed_round_trip .linuxDeclared (by decide) mixedValues _ _ _ [2, 10, 13] rfl
    (by decide) _ (forall₂_ready_room _)⟩

end OpenDSLite
