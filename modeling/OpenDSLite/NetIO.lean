import OpenDSLite.ServerContext

/-!
# Receiving datagrams

`recvfrom` cuts a datagram to the size of the array it is given. `DTPLink_Recv` fails on an error,
on an empty datagram and on one that leaves less than two bytes of the array free. The loop clears
its array before every call, so an accepted datagram stands there followed by zeros.
-/

namespace OpenDSLite

open ByteOrder

/-- What `recvfrom` finds. -/
inductive RecvFrom
  | error
  | data (src : IPv4Address) (payload : List UInt8)

/-- A datagram accepted by `DTPLink_Recv`. -/
structure Datagram where
  src : IPv4Address
  bytes : List UInt8
  pos : 0 < bytes.length
  fits : bytes.length + 1 < maxRtpMsgSize
  deriving DecidableEq

def dtplinkRecv : RecvFrom → Option Datagram
  | .error => none
  | .data src payload =>
      let received := payload.take maxRtpMsgSize
      if h0 : received.length = 0 then none
      else if h1 : received.length + 1 ≥ maxRtpMsgSize then none
      else some ⟨src, received, Nat.pos_of_ne_zero h0, Nat.lt_of_not_le h1⟩

theorem dtplinkRecv_data (d : Datagram) : dtplinkRecv (.data d.src d.bytes) = some d := by
  have hpos := d.pos
  have hfits := d.fits
  have ht : d.bytes.take maxRtpMsgSize = d.bytes := List.take_of_length_le (by omega)
  have h0 : ¬ d.bytes.length = 0 := by omega
  have h1 : ¬ d.bytes.length + 1 ≥ maxRtpMsgSize := by omega
  simp only [dtplinkRecv, ht, dif_neg h0, dif_neg h1]

theorem dtplinkRecv_some (src : IPv4Address) (payload : List UInt8) (d : Datagram)
    (h : dtplinkRecv (.data src payload) = some d) : d.src = src ∧ d.bytes = payload := by
  simp only [dtplinkRecv] at h
  split_ifs at h with h0 h1
  obtain rfl := Option.some.inj h
  refine ⟨rfl, List.take_of_length_le ?_⟩
  rw [List.length_take] at h1
  omega

theorem dtplinkRecv_isSome_iff (src : IPv4Address) (payload : List UInt8) :
    (dtplinkRecv (.data src payload)).isSome ↔
      0 < payload.length ∧ payload.length + 1 < maxRtpMsgSize := by
  have hm := maxRtpMsgSize_eq
  simp only [dtplinkRecv, List.length_take]
  split_ifs with h0 h1
  · simp only [Option.isSome_none, Bool.false_eq_true, false_iff]
    omega
  · simp only [Option.isSome_none, Bool.false_eq_true, false_iff]
    omega
  · simp only [Option.isSome_some, true_iff]
    omega

namespace Datagram

/-- The receive array `msg` after the call. -/
def msg (d : Datagram) : ByteArea maxRtpMsgSize :=
  ⟨d.bytes ++ List.replicate (maxRtpMsgSize - d.bytes.length) 0, by
    have := d.fits
    rw [List.length_append, List.length_replicate]
    omega⟩

def msgLen (d : Datagram) : Int16 := Int16.ofInt d.bytes.length

def respId (d : Datagram) : UInt8 := d.bytes.headD 0

theorem head?_bytes (d : Datagram) : d.bytes.head? = some d.respId := by
  obtain ⟨src, bytes, hpos, hfits⟩ := d
  cases bytes with
  | nil => exact absurd hpos (Nat.lt_irrefl 0)
  | cons b bs => rfl

/-- The pointer `msg + k`. -/
def ptr (d : Datagram) (k : ℕ) : BytePtr maxRtpMsgSize := ⟨d.msg, k⟩

end Datagram

/-- An address and a port in network order, as every handler decodes them. -/
def loadAddress (p : BytePtr maxRtpMsgSize) : Option IPv4Address := do
  let addr ← p.load 4
  let port ← (p.add 4).load 2
  some ⟨ntohs (loadUInt16 port), ntohl (loadUInt32 addr)⟩

theorem load_ptr (d : Datagram) (off k : ℕ) (h : off + k ≤ maxRtpMsgSize) :
    (d.ptr off).load k = some ((d.msg.bytes.drop off).take k) :=
  if_pos h

/-- The address standing at `msg + off`. -/
def Datagram.addressAt (d : Datagram) (off : ℕ) : IPv4Address :=
  ⟨ntohs (loadUInt16 ((d.msg.bytes.drop (off + 4)).take 2)),
    ntohl (loadUInt32 ((d.msg.bytes.drop off).take 4))⟩

theorem loadAddress_ptr (d : Datagram) (off : ℕ) (h : off + 6 ≤ maxRtpMsgSize) :
    loadAddress (d.ptr off) = some (d.addressAt off) := by
  have hp := load_ptr d (off + 4) 2 (by omega)
  simp only [loadAddress, load_ptr d off 4 (by omega)]
  change ((d.ptr (off + 4)).load 2).bind _ = _
  rw [hp]
  rfl

/-- The handlers find an address right behind the two bytes of the prefix. -/
theorem loadAddress_payload (d : Datagram) : loadAddress (d.ptr 2) = some (d.addressAt 2) :=
  loadAddress_ptr d 2 (by decide)

end OpenDSLite
