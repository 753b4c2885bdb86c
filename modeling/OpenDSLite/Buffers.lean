import OpenDSLite.Platform

/-!
# Request and response buffers

`CRequestBuffer` is read through `head`, `CResponseBuffer` written through `tail`. Each writer
returns the new length, or `-1` when it refuses the call; `none` is a store outside the array, for
which C gives no result. Writers guard with `length` and store at `tail`.
-/

namespace OpenDSLite

open ByteOrder ByteArea

structure CResponseBuffer where
  buffer : ByteArea maxRtpMsgSize
  tail : UInt16
  length : UInt16
  deriving DecidableEq

structure CRequestBuffer where
  buffer : ByteArea maxRtpMsgSize
  head : UInt16
  length : UInt16
  deriving DecidableEq

def cRequestBufferInit (_pBuf : CRequestBuffer) : CRequestBuffer :=
  { buffer := zeros maxRtpMsgSize, head := 0, length := 0 }

def cResponseBufferInit (_pBuf : CResponseBuffer) : CResponseBuffer :=
  { buffer := zeros maxRtpMsgSize, tail := 0, length := 0 }

def dtplinkResetBuffers (pReq : CRequestBuffer) (pResp : CResponseBuffer) :
    CRequestBuffer × CResponseBuffer :=
  (cRequestBufferInit pReq, cResponseBufferInit pResp)

/-- What the five typed writers share: `size` is guarded and advanced over, `src` is stored. -/
def writeField (size : ℕ) (src : List UInt8) (b : CResponseBuffer) :
    Option (ℤ × CResponseBuffer) :=
  if b.length.toNat + size ≤ maxRtpMsgSize then do
    let buffer ← b.buffer.store b.tail.toNat src
    let tail := b.tail + UInt16.ofNat size
    some (tail.toNat, { buffer, tail, length := tail })
  else some (-1, b)

def writeWord (value : UInt16) : CResponseBuffer → Option (ℤ × CResponseBuffer) :=
  writeField 2 (leBytes 2 (htons value).toNat)

/-- `htonl` sees the low half of a wider `ULong32`. What it returns is widened again before the
whole variable is copied. -/
def writeDword (P : Platform) (value : UInt64) : CResponseBuffer → Option (ℤ × CResponseBuffer) :=
  writeField P.sizeofULong32 (leBytes P.sizeofULong32 (P.assigned (htonl value.toUInt32)).toNat)

/-- `value` is the bit pattern of the `float`, copied in host order. -/
def writeFloat (value : UInt32) : CResponseBuffer → Option (ℤ × CResponseBuffer) :=
  writeField 4 (leBytes 4 value.toNat)

def writeByte (value : UInt8) : CResponseBuffer → Option (ℤ × CResponseBuffer) :=
  writeField 1 [value]

/-- The terminator is counted but not stored. -/
def writeString (value : CString) : CResponseBuffer → Option (ℤ × CResponseBuffer) :=
  writeField (value.val.length + 1) value.val

/-- Unlike the typed writers it guards without the two length bytes and leaves `length` alone.
`value` is the readable object behind the pointer. -/
def writeRaw (P : Platform) (value : List UInt8) (len : Int16) (b : CResponseBuffer) :
    Option (ℤ × CResponseBuffer) :=
  let datalen := htons len.toUInt16
  if P.toSizeT (b.length.toNat + len.toInt) ≤ maxRtpMsgSize then do
    let buffer ← b.buffer.store b.tail.toNat (leBytes 2 datalen.toNat)
    let tail := b.tail + 2
    let size := P.toSizeT len.toInt
    let data ← takeBytes value size
    let buffer ← buffer.store tail.toNat data
    some (b.length.toNat, { buffer, tail := tail + UInt16.ofNat size, length := b.length })
  else some (-1, b)

/-- What the four fixed-size readers share; `value` is the destination before the call. -/
def readField {α : Type} (size : ℕ) (decode : List UInt8 → α) (value : α) (b : CRequestBuffer) :
    Option (ℤ × α × CRequestBuffer) :=
  if b.head.toNat + size ≤ b.length.toNat then do
    let bs ← b.buffer.load b.head.toNat size
    let head := b.head + UInt16.ofNat size
    some (head.toNat, decode bs, { b with head })
  else some (-1, value, b)

def readWord : UInt16 → CRequestBuffer → Option (ℤ × UInt16 × CRequestBuffer) :=
  readField 2 (fun bs => ntohs (loadUInt16 bs))

/-- Eight bytes are copied on the wide builds, of which `ntohl` sees the low four. What it returns
is widened again. -/
def readDword (P : Platform) : UInt64 → CRequestBuffer → Option (ℤ × UInt64 × CRequestBuffer) :=
  readField P.sizeofULong32
    (fun bs => P.assigned (ntohl (UInt64.ofNat (ofLeBytes bs)).toUInt32))

def readFloat : UInt32 → CRequestBuffer → Option (ℤ × UInt32 × CRequestBuffer) :=
  readField 4 loadUInt32

def readByte : UInt8 → CRequestBuffer → Option (ℤ × UInt8 × CRequestBuffer) :=
  readField 1 (fun bs => bs.headD 0)

/-- `strncpy` gets exactly the length of the string, so it copies no terminator, and the cursor
advances by the length found in the destination. -/
def readString (value : List UInt8) (b : CRequestBuffer) :
    Option (ℤ × List UInt8 × CRequestBuffer) :=
  if b.head.toNat + 1 ≤ b.length.toNat then do
    let src ← b.buffer.cstring b.head.toNat
    let value ← copyOver value src.val
    let copied ← cstringOf value
    let head := b.head + UInt16.ofNat copied.val.length + 1
    some (head.toNat, value, { b with head })
  else some (-1, value, b)

/-- The declared length is taken from the buffer as it stands there and is not compared with
what is left of it. -/
def readRaw (P : Platform) (value : List UInt8) (len : Int16) (b : CRequestBuffer) :
    Option (ℤ × List UInt8 × Int16 × CRequestBuffer) :=
  if b.head.toNat + 1 ≤ b.length.toNat then do
    let bs ← b.buffer.load b.head.toNat 2
    let len := (ntohs (loadUInt16 bs)).toInt16
    let head := b.head + 2
    let size := P.toSizeT len.toInt
    let data ← b.buffer.load head.toNat size
    let value ← copyOver value data
    let head := head + UInt16.ofNat size
    some (head.toNat, value, len, { b with head })
  else some (-1, value, len, b)

end OpenDSLite
