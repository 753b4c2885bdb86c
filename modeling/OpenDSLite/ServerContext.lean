import OpenDSLite.Application

/-!
# The device server context

`CServerContext` is the only data structure of the device server. A `World` is that context with
the static variables, the local variables `DTPLink_DSLoop` keeps between two iterations, and a log
of what the library did, newest event first. Functions that may access memory outside an object
return `Except World World`; the error is the world at that access, behind which C promises
nothing.
-/

namespace OpenDSLite

structure IPv4Address where
  port : UInt16
  addr : UInt32
  deriving DecidableEq

inductive DSStatus
  | startup
  | waitCsPhase1
  | waitCsPhase2
  | waitCsPhase3
  | waitDNS
  | online
  deriving DecidableEq

inductive RunningMode
  | remoteDirectMode
  | remoteRelayMode
  | localMode
  deriving DecidableEq

structure CServerContext where
  mDNS : IPv4Address
  mCS1 : IPv4Address
  mCS2 : IPv4Address
  mIP : IPv4Address
  requestInfo : CRequestBuffer
  responseInfo : CResponseBuffer
  mID : CString
  mRunningMode : RunningMode
  mStatus : DSStatus
  mRemoteFd : UInt32
  mLocalFd : UInt32
  mHearbeatTime : UInt32
  mRecvRetryCount : UInt8
  mSendRetryCount : UInt8
  deriving DecidableEq

/-- The function a datagram is sent from. -/
inductive Sender
  | pingCenterServer
  | pingCenterServerAgain
  | pingAuxServer
  | registerDS
  | processDNSQueryRequest
  | processLocalDNSQueryRequest
  | processRemoteDataQueryRequest
  | processRelayDataQueryRequest
  deriving DecidableEq

structure Sent where
  sender : Sender
  fd : UInt32
  msg : List UInt8
  dst : IPv4Address
  deriving DecidableEq

inductive Event
  | requestCopy (size : ℕ)
  | deviceServerMain (id : Int16) (request : CRequestBuffer)
  | send (s : Sent)
  | startKeepAlive
  deriving DecidableEq

structure World where
  ctx : CServerContext
  firstPingCenterServer : Bool
  firstPingAuxServer : Bool
  endpointInternet : UInt32
  endpointIntranet : UInt32
  cs1P2 : IPv4Address
  mip1 : Option IPv4Address
  mip2 : Option IPv4Address
  log : List Event
  deriving DecidableEq

/-- What `device_server_main` does when it is called with `id`; the state the application keeps
between two calls is determined by the log. -/
abbrev DeviceServer := List Event → Int16 → Application

/-- `EQUAL_ADDR`. -/
def IPv4Address.equal (a b : IPv4Address) : Bool := a.addr == b.addr && a.port == b.port

theorem IPv4Address.equal_iff (a b : IPv4Address) : a.equal b = true ↔ a = b := by
  cases a
  cases b
  simp [IPv4Address.equal, and_comm]

def noPublicIPPort : IPv4Address := ⟨0, 0⟩

/-- `RELAY_IP_PORT` is `-1`, stored into the unsigned address and port. -/
def relayIPPort : IPv4Address := ⟨0xFFFF, 0xFFFFFFFF⟩

/-- The mode that goes with a mapped address. -/
def modeOfAddr (addr : UInt32) : RunningMode :=
  if addr = relayIPPort.addr then .remoteRelayMode
  else if addr = noPublicIPPort.addr then .localMode
  else .remoteDirectMode

/-- The world a computation ends in, be it at its end or at a bad access. -/
def outcome : Except World World → World
  | .ok w => w
  | .error w => w

@[simp] theorem ok_bind {α β ε : Type} (a : α) (f : α → Except ε β) :
    (Except.ok a >>= f) = f a := rfl

@[simp] theorem error_bind {α β ε : Type} (e : ε) (f : α → Except ε β) :
    ((Except.error e : Except ε α) >>= f) = .error e := rfl

theorem bind_eq_ok {α β ε : Type} (x : Except ε α) (f : α → Except ε β) (b : β) :
    (x >>= f) = .ok b ↔ ∃ a, x = .ok a ∧ f a = .ok b := by
  cases x with
  | error e => simp
  | ok a => simp

namespace World

def orFault {α : Type} (w : World) : Option α → Except World α
  | none => .error w
  | some a => .ok a

@[simp] theorem orFault_none {α : Type} (w : World) :
    w.orFault (none : Option α) = .error w := rfl

@[simp] theorem orFault_some {α : Type} (w : World) (a : α) : w.orFault (some a) = .ok a := rfl

theorem orFault_eq_ok {α : Type} (w : World) (x : Option α) (a : α) :
    w.orFault x = .ok a ↔ x = some a := by
  cases x <;> simp

def emit (e : Event) (w : World) : World := { w with log := e :: w.log }

/-- `DTPLink_Send`; its result is never used. -/
def dtplinkSend (sender : Sender) (msg : List UInt8) (dst : IPv4Address) (w : World) : World :=
  w.emit (.send ⟨sender, w.ctx.mRemoteFd, msg, dst⟩)

def dtplinkStartKeepAlive (w : World) : World := w.emit .startKeepAlive

def setStatus (status : DSStatus) (w : World) : World :=
  { w with ctx := { w.ctx with mStatus := status } }

def addSendRetryCount (w : World) : World :=
  { w with ctx := { w.ctx with mSendRetryCount := w.ctx.mSendRetryCount + 1 } }

def addRecvRetryCount (w : World) : World :=
  { w with ctx := { w.ctx with mRecvRetryCount := w.ctx.mRecvRetryCount + 1 } }

def resetRecvRetryCount (w : World) : World :=
  { w with ctx := { w.ctx with mRecvRetryCount := 0 } }

def resetAllRetryCounts (w : World) : World :=
  { w with ctx := { w.ctx with mRecvRetryCount := 0, mSendRetryCount := 0 } }

def setRunningMode (mode : RunningMode) (w : World) : World :=
  { w with ctx := { w.ctx with mRunningMode := mode } }

def setMappedIPAddress (ip : IPv4Address) (w : World) : World :=
  { w with ctx := { w.ctx with mIP := ip, mRunningMode := modeOfAddr ip.addr } }

end World

end OpenDSLite
