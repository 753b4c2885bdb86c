import OpenDSLite.Probing

/-!
# Initialisation

`DTPLink_DSInit` takes the device name and the name of the DNS server, either of which may be a
null pointer, resolves the server and opens the two endpoints. An `Environment` says how the host
answers.
-/

namespace OpenDSLite

structure Environment where
  initNetwork : Bool
  /-- The address in network order, or `none` when there is no host entry. -/
  gethostbyname : CString → Option UInt32
  socket : UInt16 → UInt32
  bind : UInt16 → Bool

/-- `"dns.seguesoft.net"`. -/
def defaultDNS : CString :=
  ⟨[100, 110, 115, 46, 115, 101, 103, 117, 101, 115, 111, 102, 116, 46, 110, 101, 116], by decide⟩

/-- The name to resolve; a null pointer and an empty name stand for the default. -/
def dnsName : Option CString → CString
  | none => defaultDNS
  | some dns => if dns.val = [] then defaultDNS else dns

namespace Environment

variable (env : Environment)

def dtplinkOpenPort (port : UInt16) : UInt32 :=
  if env.socket port = invalidSocket then invalidSocket
  else if env.bind port then env.socket port
  else invalidSocket

/-- The two endpoints are static variables that keep a socket once it is open. -/
def dtplinkGetLocalEndpointInternet (w : World) : World :=
  if w.endpointInternet = invalidSocket then
    { w with endpointInternet := env.dtplinkOpenPort defaultDSRemotePort }
  else w

def dtplinkGetLocalEndpointIntranet (w : World) : World :=
  if w.endpointIntranet = invalidSocket then
    { w with endpointIntranet := env.dtplinkOpenPort defaultDSLocalPort }
  else w

/-- Reads the first address of the host entry without looking whether there is an entry. -/
def dtplinkDNSResolve (dns : CString) (w : World) : Except World UInt32 :=
  w.orFault (env.gethostbyname dns)

def initDSContext (id dns : Option CString) (w : World) : Except World (Bool × World) :=
  match id with
  | none => .ok (false, w)
  | some id =>
    if id.val = [] then .ok (false, w)
    else if id.val.length ≥ maxDSId then .ok (false, w)
    else do
      let w := { w with ctx := { w.ctx with mID := id } }
      let dnsAddr ← env.dtplinkDNSResolve (dnsName dns) w
      if dnsAddr = 0 then .ok (false, w)
      else
        let server : IPv4Address := ⟨stunPort, ntohl dnsAddr⟩
        let w := { w with ctx := { w.ctx with mDNS := server, mCS1 := server } }
        let w := env.dtplinkGetLocalEndpointInternet w
        let w := { w with ctx := { w.ctx with mRemoteFd := w.endpointInternet } }
        let w := env.dtplinkGetLocalEndpointIntranet w
        let w := { w with ctx := { w.ctx with mLocalFd := w.endpointIntranet } }
        if w.ctx.mRemoteFd = invalidSocket ∨ w.ctx.mLocalFd = invalidSocket then .ok (false, w)
        else
          let (requestInfo, responseInfo) :=
            dtplinkResetBuffers w.ctx.requestInfo w.ctx.responseInfo
          let w := { w with ctx := { w.ctx with
            requestInfo, responseInfo, mHearbeatTime := dsHeartbeatInterval } }
          .ok (true, ((w.setRunningMode .remoteDirectMode).setStatus .startup).resetAllRetryCounts)

def dtplinkDSInit (id dns : Option CString) (w : World) : Except World (Bool × World) :=
  if env.initNetwork then do
    let (ret, w) ← env.initDSContext id dns w
    if ret then .ok (true, pingCenterServer w) else .ok (false, w)
  else .ok (false, w)

end Environment

end OpenDSLite
