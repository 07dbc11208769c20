import DlmsTransport.Transport.DescriptorStream

/-! The datagram transport of `udp_transport.cpp`. -/

set_option autoImplicit false

namespace DlmsTransport.Transport

open Interaction Posix

structure UdpTransportOptions where
  localHost : String := "0.0.0.0"
  localPort : UInt16 := 0
  remoteHost : String := ""
  remotePort : UInt16 := 0
  receiveTimeout : TransportDuration := ⟨5000⟩
  sendTimeout : TransportDuration := ⟨5000⟩
  deriving DecidableEq, Repr

structure UdpTransport where
  options : UdpTransportOptions
  socket_ : NativeSocket
  open_ : Bool
  remoteConfigured_ : Bool
  deriving DecidableEq, Repr

def UdpTransport.new (options : UdpTransportOptions) : UdpTransport where
  options
  socket_ := kInvalidSocket
  open_ := false
  remoteConfigured_ := false

def UdpTransport.isWouldBlock (error : Errno) : Bool :=
  error == .ewouldblock || error == .eagain

/-- What a size check makes of the answer of `FIONREAD`. -/
def pendingSize : Option Int → Option Nat
  | none => none
  | some pending => if pending < 0 then none else some pending.toNat

@[simp] theorem pendingSize_natCast (size : Nat) : pendingSize (some (size : Int)) = some size := by
  simp [pendingSize]

/-- `PendingDatagramSize`; `none` is its `false`. -/
def pendingDatagramSize (socket : NativeSocket) : OsProgram (Option Nat) := do
  let answer ← os (.fionread socket)
  pure (pendingSize answer)

/-- The list is a null pointer both when `getaddrinfo` fails and when it succeeds
with no entries. -/
def resolveUdpAddress (host : String) (port : UInt16) (family : Family) (passive : Bool) :
    OsProgram (Option AddressList) := do
  let answer ← os (.getaddrinfo (if host.isEmpty then none else some host)
    (toString port.toNat) ⟨family, .dgram, .udp, passive⟩)
  match answer with
  | none => pure none
  | some addresses => pure (if addresses.entries.isEmpty then none else some addresses)

def boundLocalPort (socket : NativeSocket) : OsProgram (Option UInt16) := do
  let answer ← os (.getsockname socket)
  match answer with
  | some (.inet, port) => pure (some port)
  | some (.inet6, port) => pure (some port)
  | _ => pure none

/-- The inner loop of `Open`: bind to the first local address that accepts it. -/
def bindFirst (candidate : NativeSocket) : List AddrInfo → OsProgram Bool
  | [] => pure false
  | address :: rest => do
      let result ← os (.bind candidate address.addr)
      if result = 0 then
        pure true
      else
        bindFirst candidate rest

/-- Resolve, bind and free the local addresses of a candidate. -/
def bindLocal (options : UdpTransportOptions) (candidate : NativeSocket) (family : Family) :
    OsProgram Bool := do
  let localAddresses ← resolveUdpAddress options.localHost options.localPort family true
  match localAddresses with
  | none => pure false
  | some addresses => do
      let bound ← bindFirst candidate addresses.entries
      os (.freeaddrinfo addresses)
      pure bound

/-- The outer loop of `Open`. -/
def UdpTransport.tryAddresses (self : UdpTransport) (hasRemote : Bool) :
    List AddrInfo → OsProgram (TransportStatus × UdpTransport)
  | [] => pure (.openFailed, self)
  | address :: rest => do
      let answer ← os (.socket address.family .dgram .udp)
      let candidate := nativeSocket answer
      if candidate = kInvalidSocket then
        tryAddresses self hasRemote rest
      else do
        let nonBlocking ← setNonBlocking candidate
        if nonBlocking = false then do
          closeNativeSocket candidate
          tryAddresses self hasRemote rest
        else do
          let bound ← bindLocal self.options candidate address.family
          if bound = false then do
            closeNativeSocket candidate
            tryAddresses self hasRemote rest
          else do
            let connected ← if hasRemote then do
                let answer ← os (.connect candidate address.addr)
                pure answer.isOk
              else pure true
            if connected = false then do
              closeNativeSocket candidate
              tryAddresses self hasRemote rest
            else
              pure (.ok, { self with
                socket_ := candidate, open_ := true, remoteConfigured_ := hasRemote })

/-- `Open` walks the remote addresses when a remote endpoint is configured and
the local ones otherwise, and frees whichever list it walked. -/
def UdpTransport.open (self : UdpTransport) : OsProgram (TransportStatus × UdpTransport) :=
  if self.open_ then
    pure (.alreadyOpen, self)
  else if (self.options.remoteHost.isEmpty && self.options.remotePort != 0) ||
      (!self.options.remoteHost.isEmpty && self.options.remotePort == 0) then
    pure (.invalidArgument, self)
  else do
    let hasRemote := !self.options.remoteHost.isEmpty
    let firstAddress ← if hasRemote then
        resolveUdpAddress self.options.remoteHost self.options.remotePort .unspec false
      else
        resolveUdpAddress self.options.localHost self.options.localPort .unspec true
    match firstAddress with
    | none => pure (.openFailed, self)
    | some addresses => do
        let outcome ← self.tryAddresses hasRemote addresses.entries
        os (.freeaddrinfo addresses)
        pure outcome

def UdpTransport.close (self : UdpTransport) : OsProgram (TransportStatus × UdpTransport) := do
  let released : UdpTransport :=
    { self with socket_ := kInvalidSocket, open_ := false, remoteConfigured_ := false }
  if self.socket_ ≠ kInvalidSocket then
    closeNativeSocket self.socket_
    pure (.ok, released)
  else
    pure (.ok, released)

def UdpTransport.isOpen (self : UdpTransport) : Bool := self.open_

/-- The part of `Send` after `send` has returned. -/
def UdpTransport.concludeSend (inputSize : Nat) (sent : Transferred) :
    OsProgram TransportStatus :=
  if sent.count < 0 then do
    let error ← lastError sent.errno
    pure (if isWouldBlock error then .wouldBlock else .writeFailed)
  else if sent.count.toNat ≠ inputSize then
    pure .writeFailed
  else
    pure .ok

def UdpTransport.send (self : UdpTransport) (input : InputBuffer) : OsProgram TransportStatus :=
  if self.open_ = false then
    pure .notOpen
  else if self.remoteConfigured_ = false then
    pure .invalidArgument
  else if input.invalid then
    pure .invalidArgument
  else do
    let waited ← waitForDescriptor self.socket_ false self.options.sendTimeout
    if waited ≠ .ok then
      pure (if waited = .timeout then .timeout else .writeFailed)
    else do
      let sent ← sendInt self.socket_ input.data
      concludeSend input.size sent

/-- The part of `Receive` after `recv` has returned. -/
def UdpTransport.concludeReceive (received : Received) : OsProgram ReadReply :=
  if received.count ≥ 0 then
    pure ⟨.ok, received.count.toNat, received.bytes⟩
  else do
    let error ← lastError received.errno
    pure ⟨if isWouldBlock error then .wouldBlock else .readFailed, 0, received.bytes⟩

/-- The part of `Receive` after the size check. -/
def UdpTransport.receivePending (self : UdpTransport) (output : OutputBuffer) :
    Option Nat → OsProgram ReadReply
  | none => pure (.empty .readFailed)
  | some pending =>
      if pending > output.size then
        pure (.empty .outputBufferTooSmall)
      else do
        let received ← receiveInt self.socket_ output.size
        concludeReceive received

def UdpTransport.receive (self : UdpTransport) (output : OutputBuffer) : OsProgram ReadReply :=
  if self.open_ = false then
    pure (.empty .notOpen)
  else if output.invalid then
    pure (.empty .invalidArgument)
  else do
    let waited ← waitForDescriptor self.socket_ true self.options.receiveTimeout
    if waited ≠ .ok then
      pure (.empty waited)
    else do
      let size ← pendingDatagramSize self.socket_
      self.receivePending output size

def UdpTransport.localPort (self : UdpTransport) : OsProgram UInt16 :=
  if self.open_ = false then
    pure 0
  else do
    let port ← boundLocalPort self.socket_
    pure (port.getD 0)

def UdpTransport.invoke (self : UdpTransport) :
    DatagramMethod → OsProgram (DatagramReply × UdpTransport)
  | .open => Prod.map .status id <$> self.open
  | .close => Prod.map .status id <$> self.close
  | .isOpen => pure (.flag self.isOpen, self)
  | .send input => (fun status => (.status status, self)) <$> self.send input
  | .receive output => (fun reply => (.read reply, self)) <$> self.receive output

def UdpTransport.destroy (self : UdpTransport) : OsProgram Unit := do
  let _ ← self.close
  pure ()

/-- `LocalPort` belongs to the class and not to `IDatagramTransport`. -/
inductive UdpMethod where
  | datagram (method : DatagramMethod)
  | localPort
  deriving DecidableEq, Repr

inductive UdpReply where
  | datagram (reply : DatagramReply)
  | port (value : UInt16)
  deriving DecidableEq, Repr

def UdpTransport.operate (self : UdpTransport) : UdpMethod → OsProgram (UdpReply × UdpTransport)
  | .datagram method => Prod.map .datagram id <$> self.invoke method
  | .localPort => (fun port => (.port port, self)) <$> self.localPort

namespace UdpTransport

/-- A receive makes no call, or waits for the socket and then checks the size. -/
inductive ReceiveForm (self : UdpTransport) (output : OutputBuffer) :
    OsProgram ReadReply → Prop where
  | closed : self.open_ = false → ReceiveForm self output (.done (.empty .notOpen))
  | invalid : self.open_ = true → output.invalid = true →
      ReceiveForm self output (.done (.empty .invalidArgument))
  | waiting : self.open_ = true → output.invalid = false →
      ReceiveForm self output
        (.call (.select self.socket_ true (toTimeval self.options.receiveTimeout))
          fun (result : Int) =>
            if 0 < result then
              .call (.fionread self.socket_) fun answer =>
                self.receivePending output (pendingSize answer)
            else
              .done (.empty (waitStatus true result)))

theorem receive_form (self : UdpTransport) (output : OutputBuffer) :
    self.ReceiveForm output (self.receive output) := by
  unfold receive
  split
  · next closed => exact .closed closed
  · next opened =>
    rw [Bool.not_eq_false] at opened
    split
    · next invalid => exact .invalid opened invalid
    · next valid =>
      rw [Bool.not_eq_true] at valid
      simp only [waitForDescriptor_bind, ne_eq, waitStatus_eq_ok_iff, ite_not]
      exact .waiting opened valid

theorem concludeReceive_runs {received : Received} {trace : OsTrace}
    {reply : ReadReply} (run : (concludeReceive received).Runs trace reply)
    (settled : 0 ≤ received.count ∨ received.errno ≠ none) :
    trace = [] ∧ reply = if 0 ≤ received.count then
        ⟨.ok, received.count.toNat, received.bytes⟩
      else
        ⟨if received.errno.any isWouldBlock then .wouldBlock else .readFailed, 0,
          received.bytes⟩ := by
  unfold concludeReceive at run
  split at run
  · next counted =>
    obtain ⟨rfl, rfl⟩ := Program.runs_done_iff.mp run
    exact ⟨rfl, (if_pos counted).symm⟩
  · next failed =>
    cases reason : received.errno with
    | none => simp [reason, failed] at settled
    | some error =>
        simp only [reason, lastError, Program.pure_eq, Program.done_bind] at run
        obtain ⟨rfl, rfl⟩ := Program.runs_done_iff.mp run
        exact ⟨rfl, by rw [if_neg failed]; simp⟩

/-- A send makes no call, or waits for the socket and then sends once. -/
inductive SendForm (self : UdpTransport) (input : InputBuffer) :
    OsProgram TransportStatus → Prop where
  | closed : self.open_ = false → SendForm self input (.done .notOpen)
  | unconfigured : self.open_ = true → self.remoteConfigured_ = false →
      SendForm self input (.done .invalidArgument)
  | invalid : self.open_ = true → self.remoteConfigured_ = true → input.invalid = true →
      SendForm self input (.done .invalidArgument)
  | waiting : self.open_ = true → self.remoteConfigured_ = true → input.invalid = false →
      SendForm self input
        (.call (.select self.socket_ false (toTimeval self.options.sendTimeout))
          fun (result : Int) =>
            if 0 < result then
              .call (.send self.socket_ input.data (throughInt input.data.length)) fun answer =>
                concludeSend input.size (.ofInt answer)
            else
              .done (if result = 0 then .timeout else .writeFailed))

theorem send_form (self : UdpTransport) (input : InputBuffer) :
    self.SendForm input (self.send input) := by
  unfold send
  split
  · next closed => exact .closed closed
  · next opened =>
    rw [Bool.not_eq_false] at opened
    split
    · next unconfigured => exact .unconfigured opened unconfigured
    · next configured =>
      rw [Bool.not_eq_false] at configured
      split
      · next invalid => exact .invalid opened configured invalid
      · next valid =>
        rw [Bool.not_eq_true] at valid
        simp only [waitForDescriptor_bind, ne_eq, waitStatus_eq_ok_iff, waitStatus_eq_timeout_iff,
          ite_not]
        exact .waiting opened configured valid

section Calls

variable {allowed : OsCall → Prop}

theorem close_only (self : UdpTransport) (closes : allowed (.close self.socket_)) :
    self.close.Only allowed := by
  unfold close
  dsimp only
  split
  · exact ⟨closes, fun _ => trivial⟩
  · trivial

theorem concludeReceive_only (reads : allowed .errno) (received : Received) :
    (concludeReceive received).Only allowed := by
  unfold concludeReceive
  split
  · trivial
  · exact (lastError_only reads received.errno).bind fun _ => trivial

theorem receive_only (self : UdpTransport) (output : OutputBuffer)
    (waits : ∀ timeout, allowed (.select self.socket_ true timeout))
    (checks : allowed (.fionread self.socket_))
    (receives : ∀ length, allowed (.recv self.socket_ length)) (reads : allowed .errno) :
    (self.receive output).Only allowed := by
  have form := self.receive_form output
  generalize self.receive output = program at form
  cases form with
  | closed | invalid => trivial
  | waiting =>
      refine ⟨waits _, fun (result : Int) => ?_⟩
      dsimp only
      split
      · refine ⟨checks, fun answer => ?_⟩
        dsimp only
        cases pendingSize answer with
        | none => trivial
        | some pending =>
            rw [receivePending]
            split
            · trivial
            · exact ⟨receives _, fun answer => concludeReceive_only reads _⟩
      · trivial

theorem concludeSend_only (reads : allowed .errno) (inputSize : Nat) (sent : Transferred) :
    (concludeSend inputSize sent).Only allowed := by
  unfold concludeSend
  split
  · exact (lastError_only reads sent.errno).bind fun _ => trivial
  · split <;> trivial

theorem send_only (self : UdpTransport) (input : InputBuffer)
    (waits : ∀ timeout, allowed (.select self.socket_ false timeout))
    (sends : ∀ slice length, allowed (.send self.socket_ slice length))
    (reads : allowed .errno) : (self.send input).Only allowed := by
  have form := self.send_form input
  generalize self.send input = program at form
  cases form with
  | closed | unconfigured | invalid => trivial
  | waiting =>
      refine ⟨waits _, fun (result : Int) => ?_⟩
      dsimp only
      split
      · exact ⟨sends _ _, fun answer => concludeSend_only reads _ _⟩
      · trivial

theorem localPort_only (self : UdpTransport) (names : allowed (.getsockname self.socket_)) :
    self.localPort.Only allowed := by
  unfold localPort
  split
  · trivial
  · refine Program.Only.bind ?_ fun _ => trivial
    rw [boundLocalPort, Program.ask_bind]
    refine ⟨names, fun answer => ?_⟩
    dsimp only
    split <;> trivial

end Calls

end UdpTransport

def meterUdpOptions : UdpTransportOptions where
  remoteHost := "meter"
  remotePort := 4059

def anyAddress : AddrInfo := ⟨.inet, .dgram, .udp, [0, 0, 0, 0]⟩

def meterUdpAddress : AddrInfo := ⟨.inet, .dgram, .udp, [10, 0, 0, 7]⟩

def meterUdp : UdpTransport := ⟨meterUdpOptions, 3, true, true⟩

def meterUdpOpenTrace : OsTrace :=
  [⟨.getaddrinfo (some "meter") "4059" ⟨.unspec, .dgram, .udp, false⟩,
      some ⟨0, [meterUdpAddress]⟩⟩,
    ⟨.socket .inet .dgram .udp, some 3⟩, ⟨.fcntlGetFlags 3, (0 : Int)⟩,
    ⟨.fcntlSetNonBlock 3 0, (0 : Int)⟩,
    ⟨.getaddrinfo (some "0.0.0.0") "0" ⟨.inet, .dgram, .udp, true⟩, some ⟨1, [anyAddress]⟩⟩,
    ⟨.bind 3 [0, 0, 0, 0], (0 : Int)⟩, ⟨.freeaddrinfo ⟨1, [anyAddress]⟩, ()⟩,
    ⟨.connect 3 [10, 0, 0, 7], .ok ()⟩, ⟨.freeaddrinfo ⟨0, [meterUdpAddress]⟩, ()⟩]

theorem meterUdp_opens :
    (UdpTransport.new meterUdpOptions).open.Runs meterUdpOpenTrace (.ok, meterUdp) :=
  .call (.call (.call (.call (.call (.call (.call (.call (.call .refl))))))))

end DlmsTransport.Transport
