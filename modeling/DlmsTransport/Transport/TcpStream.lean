import DlmsTransport.Transport.DescriptorStream
import DlmsTransport.Interaction.Session

/-! The TCP client stream of `tcp_stream_transport.cpp`. -/

set_option autoImplicit false

namespace DlmsTransport.Transport

open Interaction Posix

structure TcpStreamTransportOptions where
  host : String := ""
  port : UInt16 := 0
  connectTimeout : TransportDuration := ⟨5000⟩
  readTimeout : TransportDuration := ⟨5000⟩
  writeTimeout : TransportDuration := ⟨5000⟩
  deriving DecidableEq, Repr

structure TcpStreamTransport where
  options : TcpStreamTransportOptions
  socket_ : NativeSocket
  open_ : Bool
  deriving DecidableEq, Repr

def TcpStreamTransport.new (options : TcpStreamTransportOptions) : TcpStreamTransport where
  options
  socket_ := kInvalidSocket
  open_ := false

def TcpStreamTransport.isWouldBlock (error : Errno) : Bool :=
  error == .einprogress || error == .ewouldblock || error == .eagain

def TcpStreamTransport.checkConnected (socket : NativeSocket) : OsProgram TransportStatus := do
  let answer ← os (.socketError socket)
  match answer with
  | none => pure .openFailed
  | some error => pure (if error = 0 then .ok else .openFailed)

/-- How one iteration of the address loop ends: `continue` with the status left
as it was, `continue` with a new final status, or `break` with a connection. -/
inductive TcpStreamTransport.Attempt where
  | skipped
  | failed (status : TransportStatus)
  | connected (candidate : NativeSocket)
  deriving DecidableEq, Repr

/-- The rest of an iteration once the connection is in progress. -/
def TcpStreamTransport.awaitConnection (options : TcpStreamTransportOptions)
    (candidate : NativeSocket) : OsProgram Attempt := do
  let waited ← waitForDescriptor candidate false options.connectTimeout
  let finalStatus ← if waited = .ok then checkConnected candidate else pure waited
  if finalStatus = .ok then
    pure (.connected candidate)
  else do
    closeNativeSocket candidate
    pure (.failed finalStatus)

/-- The body of the address loop of `Open`. -/
def TcpStreamTransport.tryCandidate (options : TcpStreamTransportOptions) (address : AddrInfo) :
    OsProgram Attempt := do
  let answer ← os (.socket address.family address.socktype address.protocol)
  let candidate := nativeSocket answer
  if candidate = kInvalidSocket then
    pure .skipped
  else do
    let nonBlocking ← setNonBlocking candidate
    if nonBlocking = false then do
      closeNativeSocket candidate
      pure .skipped
    else do
      let connectResult ← os (.connect candidate address.addr)
      match connectResult with
      | .ok _ => pure (.connected candidate)
      | .error error =>
          if isWouldBlock error = false then do
            closeNativeSocket candidate
            pure .skipped
          else
            awaitConnection options candidate

/-- The address loop of `Open`, with the final status carried from the
candidates before. -/
def TcpStreamTransport.tryAddresses (self : TcpStreamTransport) (finalStatus : TransportStatus) :
    List AddrInfo → OsProgram (TransportStatus × TcpStreamTransport)
  | [] => pure (finalStatus, self)
  | address :: rest => do
      let attempt ← tryCandidate self.options address
      match attempt with
      | .skipped => tryAddresses self finalStatus rest
      | .failed status => tryAddresses self status rest
      | .connected candidate => pure (.ok, { self with socket_ := candidate, open_ := true })

def TcpStreamTransport.hints : Hints where
  family := .unspec
  socktype := .stream
  protocol := .tcp
  passive := false

def TcpStreamTransport.open (self : TcpStreamTransport) :
    OsProgram (TransportStatus × TcpStreamTransport) :=
  if self.open_ then
    pure (.alreadyOpen, self)
  else if self.options.host.isEmpty || self.options.port == 0 then
    pure (.invalidArgument, self)
  else do
    let resolved ← os (.getaddrinfo (some self.options.host)
      (toString self.options.port.toNat) hints)
    match resolved with
    | none => pure (.openFailed, self)
    | some addresses => do
        let outcome ← tryAddresses self .openFailed addresses.entries
        os (.freeaddrinfo addresses)
        pure outcome

def TcpStreamTransport.connectTrace (options : TcpStreamTransportOptions) (identity : Nat)
    (address : AddrInfo) (fd : Nat) : OsTrace :=
  [⟨.getaddrinfo (some options.host) (toString options.port.toNat) hints,
      some ⟨identity, [address]⟩⟩,
    ⟨.socket address.family address.socktype address.protocol, some fd⟩,
    ⟨.fcntlGetFlags fd, (0 : Int)⟩, ⟨.fcntlSetNonBlock fd 0, (0 : Int)⟩,
    ⟨.connect fd address.addr, .ok ()⟩, ⟨.freeaddrinfo ⟨identity, [address]⟩, ()⟩]

theorem TcpStreamTransport.open_connects {options : TcpStreamTransportOptions}
    (valid : (options.host.isEmpty || options.port == 0) = false) (identity : Nat)
    (address : AddrInfo) (fd : Nat) :
    (new options).open.Runs (connectTrace options identity address fd)
      (.ok, { options, socket_ := fd, open_ := true }) := by
  unfold TcpStreamTransport.open
  rw [if_neg (by simp [new]), if_neg (by simp [new, valid])]
  exact .call (.call (.call (.call (.call (.call .refl)))))

def TcpStreamTransport.members : StreamMembers TcpStreamTransport where
  socket self := self.socket_
  isOpen self := self.open_
  readTimeout self := self.options.readTimeout
  writeTimeout self := self.options.writeTimeout
  release self := { self with socket_ := kInvalidSocket, open_ := false }
  isWouldBlock := isWouldBlock
  transmit := sendInt
  socket_release _ := rfl
  isOpen_release _ := rfl

def TcpStreamTransport.close (self : TcpStreamTransport) :
    OsProgram (TransportStatus × TcpStreamTransport) :=
  members.close self

def TcpStreamTransport.destroy (self : TcpStreamTransport) : OsProgram Unit := do
  let _ ← self.close
  pure ()

def TcpStreamTransport.isOpen (self : TcpStreamTransport) : Bool := self.open_

def TcpStreamTransport.readSome (self : TcpStreamTransport) (output : OutputBuffer) :
    OsProgram (ReadReply × TcpStreamTransport) :=
  members.readSome self output

def TcpStreamTransport.writeAll (self : TcpStreamTransport) (input : InputBuffer) (budget : Nat) :
    OsProgram TransportStatus :=
  members.writeAll self input budget

def TcpStreamTransport.invoke (self : TcpStreamTransport) :
    StreamMethod → OsProgram (StreamReply × TcpStreamTransport)
  | .open => Prod.map .status id <$> self.open
  | .close => Prod.map .status id <$> self.close
  | .isOpen => pure (.flag self.isOpen, self)
  | .readSome output => Prod.map .read id <$> self.readSome output
  | .writeAll input budget => (fun status => (.status status, self)) <$> self.writeAll input budget

abbrev TcpInvocation :=
  Invocation TcpStreamTransport StreamMethod OsCall OsCall.Answer StreamReply

def OpensConnection (invocation : TcpInvocation) : Prop :=
  invocation.method = .open ∧ invocation.reply = .status .ok

def meterOptions : TcpStreamTransportOptions where
  host := "meter"
  port := 4059

def meterAddress : AddrInfo := ⟨.inet, .stream, .tcp, [127, 0, 0, 1]⟩

def meterStream : TcpStreamTransport := ⟨meterOptions, 3, true⟩

theorem meterOptions_valid : (meterOptions.host.isEmpty || meterOptions.port == 0) = false := by
  decide

def meterOpen : TcpInvocation where
  before := .new meterOptions
  method := .open
  trace := TcpStreamTransport.connectTrace meterOptions 0 meterAddress 3
  reply := .status .ok
  after := meterStream

theorem meterOpen_runs :
    (meterOpen.before.invoke .open).Runs meterOpen.trace (.status .ok, meterStream) :=
  Program.runs_map_iff.mpr
    ⟨_, TcpStreamTransport.open_connects meterOptions_valid 0 meterAddress 3, rfl⟩

end DlmsTransport.Transport
