import DlmsTransport.Transport.DescriptorStream

/-! The TCP listener of `tcp_server_transport.cpp` and the streams it accepts. -/

set_option autoImplicit false

namespace DlmsTransport.Transport

open Interaction Posix

structure AcceptedTcpStream where
  socket_ : NativeSocket
  readTimeout_ : TransportDuration
  writeTimeout_ : TransportDuration
  open_ : Bool
  deriving DecidableEq, Repr

/-- The constructor: the stream takes over an accepted descriptor. -/
def AcceptedTcpStream.new (socket : NativeSocket)
    (readTimeout writeTimeout : TransportDuration) : AcceptedTcpStream where
  socket_ := socket
  readTimeout_ := readTimeout
  writeTimeout_ := writeTimeout
  open_ := true

def AcceptedTcpStream.isWouldBlock (error : Errno) : Bool :=
  error == .einprogress || error == .ewouldblock || error == .eagain

def AcceptedTcpStream.members : StreamMembers AcceptedTcpStream where
  socket self := self.socket_
  isOpen self := self.open_
  readTimeout self := self.readTimeout_
  writeTimeout self := self.writeTimeout_
  release self := { self with socket_ := kInvalidSocket, open_ := false }
  isWouldBlock := isWouldBlock
  transmit := sendInt
  socket_release _ := rfl
  isOpen_release _ := rfl

def AcceptedTcpStream.open (self : AcceptedTcpStream) :
    OsProgram (TransportStatus × AcceptedTcpStream) :=
  pure (if self.open_ then .alreadyOpen else .openFailed, self)

def AcceptedTcpStream.close (self : AcceptedTcpStream) :
    OsProgram (TransportStatus × AcceptedTcpStream) :=
  members.close self

def AcceptedTcpStream.isOpen (self : AcceptedTcpStream) : Bool := self.open_

def AcceptedTcpStream.readSome (self : AcceptedTcpStream) (output : OutputBuffer) :
    OsProgram (ReadReply × AcceptedTcpStream) :=
  members.readSome self output

def AcceptedTcpStream.writeAll (self : AcceptedTcpStream) (input : InputBuffer) (budget : Nat) :
    OsProgram TransportStatus :=
  members.writeAll self input budget

def AcceptedTcpStream.invoke (self : AcceptedTcpStream) :
    StreamMethod → OsProgram (StreamReply × AcceptedTcpStream)
  | .open => Prod.map .status id <$> self.open
  | .close => Prod.map .status id <$> self.close
  | .isOpen => pure (.flag self.isOpen, self)
  | .readSome output => Prod.map .read id <$> self.readSome output
  | .writeAll input budget => (fun status => (.status status, self)) <$> self.writeAll input budget

def AcceptedTcpStream.destroy (self : AcceptedTcpStream) : OsProgram Unit := do
  let _ ← self.close
  pure ()

structure TcpServerTransportOptions where
  host : String := ""
  port : UInt16 := 0
  backlog : Int := 1
  acceptTimeout : TransportDuration := ⟨5000⟩
  readTimeout : TransportDuration := ⟨5000⟩
  writeTimeout : TransportDuration := ⟨5000⟩
  deriving DecidableEq, Repr

structure TcpServerTransport where
  options : TcpServerTransportOptions
  socket_ : NativeSocket
  open_ : Bool
  localPort_ : UInt16
  deriving DecidableEq, Repr

def TcpServerTransport.new (options : TcpServerTransportOptions) : TcpServerTransport where
  options
  socket_ := kInvalidSocket
  open_ := false
  localPort_ := 0

def TcpServerTransport.hints : Hints where
  family := .unspec
  socktype := .stream
  protocol := .tcp
  passive := true

def socketLocalPort (socket : NativeSocket) : OsProgram UInt16 := do
  let answer ← os (.getsockname socket)
  match answer with
  | some (.inet, port) => pure port
  | some (.inet6, port) => pure port
  | _ => pure 0

/-- The address loop of `Open`. -/
def TcpServerTransport.tryAddresses (self : TcpServerTransport) :
    List AddrInfo → OsProgram (TransportStatus × TcpServerTransport)
  | [] => pure (.openFailed, self)
  | address :: rest => do
      let answer ← os (.socket address.family address.socktype address.protocol)
      let candidate := nativeSocket answer
      if candidate = kInvalidSocket then
        tryAddresses self rest
      else do
        os (.setReuseAddress candidate)
        let nonBlocking ← setNonBlocking candidate
        if nonBlocking = false then do
          closeNativeSocket candidate
          tryAddresses self rest
        else do
          let bound ← os (.bind candidate address.addr)
          if bound ≠ 0 then do
            closeNativeSocket candidate
            tryAddresses self rest
          else do
            let listening ← os (.listen candidate self.options.backlog)
            if listening ≠ 0 then do
              closeNativeSocket candidate
              tryAddresses self rest
            else do
              let port ← socketLocalPort candidate
              pure (.ok, { self with socket_ := candidate, open_ := true, localPort_ := port })

def TcpServerTransport.open (self : TcpServerTransport) :
    OsProgram (TransportStatus × TcpServerTransport) :=
  if self.open_ then
    pure (.alreadyOpen, self)
  else if self.options.backlog ≤ 0 then
    pure (.invalidArgument, self)
  else do
    let host := if self.options.host.isEmpty then none else some self.options.host
    let resolved ← os (.getaddrinfo host (toString self.options.port.toNat) hints)
    match resolved with
    | none => pure (.openFailed, self)
    | some addresses => do
        let outcome ← self.tryAddresses addresses.entries
        os (.freeaddrinfo addresses)
        pure outcome

def TcpServerTransport.close (self : TcpServerTransport) :
    OsProgram (TransportStatus × TcpServerTransport) := do
  let released : TcpServerTransport :=
    { self with socket_ := kInvalidSocket, open_ := false, localPort_ := 0 }
  if self.socket_ ≠ kInvalidSocket then
    closeNativeSocket self.socket_
    pure (.ok, released)
  else
    pure (.ok, released)

def TcpServerTransport.isOpen (self : TcpServerTransport) : Bool := self.open_

def TcpServerTransport.localPort (self : TcpServerTransport) : UInt16 := self.localPort_

def TcpServerTransport.destroy (self : TcpServerTransport) : OsProgram Unit := do
  let _ ← self.close
  pure ()

/-- `reset` of a pointer to a stream, given as the destructor of the stream that it owns. -/
def resetConnection : Option (OsProgram Unit) → OsProgram Unit
  | some destroy => destroy
  | none => pure ()

/-- `Accept` on a pointer that may still own an earlier connection, of whatever class. A missing
status is the exception of a failed allocation leaving the function. -/
def TcpServerTransport.accept (self : TcpServerTransport)
    (connection : Option (OsProgram Unit)) :
    OsProgram (Option TransportStatus × Option AcceptedTcpStream) := do
  resetConnection connection
  if self.open_ = false then
    pure (some .notOpen, none)
  else do
    let listener := self.socket_
    let waited ← waitForDescriptor listener true self.options.acceptTimeout
    if waited = .timeout then
      pure (some .timeout, none)
    else if waited ≠ .ok ∨ self.open_ = false then
      pure (some .openFailed, none)
    else do
      let answer ← os (.accept listener)
      match answer with
      | .error error =>
          pure (some (if AcceptedTcpStream.isWouldBlock error then .wouldBlock
            else .openFailed), none)
      | .ok fd => do
          let client : NativeSocket := fd
          let nonBlocking ← setNonBlocking client
          if nonBlocking = false then do
            closeNativeSocket client
            pure (some .openFailed, none)
          else do
            let allocated ← os .allocate
            if allocated then
              pure (some .ok, some (.new client self.options.readTimeout
                self.options.writeTimeout))
            else
              pure (none, none)

/-- `Accept` first destroys the connection that the pointer still owns. -/
theorem TcpServerTransport.accept_eq (self : TcpServerTransport)
    (connection : Option (OsProgram Unit)) :
    self.accept connection = (do
      resetConnection connection
      self.accept none) := rfl

end DlmsTransport.Transport
