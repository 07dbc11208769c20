import DlmsTransport.Transport.DescriptorStream

/-! The POSIX half of `serial_transport.cpp`. -/

set_option autoImplicit false

namespace DlmsTransport.Transport

open Interaction Posix

inductive SerialParity where
  | none
  | even
  | odd
  deriving DecidableEq, Repr

inductive SerialStopBits where
  | one
  | two
  deriving DecidableEq, Repr

structure SerialTransportOptions where
  deviceName : String := ""
  baudRate : UInt32 := 9600
  dataBits : UInt8 := 8
  parity : SerialParity := .none
  stopBits : SerialStopBits := .one
  readTimeout : TransportDuration := ⟨5000⟩
  writeTimeout : TransportDuration := ⟨5000⟩
  deriving DecidableEq, Repr

def SerialTransportOptions.areValid (options : SerialTransportOptions) : Bool :=
  !options.deviceName.isEmpty && options.baudRate != 0 &&
    options.dataBits ≥ 5 && options.dataBits ≤ 8

structure SerialTransport where
  options : SerialTransportOptions
  handle_ : NativeSocket
  open_ : Bool
  deriving DecidableEq, Repr

def SerialTransport.new (options : SerialTransportOptions) : SerialTransport where
  options
  handle_ := kInvalidSocket
  open_ := false

/-- The `errno` test of `NativeRead` and `NativeWriteAll`. -/
def SerialTransport.isWouldBlock (error : Errno) : Bool :=
  error == .eagain || error == .ewouldblock

def Transferred.ofSize {length : Nat} : Except Errno (Fin (length + 1)) → Transferred
  | .ok accepted => ⟨accepted.val, none⟩
  | .error error => ⟨-1, some error⟩

/-- `write`, whose count and result stay 64 bits wide. -/
def writeNative (handle : NativeSocket) (slice : List UInt8) : OsProgram Transferred := do
  let answer ← os (.write handle slice slice.length)
  pure (.ofSize answer)

theorem writeNative_eq (handle : NativeSocket) (slice : List UInt8) :
    writeNative handle slice =
      .call (.write handle slice slice.length) fun answer => .done (.ofSize answer) := rfl

def SerialTransport.members : StreamMembers SerialTransport where
  socket self := self.handle_
  isOpen self := self.open_
  readTimeout self := self.options.readTimeout
  writeTimeout self := self.options.writeTimeout
  release self := { self with handle_ := kInvalidSocket, open_ := false }
  isWouldBlock := isWouldBlock
  transmit := writeNative
  socket_release _ := rfl
  isOpen_release _ := rfl

def SerialTransport.open (self : SerialTransport) :
    OsProgram (TransportStatus × SerialTransport) :=
  if self.open_ then
    pure (.alreadyOpen, self)
  else if self.options.areValid = false then
    pure (.invalidArgument, self)
  else do
    let answer ← os (.openDevice self.options.deviceName)
    let handle := nativeSocket answer
    if handle = kInvalidSocket then
      pure (.openFailed, self)
    else
      pure (.ok, { self with handle_ := handle, open_ := true })

def SerialTransport.close (self : SerialTransport) :
    OsProgram (TransportStatus × SerialTransport) :=
  members.close self

def SerialTransport.isOpen (self : SerialTransport) : Bool := self.open_

def nativeRead (handle : NativeSocket) (outputSize : Nat) (timeout : TransportDuration) :
    OsProgram ReadReply := do
  let waited ← waitForDescriptor handle true timeout
  if waited ≠ .ok then
    pure (.empty waited)
  else do
    let answer ← os (.read handle outputSize)
    match answer with
    | .ok bytes => pure ⟨.ok, bytes.val.length, bytes.val⟩
    | .error error =>
        pure (.empty (if SerialTransport.isWouldBlock error then .wouldBlock else .readFailed))

def SerialTransport.readSome (self : SerialTransport) (output : OutputBuffer) :
    OsProgram (ReadReply × SerialTransport) :=
  if self.open_ = false then
    pure (.empty .notOpen, self)
  else if output.invalid then
    pure (.empty .invalidArgument, self)
  else if output.size = 0 then
    pure (.empty .ok, self)
  else do
    let reply ← nativeRead self.handle_ output.size self.options.readTimeout
    pure (reply, self)

def nativeWriteAll (handle : NativeSocket) (input : List UInt8) (timeout : TransportDuration)
    (budget : Nat) : OsProgram TransportStatus :=
  writeLoop handle timeout (writeNative handle) SerialTransport.isWouldBlock input budget 0

/-- Unlike the TCP classes it returns `Ok` for an empty input before the loop. -/
def SerialTransport.writeAll (self : SerialTransport) (input : InputBuffer) (budget : Nat) :
    OsProgram TransportStatus :=
  if self.open_ = false then
    pure .notOpen
  else if input.invalid then
    pure .invalidArgument
  else if input.size = 0 then
    pure .ok
  else
    nativeWriteAll self.handle_ input.data self.options.writeTimeout budget

def SerialTransport.invoke (self : SerialTransport) :
    StreamMethod → OsProgram (StreamReply × SerialTransport)
  | .open => Prod.map .status id <$> self.open
  | .close => Prod.map .status id <$> self.close
  | .isOpen => pure (.flag self.isOpen, self)
  | .readSome output => Prod.map .read id <$> self.readSome output
  | .writeAll input budget => (fun status => (.status status, self)) <$> self.writeAll input budget

end DlmsTransport.Transport
