import DlmsTransport.Interaction.Pool
import DlmsTransport.Transport.Serial
import DlmsTransport.Transport.TcpStream
import DlmsTransport.Transport.Udp

/-! The C entry points of `transport_c_api.cpp` for TCP, UDP and serial handles. Pointers are
options; an out pointer that is not null carries the value behind it. -/

set_option autoImplicit false

namespace DlmsTransport.Transport

open Interaction Posix

/-- `dlms_transport_status_t`. -/
structure DlmsTransportStatus where
  value : Int
  deriving DecidableEq, Repr

namespace DlmsTransportStatus

def ok : DlmsTransportStatus := ⟨0⟩
def invalidArgument : DlmsTransportStatus := ⟨1⟩
def notOpen : DlmsTransportStatus := ⟨2⟩
def alreadyOpen : DlmsTransportStatus := ⟨3⟩
def openFailed : DlmsTransportStatus := ⟨4⟩
def readFailed : DlmsTransportStatus := ⟨5⟩
def writeFailed : DlmsTransportStatus := ⟨6⟩
def timeout : DlmsTransportStatus := ⟨7⟩
def connectionClosed : DlmsTransportStatus := ⟨8⟩
def wouldBlock : DlmsTransportStatus := ⟨9⟩
def outputBufferTooSmall : DlmsTransportStatus := ⟨10⟩
def unsupportedFeature : DlmsTransportStatus := ⟨11⟩
def internalError : DlmsTransportStatus := ⟨12⟩

end DlmsTransportStatus

/-- The number of a C++ enumerator, which is its place in the enumeration. -/
def TransportStatus.toInt : TransportStatus → Int
  | .ok => 0
  | .invalidArgument => 1
  | .notOpen => 2
  | .alreadyOpen => 3
  | .openFailed => 4
  | .readFailed => 5
  | .writeFailed => 6
  | .timeout => 7
  | .connectionClosed => 8
  | .wouldBlock => 9
  | .outputBufferTooSmall => 10
  | .unsupportedFeature => 11
  | .internalError => 12

def toCStatus (status : TransportStatus) : DlmsTransportStatus := ⟨status.toInt⟩

/-- A C enumeration can hold other numbers than those of its enumerators. -/
abbrev DlmsTransportSerialParity := Int

def dlmsTransportSerialParityNone : DlmsTransportSerialParity := 0
def dlmsTransportSerialParityEven : DlmsTransportSerialParity := 1
def dlmsTransportSerialParityOdd : DlmsTransportSerialParity := 2

abbrev DlmsTransportSerialStopBits := Int

def dlmsTransportSerialStopBitsOne : DlmsTransportSerialStopBits := 0
def dlmsTransportSerialStopBitsTwo : DlmsTransportSerialStopBits := 1

def toCppParity (parity : DlmsTransportSerialParity) : SerialParity :=
  if parity = dlmsTransportSerialParityNone then .none
  else if parity = dlmsTransportSerialParityEven then .even
  else if parity = dlmsTransportSerialParityOdd then .odd
  else .none

def toCppStopBits (stopBits : DlmsTransportSerialStopBits) : SerialStopBits :=
  if stopBits = dlmsTransportSerialStopBitsOne then .one
  else if stopBits = dlmsTransportSerialStopBitsTwo then .two
  else .one

def validParity (parity : DlmsTransportSerialParity) : Bool :=
  parity == dlmsTransportSerialParityNone || parity == dlmsTransportSerialParityEven ||
    parity == dlmsTransportSerialParityOdd

def validStopBits (stopBits : DlmsTransportSerialStopBits) : Bool :=
  stopBits == dlmsTransportSerialStopBitsOne || stopBits == dlmsTransportSerialStopBitsTwo

structure DlmsTransportTcpOptions where
  host : Option String
  port : UInt16
  connectTimeoutMs : UInt32
  readTimeoutMs : UInt32
  writeTimeoutMs : UInt32
  deriving DecidableEq, Repr

structure DlmsTransportUdpOptions where
  localHost : Option String
  localPort : UInt16
  remoteHost : Option String
  remotePort : UInt16
  receiveTimeoutMs : UInt32
  sendTimeoutMs : UInt32
  deriving DecidableEq, Repr

structure DlmsTransportSerialOptions where
  deviceName : Option String
  baudRate : UInt32
  dataBits : UInt8
  parity : DlmsTransportSerialParity
  stopBits : DlmsTransportSerialStopBits
  readTimeoutMs : UInt32
  writeTimeoutMs : UInt32
  deriving DecidableEq, Repr

/-- The object a `create` builds, and how many of its steps may allocate memory. A string
short enough to be kept in place asks for none: its step is then one that does not fail. -/
structure Construction (σ : Type) where
  object : σ
  allocations : Nat

/-- The steps that may allocate, one after the other; the first that fails throws. -/
def allocateAll : Nat → OsProgram Bool
  | 0 => pure true
  | count + 1 => do
      let allocated ← os .allocate
      if allocated then allocateAll count else pure false

/-- What a C call leaves with its caller: its result, and the values behind its out pointers.
`undefined` is the answer to a handle whose object no longer exists. -/
inductive CReply where
  | undefined
  | destroyed
  | created (status : DlmsTransportStatus) (transport : Option (Option Handle))
  | status (status : DlmsTransportStatus)
  | read (status : DlmsTransportStatus) (bytesRead : Option Nat) (output : List UInt8)
  | flag (value : Int)
  | port (value : UInt16)
  deriving DecidableEq, Repr

def CReply.status? : CReply → Option DlmsTransportStatus
  | .created answer _ | .status answer | .read answer _ _ => some answer
  | .undefined | .destroyed | .flag _ | .port _ => none

/-- A C++ member function. A missing result is an exception leaving it. -/
abbrev Operation (σ α : Type) := σ → OsProgram (Option α × σ)

def returning {σ α : Type} (operation : σ → OsProgram (α × σ)) : Operation σ α :=
  fun object => Prod.map some id <$> operation object

def observing {σ α : Type} (operation : σ → OsProgram α) : Operation σ α :=
  fun object => (fun result => (some result, object)) <$> operation object

/-- The result of a wrapped call, with its `catch (...)`. -/
def caughtStatus : Option TransportStatus → DlmsTransportStatus
  | some status => toCStatus status
  | none => .internalError

section

variable {σ α : Type}

/-- The member function on the object behind the handle, and what its caller is told. -/
def onObject (pool : Pool σ) (handle : Handle) (operation : Operation σ α)
    (reply : Option α → CReply) : OsProgram (CReply × Pool σ) :=
  match pool.object? handle with
  | none => pure (.undefined, pool)
  | some object => do
      let (outcome, after) ← operation object
      pure (reply outcome, pool.update handle (some after))

def createCall (pool : Pool σ) (construction : Option (Construction σ))
    (transport : Option (Option Handle)) : OsProgram (CReply × Pool σ) :=
  let zeroed := transport.map fun _ => none
  match construction, zeroed with
  | some construction, some _ => do
      let allocated ← allocateAll construction.allocations
      if allocated then
        pure (.created .ok (some (some pool.fresh)), pool.insert construction.object)
      else
        pure (.created .internalError zeroed, pool)
  | _, _ => pure (.created .invalidArgument zeroed, pool)

def destroyCall (pool : Pool σ) (destroy : σ → OsProgram Unit) (transport : Option Handle) :
    OsProgram (CReply × Pool σ) :=
  match transport with
  | none => pure (.destroyed, pool)
  | some handle =>
      match pool.object? handle with
      | none => pure (.undefined, pool)
      | some object => do
          destroy object
          pure (.destroyed, pool.update handle none)

def statusCall (pool : Pool σ) (operation : Operation σ TransportStatus)
    (transport : Option Handle) : OsProgram (CReply × Pool σ) :=
  match transport with
  | none => pure (.status .invalidArgument, pool)
  | some handle => onObject pool handle operation fun outcome => .status (caughtStatus outcome)

def isOpenCall (pool : Pool σ) (isOpen : σ → Bool) (transport : Option Handle) :
    OsProgram (CReply × Pool σ) :=
  match transport with
  | none => pure (.flag 0, pool)
  | some handle =>
      match pool.object? handle with
      | none => pure (.undefined, pool)
      | some object => pure (.flag (if isOpen object then 1 else 0), pool)

/-- An exception leaves the zero that was stored first. -/
def readReply (zeroed : Nat) : Option ReadReply → CReply
  | some reply => .read (toCStatus reply.status) (some reply.bytesRead) reply.output
  | none => .read .internalError (some zeroed) []

def readCall (pool : Pool σ) (operation : Operation σ ReadReply) (transport : Option Handle)
    (bytesRead : Option Nat) : OsProgram (CReply × Pool σ) :=
  let zeroed := bytesRead.map fun _ => 0
  match transport, zeroed with
  | some handle, some stored => onObject pool handle operation (readReply stored)
  | _, _ => pure (.read .invalidArgument zeroed [], pool)

end

def DlmsTransportTcpOptions.toCpp (options : DlmsTransportTcpOptions) (host : String) :
    TcpStreamTransportOptions where
  host
  port := options.port
  connectTimeout := ⟨options.connectTimeoutMs⟩
  readTimeout := ⟨options.readTimeoutMs⟩
  writeTimeout := ⟨options.writeTimeoutMs⟩

/-- The copy of the host, the handle and its copy of the options may allocate. -/
def DlmsTransportTcpOptions.construction (options : DlmsTransportTcpOptions) :
    Option (Construction TcpStreamTransport) :=
  options.host.map fun host => ⟨.new (options.toCpp host), 3⟩

def dlmsTransportTcpCreate (pool : Pool TcpStreamTransport)
    (options : Option DlmsTransportTcpOptions) (transport : Option (Option Handle)) :
    OsProgram (CReply × Pool TcpStreamTransport) :=
  createCall pool (options.bind DlmsTransportTcpOptions.construction) transport

def dlmsTransportTcpDestroy (pool : Pool TcpStreamTransport) (transport : Option Handle) :
    OsProgram (CReply × Pool TcpStreamTransport) :=
  destroyCall pool TcpStreamTransport.destroy transport

def dlmsTransportTcpOpen (pool : Pool TcpStreamTransport) (transport : Option Handle) :
    OsProgram (CReply × Pool TcpStreamTransport) :=
  statusCall pool (returning TcpStreamTransport.open) transport

def dlmsTransportTcpClose (pool : Pool TcpStreamTransport) (transport : Option Handle) :
    OsProgram (CReply × Pool TcpStreamTransport) :=
  statusCall pool (returning TcpStreamTransport.close) transport

def dlmsTransportTcpIsOpen (pool : Pool TcpStreamTransport) (transport : Option Handle) :
    OsProgram (CReply × Pool TcpStreamTransport) :=
  isOpenCall pool TcpStreamTransport.isOpen transport

def dlmsTransportTcpReadSome (pool : Pool TcpStreamTransport) (transport : Option Handle)
    (output : OutputBuffer) (bytesRead : Option Nat) :
    OsProgram (CReply × Pool TcpStreamTransport) :=
  readCall pool (returning (TcpStreamTransport.readSome · output)) transport bytesRead

def dlmsTransportTcpWriteAll (pool : Pool TcpStreamTransport) (transport : Option Handle)
    (input : InputBuffer) (budget : Nat) : OsProgram (CReply × Pool TcpStreamTransport) :=
  statusCall pool (observing (TcpStreamTransport.writeAll · input budget)) transport

/-- A host that is not given keeps its default. -/
def DlmsTransportUdpOptions.toCpp (options : DlmsTransportUdpOptions) : UdpTransportOptions where
  localHost := options.localHost.getD "0.0.0.0"
  localPort := options.localPort
  remoteHost := options.remoteHost.getD ""
  remotePort := options.remotePort
  receiveTimeout := ⟨options.receiveTimeoutMs⟩
  sendTimeout := ⟨options.sendTimeoutMs⟩

/-- The default host, the hosts that are given, the handle and its copy of two hosts may
allocate. -/
def DlmsTransportUdpOptions.construction (options : DlmsTransportUdpOptions) :
    Construction UdpTransport where
  object := .new options.toCpp
  allocations :=
    1 + options.localHost.toList.length + options.remoteHost.toList.length + 3

def dlmsTransportUdpCreate (pool : Pool UdpTransport) (options : Option DlmsTransportUdpOptions)
    (transport : Option (Option Handle)) : OsProgram (CReply × Pool UdpTransport) :=
  createCall pool (options.map DlmsTransportUdpOptions.construction) transport

def dlmsTransportUdpDestroy (pool : Pool UdpTransport) (transport : Option Handle) :
    OsProgram (CReply × Pool UdpTransport) :=
  destroyCall pool UdpTransport.destroy transport

def dlmsTransportUdpOpen (pool : Pool UdpTransport) (transport : Option Handle) :
    OsProgram (CReply × Pool UdpTransport) :=
  statusCall pool (returning UdpTransport.open) transport

def dlmsTransportUdpClose (pool : Pool UdpTransport) (transport : Option Handle) :
    OsProgram (CReply × Pool UdpTransport) :=
  statusCall pool (returning UdpTransport.close) transport

def dlmsTransportUdpIsOpen (pool : Pool UdpTransport) (transport : Option Handle) :
    OsProgram (CReply × Pool UdpTransport) :=
  isOpenCall pool UdpTransport.isOpen transport

/-- It has neither a status nor a `catch`. -/
def dlmsTransportUdpLocalPort (pool : Pool UdpTransport) (transport : Option Handle) :
    OsProgram (CReply × Pool UdpTransport) :=
  match transport with
  | none => pure (.port 0, pool)
  | some handle =>
      match pool.object? handle with
      | none => pure (.undefined, pool)
      | some object => do
          let port ← object.localPort
          pure (.port port, pool)

def dlmsTransportUdpSend (pool : Pool UdpTransport) (transport : Option Handle)
    (input : InputBuffer) : OsProgram (CReply × Pool UdpTransport) :=
  statusCall pool (observing (UdpTransport.send · input)) transport

def dlmsTransportUdpReceive (pool : Pool UdpTransport) (transport : Option Handle)
    (output : OutputBuffer) (bytesRead : Option Nat) : OsProgram (CReply × Pool UdpTransport) :=
  readCall pool (observing (UdpTransport.receive · output)) transport bytesRead

def DlmsTransportSerialOptions.toCpp (options : DlmsTransportSerialOptions)
    (deviceName : String) : SerialTransportOptions where
  deviceName
  baudRate := options.baudRate
  dataBits := options.dataBits
  parity := toCppParity options.parity
  stopBits := toCppStopBits options.stopBits
  readTimeout := ⟨options.readTimeoutMs⟩
  writeTimeout := ⟨options.writeTimeoutMs⟩

/-- The copy of the name, the handle and its copy of the options may allocate. -/
def DlmsTransportSerialOptions.construction (options : DlmsTransportSerialOptions) :
    Option (Construction SerialTransport) :=
  if validParity options.parity && validStopBits options.stopBits then
    options.deviceName.map fun deviceName => ⟨.new (options.toCpp deviceName), 3⟩
  else
    none

def SerialTransport.destroy (self : SerialTransport) : OsProgram Unit := do
  let _ ← self.close
  pure ()

def dlmsTransportSerialCreate (pool : Pool SerialTransport)
    (options : Option DlmsTransportSerialOptions) (transport : Option (Option Handle)) :
    OsProgram (CReply × Pool SerialTransport) :=
  createCall pool (options.bind DlmsTransportSerialOptions.construction) transport

def dlmsTransportSerialDestroy (pool : Pool SerialTransport) (transport : Option Handle) :
    OsProgram (CReply × Pool SerialTransport) :=
  destroyCall pool SerialTransport.destroy transport

def dlmsTransportSerialOpen (pool : Pool SerialTransport) (transport : Option Handle) :
    OsProgram (CReply × Pool SerialTransport) :=
  statusCall pool (returning SerialTransport.open) transport

def dlmsTransportSerialClose (pool : Pool SerialTransport) (transport : Option Handle) :
    OsProgram (CReply × Pool SerialTransport) :=
  statusCall pool (returning SerialTransport.close) transport

def dlmsTransportSerialIsOpen (pool : Pool SerialTransport) (transport : Option Handle) :
    OsProgram (CReply × Pool SerialTransport) :=
  isOpenCall pool SerialTransport.isOpen transport

def dlmsTransportSerialReadSome (pool : Pool SerialTransport) (transport : Option Handle)
    (output : OutputBuffer) (bytesRead : Option Nat) :
    OsProgram (CReply × Pool SerialTransport) :=
  readCall pool (returning (SerialTransport.readSome · output)) transport bytesRead

def dlmsTransportSerialWriteAll (pool : Pool SerialTransport) (transport : Option Handle)
    (input : InputBuffer) (budget : Nat) : OsProgram (CReply × Pool SerialTransport) :=
  statusCall pool (observing (SerialTransport.writeAll · input budget)) transport

/-- The calls that the three families have in common. -/
inductive HandleCall (Options : Type) where
  | create (options : Option Options) (transport : Option (Option Handle))
  | destroy (transport : Option Handle)
  | open (transport : Option Handle)
  | close (transport : Option Handle)
  | isOpen (transport : Option Handle)
  | read (transport : Option Handle) (output : OutputBuffer) (bytesRead : Option Nat)
  | write (transport : Option Handle) (input : InputBuffer) (budget : Nat)
  deriving DecidableEq, Repr

inductive CCall where
  | tcp (call : HandleCall DlmsTransportTcpOptions)
  | udp (call : HandleCall DlmsTransportUdpOptions)
  | udpLocalPort (transport : Option Handle)
  | serial (call : HandleCall DlmsTransportSerialOptions)
  deriving DecidableEq, Repr

def tcpCall (pool : Pool TcpStreamTransport) :
    HandleCall DlmsTransportTcpOptions → OsProgram (CReply × Pool TcpStreamTransport)
  | .create options transport => dlmsTransportTcpCreate pool options transport
  | .destroy transport => dlmsTransportTcpDestroy pool transport
  | .open transport => dlmsTransportTcpOpen pool transport
  | .close transport => dlmsTransportTcpClose pool transport
  | .isOpen transport => dlmsTransportTcpIsOpen pool transport
  | .read transport output bytesRead => dlmsTransportTcpReadSome pool transport output bytesRead
  | .write transport input budget => dlmsTransportTcpWriteAll pool transport input budget

/-- A datagram is sent in one call, for which no budget is needed. -/
def udpCall (pool : Pool UdpTransport) :
    HandleCall DlmsTransportUdpOptions → OsProgram (CReply × Pool UdpTransport)
  | .create options transport => dlmsTransportUdpCreate pool options transport
  | .destroy transport => dlmsTransportUdpDestroy pool transport
  | .open transport => dlmsTransportUdpOpen pool transport
  | .close transport => dlmsTransportUdpClose pool transport
  | .isOpen transport => dlmsTransportUdpIsOpen pool transport
  | .read transport output bytesRead => dlmsTransportUdpReceive pool transport output bytesRead
  | .write transport input _ => dlmsTransportUdpSend pool transport input

def serialCall (pool : Pool SerialTransport) :
    HandleCall DlmsTransportSerialOptions → OsProgram (CReply × Pool SerialTransport)
  | .create options transport => dlmsTransportSerialCreate pool options transport
  | .destroy transport => dlmsTransportSerialDestroy pool transport
  | .open transport => dlmsTransportSerialOpen pool transport
  | .close transport => dlmsTransportSerialClose pool transport
  | .isOpen transport => dlmsTransportSerialIsOpen pool transport
  | .read transport output bytesRead => dlmsTransportSerialReadSome pool transport output bytesRead
  | .write transport input budget => dlmsTransportSerialWriteAll pool transport input budget

/-- The objects that a C program holds handles to. -/
structure CHandles where
  tcp : Pool TcpStreamTransport
  udp : Pool UdpTransport
  serial : Pool SerialTransport
  deriving DecidableEq, Repr

def CHandles.none : CHandles := ⟨.empty, .empty, .empty⟩

def CHandles.invoke (self : CHandles) : CCall → OsProgram (CReply × CHandles)
  | .tcp call => Prod.map id (fun tcp => { self with tcp }) <$> tcpCall self.tcp call
  | .udp call => Prod.map id (fun udp => { self with udp }) <$> udpCall self.udp call
  | .udpLocalPort transport =>
      Prod.map id (fun udp => { self with udp }) <$> dlmsTransportUdpLocalPort self.udp transport
  | .serial call => Prod.map id (fun serial => { self with serial }) <$> serialCall self.serial call

end DlmsTransport.Transport
