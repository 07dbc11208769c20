import DlmsTransport.Interaction.Session
import DlmsTransport.Transport.Basic

/-! The TLS wrapper of `tls_stream_transport.cpp`. Its calls on the lower stream
and on the backend are virtual, so both are an environment: any answer is possible
at every call. The backend does not call back into the wrapper. -/

set_option autoImplicit false

namespace DlmsTransport.Transport

open Interaction

structure TlsStreamTransportOptions where
  serverName : String := ""
  verifyPeer : Bool := true
  deriving DecidableEq, Repr

/-- The calls on `*lower_` and on `*backend_`. -/
inductive TlsCall where
  | lowerOpen
  | lowerClose
  | lowerIsOpen
  | lowerReadSome (output : OutputBuffer)
  | lowerWriteAll (input : InputBuffer)
  | handshake (options : TlsStreamTransportOptions)
  | backendClose
  | backendReadSome (output : OutputBuffer)
  | backendWriteAll (input : InputBuffer)
  deriving DecidableEq, Repr

@[reducible] def TlsCall.Answer : TlsCall → Type
  | .lowerIsOpen => Bool
  | .lowerReadSome _ | .backendReadSome _ => ReadReply
  | _ => TransportStatus

def TlsCall.onBackend : TlsCall → Bool
  | .handshake _ | .backendClose | .backendReadSome _ | .backendWriteAll _ => true
  | _ => false

abbrev TlsProgram := Program TlsCall TlsCall.Answer

abbrev TlsEvent := Event TlsCall TlsCall.Answer

abbrev TlsTrace := Trace TlsCall TlsCall.Answer

abbrev tls (request : TlsCall) : TlsProgram request.Answer := Program.ask request

/-- `lower_` and `backend_` say whether the pointers are non-null. -/
structure TlsStreamTransport where
  lower_ : Bool
  backend_ : Bool
  options_ : TlsStreamTransportOptions
  open_ : Bool
  deriving DecidableEq, Repr

namespace TlsStreamTransport

def new (lower backend : Bool) (options : TlsStreamTransportOptions) : TlsStreamTransport where
  lower_ := lower
  backend_ := backend
  options_ := options
  open_ := false

def hasValidConfiguration (self : TlsStreamTransport) : Bool :=
  if self.lower_ = false || self.backend_ = false then
    false
  else if self.options_.verifyPeer && self.options_.serverName.isEmpty then
    false
  else
    true

def «open» (self : TlsStreamTransport) : TlsProgram (TransportStatus × TlsStreamTransport) :=
  if self.open_ then
    pure (.alreadyOpen, self)
  else if self.hasValidConfiguration = false then
    pure (.invalidArgument, self)
  else do
    let openStatus ← tls .lowerOpen
    if openStatus ≠ .ok ∧ openStatus ≠ .alreadyOpen then
      pure (openStatus, self)
    else do
      let handshakeStatus ← tls (.handshake self.options_)
      if handshakeStatus ≠ .ok then do
        let _ ← tls .lowerClose
        pure (handshakeStatus, self)
      else
        pure (.ok, { self with open_ := true })

def close (self : TlsStreamTransport) : TlsProgram (TransportStatus × TlsStreamTransport) :=
  if self.open_ = false then
    if self.lower_ then do
      let _ ← tls .lowerClose
      pure (.ok, self)
    else
      pure (.ok, self)
  else do
    let status ← if self.backend_ && self.lower_ then tls .backendClose else pure .ok
    let closed : TlsStreamTransport := { self with open_ := false }
    if self.lower_ then do
      let lowerStatus ← tls .lowerClose
      pure (if status = .ok then lowerStatus else status, closed)
    else
      pure (status, closed)

def destroy (self : TlsStreamTransport) : TlsProgram Unit := do
  let _ ← self.close
  pure ()

def isOpen (self : TlsStreamTransport) : TlsProgram Bool :=
  if self.open_ && self.lower_ then
    tls .lowerIsOpen
  else
    pure false

def readSome (self : TlsStreamTransport) (output : OutputBuffer) : TlsProgram ReadReply :=
  if self.open_ = false then
    pure (.empty .notOpen)
  else if output.invalid then
    pure (.empty .invalidArgument)
  else
    tls (.backendReadSome output)

def writeAll (self : TlsStreamTransport) (input : InputBuffer) : TlsProgram TransportStatus :=
  if self.open_ = false then
    pure .notOpen
  else if input.invalid then
    pure .invalidArgument
  else
    tls (.backendWriteAll input)

def invoke (self : TlsStreamTransport) :
    StreamMethod → TlsProgram (StreamReply × TlsStreamTransport)
  | .open => Prod.map .status id <$> self.open
  | .close => Prod.map .status id <$> self.close
  | .isOpen => (fun value => (.flag value, self)) <$> self.isOpen
  | .readSome output => (fun reply => (.read reply, self)) <$> self.readSome output
  | .writeAll input _ => (fun status => (.status status, self)) <$> self.writeAll input

end TlsStreamTransport

abbrev TlsInvocation :=
  Invocation TlsStreamTransport StreamMethod TlsCall TlsCall.Answer StreamReply

end DlmsTransport.Transport
