import DlmsTransport.Interaction.Layers
import DlmsTransport.Transport.ByteStream
import DlmsTransport.Transport.Tls

/-! TLS backends as programs over the lower stream, the backend that supports nothing, and
the wrapper put together with a backend and one of the concrete streams. -/

set_option autoImplicit false

namespace DlmsTransport.Transport

open Interaction Posix

/-- The calls on an `IByteStream`. -/
inductive StreamCall where
  | open
  | close
  | isOpen
  | readSome (output : OutputBuffer)
  | writeAll (input : InputBuffer)
  deriving DecidableEq, Repr

@[reducible] def StreamCall.Answer : StreamCall → Type
  | .isOpen => Bool
  | .readSome _ => ReadReply
  | .open | .close | .writeAll _ => TransportStatus

abbrev StreamProgram := Program StreamCall StreamCall.Answer

abbrev lower (request : StreamCall) : StreamProgram request.Answer := Program.ask request

/-- `ITlsStreamBackend`, whose members may do anything with the lower stream. -/
structure TlsStreamBackend (β : Type) where
  handshake : β → TlsStreamTransportOptions → StreamProgram (TransportStatus × β)
  close : β → StreamProgram (TransportStatus × β)
  readSome : β → OutputBuffer → StreamProgram (ReadReply × β)
  writeAll : β → InputBuffer → StreamProgram (TransportStatus × β)

def unsupportedTlsStreamBackend : TlsStreamBackend Unit where
  handshake self _ := pure (.unsupportedFeature, self)
  close self := do
    let status ← lower .close
    pure (status, self)
  readSome self _ := pure (.empty .unsupportedFeature, self)
  writeAll self _ := pure (.unsupportedFeature, self)

/-- `FakeTlsBackend` of the tests: it forwards to the lower stream and counts. -/
structure FakeTlsBackend where
  handshakeStatus : TransportStatus
  closeCount : Nat
  handshakeCount : Nat
  deriving DecidableEq, Repr

def fakeTlsBackend : TlsStreamBackend FakeTlsBackend where
  handshake self _ :=
    pure (self.handshakeStatus, { self with handshakeCount := self.handshakeCount + 1 })
  close self := do
    let status ← lower .close
    pure (status, { self with closeCount := self.closeCount + 1 })
  readSome self output := (·, self) <$> lower (.readSome output)
  writeAll self input := (·, self) <$> lower (.writeAll input)

/-- The calls of the wrapper on `*lower_` go to the stream, those on `*backend_` to the
backend. -/
def TlsStreamBackend.serve {β : Type} (backend : TlsStreamBackend β) :
    Service TlsCall TlsCall.Answer StreamCall StreamCall.Answer β
  | self, .lowerOpen => (·, self) <$> lower .open
  | self, .lowerClose => (·, self) <$> lower .close
  | self, .lowerIsOpen => (·, self) <$> lower .isOpen
  | self, .lowerReadSome output => (·, self) <$> lower (.readSome output)
  | self, .lowerWriteAll input => (·, self) <$> lower (.writeAll input)
  | self, .handshake options => backend.handshake self options
  | self, .backendClose => backend.close self
  | self, .backendReadSome output => backend.readSome self output
  | self, .backendWriteAll input => backend.writeAll self input

/-- Every `WriteAll` may go around its loop `budget` times. -/
def ByteStream.serve (budget : Nat) :
    Service StreamCall StreamCall.Answer OsCall OsCall.Answer ByteStream
  | self, .open => self.openStream
  | self, .close => self.close
  | self, .isOpen => pure (self.isOpen, self)
  | self, .readSome output => self.readSome output
  | self, .writeAll input => (·, self) <$> self.writeAll input budget

/-- A wrapper with the backend and the stream that it points to. -/
structure TlsStack (β : Type) where
  wrapper : TlsStreamTransport
  backend : β
  lower : ByteStream
  deriving DecidableEq, Repr

namespace TlsStack

variable {β : Type}

/-- The wrapper's program, run on the backend and the stream. -/
def run {α : Type} (backend : TlsStreamBackend β) (budget : Nat) (self : TlsStack β)
    (program : TlsProgram α) : OsProgram ((α × β) × ByteStream) :=
  (program.servedBy backend.serve self.backend).servedBy (ByteStream.serve budget) self.lower

def invoke (backend : TlsStreamBackend β) (budget : Nat) (self : TlsStack β)
    (method : StreamMethod) : OsProgram (StreamReply × TlsStack β) := do
  let (((reply, wrapper), backend), lower) ← self.run backend budget (self.wrapper.invoke method)
  pure (reply, ⟨wrapper, backend, lower⟩)

def destroy (backend : TlsStreamBackend β) (budget : Nat) (self : TlsStack β) :
    OsProgram ByteStream := do
  let (_, lower) ← self.run backend budget self.wrapper.destroy
  pure lower

end TlsStack

end DlmsTransport.Transport
