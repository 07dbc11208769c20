import DlmsTransport.Transport.TcpStream
import DlmsTransport.Transport.TcpServer
import DlmsTransport.Transport.Serial

/-! The concrete byte streams behind `IByteStream`, and virtual calls on them. -/

set_option autoImplicit false

namespace DlmsTransport.Transport

open Interaction Posix

/-- An object of one of the three classes that implement `IByteStream`. -/
inductive ByteStream where
  | tcp (stream : TcpStreamTransport)
  | accepted (stream : AcceptedTcpStream)
  | serial (stream : SerialTransport)
  deriving DecidableEq, Repr

namespace ByteStream

def isOpen : ByteStream → Bool
  | .tcp stream => stream.isOpen
  | .accepted stream => stream.isOpen
  | .serial stream => stream.isOpen

private def lift {σ ρ : Type} (wrap : σ → ByteStream) (operation : OsProgram (ρ × σ)) :
    OsProgram (ρ × ByteStream) :=
  Prod.map id wrap <$> operation

def openStream : ByteStream → OsProgram (TransportStatus × ByteStream)
  | .tcp stream => lift .tcp stream.open
  | .accepted stream => lift .accepted stream.open
  | .serial stream => lift .serial stream.open

def close : ByteStream → OsProgram (TransportStatus × ByteStream)
  | .tcp stream => lift .tcp stream.close
  | .accepted stream => lift .accepted stream.close
  | .serial stream => lift .serial stream.close

def readSome (self : ByteStream) (output : OutputBuffer) : OsProgram (ReadReply × ByteStream) :=
  match self with
  | .tcp stream => lift .tcp (stream.readSome output)
  | .accepted stream => lift .accepted (stream.readSome output)
  | .serial stream => lift .serial (stream.readSome output)

def writeAll (self : ByteStream) (input : InputBuffer) (budget : Nat) :
    OsProgram TransportStatus :=
  match self with
  | .tcp stream => stream.writeAll input budget
  | .accepted stream => stream.writeAll input budget
  | .serial stream => stream.writeAll input budget

def invoke (self : ByteStream) : StreamMethod → OsProgram (StreamReply × ByteStream)
  | .open => Prod.map .status id <$> self.openStream
  | .close => Prod.map .status id <$> self.close
  | .isOpen => pure (.flag self.isOpen, self)
  | .readSome output => Prod.map .read id <$> self.readSome output
  | .writeAll input budget => (fun status => (.status status, self)) <$> self.writeAll input budget

end ByteStream

end DlmsTransport.Transport
