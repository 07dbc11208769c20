import DlmsTransport.Interaction.Session
import DlmsTransport.Transport.TcpServer
import Mathlib.Logic.Function.Basic

/-! A listener together with the streams it accepted, and what their users may do
with them in any order. -/

set_option autoImplicit false

namespace DlmsTransport.Transport

open Interaction Posix

inductive TcpServerMethod where
  | open
  | close
  | isOpen
  | localPort
  deriving DecidableEq, Repr

/-- `absent` is the answer of a method on an object that does not exist (any more),
and `thrown` that of an `Accept` an exception has left. -/
inductive ServerReply where
  | absent
  | destroyed
  | thrown
  | status (status : TransportStatus)
  | flag (value : Bool)
  | port (value : UInt16)
  | stream (reply : StreamReply)
  deriving DecidableEq, Repr

def TcpServerTransport.invoke (self : TcpServerTransport) :
    TcpServerMethod → OsProgram (ServerReply × TcpServerTransport)
  | .open => Prod.map .status id <$> self.open
  | .close => Prod.map .status id <$> self.close
  | .isOpen => pure (.flag self.isOpen, self)
  | .localPort => pure (.port self.localPort, self)

/-- Accepted streams sit in the pointers that were passed to `Accept`. -/
structure ServerSystem where
  listener : Option TcpServerTransport
  streams : Nat → Option AcceptedTcpStream

/-- `destroy` is the destructor of the listener, `release` resets the pointer. -/
inductive ServerMethod where
  | listener (method : TcpServerMethod)
  | accept (slot : Nat)
  | destroy
  | stream (slot : Nat) (method : StreamMethod)
  | release (slot : Nat)
  deriving DecidableEq, Repr

namespace ServerSystem

def new (options : TcpServerTransportOptions) : ServerSystem where
  listener := some (.new options)
  streams _ := none

def setListener (self : ServerSystem) (listener : Option TcpServerTransport) : ServerSystem :=
  { self with listener }

def setStream (self : ServerSystem) (slot : Nat) (stream : Option AcceptedTcpStream) :
    ServerSystem :=
  { self with streams := Function.update self.streams slot stream }

@[simp] theorem listener_setListener (self : ServerSystem) (listener : Option TcpServerTransport) :
    (self.setListener listener).listener = listener := rfl

@[simp] theorem streams_setListener (self : ServerSystem) (listener : Option TcpServerTransport) :
    (self.setListener listener).streams = self.streams := rfl

@[simp] theorem listener_setStream (self : ServerSystem) (slot : Nat)
    (stream : Option AcceptedTcpStream) : (self.setStream slot stream).listener = self.listener :=
  rfl

@[simp] theorem streams_setStream (self : ServerSystem) (slot : Nat)
    (stream : Option AcceptedTcpStream) : (self.setStream slot stream).streams slot = stream :=
  Function.update_self ..

@[simp] theorem setStream_setStream (self : ServerSystem) (slot : Nat)
    (first second : Option AcceptedTcpStream) :
    (self.setStream slot first).setStream slot second = self.setStream slot second := by
  simp [setStream]

theorem streams_setStream_ne (self : ServerSystem) {slot other : Nat}
    (stream : Option AcceptedTcpStream) (different : other ≠ slot) :
    (self.setStream slot stream).streams other = self.streams other :=
  Function.update_of_ne different ..

def acceptReply : Option TransportStatus → ServerReply
  | none => .thrown
  | some status => .status status

def invoke (self : ServerSystem) : ServerMethod → OsProgram (ServerReply × ServerSystem)
  | .listener method =>
      match self.listener with
      | none => pure (.absent, self)
      | some listener =>
          Prod.map id (fun after => self.setListener (some after)) <$> listener.invoke method
  | .accept slot =>
      match self.listener with
      | none => pure (.absent, self)
      | some listener =>
          Prod.map acceptReply (self.setStream slot) <$>
            listener.accept ((self.streams slot).map AcceptedTcpStream.destroy)
  | .destroy =>
      match self.listener with
      | none => pure (.absent, self)
      | some listener => (fun _ => (.destroyed, self.setListener none)) <$> listener.destroy
  | .stream slot method =>
      match self.streams slot with
      | none => pure (.absent, self)
      | some stream =>
          Prod.map .stream (fun after => self.setStream slot (some after)) <$> stream.invoke method
  | .release slot =>
      match self.streams slot with
      | none => pure (.absent, self)
      | some stream => (fun _ => (.destroyed, self.setStream slot none)) <$> stream.destroy

end ServerSystem

abbrev ServerInvocation := Invocation ServerSystem ServerMethod OsCall OsCall.Answer ServerReply

abbrev AcceptedInvocation :=
  Invocation AcceptedTcpStream StreamMethod OsCall OsCall.Answer StreamReply

def meterServerOptions : TcpServerTransportOptions where
  port := 4059

def meterServer : TcpServerTransport := ⟨meterServerOptions, 3, true, 4059⟩

def meterConnection : AcceptedTcpStream := .new 4 ⟨5000⟩ ⟨5000⟩

def meterAcceptTrace : OsTrace :=
  [⟨.select 3 true ⟨5, 0⟩, (1 : Int)⟩, ⟨.accept 3, .ok 4⟩, ⟨.fcntlGetFlags 4, (0 : Int)⟩,
    ⟨.fcntlSetNonBlock 4 0, (0 : Int)⟩, ⟨.allocate, true⟩]

theorem meterServer_accepts :
    (meterServer.accept none).Runs meterAcceptTrace (some .ok, some meterConnection) :=
  .call (.call (.call (.call (.call .refl))))

end DlmsTransport.Transport
