import DlmsTransport.Interaction.Typestate
import DlmsTransport.Posix.Calls

/-! The protocol of descriptors: the stages that a socket or a device goes through, and the
calls that each of them is ready for. A call that could block needs a descriptor that does
not. -/

set_option autoImplicit false

namespace DlmsTransport.Posix

open Interaction

inductive Stage where
  | created
  | bound
  | listening
  /-- A `connect` has been made and has not succeeded so far. -/
  | connecting
  | connected
  | device
  deriving DecidableEq, Repr

structure DescriptorState where
  stage : Stage
  nonBlocking : Bool
  deriving DecidableEq, Repr

/-- The stages in which waiting for a descriptor makes sense. -/
def Stage.Awaits (stage : Stage) (forRead : Bool) : Prop :=
  match stage with
  | .created => False
  | .listening => forRead = true
  | .connecting => forRead = false
  | .bound | .connected | .device => True

def OsCall.AdmittedIn (state : DescriptorState) : OsCall → Prop
  | .setReuseAddress _ | .bind _ _ => state.stage = .created
  | .listen _ _ => state.stage = .bound
  | .connect _ _ => state.nonBlocking = true ∧ (state.stage = .created ∨ state.stage = .bound)
  | .socketError _ => state.stage = .connecting
  | .accept _ => state.nonBlocking = true ∧ state.stage = .listening
  | .getsockname _ => state.stage = .bound ∨ state.stage = .listening ∨ state.stage = .connected
  | .select _ forRead _ => state.nonBlocking = true ∧ state.stage.Awaits forRead
  | .fionread _ | .recv _ _ =>
      state.nonBlocking = true ∧ (state.stage = .bound ∨ state.stage = .connected)
  | .send _ _ _ => state.nonBlocking = true ∧ state.stage = .connected
  | .read _ _ | .write _ _ _ => state.nonBlocking = true ∧ state.stage = .device
  | .fcntlGetFlags _ | .fcntlSetNonBlock _ _ | .close _ => True
  | .getaddrinfo _ _ _ | .freeaddrinfo _ | .socket _ _ _ | .openDevice _ | .errno
  | .allocate => True

def OsCall.movedTo (state : DescriptorState) :
    (request : OsCall) → request.Answer → Option DescriptorState
  | .fcntlSetNonBlock _ _, result =>
      some (if result = (0 : Int) then { state with nonBlocking := true } else state)
  | .bind _ _, result => some (if result = (0 : Int) then { state with stage := .bound } else state)
  | .listen _ _, result =>
      some (if result = (0 : Int) then { state with stage := .listening } else state)
  | .connect _ _, .ok _ => some { state with stage := .connected }
  | .connect _ _, .error _ => some { state with stage := .connecting }
  | .socketError _, some error =>
      some (if error = (0 : Int) then { state with stage := .connected } else state)
  | .close _, _ => none
  | _, _ => some state

/-- Sockets and accepted connections block until they are told not to; a device is opened so
that it does not. -/
def descriptorProtocol : Interaction.Protocol OsCall OsCall.Answer Int DescriptorState where
  obtains
    | .socket _ _ _, some fd => some ((fd : Int), ⟨.created, false⟩)
    | .accept _, .ok fd => some ((fd : Int), ⟨.connected, false⟩)
    | .openDevice _, some fd => some ((fd : Int), ⟨.device, true⟩)
    | _, _ => none
  uses := OsCall.descriptor?
  admits request state := request.AdmittedIn state
  moves request answer state := request.movedTo state answer

abbrev DescriptorStates := States Int DescriptorState

abbrev Obeys {α : Type} (program : OsProgram α) (states : DescriptorStates)
    (post : DescriptorStates → α → Prop) : Prop :=
  descriptorProtocol.Obeys program states post

end DlmsTransport.Posix
