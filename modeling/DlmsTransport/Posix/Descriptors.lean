import DlmsTransport.Interaction.Custody
import DlmsTransport.Interaction.Relabelling
import DlmsTransport.Posix.Calls

/-! The custody of file descriptors, and calls on another descriptor. The ledger
assumes that the OS hands out no descriptor that is live. -/

set_option autoImplicit false

namespace DlmsTransport.Posix

open Interaction

/-- Sockets, accepted connections and opened devices hand out descriptors;
`close` takes one back; every call with a descriptor argument uses it. -/
def descriptors : Custody OsCall OsCall.Answer Int where
  obtains
    | .socket _ _ _, some fd => some (fd : Int)
    | .accept _, .ok fd => some (fd : Int)
    | .openDevice _, some fd => some (fd : Int)
    | _, _ => none
  releases
    | .close fd => some fd
    | _ => none
  uses := OsCall.descriptor?
  uses_of_releases := by
    intro request handle
    cases request <;> simp [OsCall.descriptor?]

abbrev Custodial {α : Type} (program : OsProgram α) (live : Set Int)
    (post : Set Int → α → Prop) : Prop :=
  program.Meets descriptors.ledger descriptors.guarantee post live

theorem usesLive_of_mem {live : Set Int} {fd : Int} (held : fd ∈ live) {request : OsCall}
    (uses : request.descriptor? = some fd) : descriptors.UsesLive live request := by
  intro used usesIt
  exact Option.some.inj (uses.symm.trans usesIt) ▸ held

theorem usesLive_of_none {live : Set Int} {request : OsCall}
    (uses : request.descriptor? = none) : descriptors.UsesLive live request :=
  Custody.usesLive_of_none uses

/-- A call on a live descriptor, for the calls that neither hand one out nor take one back. -/
theorem quiet_of_mem {live : Set Int} {fd : Int} (held : fd ∈ live) {request : OsCall}
    (uses : request.descriptor? = some fd)
    (obtains : ∀ answer, descriptors.obtains request answer = none)
    (releases : descriptors.releases request = none) : descriptors.Quiet live request :=
  ⟨obtains, releases, usesLive_of_mem held uses⟩

theorem quiet_of_none {live : Set Int} {request : OsCall} (uses : request.descriptor? = none)
    (obtains : ∀ answer, descriptors.obtains request answer = none) :
    descriptors.Quiet live request where
  obtains
  releases := by
    cases released : descriptors.releases request with
    | none => rfl
    | some fd => exact absurd (descriptors.uses_of_releases released) (by simp [descriptors, uses])
  uses := usesLive_of_none uses

/-- The same call on another descriptor, for the calls that use one. -/
def OsCall.onDescriptor (fd : Int) : OsCall → OsCall
  | .fcntlGetFlags _ => .fcntlGetFlags fd
  | .fcntlSetNonBlock _ flags => .fcntlSetNonBlock fd flags
  | .setReuseAddress _ => .setReuseAddress fd
  | .connect _ addr => .connect fd addr
  | .bind _ addr => .bind fd addr
  | .listen _ backlog => .listen fd backlog
  | .accept _ => .accept fd
  | .getsockname _ => .getsockname fd
  | .select _ forRead timeout => .select fd forRead timeout
  | .socketError _ => .socketError fd
  | .fionread _ => .fionread fd
  | .recv _ length => .recv fd length
  | .send _ slice length => .send fd slice length
  | .read _ length => .read fd length
  | .write _ slice length => .write fd slice length
  | .close _ => .close fd
  | request => request

def onDescriptor (fd : Int) : Relabelling OsCall OsCall.Answer where
  call := OsCall.onDescriptor fd
  answer
    | .getaddrinfo _ _ _ | .freeaddrinfo _ | .socket _ _ _ | .fcntlGetFlags _
    | .fcntlSetNonBlock _ _ | .setReuseAddress _ | .connect _ _ | .bind _ _ | .listen _ _
    | .accept _ | .getsockname _ | .select _ _ _ | .socketError _ | .fionread _ | .recv _ _
    | .send _ _ _ | .openDevice _ | .read _ _ | .write _ _ _ | .close _ | .errno | .allocate =>
        .refl _

end DlmsTransport.Posix
