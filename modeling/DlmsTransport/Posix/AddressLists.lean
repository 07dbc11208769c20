import DlmsTransport.Interaction.Custody
import DlmsTransport.Posix.Calls

/-! The custody of address lists. A list without entries is a null pointer, which
nothing has to free. -/

set_option autoImplicit false

namespace DlmsTransport.Posix

open Interaction

def AddressList.owned (addresses : AddressList) : Option AddressList :=
  if addresses.entries.isEmpty then none else some addresses

/-- `getaddrinfo` hands out lists and `freeaddrinfo` takes them back. -/
def addressLists : Custody OsCall OsCall.Answer AddressList where
  obtains
    | .getaddrinfo _ _ _, some addresses => addresses.owned
    | _, _ => none
  releases
    | .freeaddrinfo addresses => addresses.owned
    | _ => none
  uses
    | .freeaddrinfo addresses => addresses.owned
    | _ => none
  uses_of_releases same := same

/-- The calls that are given an entry of a list read it while the list is live. -/
def ReadsLive (live : Set AddressList) : OsCall → Prop
  | .socket family _ _ => ∃ addresses ∈ live, ∃ entry ∈ addresses.entries, entry.family = family
  | .bind _ addr | .connect _ addr =>
      ∃ addresses ∈ live, ∃ entry ∈ addresses.entries, entry.addr = addr
  | _ => True

end DlmsTransport.Posix
