import DlmsTransport.Interaction.Program
import DlmsTransport.Posix.Integers

/-! The operating-system calls the transports make. An answer carries what the
call reports by its documented interface: a count never exceeds the length that
was asked for, and a descriptor is non-negative. Everything else is open. -/

set_option autoImplicit false

namespace DlmsTransport.Posix

open Interaction

inductive Errno where
  | eagain
  | ewouldblock
  | einprogress
  | other (code : Int)
  deriving DecidableEq, Repr

inductive Family where
  | unspec
  | inet
  | inet6
  | other (code : Int)
  deriving DecidableEq, Repr

inductive SocketType where
  | stream
  | dgram
  | other (code : Int)
  deriving DecidableEq, Repr

inductive Protocol where
  | tcp
  | udp
  | other (code : Int)
  deriving DecidableEq, Repr

structure AddrInfo where
  family : Family
  socktype : SocketType
  protocol : Protocol
  addr : List UInt8
  deriving DecidableEq, Repr

/-- A list `getaddrinfo` allocated; `identity` tells two allocations apart. -/
structure AddressList where
  identity : Nat
  entries : List AddrInfo
  deriving DecidableEq, Repr

structure Hints where
  family : Family
  socktype : SocketType
  protocol : Protocol
  passive : Bool
  deriving DecidableEq, Repr

structure Timeval where
  seconds : Nat
  microseconds : Nat
  deriving DecidableEq, Repr

/-- `fcntlSetNonBlock fd flags` is `fcntl(fd, F_SETFL, flags | O_NONBLOCK)`,
`socketError fd` is `getsockopt` with `SO_ERROR`, `errno` reads the value that
earlier calls left behind, and `allocate` is a `new` expression, which throws
when the answer is `false`. -/
inductive OsCall where
  | getaddrinfo (node : Option String) (service : String) (hints : Hints)
  | freeaddrinfo (addresses : AddressList)
  | socket (family : Family) (socktype : SocketType) (protocol : Protocol)
  | fcntlGetFlags (fd : Int)
  | fcntlSetNonBlock (fd : Int) (flags : Int)
  | setReuseAddress (fd : Int)
  | connect (fd : Int) (addr : List UInt8)
  | bind (fd : Int) (addr : List UInt8)
  | listen (fd : Int) (backlog : Int)
  | accept (fd : Int)
  | getsockname (fd : Int)
  | select (fd : Int) (forRead : Bool) (timeout : Timeval)
  | socketError (fd : Int)
  | fionread (fd : Int)
  | recv (fd : Int) (length : Nat)
  | send (fd : Int) (slice : List UInt8) (length : Nat)
  | openDevice (path : String)
  | read (fd : Int) (length : Nat)
  | write (fd : Int) (slice : List UInt8) (length : Nat)
  | close (fd : Int)
  | errno
  | allocate
  deriving DecidableEq, Repr

/-- The bytes one `recv` or `read` stored, at most as many as asked for. -/
abbrev Delivery (length : Nat) := { bytes : List UInt8 // bytes.length ≤ length }

/-- The end of the input. -/
def Delivery.nothing {length : Nat} : Delivery length := ⟨[], Nat.zero_le length⟩

/-- Answers of the calls. `none` and `error` stand for a reported failure. -/
@[reducible] def OsCall.Answer : OsCall → Type
  | .getaddrinfo _ _ _ => Option AddressList
  | .freeaddrinfo _ => Unit
  | .socket _ _ _ => Option Nat
  | .fcntlGetFlags _ => Int
  | .fcntlSetNonBlock _ _ => Int
  | .setReuseAddress _ => Unit
  | .connect _ _ => Except Errno Unit
  | .bind _ _ => Int
  | .listen _ _ => Int
  | .accept _ => Except Errno Nat
  | .getsockname _ => Option (Family × UInt16)
  | .select _ _ _ => Int
  | .socketError _ => Option Int
  | .fionread _ => Option Int
  | .recv _ length => Except Errno (Delivery length)
  | .send _ _ length => Except Errno (Fin (length + 1))
  | .openDevice _ => Option Nat
  | .read _ length => Except Errno (Delivery length)
  | .write _ _ length => Except Errno (Fin (length + 1))
  | .close _ => Unit
  | .errno => Errno
  | .allocate => Bool

abbrev OsProgram := Program OsCall OsCall.Answer

abbrev os (request : OsCall) : OsProgram request.Answer := Program.ask request

abbrev OsEvent := Event OsCall OsCall.Answer

abbrev OsTrace := Trace OsCall OsCall.Answer

/-- The descriptor a call uses, for the calls that use one. -/
def OsCall.descriptor? : OsCall → Option Int
  | .getaddrinfo _ _ _ | .freeaddrinfo _ | .socket _ _ _ | .openDevice _ | .errno
  | .allocate => none
  | .fcntlGetFlags fd | .fcntlSetNonBlock fd _ | .setReuseAddress fd | .connect fd _
  | .bind fd _ | .listen fd _ | .accept fd | .getsockname fd | .select fd _ _
  | .socketError fd | .fionread fd | .recv fd _ | .send fd _ _ | .read fd _
  | .write fd _ _ | .close fd => some fd

end DlmsTransport.Posix
