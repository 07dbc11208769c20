import DlmsTransport.Posix.Calls

/-! Statuses, durations and caller-owned buffers shared by all transports. -/

set_option autoImplicit false

namespace DlmsTransport.Transport

inductive TransportStatus where
  | ok
  | invalidArgument
  | notOpen
  | alreadyOpen
  | openFailed
  | readFailed
  | writeFailed
  | timeout
  | connectionClosed
  | wouldBlock
  | outputBufferTooSmall
  | unsupportedFeature
  | internalError
  deriving DecidableEq, Repr

structure TransportDuration where
  milliseconds : UInt32
  deriving DecidableEq, Repr

/-- The `output` and `outputSize` arguments of a read. -/
structure OutputBuffer where
  isNull : Bool
  size : Nat
  deriving DecidableEq, Repr

def OutputBuffer.invalid (output : OutputBuffer) : Bool :=
  output.isNull && output.size != 0

/-- The `input` and `inputSize` arguments of a write: a null pointer with any
size, or a pointer to exactly the bytes it claims to hold. -/
inductive InputBuffer where
  | null (size : Nat)
  | bytes (data : List UInt8)
  deriving DecidableEq, Repr

def InputBuffer.size : InputBuffer → Nat
  | .null size => size
  | .bytes data => data.length

def InputBuffer.data : InputBuffer → List UInt8
  | .null _ => []
  | .bytes data => data

def InputBuffer.invalid : InputBuffer → Bool
  | .null size => size != 0
  | .bytes _ => false

theorem InputBuffer.size_eq_length {input : InputBuffer} (valid : input.invalid = false) :
    input.size = input.data.length := by
  cases input with
  | null size => simpa [invalid, InputBuffer.size, data] using valid
  | bytes data => rfl

/-- A copy that takes an empty input apart takes nothing from it. -/
theorem InputBuffer.copy_eq_data {input : InputBuffer} (valid : input.invalid = false) :
    (if input.size = 0 then [] else input.data) = input.data := by
  split
  · next empty =>
    rw [size_eq_length valid] at empty
    exact (List.length_eq_zero_iff.mp empty).symm
  · rfl

/-- What a read leaves with its caller: the status, the value of `bytesRead`,
and the bytes stored at the start of the output buffer. -/
structure ReadReply where
  status : TransportStatus
  bytesRead : Nat
  output : List UInt8
  deriving DecidableEq, Repr

def ReadReply.empty (status : TransportStatus) : ReadReply := ⟨status, 0, []⟩

@[simp] theorem ReadReply.status_empty (status : TransportStatus) :
    (ReadReply.empty status).status = status := rfl

/-- The operations of `IByteStream`. `budget` bounds the iterations of the write
loop that are unfolded; a write that needs more has not returned. -/
inductive StreamMethod where
  | open
  | close
  | isOpen
  | readSome (output : OutputBuffer)
  | writeAll (input : InputBuffer) (budget : Nat)
  deriving DecidableEq, Repr

def StreamMethod.transfers : StreamMethod → Bool
  | .readSome _ | .writeAll _ _ => true
  | _ => false

inductive StreamReply where
  | status (status : TransportStatus)
  | flag (value : Bool)
  | read (reply : ReadReply)
  deriving DecidableEq, Repr

def StreamReply.status? : StreamReply → Option TransportStatus
  | .status answer => some answer
  | .flag _ => none
  | .read reply => some reply.status

/-- The operations of `IDatagramTransport`. -/
inductive DatagramMethod where
  | open
  | close
  | isOpen
  | send (input : InputBuffer)
  | receive (output : OutputBuffer)
  deriving DecidableEq, Repr

/-- Datagram operations answer as the stream operations do. -/
abbrev DatagramReply := StreamReply

end DlmsTransport.Transport
