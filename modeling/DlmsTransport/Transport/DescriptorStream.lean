import DlmsTransport.Interaction.Environment
import DlmsTransport.Transport.Basic

/-! Code that several transports hold a copy of, with the parts in which the
copies differ as parameters: readiness waits, the socket read and the write
loop. Each transport instantiates it under its own names. -/

set_option autoImplicit false

namespace DlmsTransport.Transport

open Interaction Posix

abbrev NativeSocket := Int

def kInvalidSocket : NativeSocket := -1

/-- A descriptor answer as the native `int`: `-1` reports the failure. -/
def nativeSocket : Option Nat → NativeSocket
  | none => kInvalidSocket
  | some fd => fd

theorem nativeSocket_some_ne (fd : Nat) : nativeSocket (some fd) ≠ kInvalidSocket := by
  have valid : (fd : Int) ≠ -1 := by omega
  exact valid

def closeNativeSocket (socket : NativeSocket) : OsProgram Unit :=
  os (.close socket)

def setNonBlocking (socket : NativeSocket) : OsProgram Bool := do
  let flags ← os (.fcntlGetFlags socket)
  if flags ≥ 0 then
    let result ← os (.fcntlSetNonBlock socket flags)
    pure (result == 0)
  else
    pure false

theorem setNonBlocking_only {allowed : OsCall → Prop} {socket : NativeSocket}
    (gets : allowed (.fcntlGetFlags socket))
    (sets : ∀ flags, allowed (.fcntlSetNonBlock socket flags)) :
    (setNonBlocking socket).Only allowed := by
  unfold setNonBlocking
  rw [Program.ask_bind]
  refine ⟨gets, fun (flags : Int) => ?_⟩
  dsimp only
  split
  · exact ⟨sets flags, fun _ => trivial⟩
  · trivial

theorem setNonBlocking_bind {α : Type} (socket : NativeSocket)
    (continuation : Bool → OsProgram α) :
    (setNonBlocking socket >>= continuation) =
      .call (.fcntlGetFlags socket) fun (flags : Int) =>
        if flags ≥ 0 then
          .call (.fcntlSetNonBlock socket flags) fun (result : Int) => continuation (result == 0)
        else
          continuation false := by
  unfold setNonBlocking
  rw [Program.ask_bind, Program.call_bind]
  refine congrArg (Program.call _) (funext fun (flags : Int) => ?_)
  split <;> rfl

theorem closeNativeSocket_bind {α : Type} (socket : NativeSocket)
    (continuation : Unit → OsProgram α) :
    (closeNativeSocket socket >>= continuation) = .call (.close socket) continuation := rfl

def toTimeval (timeout : TransportDuration) : Timeval where
  seconds := timeout.milliseconds.toNat / 1000
  microseconds := timeout.milliseconds.toNat % 1000 * 1000

/-- What a readiness wait makes of the value `select` returned. -/
def waitStatus (waitForRead : Bool) (result : Int) : TransportStatus :=
  if result > 0 then
    .ok
  else if result = 0 then
    .timeout
  else if waitForRead then
    .readFailed
  else
    .writeFailed

/-- `WaitForSocket` of the socket transports and `WaitForHandle` of the serial one. -/
def waitForDescriptor (socket : NativeSocket) (waitForRead : Bool)
    (timeout : TransportDuration) : OsProgram TransportStatus := do
  let result ← os (.select socket waitForRead (toTimeval timeout))
  pure (waitStatus waitForRead result)

theorem waitForDescriptor_bind {α : Type} (socket : NativeSocket) (waitForRead : Bool)
    (timeout : TransportDuration) (continuation : TransportStatus → OsProgram α) :
    (waitForDescriptor socket waitForRead timeout >>= continuation) =
      .call (.select socket waitForRead (toTimeval timeout))
        fun result => continuation (waitStatus waitForRead result) := rfl

@[simp] theorem waitStatus_eq_ok_iff {waitForRead : Bool} {result : Int} :
    waitStatus waitForRead result = .ok ↔ 0 < result := by
  simp only [waitStatus]
  split
  · simpa
  · split
    · simp_all
    · cases waitForRead <;> simp_all

@[simp] theorem waitStatus_eq_timeout_iff {waitForRead : Bool} {result : Int} :
    waitStatus waitForRead result = .timeout ↔ result = 0 := by
  simp only [waitStatus]
  split
  · simp
    omega
  · split
    · simpa
    · cases waitForRead <;> simp_all

@[simp] theorem waitStatus_eq_readFailed_iff {result : Int} :
    waitStatus true result = .readFailed ↔ result < 0 := by
  simp only [waitStatus]
  split
  · simp
    omega
  · split
    · simp_all
    · simp
      omega

/-- A returned count as the caller's variable holds it, with what was stored in
the buffer and the `errno` the call set when it failed. -/
structure Received where
  count : Int
  bytes : List UInt8
  errno : Option Errno

structure Transferred where
  count : Int
  errno : Option Errno

/-- `errno` after a call. A call that did not fail leaves an older value there. -/
def lastError : Option Errno → OsProgram Errno
  | some error => pure error
  | none => os .errno

theorem lastError_only {allowed : OsCall → Prop} (reads : allowed .errno)
    (errno : Option Errno) : (lastError errno).Only allowed := by
  cases errno with
  | some error => trivial
  | none => exact ⟨reads, fun _ => trivial⟩

def Received.ofInt {length : Nat} : Except Errno (Delivery length) → Received
  | .ok bytes => ⟨toInt bytes.val.length, bytes.val, none⟩
  | .error error => ⟨-1, [], some error⟩

def Transferred.ofInt {length : Nat} : Except Errno (Fin (length + 1)) → Transferred
  | .ok accepted => ⟨toInt accepted.val, none⟩
  | .error error => ⟨-1, some error⟩

theorem Received.ofInt_of_le {length : Nat} {bytes : Delivery length}
    (fits : bytes.val.length ≤ intMax) :
    Received.ofInt (.ok bytes) = ⟨bytes.val.length, bytes.val, none⟩ := by
  rw [Received.ofInt, toInt_of_le fits]

theorem Transferred.ofInt_of_le {length : Nat} {accepted : Fin (length + 1)}
    (fits : accepted.val ≤ intMax) :
    Transferred.ofInt (.ok accepted) = ⟨accepted.val, none⟩ := by
  rw [Transferred.ofInt, toInt_of_le fits]

/-- `recv` with the length cast to `int` and the result stored in an `int`. -/
def receiveInt (socket : NativeSocket) (outputSize : Nat) : OsProgram Received := do
  let answer ← os (.recv socket (throughInt outputSize))
  pure (.ofInt answer)

theorem receiveInt_bind {α : Type} (socket : NativeSocket) (outputSize : Nat)
    (continuation : Received → OsProgram α) :
    (receiveInt socket outputSize >>= continuation) =
      .call (.recv socket (throughInt outputSize)) fun answer => continuation (.ofInt answer) :=
  rfl

/-- `send` with the length cast to `int` and the result stored in an `int`. -/
def sendInt (socket : NativeSocket) (slice : List UInt8) : OsProgram Transferred := do
  let answer ← os (.send socket slice (throughInt slice.length))
  pure (.ofInt answer)

theorem sendInt_eq (socket : NativeSocket) (slice : List UInt8) :
    sendInt socket slice =
      .call (.send socket slice (throughInt slice.length))
        fun answer => .done (.ofInt answer) := rfl

/-- The loop of the `WriteAll` functions, from offset `written`. `budget` counts
the iterations that may still be unfolded. -/
def writeLoop (socket : NativeSocket) (timeout : TransportDuration)
    (transmit : List UInt8 → OsProgram Transferred) (isWouldBlock : Errno → Bool)
    (input : List UInt8) : Nat → Nat → OsProgram TransportStatus
  | 0, written => if written < input.length then .pending else pure .ok
  | budget + 1, written =>
      if written < input.length then do
        let waited ← waitForDescriptor socket false timeout
        if waited ≠ .ok then
          pure (if waited = .timeout then .timeout else .writeFailed)
        else do
          let chunk ← transmit (input.drop written)
          if chunk.count > 0 then
            writeLoop socket timeout transmit isWouldBlock input budget
              (written + chunk.count.toNat)
          else if chunk.count = 0 then
            pure .writeFailed
          else do
            let error ← lastError chunk.errno
            if isWouldBlock error then
              writeLoop socket timeout transmit isWouldBlock input budget written
            else
              pure .writeFailed
      else
        pure .ok

/-- How an iteration of the loop ends. -/
inductive WriteIteration where
  | again (written : Nat)
  | returned (status : TransportStatus)

namespace WriteIteration

def resume (loop : Nat → OsProgram TransportStatus) : WriteIteration → OsProgram TransportStatus
  | .again written => loop written
  | .returned status => pure status

def Leaves (Holds : Nat → Prop) (post : TransportStatus → Prop) : WriteIteration → Prop
  | .again written => Holds written
  | .returned status => post status

end WriteIteration

def writeIteration (socket : NativeSocket) (timeout : TransportDuration)
    (transmit : List UInt8 → OsProgram Transferred) (isWouldBlock : Errno → Bool)
    (input : List UInt8) (written : Nat) : OsProgram WriteIteration := do
  let waited ← waitForDescriptor socket false timeout
  if waited ≠ .ok then
    pure (.returned (if waited = .timeout then .timeout else .writeFailed))
  else do
    let chunk ← transmit (input.drop written)
    if chunk.count > 0 then
      pure (.again (written + chunk.count.toNat))
    else if chunk.count = 0 then
      pure (.returned .writeFailed)
    else do
      let error ← lastError chunk.errno
      pure (if isWouldBlock error then .again written else .returned .writeFailed)

section WriteLoop

variable {socket : NativeSocket} {timeout : TransportDuration}
  {transmit : List UInt8 → OsProgram Transferred} {isWouldBlock : Errno → Bool}
  {input : List UInt8}

theorem writeLoop_succ (budget written : Nat) :
    writeLoop socket timeout transmit isWouldBlock input (budget + 1) written =
      if written < input.length then
        writeIteration socket timeout transmit isWouldBlock input written >>=
          WriteIteration.resume (writeLoop socket timeout transmit isWouldBlock input budget)
      else
        pure .ok := by
  rw [writeLoop, writeIteration, bind_assoc]
  split
  · refine congrArg _ (funext fun waited => ?_)
    split
    · rfl
    · rw [bind_assoc]
      refine congrArg _ (funext fun chunk => ?_)
      split
      · rfl
      · split
        · rfl
        · rw [bind_assoc]
          refine congrArg _ (funext fun error => ?_)
          split <;> rfl
  · rfl

/-- The invariant rule of the loop. `Holds budget written` is what holds at the head of
an iteration. -/
theorem writeLoop_meets_of {World : Type} {environment : Environment OsCall OsCall.Answer World}
    {guarantee : Guarantee OsCall World} {post : World → TransportStatus → Prop}
    (Holds : Nat → Nat → World → Prop)
    (completes : ∀ budget written world, Holds budget written world →
      ¬ written < input.length → post world .ok)
    (pauses : ∀ written world, Holds 0 written world → written < input.length →
      guarantee.running world)
    (iterates : ∀ budget written world, Holds (budget + 1) written world →
      written < input.length →
      (writeIteration socket timeout transmit isWouldBlock input written).Meets environment
        guarantee (fun after outcome => outcome.Leaves (Holds budget · after) (post after)) world)
    {budget written : Nat} {world : World} (holds : Holds budget written world) :
    (writeLoop socket timeout transmit isWouldBlock input budget written).Meets environment
      guarantee post world := by
  induction budget generalizing written world with
  | zero =>
      rw [writeLoop]
      split
      · next remaining => exact pauses written world holds remaining
      · next complete => exact completes 0 written world holds complete
  | succ budget ih =>
      rw [writeLoop_succ]
      split
      · next remaining =>
        rw [Program.meets_bind_iff]
        refine (iterates budget written world holds remaining).mono ?_
        intro after outcome left
        cases outcome with
        | again next => exact ih left
        | returned status => exact left
      · next complete => exact completes (budget + 1) written world holds complete

section Calls

variable {allowed : OsCall → Prop}

theorem writeIteration_only (waits : ∀ timeout, allowed (.select socket false timeout))
    (transmits : ∀ slice, (transmit slice).Only allowed) (reads : allowed .errno)
    (written : Nat) :
    (writeIteration socket timeout transmit isWouldBlock input written).Only allowed := by
  rw [writeIteration, waitForDescriptor_bind]
  refine ⟨waits _, fun result => ?_⟩
  dsimp only
  split
  · trivial
  · refine (transmits _).bind fun chunk => ?_
    split
    · trivial
    · split
      · trivial
      · exact (lastError_only reads chunk.errno).bind fun _ => trivial

/-- The calls of the loop are waits and transfers. -/
theorem writeLoop_only (waits : ∀ timeout, allowed (.select socket false timeout))
    (transmits : ∀ slice, (transmit slice).Only allowed) (reads : allowed .errno)
    (budget written : Nat) :
    (writeLoop socket timeout transmit isWouldBlock input budget written).Only allowed := by
  induction budget generalizing written with
  | zero =>
      rw [writeLoop]
      split <;> trivial
  | succ budget ih =>
      rw [writeLoop_succ]
      split
      · refine (writeIteration_only waits transmits reads written).bind fun outcome => ?_
        cases outcome with
        | again next => exact ih next
        | returned status => trivial
      · trivial

end Calls

end WriteLoop

/-- The members that the stream operations of a class use. `release` assigns the
invalid descriptor and clears the open flag. -/
structure StreamMembers (σ : Type) where
  socket : σ → NativeSocket
  isOpen : σ → Bool
  readTimeout : σ → TransportDuration
  writeTimeout : σ → TransportDuration
  release : σ → σ
  isWouldBlock : Errno → Bool
  transmit : NativeSocket → List UInt8 → OsProgram Transferred
  socket_release : ∀ self, socket (release self) = kInvalidSocket
  isOpen_release : ∀ self, isOpen (release self) = false

namespace StreamMembers

attribute [simp] socket_release isOpen_release

variable {σ : Type} (members : StreamMembers σ)

def close (self : σ) : OsProgram (TransportStatus × σ) := do
  if members.socket self ≠ kInvalidSocket then
    closeNativeSocket (members.socket self)
    pure (.ok, members.release self)
  else
    pure (.ok, members.release self)

/-- The part of `ReadSome` after `recv` has returned. -/
def concludeRead (self : σ) (received : Received) : OsProgram (ReadReply × σ) :=
  if received.count > 0 then
    pure (⟨.ok, received.count.toNat, received.bytes⟩, self)
  else if received.count = 0 then do
    let (_, closed) ← members.close self
    pure (⟨.connectionClosed, 0, received.bytes⟩, closed)
  else do
    let error ← lastError received.errno
    pure (⟨if members.isWouldBlock error then .wouldBlock else .readFailed, 0,
      received.bytes⟩, self)

/-- `ReadSome` of the two TCP classes. -/
def readSome (self : σ) (output : OutputBuffer) : OsProgram (ReadReply × σ) :=
  if members.isOpen self = false then
    pure (.empty .notOpen, self)
  else if output.invalid then
    pure (.empty .invalidArgument, self)
  else if output.size = 0 then
    pure (.empty .ok, self)
  else do
    let waited ← waitForDescriptor (members.socket self) true (members.readTimeout self)
    if waited ≠ .ok then
      pure (.empty waited, self)
    else do
      let received ← receiveInt (members.socket self) output.size
      members.concludeRead self received

def writeAll (self : σ) (input : InputBuffer) (budget : Nat) : OsProgram TransportStatus :=
  if members.isOpen self = false then
    pure .notOpen
  else if input.invalid then
    pure .invalidArgument
  else
    writeLoop (members.socket self) (members.writeTimeout self)
      (members.transmit (members.socket self)) members.isWouldBlock input.data budget 0

theorem close_ensures (self : σ) :
    (members.close self).Ensures fun _ outcome => outcome = (.ok, members.release self) := by
  unfold close
  split
  · rw [closeNativeSocket_bind, Program.ensures_call_iff]
    exact fun _ => Program.ensures_done_iff.mpr rfl
  · exact Program.ensures_done_iff.mpr rfl

/-- How a read concludes once `recv` has returned. -/
inductive ConcludeForm (self : σ) (received : Received) : OsProgram (ReadReply × σ) → Prop where
  | delivered : 0 < received.count →
      ConcludeForm self received
        (.done (⟨.ok, received.count.toNat, received.bytes⟩, self))
  | ended : received.count = 0 → members.socket self ≠ kInvalidSocket →
      ConcludeForm self received
        (.call (.close (members.socket self)) fun _ =>
          .done (⟨.connectionClosed, 0, received.bytes⟩, members.release self))
  | endedUnowned : received.count = 0 → members.socket self = kInvalidSocket →
      ConcludeForm self received
        (.done (⟨.connectionClosed, 0, received.bytes⟩, members.release self))
  | failed {error} : received.count < 0 → received.errno = some error →
      ConcludeForm self received
        (.done (⟨if members.isWouldBlock error then .wouldBlock else .readFailed, 0,
          received.bytes⟩, self))
  | unexplained : received.count < 0 → received.errno = none →
      ConcludeForm self received
        (.call .errno fun error =>
          .done (⟨if members.isWouldBlock error then .wouldBlock else .readFailed, 0,
            received.bytes⟩, self))

theorem concludeRead_form (self : σ) (received : Received) :
    members.ConcludeForm self received (members.concludeRead self received) := by
  unfold concludeRead
  split
  · next positive => exact .delivered positive
  · next nonpositive =>
    split
    · next zero =>
      unfold close
      split
      · next owned => exact .ended zero owned
      · next unowned => exact .endedUnowned zero (not_not.mp unowned)
    · next nonzero =>
      have negative : received.count < 0 := by omega
      cases reason : received.errno with
      | some error => exact .failed negative reason
      | none => exact .unexplained negative reason

theorem concludeRead_error (self : σ) {length : Nat} (error : Errno) :
    members.concludeRead self (.ofInt (.error error : Except Errno (Delivery length))) =
      .done (.empty (if members.isWouldBlock error then .wouldBlock else .readFailed), self) :=
  rfl

/-- The replies of a read that makes no call. -/
inductive ReadRefused (self : σ) (output : OutputBuffer) : TransportStatus → Prop where
  | closed : members.isOpen self = false → ReadRefused self output .notOpen
  | invalid : members.isOpen self = true → output.invalid = true →
      ReadRefused self output .invalidArgument
  | empty : members.isOpen self = true → output.invalid = false → output.size = 0 →
      ReadRefused self output .ok

/-- A read either makes no call, or waits and then receives at most once. -/
inductive ReadForm (self : σ) (output : OutputBuffer) : OsProgram (ReadReply × σ) → Prop where
  | refused {status} : members.ReadRefused self output status →
      ReadForm self output (.done (.empty status, self))
  | waiting : members.isOpen self = true → output.invalid = false → output.size ≠ 0 →
      ReadForm self output
        (.call (.select (members.socket self) true (toTimeval (members.readTimeout self)))
          fun (result : Int) =>
            if 0 < result then
              .call (.recv (members.socket self) (throughInt output.size)) fun answer =>
                members.concludeRead self (.ofInt answer)
            else
              .done (.empty (waitStatus true result), self))

theorem readSome_form (self : σ) (output : OutputBuffer) :
    members.ReadForm self output (members.readSome self output) := by
  unfold readSome
  split
  · next closed => exact .refused (.closed closed)
  · next opened =>
    rw [Bool.not_eq_false] at opened
    split
    · next invalid => exact .refused (.invalid opened invalid)
    · next valid =>
      rw [Bool.not_eq_true] at valid
      split
      · next empty => exact .refused (.empty opened valid empty)
      · next nonempty =>
        simp only [waitForDescriptor_bind, receiveInt_bind, ne_eq, waitStatus_eq_ok_iff, ite_not]
        exact .waiting opened valid nonempty

section Calls

variable {allowed : OsCall → Prop}

theorem close_only (self : σ) (closes : allowed (.close (members.socket self))) :
    (members.close self).Only allowed := by
  unfold close
  split
  · exact ⟨closes, fun _ => trivial⟩
  · trivial

theorem concludeRead_only (self : σ) (closes : allowed (.close (members.socket self)))
    (reads : allowed .errno) (received : Received) :
    (members.concludeRead self received).Only allowed := by
  have form := members.concludeRead_form self received
  generalize members.concludeRead self received = program at form
  cases form with
  | delivered | endedUnowned | failed => trivial
  | ended => exact ⟨closes, fun _ => trivial⟩
  | unexplained => exact ⟨reads, fun _ => trivial⟩

theorem readSome_only (self : σ) (output : OutputBuffer)
    (waits : ∀ timeout, allowed (.select (members.socket self) true timeout))
    (receives : ∀ length, allowed (.recv (members.socket self) length))
    (closes : allowed (.close (members.socket self))) (reads : allowed .errno) :
    (members.readSome self output).Only allowed := by
  have form := members.readSome_form self output
  generalize members.readSome self output = program at form
  cases form with
  | refused => trivial
  | waiting =>
      refine ⟨waits _, fun (result : Int) => ?_⟩
      dsimp only
      split
      · exact ⟨receives _, fun answer => members.concludeRead_only self closes reads _⟩
      · trivial

theorem writeAll_only (self : σ) (input : InputBuffer) (budget : Nat)
    (waits : ∀ timeout, allowed (.select (members.socket self) false timeout))
    (transmits : ∀ slice, (members.transmit (members.socket self) slice).Only allowed)
    (reads : allowed .errno) : (members.writeAll self input budget).Only allowed := by
  unfold writeAll
  split
  · trivial
  · split
    · trivial
    · exact writeLoop_only waits transmits reads budget 0

end Calls

end StreamMembers

end DlmsTransport.Transport
