import DlmsTransport.Interaction.Recording
import DlmsTransport.Transport.WriteAllProperties

/-! The write loops end. An iteration that does not leave the loop accepts a byte, or the
OS contradicts itself: it reports the descriptor writable and then refuses to write. -/

set_option autoImplicit false

namespace DlmsTransport.Transport

open Interaction Posix

/-- The wait that begins an iteration. -/
def OsCall.isWait : OsCall → Bool
  | .select _ _ _ => true
  | _ => false

/-- The slice and the length of a call that transfers bytes to the OS. -/
def transfer? : OsCall → Option (List UInt8 × Nat)
  | .send _ slice length | .write _ slice length => some (slice, length)
  | _ => none

/-- A transfer that fails with a would-block error. -/
def contradicts (isWouldBlock : Errno → Bool) : (request : OsCall) → request.Answer → Bool
  | .send _ _ _, .error error => isWouldBlock error
  | .write _ _ _, .error error => isWouldBlock error
  | _, _ => false

/-- The iterations of a write loop, each of which begins with a wait. -/
def iterations (trace : OsTrace) : Nat :=
  trace.countP fun event => OsCall.isWait event.request

def contradictions (isWouldBlock : Errno → Bool) (trace : OsTrace) : Nat :=
  trace.countP fun event => contradicts isWouldBlock event.request event.answer

@[simp] theorem iterations_concat (trace : OsTrace) (event : OsEvent) :
    iterations (trace ++ [event]) =
      iterations trace + if OsCall.isWait event.request then 1 else 0 := by
  rw [iterations, List.countP_append, List.countP_singleton]
  rfl

@[simp] theorem contradictions_concat (isWouldBlock : Errno → Bool) (trace : OsTrace)
    (event : OsEvent) :
    contradictions isWouldBlock (trace ++ [event]) = contradictions isWouldBlock trace +
      if contradicts isWouldBlock event.request event.answer then 1 else 0 := by
  rw [contradictions, List.countP_append, List.countP_singleton]
  rfl

theorem iterations_wait (trace : OsTrace) (socket : NativeSocket) (waitForRead : Bool)
    (timeout : Timeval) (result : Int) :
    iterations (trace ++ [⟨.select socket waitForRead timeout, result⟩]) =
      iterations trace + 1 :=
  iterations_concat trace _

theorem contradictions_wait (isWouldBlock : Errno → Bool) (trace : OsTrace)
    (socket : NativeSocket) (waitForRead : Bool) (timeout : Timeval) (result : Int) :
    contradictions isWouldBlock (trace ++ [⟨.select socket waitForRead timeout, result⟩]) =
      contradictions isWouldBlock trace :=
  contradictions_concat isWouldBlock trace _

/-- One call that asks for the whole slice, and reports a count or an error. -/
def Transfers (isWouldBlock : Errno → Bool) (slice : List UInt8)
    (program : OsProgram Transferred) : Prop :=
  ∃ (request : OsCall) (result : request.Answer → Transferred),
    program = .call request (fun answer => .done (result answer)) ∧
    OsCall.isWait request = false ∧ transfer? request = some (slice, slice.length) ∧
    ∀ answer,
      (∃ count ≤ slice.length, result answer = ⟨count, none⟩ ∧
        contradicts isWouldBlock request answer = false) ∨
      ∃ error, result answer = ⟨-1, some error⟩ ∧
        contradicts isWouldBlock request answer = isWouldBlock error

theorem sendInt_transfers (isWouldBlock : Errno → Bool) (socket : NativeSocket)
    {slice : List UInt8} (fits : slice.length ≤ intMax) :
    Transfers isWouldBlock slice (sendInt socket slice) := by
  refine ⟨_, _, sendInt_eq socket slice, rfl, by rw [throughInt_of_le fits]; rfl, ?_⟩
  intro answer
  cases answer with
  | error error => exact .inr ⟨error, rfl, rfl⟩
  | ok count =>
      have bounded : count.val ≤ slice.length := by
        simpa only [throughInt_of_le fits] using Nat.le_of_lt_succ count.isLt
      exact .inl ⟨count, bounded, Transferred.ofInt_of_le (bounded.trans fits), rfl⟩

theorem writeNative_transfers (isWouldBlock : Errno → Bool) (handle : NativeSocket)
    (slice : List UInt8) : Transfers isWouldBlock slice (writeNative handle slice) := by
  refine ⟨_, _, writeNative_eq handle slice, rfl, rfl, ?_⟩
  intro answer
  cases answer with
  | error error => exact .inr ⟨error, rfl, rfl⟩
  | ok count => exact .inl ⟨count, Nat.le_of_lt_succ count.isLt, rfl, rfl⟩

/-- What a transfer adds to a run: its result is a count or an error, and only a
would-block error is a contradiction. -/
theorem Transfers.meets {isWouldBlock : Errno → Bool} {slice : List UInt8}
    {program : OsProgram Transferred} (transfers : Transfers isWouldBlock slice program)
    {guarantee : Guarantee OsCall OsTrace} {before : OsTrace}
    (permitted : ∀ request, transfer? request = some (slice, slice.length) →
      guarantee.permitted before request) :
    program.Meets recording guarantee
      (fun after chunk => iterations after = iterations before ∧
        ((∃ count ≤ slice.length, chunk = ⟨count, none⟩ ∧
            contradictions isWouldBlock after = contradictions isWouldBlock before) ∨
          ∃ error, chunk = ⟨-1, some error⟩ ∧ contradictions isWouldBlock after =
            contradictions isWouldBlock before + if isWouldBlock error then 1 else 0))
      before := by
  obtain ⟨request, conclude, asked, noWait, whole, answered⟩ := transfers
  rw [asked]
  refine ⟨permitted request whole, ?_⟩
  intro answer after stepped
  obtain rfl := recording_step_iff.mp stepped
  refine ⟨by simp [noWait], ?_⟩
  rcases answered answer with ⟨count, bounded, reply, taken⟩ | ⟨error, reply, refused⟩
  · exact .inl ⟨count, bounded, reply, by simp [taken]⟩
  · exact .inr ⟨error, reply, by simp [refused]⟩

/-- A transfer asks for all that remains of the input, of which something does, and the
wait before it reported the descriptor writable. -/
structure AsksForRest (input : List UInt8) (before : OsTrace) (slice : List UInt8)
    (length : Nat) : Prop where
  rest : ∃ written < input.length, slice = input.drop written ∧ length = input.length - written
  writable : ∃ (socket : NativeSocket) (timeout : Timeval) (result : Int), 0 < result ∧
    before.getLast? = some ⟨.select socket false timeout, result⟩

def ProperRequest (input : List UInt8) (before : OsTrace) (request : OsCall) : Prop :=
  ∀ slice length, transfer? request = some (slice, length) →
    AsksForRest input before slice length

def WithinBound (isWouldBlock : Errno → Bool) (input : List UInt8) (trace : OsTrace) : Prop :=
  iterations trace ≤ input.length + contradictions isWouldBlock trace + 1

/-- What a write loop with `total` iterations to unfold owes while it runs. -/
def bounding (isWouldBlock : Errno → Bool) (input : List UInt8) (total : Nat) :
    Guarantee OsCall OsTrace where
  permitted before request := WithinBound isWouldBlock input before ∧
    ProperRequest input before request
  running before := WithinBound isWouldBlock input before ∧
    total ≤ input.length + contradictions isWouldBlock before

/-- Each iteration so far is paid for by an accepted byte or by a contradiction. -/
structure PaidFor (isWouldBlock : Errno → Bool) (input : List UInt8) (total budget written : Nat)
    (before : OsTrace) : Prop where
  bounded : written ≤ input.length
  spent : iterations before + budget = total
  paid : iterations before ≤ written + contradictions isWouldBlock before

theorem PaidFor.within {isWouldBlock : Errno → Bool} {input : List UInt8}
    {total budget written : Nat} {before : OsTrace}
    (paidFor : PaidFor isWouldBlock input total budget written before) :
    WithinBound isWouldBlock input before := by
  obtain ⟨bounded, _, paid⟩ := paidFor
  unfold WithinBound
  omega

/-- What an iteration makes of the answer to its transfer: it goes on only with a byte
accepted or a contradiction to show for it. -/
private theorem concludeTransfer_paidFor {isWouldBlock : Errno → Bool} {input : List UInt8}
    {total budget written : Nat} {before after : OsTrace}
    (paidFor : PaidFor isWouldBlock input total (budget + 1) written before)
    (counted : iterations after = iterations before + 1) {chunk : Transferred}
    (reply : (∃ count ≤ input.length - written, chunk = ⟨count, none⟩ ∧
        contradictions isWouldBlock after = contradictions isWouldBlock before) ∨
      ∃ error, chunk = ⟨-1, some error⟩ ∧ contradictions isWouldBlock after =
        contradictions isWouldBlock before + if isWouldBlock error then 1 else 0) :
    (if chunk.count > 0 then
        pure (.again (written + chunk.count.toNat))
      else if chunk.count = 0 then
        pure (.returned .writeFailed)
      else do
        let error ← lastError chunk.errno
        pure (if isWouldBlock error then .again written else .returned .writeFailed) :
      OsProgram WriteIteration).Meets recording (bounding isWouldBlock input total)
        (fun after outcome => outcome.Leaves
          (fun next => PaidFor isWouldBlock input total budget next after)
          (fun _ => WithinBound isWouldBlock input after)) after := by
  obtain ⟨bounded, spent, paid⟩ := paidFor
  have within (blamed : contradictions isWouldBlock before ≤ contradictions isWouldBlock after) :
      WithinBound isWouldBlock input after := by
    unfold WithinBound
    omega
  rcases reply with ⟨count, room, rfl, noBlame⟩ | ⟨error, rfl, blame⟩
  · split
    · next advanced =>
      have accepted : 0 < count := by simpa using advanced
      exact ⟨by simp; omega, by omega, by simp; omega⟩
    · next stalled =>
      obtain rfl : count = 0 := by simp at stalled; omega
      exact within noBlame.ge
  · simp only [lastError, Program.pure_eq, Program.done_bind, Int.reduceNeg,
      gt_iff_lt, Int.reduceLT, ↓reduceIte, Int.reduceEq]
    split
    · next again =>
      rw [if_pos again] at blame
      exact ⟨bounded, by omega, by omega⟩
    · exact within (by omega)

/-- An iteration that does not leave the loop pays for itself. -/
theorem writeIteration_paidFor (socket : NativeSocket) (timeout : TransportDuration)
    {transmit : List UInt8 → OsProgram Transferred} {isWouldBlock : Errno → Bool}
    (transfers : ∀ slice, slice.length ≤ intMax → Transfers isWouldBlock slice (transmit slice))
    {input : List UInt8} (fits : input.length ≤ intMax) {total budget written : Nat}
    {before : OsTrace} (paidFor : PaidFor isWouldBlock input total (budget + 1) written before)
    (remaining : written < input.length) :
    (writeIteration socket timeout transmit isWouldBlock input written).Meets recording
      (bounding isWouldBlock input total)
      (fun after outcome => outcome.Leaves
        (fun next => PaidFor isWouldBlock input total budget next after)
        (fun _ => WithinBound isWouldBlock input after)) before := by
  rw [writeIteration, waitForDescriptor_bind]
  refine ⟨⟨paidFor.within, by intro slice length asked; cases asked⟩, ?_⟩
  intro result waited stepped
  obtain rfl := recording_step_iff.mp stepped
  have counted := iterations_wait before socket false (toTimeval timeout) result
  have blameless :=
    contradictions_wait isWouldBlock before socket false (toTimeval timeout) result
  have afterWait : WithinBound isWouldBlock input
      (before ++ [⟨.select socket false (toTimeval timeout), result⟩]) := by
    obtain ⟨bounded, _, paid⟩ := paidFor
    unfold WithinBound
    omega
  dsimp only
  split
  · exact afterWait
  · next ready =>
    have writable : 0 < result := waitStatus_eq_ok_iff.mp (not_not.mp ready)
    rw [Program.meets_bind_iff]
    refine ((transfers (input.drop written) (by simp; omega)).meets ?_).mono ?_
    · intro request whole
      refine ⟨afterWait, ?_⟩
      intro slice length asked
      rw [whole, Option.some.injEq, Prod.mk.injEq] at asked
      obtain ⟨rfl, rfl⟩ := asked
      exact ⟨⟨written, remaining, rfl, List.length_drop⟩,
        socket, toTimeval timeout, result, writable, List.getLast?_concat⟩
    · intro after chunk transferred
      obtain ⟨sameCount, reply⟩ := transferred
      rw [blameless, List.length_drop] at reply
      exact concludeTransfer_paidFor paidFor (sameCount.trans counted) reply

theorem writeLoop_bounded (socket : NativeSocket) (timeout : TransportDuration)
    {transmit : List UInt8 → OsProgram Transferred} {isWouldBlock : Errno → Bool}
    (transfers : ∀ slice, slice.length ≤ intMax → Transfers isWouldBlock slice (transmit slice))
    {input : List UInt8} (fits : input.length ≤ intMax) {total budget written : Nat}
    {before : OsTrace} (paidFor : PaidFor isWouldBlock input total budget written before) :
    (writeLoop socket timeout transmit isWouldBlock input budget written).Meets recording
      (bounding isWouldBlock input total)
      (fun after _ => WithinBound isWouldBlock input after) before := by
  apply writeLoop_meets_of (PaidFor isWouldBlock input total)
  · exact fun _ _ _ held _ => held.within
  · intro written world held _
    have within := held.within
    obtain ⟨bounded, spent, paid⟩ := held
    exact ⟨within, by omega⟩
  · exact fun _ _ _ held remaining =>
      writeIteration_paidFor socket timeout transfers fits held remaining
  · exact paidFor

/-- What it means for a write of the input to end unless the OS contradicts itself for ever.
The argument of `write` is the number of iterations that are unfolded. -/
structure EndsInTime (isWouldBlock : Errno → Bool) (input : List UInt8)
    (write : Nat → OsProgram TransportStatus) : Prop where
  bounded : ∀ budget trace, (write budget).Emits trace → WithinBound isWouldBlock input trace
  requests : ∀ budget, (write budget).EveryCall (ProperRequest input)
  finishes : ∀ (oracle : Oracle OsCall OsCall.Answer) bound budget,
    input.length + bound < budget →
      (∀ trace, (write budget).Emits trace → oracle.Answers [] trace →
        contradictions isWouldBlock trace ≤ bound) →
      ∃ trace status, (write budget).Runs trace status ∧ oracle.Answers [] trace

theorem EndsInTime.of_done {isWouldBlock : Errno → Bool} {input : List UInt8}
    {write : Nat → OsProgram TransportStatus} {status : TransportStatus}
    (refused : ∀ budget, write budget = .done status) : EndsInTime isWouldBlock input write where
  bounded budget trace emitted := by
    rw [refused, Program.emits_done_iff] at emitted
    subst emitted
    exact Nat.zero_le _
  requests budget := by
    rw [refused]
    exact Program.everyCall_done status _
  finishes oracle bound budget _ _ := by
    rw [refused]
    exact ⟨[], status, .refl, trivial⟩

theorem writeLoop_endsInTime (socket : NativeSocket) (timeout : TransportDuration)
    {transmit : List UInt8 → OsProgram Transferred} {isWouldBlock : Errno → Bool}
    (transfers : ∀ slice, slice.length ≤ intMax → Transfers isWouldBlock slice (transmit slice))
    {input : List UInt8} (fits : input.length ≤ intMax) :
    EndsInTime isWouldBlock input
      fun budget => writeLoop socket timeout transmit isWouldBlock input budget 0 := by
  have unpaid (budget : Nat) : PaidFor isWouldBlock input budget budget 0 [] :=
    ⟨Nat.zero_le _, by simp [iterations], by simp [iterations]⟩
  have reaches {budget : Nat} {trace residual}
      (leading : Program.Leads
        (writeLoop socket timeout transmit isWouldBlock input budget 0) trace residual) :=
    (writeLoop_bounded socket timeout transfers fits (unpaid budget)).leads leading
      (recording_follows_iff.mpr rfl)
  constructor
  · intro budget trace emitted
    obtain ⟨residual, leading⟩ := emitted
    have reached := reaches leading
    cases residual with
    | done status => exact reached
    | call request next => exact reached.1.1
    | pending => exact reached.1
  · intro budget trace request next leading
    exact (reaches leading).1.2
  · intro oracle bound budget enough bounded
    obtain ⟨trace, residual, leading, answers, ended⟩ :=
      (writeLoop socket timeout transmit isWouldBlock input budget 0).answered oracle []
    rcases ended with rfl | ⟨status, rfl⟩
    · have spent := (reaches leading).2
      have few := bounded trace ⟨_, leading⟩ answers
      simp only [List.nil_append] at spent
      omega
    · exact ⟨trace, status, leading, answers⟩

theorem StreamMembers.writeAll_endsInTime {σ : Type} (members : StreamMembers σ)
    (transfers : ∀ socket slice, slice.length ≤ intMax →
      Transfers members.isWouldBlock slice (members.transmit socket slice))
    (stream : σ) {input : InputBuffer} (fits : input.size ≤ intMax) :
    EndsInTime members.isWouldBlock input.data (members.writeAll stream input) := by
  cases opened : members.isOpen stream with
  | false => exact .of_done fun budget => by simp only [writeAll, opened, ↓reduceIte]; rfl
  | true =>
      cases invalid : input.invalid with
      | true =>
          exact .of_done fun budget => by
            simp only [writeAll, opened, invalid, Bool.true_eq_false, ↓reduceIte]; rfl
      | false =>
          have writes : members.writeAll stream input = fun budget =>
              writeLoop (members.socket stream) (members.writeTimeout stream)
                (members.transmit (members.socket stream)) members.isWouldBlock input.data
                budget 0 := by
            funext budget
            simp only [writeAll, opened, invalid, Bool.true_eq_false, Bool.false_eq_true,
              ↓reduceIte]
          rw [InputBuffer.size_eq_length invalid] at fits
          rw [writes]
          exact writeLoop_endsInTime _ _ (transfers _) fits

/-- The would-block test of the object's own class. -/
def ByteStream.isWouldBlock : ByteStream → Errno → Bool
  | .tcp _ => TcpStreamTransport.isWouldBlock
  | .accepted _ => AcceptedTcpStream.isWouldBlock
  | .serial _ => SerialTransport.isWouldBlock

theorem nativeWriteAll_endsInTime (handle : NativeSocket) (timeout : TransportDuration)
    {input : List UInt8} (fits : input.length ≤ intMax) :
    EndsInTime SerialTransport.isWouldBlock input (nativeWriteAll handle input timeout) :=
  writeLoop_endsInTime handle timeout
    (fun slice _ => writeNative_transfers SerialTransport.isWouldBlock handle slice) fits

theorem ByteStream.writeAll_endsInTime (stream : ByteStream) {input : InputBuffer}
    (fits : input.size ≤ intMax) :
    EndsInTime stream.isWouldBlock input.data (stream.writeAll input) := by
  cases stream with
  | tcp stream =>
      exact TcpStreamTransport.members.writeAll_endsInTime
        (fun socket _ short => sendInt_transfers _ socket short) stream fits
  | accepted stream =>
      exact AcceptedTcpStream.members.writeAll_endsInTime
        (fun socket _ short => sendInt_transfers _ socket short) stream fits
  | serial stream =>
      have ends := SerialTransport.members.writeAll_endsInTime
        (fun handle slice _ => writeNative_transfers _ handle slice) stream fits
      have same : (ByteStream.serial stream).writeAll input =
          SerialTransport.members.writeAll stream input :=
        funext (SerialTransport.writeAll_eq stream input)
      rw [same]
      exact ends

/-- The write loops end unless the OS reports for ever that a descriptor is writable and
then refuses to write. -/
theorem writes_end {input : InputBuffer} (fits : input.size ≤ intMax) :
    (∀ stream : ByteStream,
        EndsInTime stream.isWouldBlock input.data (stream.writeAll input)) ∧
      ∀ handle timeout, EndsInTime SerialTransport.isWouldBlock input.data
        (nativeWriteAll handle input.data timeout) := by
  refine ⟨fun stream => stream.writeAll_endsInTime fits, ?_⟩
  intro handle timeout
  apply nativeWriteAll_endsInTime
  cases input with
  | null size => exact Nat.zero_le _
  | bytes data => exact fits

theorem writes_end_interrupted :
    ((ByteStream.tcp meterStream).writeAll (.bytes [7, 8, 9]) 3).Runs
        interruptedWrite.trace .timeout ∧
      iterations interruptedWrite.trace = 3 ∧
      contradictions TcpStreamTransport.isWouldBlock interruptedWrite.trace = 1 ∧
      WithinBound TcpStreamTransport.isWouldBlock [7, 8, 9] interruptedWrite.trace := by
  have run : ((ByteStream.tcp meterStream).writeAll (.bytes [7, 8, 9]) 3).Runs
      interruptedWrite.trace .timeout :=
    .call (.call (.call (.call (.call .refl))))
  have fits : (InputBuffer.bytes [7, 8, 9]).size ≤ intMax := by decide
  have ends := (writes_end fits).1 (.tcp meterStream)
  exact ⟨run, rfl, rfl, ends.bounded 3 interruptedWrite.trace run.emits⟩

end DlmsTransport.Transport
