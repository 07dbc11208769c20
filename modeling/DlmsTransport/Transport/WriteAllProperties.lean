import DlmsTransport.Transport.ByteStream
import DlmsTransport.Interaction.Session
import Mathlib.Data.List.TakeDrop

/-! Byte-exact writing. The OS may split, refuse or fail every transfer; the
bytes it accepts are still a prefix of the input, in order. -/

set_option autoImplicit false

namespace DlmsTransport.Transport

open Interaction Posix

/-- The bytes the OS took over in one call: a count answered to a transfer
accepts exactly that many bytes from the start of the slice it was given. -/
def acceptedBytes : (request : OsCall) → request.Answer → List UInt8
  | .send _ slice _, .ok count => slice.take count.val
  | .write _ slice _, .ok count => slice.take count.val
  | _, _ => []

def accepted (trace : OsTrace) : List UInt8 :=
  trace.flatMap fun event => acceptedBytes event.request event.answer

@[simp] theorem accepted_nil : accepted [] = [] := rfl

@[simp] theorem accepted_append (front back : OsTrace) :
    accepted (front ++ back) = accepted front ++ accepted back := by
  simp [accepted]

theorem accepted_sessionTrace {State Method Reply : Type}
    (history : List (Invocation State Method OsCall OsCall.Answer Reply)) :
    accepted (sessionTrace history) =
      (history.map fun invocation => accepted invocation.trace).flatten := by
  induction history with
  | nil => rfl
  | cons invocation rest ih => simp [ih]

/-- The observer that answers anything and collects the accepted bytes. -/
def acceptance : Environment OsCall OsCall.Answer (List UInt8) where
  step before request answer after := after = before ++ acceptedBytes request answer

theorem acceptance_follows_iff {before after : List UInt8} {trace : OsTrace} :
    acceptance.Follows before trace after ↔ after = before ++ accepted trace := by
  induction trace generalizing before with
  | nil => simp [eq_comm]
  | cons event rest ih =>
      have stepped (middle : List UInt8) :
          acceptance.step before event.request event.answer middle ↔
            middle = before ++ acceptedBytes event.request event.answer := Iff.rfl
      simp [stepped, ih, accepted]

/-- A transfer function that reports, for slices an `int` can measure, exactly
the count the OS accepted, and `-1` with an `errno` otherwise. -/
def FaithfulTransfer (transmit : List UInt8 → OsProgram Transferred) : Prop :=
  ∀ (slice before : List UInt8) (property : List UInt8 → Prop),
    slice.length ≤ intMax → property before →
      (transmit slice).Meets acceptance (.always property)
        (fun after result =>
          (∃ count ≤ slice.length, after = before ++ slice.take count ∧ result = ⟨count, none⟩) ∨
            (after = before ∧ ∃ error, result = ⟨-1, some error⟩))
        before

theorem sendInt_faithful (socket : NativeSocket) : FaithfulTransfer (sendInt socket) := by
  intro slice before property fits holds
  rw [sendInt_eq]
  refine ⟨holds, ?_⟩
  intro answer after stepped
  cases answer with
  | error error =>
      exact .inr ⟨by simpa [acceptance, acceptedBytes] using stepped, error, rfl⟩
  | ok count =>
      have bounded : count.val ≤ slice.length := by
        simpa only [throughInt_of_le fits] using Nat.le_of_lt_succ count.isLt
      refine .inl ⟨count, bounded, stepped, ?_⟩
      simp only [Transferred.ofInt, toInt_of_le (Nat.le_trans bounded fits)]

theorem writeNative_faithful (handle : NativeSocket) : FaithfulTransfer (writeNative handle) := by
  intro slice before property _ holds
  rw [writeNative_eq]
  refine ⟨holds, ?_⟩
  intro answer after stepped
  cases answer with
  | error error =>
      exact .inr ⟨by simpa [acceptance, acceptedBytes] using stepped, error, rfl⟩
  | ok count =>
      exact .inl ⟨count, Nat.le_of_lt_succ count.isLt, stepped, rfl⟩

/-- The statuses of a write loop, given how much of the input was accepted. -/
def WriteReturns (input : List UInt8) (world : List UInt8) (status : TransportStatus) : Prop :=
  ∃ sent ≤ input.length, world = input.take sent ∧ (status = .ok ↔ sent = input.length) ∧
    (status = .ok ∨ status = .timeout ∨ status = .writeFailed)

/-- An iteration accepts the bytes behind the offset, as many as it advances by. -/
private theorem writeIteration_meets (socket : NativeSocket) (timeout : TransportDuration)
    {transmit : List UInt8 → OsProgram Transferred} (faithful : FaithfulTransfer transmit)
    (isWouldBlock : Errno → Bool) {input : List UInt8} (fits : input.length ≤ intMax)
    {written : Nat} (remaining : written < input.length) :
    (writeIteration socket timeout transmit isWouldBlock input written).Meets acceptance
      (.always fun world => ∃ sent ≤ input.length, world = input.take sent)
      (fun world outcome => outcome.Leaves
        (fun next => next ≤ input.length ∧ world = input.take next) (WriteReturns input world))
      (input.take written) := by
  have bounded := remaining.le
  have standing : ∃ sent ≤ input.length, input.take written = input.take sent :=
    ⟨written, bounded, rfl⟩
  rw [writeIteration, waitForDescriptor_bind]
  refine ⟨standing, ?_⟩
  intro result world stepped
  obtain rfl : world = input.take written := by
    simpa [acceptance, acceptedBytes] using stepped
  dsimp only
  split
  · refine ⟨written, bounded, rfl, ?_, ?_⟩
    · split <;> simp <;> omega
    · split <;> simp
  · rw [Program.meets_bind_iff]
    refine (faithful (input.drop written) (input.take written) _ (by simp; omega)
      standing).mono ?_
    intro world chunk took
    rcases took with ⟨count, countBounded, rfl, rfl⟩ | ⟨rfl, error, rfl⟩
    · have advanced : input.take written ++ (input.drop written).take count =
          input.take (written + count) := (List.take_add ..).symm
      simp only [List.length_drop] at countBounded
      rw [advanced]
      split
      · exact ⟨by simp; omega, by simp⟩
      · next stalled =>
        obtain rfl : count = 0 := by simp at stalled; omega
        exact ⟨written, bounded, rfl, by simp; omega, by simp⟩
    · simp only [lastError, Program.pure_eq, Program.done_bind, Int.reduceNeg,
        gt_iff_lt, Int.reduceLT, ↓reduceIte, Int.reduceEq]
      split
      · exact ⟨bounded, rfl⟩
      · exact ⟨written, bounded, rfl, by simp; omega, by simp⟩

/-- From offset `written` the loop extends the accepted prefix of the input, and
it returns `Ok` exactly when the prefix is the whole input. -/
theorem writeLoop_meets (socket : NativeSocket) (timeout : TransportDuration)
    {transmit : List UInt8 → OsProgram Transferred} (faithful : FaithfulTransfer transmit)
    (isWouldBlock : Errno → Bool) (input : List UInt8) (fits : input.length ≤ intMax)
    (budget written : Nat) (bounded : written ≤ input.length) :
    (writeLoop socket timeout transmit isWouldBlock input budget written).Meets acceptance
      (.always fun world => ∃ sent ≤ input.length, world = input.take sent)
      (WriteReturns input) (input.take written) := by
  apply writeLoop_meets_of fun _ written world =>
    written ≤ input.length ∧ world = input.take written
  · intro budget written world held complete
    obtain ⟨bounded, rfl⟩ := held
    exact ⟨written, bounded, rfl, by simp; omega, .inl rfl⟩
  · intro written world held _
    exact ⟨written, held⟩
  · intro budget written world held remaining
    obtain ⟨_, rfl⟩ := held
    exact writeIteration_meets socket timeout faithful isWouldBlock fits remaining
  · exact ⟨bounded, rfl⟩

private theorem writeLoop_empty (socket : NativeSocket) (timeout : TransportDuration)
    (transmit : List UInt8 → OsProgram Transferred) (isWouldBlock : Errno → Bool)
    (budget : Nat) :
    writeLoop socket timeout transmit isWouldBlock [] budget 0 = .done .ok := by
  cases budget <;> rfl

/-- A write either is refused before any call, or is the loop over a faithful
transfer function. -/
inductive WriteForm (input : InputBuffer) (budget : Nat) : Bool → OsProgram TransportStatus → Prop
  | closed : WriteForm input budget false (.done .notOpen)
  | rejected : input.invalid = true → WriteForm input budget true (.done .invalidArgument)
  | loop {socket timeout transmit isWouldBlock} : input.invalid = false →
      FaithfulTransfer transmit → WriteForm input budget true
        (writeLoop socket timeout transmit isWouldBlock input.data budget 0)

theorem StreamMembers.writeAll_form {σ : Type} (members : StreamMembers σ)
    (faithful : ∀ socket, FaithfulTransfer (members.transmit socket)) (self : σ)
    (input : InputBuffer) (budget : Nat) :
    WriteForm input budget (members.isOpen self) (members.writeAll self input budget) := by
  cases opened : members.isOpen self with
  | false =>
      simp only [writeAll, opened, ↓reduceIte, Program.pure_eq]
      exact .closed
  | true =>
      cases invalid : input.invalid with
      | true =>
          simp only [writeAll, opened, invalid, Bool.true_eq_false, ↓reduceIte, Program.pure_eq]
          exact .rejected invalid
      | false =>
          simp only [writeAll, opened, invalid, Bool.true_eq_false, Bool.false_eq_true,
            ↓reduceIte]
          exact .loop invalid (faithful _)

/-- The early return of the serial class for an empty input is what its loop
would return as well. -/
theorem SerialTransport.writeAll_eq (self : SerialTransport) (input : InputBuffer)
    (budget : Nat) : self.writeAll input budget = members.writeAll self input budget := by
  by_cases empty : input.invalid = false ∧ input.size = 0
  · obtain ⟨valid, empty⟩ := empty
    have noBytes : input.data = [] := by
      rw [InputBuffer.size_eq_length valid] at empty
      exact List.eq_nil_of_length_eq_zero empty
    simp [writeAll, StreamMembers.writeAll, members, valid, empty, noBytes, writeLoop_empty]
  · simp only [writeAll, StreamMembers.writeAll, members, nativeWriteAll]
    cases valid : input.invalid with
    | true => rfl
    | false => simp_all

theorem ByteStream.writeAll_form (self : ByteStream) (input : InputBuffer) (budget : Nat) :
    WriteForm input budget self.isOpen (self.writeAll input budget) := by
  cases self with
  | tcp stream =>
      exact TcpStreamTransport.members.writeAll_form sendInt_faithful stream input budget
  | accepted stream =>
      exact AcceptedTcpStream.members.writeAll_form sendInt_faithful stream input budget
  | serial stream =>
      have form := SerialTransport.members.writeAll_form writeNative_faithful stream input budget
      rw [← SerialTransport.writeAll_eq] at form
      exact form

/-- What a completed write says about the bytes the OS accepted from it. -/
structure WriteOutcome (isOpen : Bool) (input : InputBuffer) (status : TransportStatus)
    (trace : OsTrace) : Prop where
  leading : accepted trace <+: input.data
  ok_iff : status = .ok ↔
    isOpen = true ∧ input.invalid = false ∧ accepted trace = input.data
  proper : status = .timeout ∨ status = .writeFailed → accepted trace ≠ input.data
  silent : status = .notOpen ∨ status = .invalidArgument → trace = []

theorem WriteForm.outcome {input : InputBuffer} {budget : Nat} {isOpen : Bool}
    {program : OsProgram TransportStatus} (form : WriteForm input budget isOpen program)
    (fits : input.size ≤ intMax) {trace : OsTrace} {status : TransportStatus}
    (run : program.Runs trace status) : WriteOutcome isOpen input status trace := by
  cases form with
  | closed =>
      obtain ⟨rfl, rfl⟩ := Program.runs_done_iff.mp run
      exact ⟨by simp, by simp, by simp, fun _ => rfl⟩
  | rejected invalid =>
      obtain ⟨rfl, rfl⟩ := Program.runs_done_iff.mp run
      exact ⟨by simp, by simp [invalid], by simp, fun _ => rfl⟩
  | loop valid faithful =>
      rw [InputBuffer.size_eq_length valid] at fits
      obtain ⟨sent, bounded, taken, okIff, statuses⟩ :=
        (writeLoop_meets _ _ faithful _ input.data fits budget 0 (Nat.zero_le _)).runs run
          (acceptance_follows_iff.mpr rfl)
      simp only [List.take_zero, List.nil_append] at taken
      have whole : accepted trace = input.data ↔ sent = input.data.length := by
        rw [taken, List.take_eq_self_iff]
        omega
      refine ⟨taken ▸ List.take_prefix sent input.data, ?_, ?_, ?_⟩
      · simp [valid, whole, okIff]
      · rintro (rfl | rfl) <;> simp [whole, ← okIff]
      · rintro (rfl | rfl) <;> simp at statuses

theorem WriteForm.unfinished {input : InputBuffer} {budget : Nat} {isOpen : Bool}
    {program : OsProgram TransportStatus} (form : WriteForm input budget isOpen program)
    (fits : input.size ≤ intMax) {trace : OsTrace} (emitted : program.Emits trace) :
    accepted trace <+: input.data := by
  cases form with
  | closed => simp_all
  | rejected invalid => simp_all
  | loop valid faithful =>
      rw [InputBuffer.size_eq_length valid] at fits
      obtain ⟨sent, bounded, taken⟩ :=
        (writeLoop_meets _ _ faithful _ input.data fits budget 0 (Nat.zero_le _)).always
          (by rintro world status ⟨sent, bounded, taken, _⟩; exact ⟨sent, bounded, taken⟩)
          emitted (acceptance_follows_iff.mpr rfl)
      simp only [List.take_zero, List.nil_append] at taken
      exact taken ▸ List.take_prefix sent input.data

def WritesOnly (history : List (Invocation ByteStream StreamMethod OsCall OsCall.Answer
    StreamReply)) : Prop :=
  ∀ invocation ∈ history, ∃ input budget,
    invocation.method = .writeAll input budget ∧ input.size ≤ intMax

theorem ByteStream.runs_writeAll_iff {self after : ByteStream} {input : InputBuffer}
    {budget : Nat} {trace : OsTrace} {reply : StreamReply} :
    (self.invoke (.writeAll input budget)).Runs trace (reply, after) ↔
      ∃ status, (self.writeAll input budget).Runs trace status ∧
        reply = .status status ∧ after = self := by
  simp only [invoke, Program.runs_map_iff, Prod.mk.injEq]
  constructor
  · intro invoked
    obtain ⟨status, run, rfl, rfl⟩ := invoked
    exact ⟨status, run, rfl, rfl⟩
  · intro written
    obtain ⟨status, run, rfl, rfl⟩ := written
    exact ⟨status, run, rfl, rfl⟩

/-- Writing over whole runs is byte-exact. After any sequence of `WriteAll`
calls, the last of which may be unfinished, the OS has accepted one prefix of
each call's input, concatenated in call order. -/
theorem writeAll_session_exact {stream final : ByteStream}
    {history : List (Invocation ByteStream StreamMethod OsCall OsCall.Answer StreamReply)}
    (session : Session ByteStream.invoke stream history final) (writes : WritesOnly history) :
    final = stream ∧
      accepted (sessionTrace history) =
        (history.map fun invocation => accepted invocation.trace).flatten ∧
      (∀ invocation ∈ history, ∃ input budget status,
        invocation.method = .writeAll input budget ∧ invocation.reply = .status status ∧
          WriteOutcome stream.isOpen input status invocation.trace) ∧
      ∀ input budget trace, input.size ≤ intMax →
        (final.writeAll input budget).Emits trace →
          ∃ sent, sent <+: input.data ∧
            accepted (sessionTrace history ++ trace) = accepted (sessionTrace history) ++ sent := by
  have each : final = stream ∧ ∀ invocation ∈ history, ∃ input budget status,
      invocation.method = .writeAll input budget ∧ invocation.reply = .status status ∧
        WriteOutcome stream.isOpen input status invocation.trace := by
    induction session with
    | nil => exact ⟨rfl, by simp⟩
    | cons run _ ih =>
        obtain ⟨input, budget, rfl, fits⟩ := writes _ List.mem_cons_self
        obtain ⟨status, written, rfl, rfl⟩ := ByteStream.runs_writeAll_iff.mp run
        obtain ⟨unchanged, rest⟩ := ih fun invocation member =>
          writes invocation (List.mem_cons_of_mem _ member)
        refine ⟨unchanged, List.forall_mem_cons.mpr ⟨?_, rest⟩⟩
        exact ⟨input, budget, status, rfl, rfl,
          (ByteStream.writeAll_form _ input budget).outcome fits written⟩
  refine ⟨each.1, accepted_sessionTrace history, each.2, ?_⟩
  intro input budget trace fits emitted
  exact ⟨accepted trace, (final.writeAll_form input budget).unfinished fits emitted,
    accepted_append _ _⟩

def interruptedWrite : Invocation ByteStream StreamMethod OsCall OsCall.Answer StreamReply where
  before := .tcp meterStream
  method := .writeAll (.bytes [7, 8, 9]) 3
  trace :=
    [⟨.select 3 false ⟨5, 0⟩, (1 : Int)⟩, ⟨.send 3 [7, 8, 9] 3, .error .eagain⟩,
      ⟨.select 3 false ⟨5, 0⟩, (1 : Int)⟩, ⟨.send 3 [7, 8, 9] 3, .ok 2⟩,
      ⟨.select 3 false ⟨5, 0⟩, (0 : Int)⟩]
  reply := .status .timeout
  after := .tcp meterStream

theorem interruptedWrite_session :
    Session ByteStream.invoke (.tcp meterStream) [interruptedWrite]
      (.tcp meterStream) :=
  .cons (.call (.call (.call (.call (.call .refl))))) .nil

theorem writeAll_session_exact_interrupted :
    accepted (sessionTrace [interruptedWrite]) = [7, 8] ∧
      ∃ input budget status, interruptedWrite.method = .writeAll input budget ∧
        interruptedWrite.reply = .status status ∧
          WriteOutcome true input status interruptedWrite.trace := by
  have writes : WritesOnly [interruptedWrite] := by
    intro invocation member
    obtain rfl := List.mem_singleton.mp member
    exact ⟨_, _, rfl, by decide⟩
  exact ⟨rfl, (writeAll_session_exact interruptedWrite_session writes).2.2.1 _
    List.mem_cons_self⟩

end DlmsTransport.Transport
