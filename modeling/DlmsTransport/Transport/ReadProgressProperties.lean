import DlmsTransport.Interaction.Session
import DlmsTransport.Transport.ByteStream
import Mathlib.Algebra.BigOperators.Group.List.Basic

/-! Whether a read that returns `Ok` has read something. The OS answers a
non-empty request with no bytes when a peer has closed or a device has gone; the
socket classes close then, and the serial one returns `Ok`. -/

set_option autoImplicit false

namespace DlmsTransport.Transport

open Interaction Posix

def AnswersEnd : (request : OsCall) → request.Answer → Prop
  | .recv _ length, .ok bytes => length ≠ 0 ∧ bytes.val = []
  | .read _ length, .ok bytes => length ≠ 0 ∧ bytes.val = []
  | _, _ => False

/-- The OS reports the end of input for a non-empty request. -/
def EndsInput (trace : OsTrace) : Prop :=
  ∃ event ∈ trace, AnswersEnd event.request event.answer

def AnswersHangUp : (request : OsCall) → request.Answer → Prop
  | .read _ length, .ok bytes => length ≠ 0 ∧ bytes.val = []
  | _, _ => False

/-- A device answers a non-empty request with no bytes. -/
def HangsUp (trace : OsTrace) : Prop :=
  ∃ event ∈ trace, AnswersHangUp event.request event.answer

@[simp] theorem not_endsInput_nil : ¬ EndsInput [] := by simp [EndsInput]

@[simp] theorem endsInput_cons_iff {event : OsEvent} {rest : OsTrace} :
    EndsInput (event :: rest) ↔ AnswersEnd event.request event.answer ∨ EndsInput rest := by
  simp [EndsInput]

@[simp] theorem not_hangsUp_nil : ¬ HangsUp [] := by simp [HangsUp]

@[simp] theorem hangsUp_cons_iff {event : OsEvent} {rest : OsTrace} :
    HangsUp (event :: rest) ↔ AnswersHangUp event.request event.answer ∨ HangsUp rest := by
  simp [HangsUp]

/-- What a read owes a caller who reads until it has enough or fails. -/
structure ReadProgress (trace : OsTrace) (reply : ReadReply) (isOpen : Bool) : Prop where
  advances : reply.status = .ok → 1 ≤ reply.bytesRead
  ends : EndsInput trace → reply.status ≠ .ok ∧ isOpen = false

theorem ReadProgress.of_failed {trace : OsTrace} {reply : ReadReply} {isOpen : Bool}
    (failed : reply.status ≠ .ok) (goesOn : ¬ EndsInput trace) :
    ReadProgress trace reply isOpen :=
  ⟨fun ok => absurd ok failed, fun ended => absurd ended goesOn⟩

namespace StreamMembers

variable {σ : Type} (members : StreamMembers σ)

private theorem concludeRead_progress (self : σ) {output : OutputBuffer}
    (answer : Except Errno (Delivery (throughInt output.size))) :
    (members.concludeRead self (.ofInt answer)).Ensures fun back outcome =>
      ¬ HangsUp back ∧
        ReadProgress (⟨.recv (members.socket self) (throughInt output.size), answer⟩ :: back)
          outcome.1 (members.isOpen outcome.2) := by
  have form := members.concludeRead_form self (.ofInt answer)
  generalize members.concludeRead self (.ofInt answer) = program at form
  have goesOn (counted : (Received.ofInt answer).count ≠ 0) : ¬ AnswersEnd
      (.recv (members.socket self) (throughInt output.size)) answer := by
    cases answer with
    | error => exact not_false
    | ok bytes =>
        obtain ⟨bytes, bounded⟩ := bytes
        intro ends
        obtain ⟨_, rfl⟩ := ends
        exact counted (by simp [Received.ofInt, toInt])
  have refused : TransportStatus.connectionClosed ≠ .ok := by decide
  cases form with
  | delivered positive =>
      refine Program.ensures_done_iff.mpr ⟨not_hangsUp_nil, fun _ => ?_, fun ended => ?_⟩
      · exact Int.lt_toNat.mpr positive
      · simp [goesOn positive.ne'] at ended
  | ended zero =>
      rw [Program.ensures_call_iff]
      intro closed
      refine Program.ensures_done_iff.mpr
        ⟨by simp [AnswersHangUp], fun ok => absurd ok refused, fun _ => ⟨refused, ?_⟩⟩
      exact members.isOpen_release self
  | endedUnowned zero =>
      refine Program.ensures_done_iff.mpr
        ⟨not_hangsUp_nil, fun ok => absurd ok refused, fun _ => ⟨refused, ?_⟩⟩
      exact members.isOpen_release self
  | @failed error negative =>
      refine Program.ensures_done_iff.mpr
        ⟨not_hangsUp_nil, .of_failed ?_ (by simp [goesOn negative.ne])⟩
      dsimp only
      split <;> simp
  | unexplained negative =>
      rw [Program.ensures_call_iff]
      intro error
      refine Program.ensures_done_iff.mpr ⟨by simp [AnswersHangUp], .of_failed ?_ fun ended => ?_⟩
      · dsimp only
        split <;> simp
      · rw [endsInput_cons_iff, or_iff_right (goesOn negative.ne), endsInput_cons_iff] at ended
        exact ended.elim id not_endsInput_nil

/-- The two socket classes keep the law whatever the OS answers. -/
theorem readSome_progress (self : σ) {output : OutputBuffer} (asked : output.size ≠ 0) :
    (members.readSome self output).Ensures fun trace outcome =>
      ¬ HangsUp trace ∧ ReadProgress trace outcome.1 (members.isOpen outcome.2) := by
  have form := members.readSome_form self output
  generalize members.readSome self output = program at form
  cases form with
  | refused refusal =>
      refine Program.ensures_done_iff.mpr ⟨not_hangsUp_nil, .of_failed ?_ not_endsInput_nil⟩
      cases refusal with
      | closed => simp
      | invalid => simp
      | empty _ _ empty => exact absurd empty asked
  | waiting =>
      rw [Program.ensures_call_iff]
      intro (result : Int)
      split
      · rw [Program.ensures_call_iff]
        intro answer
        refine (members.concludeRead_progress self answer).mono fun back outcome kept => ?_
        obtain ⟨steady, progress⟩ := kept
        exact ⟨by simpa [AnswersHangUp] using steady,
          progress.advances, by simpa [AnswersEnd] using progress.ends⟩
      · next unready =>
        refine Program.ensures_done_iff.mpr ⟨by simp [AnswersHangUp], .of_failed ?_ ?_⟩
        · simpa using unready
        · simp [AnswersEnd]

end StreamMembers

/-- `NativeRead` returns `Ok` for whatever a device answers, and leaves it open. -/
theorem nativeRead_progress (handle : NativeSocket) {outputSize : Nat} (asked : outputSize ≠ 0)
    (timeout : TransportDuration) :
    (nativeRead handle outputSize timeout).Ensures fun trace reply =>
      ReadProgress trace reply true ↔ ¬ HangsUp trace := by
  rw [nativeRead, waitForDescriptor_bind, Program.ensures_call_iff]
  intro (result : Int)
  split
  · next unready =>
    refine Program.ensures_done_iff.mpr (iff_of_true (.of_failed unready ?_) ?_)
    · simp [AnswersEnd]
    · simp [AnswersHangUp]
  · rw [Program.ask_bind, Program.ensures_call_iff]
    intro answer
    cases answer with
    | error error =>
        refine Program.ensures_done_iff.mpr (iff_of_true (.of_failed ?_ ?_) ?_)
        · dsimp only [ReadReply.status_empty]
          split <;> simp
        · simp [AnswersEnd]
        · simp [AnswersHangUp]
    | ok bytes =>
        refine Program.ensures_done_iff.mpr ?_
        by_cases hangsUp : bytes.val = []
        · refine iff_of_false (fun progress => ?_) (fun steady => steady ?_)
          · have advances : 1 ≤ bytes.val.length := progress.advances rfl
            simp [hangsUp] at advances
          · simp [AnswersHangUp, asked, hangsUp]
        · refine iff_of_true ⟨fun _ => List.length_pos_of_ne_nil hangsUp, fun ended => ?_⟩ ?_
          · simp [AnswersEnd, hangsUp] at ended
          · simp [AnswersHangUp, hangsUp]

/-- The serial class keeps the law unless the device hangs up. -/
theorem SerialTransport.readSome_progress (self : SerialTransport) {output : OutputBuffer}
    (asked : output.size ≠ 0) :
    (self.readSome output).Ensures fun trace outcome =>
      ReadProgress trace outcome.1 outcome.2.isOpen ↔ ¬ HangsUp trace := by
  have refused {status : TransportStatus} (failed : status ≠ .ok) :
      ReadProgress [] (.empty status) self.isOpen ↔ ¬ HangsUp [] :=
    iff_of_true (.of_failed failed not_endsInput_nil) not_hangsUp_nil
  unfold readSome
  split
  · exact Program.ensures_done_iff.mpr (refused (by simp))
  · next opened =>
    split
    · exact Program.ensures_done_iff.mpr (refused (by simp))
    · rw [Program.ensures_bind_iff]
      refine (nativeRead_progress self.handle_ asked _).mono fun trace reply kept => ?_
      refine Program.ensures_done_iff.mpr ?_
      rw [List.append_nil, isOpen, Bool.not_eq_false _ |>.mp opened]
      exact kept

theorem ByteStream.readSome_progress (self : ByteStream) {output : OutputBuffer}
    (asked : output.size ≠ 0) :
    (self.readSome output).Ensures fun trace outcome =>
      ReadProgress trace outcome.1 outcome.2.isOpen ↔ ¬ HangsUp trace := by
  cases self with
  | tcp stream =>
      refine Program.ensures_map_iff.mpr ?_
      refine (TcpStreamTransport.members.readSome_progress stream asked).mono ?_
      exact fun trace outcome kept => iff_of_true kept.2 kept.1
  | accepted stream =>
      refine Program.ensures_map_iff.mpr ?_
      refine (AcceptedTcpStream.members.readSome_progress stream asked).mono ?_
      exact fun trace outcome kept => iff_of_true kept.2 kept.1
  | serial stream => exact Program.ensures_map_iff.mpr (stream.readSome_progress asked)

abbrev StreamRead := Invocation ByteStream OutputBuffer OsCall OsCall.Answer ReadReply

/-- Over any run of reads on any of the three classes, each read keeps the law
exactly when no device hangs up on it, and a caller who reads until something
fails gets a byte for every read. -/
theorem reads_progress_iff {stream final : ByteStream} {reads : List StreamRead}
    (session : Session ByteStream.readSome stream reads final)
    (asked : ∀ read ∈ reads, read.method.size ≠ 0) :
    (∀ read ∈ reads, ReadProgress read.trace read.reply read.after.isOpen ↔
      ¬ HangsUp read.trace) ∧
    ((∀ read ∈ reads, ¬ HangsUp read.trace) → (∀ read ∈ reads, read.reply.status = .ok) →
      reads.length ≤ (reads.map (·.reply.bytesRead)).sum) := by
  have each : ∀ read ∈ reads, ReadProgress read.trace read.reply read.after.isOpen ↔
      ¬ HangsUp read.trace := fun read member =>
    read.before.readSome_progress (asked read member) _ _ (session.runs_of_mem member)
  refine ⟨each, fun steady succeeded => ?_⟩
  rw [← List.length_map]
  apply List.length_le_sum_of_one_le
  intro count listed
  obtain ⟨read, member, rfl⟩ := List.mem_map.mp listed
  exact ((each read member).mpr (steady read member)).advances (succeeded read member)

def serialOptions : SerialTransportOptions where
  deviceName := "/dev/ttyUSB0"

def openSerial : SerialTransport := ⟨serialOptions, 3, true⟩

def serialRead (bytes : Delivery 4) (reply : ReadReply) : StreamRead where
  before := .serial openSerial
  method := ⟨false, 4⟩
  trace := [⟨.select 3 true ⟨5, 0⟩, (1 : Int)⟩, ⟨.read 3 4, .ok bytes⟩]
  reply := reply
  after := .serial openSerial

theorem reads_progress_iff_byte :
    ReadProgress (serialRead ⟨[126], by decide⟩ ⟨.ok, 1, [126]⟩).trace ⟨.ok, 1, [126]⟩ true ∧
      [serialRead ⟨[126], by decide⟩ ⟨.ok, 1, [126]⟩].length ≤ 1 := by
  have session : Session ByteStream.readSome (.serial openSerial)
      [serialRead ⟨[126], by decide⟩ ⟨.ok, 1, [126]⟩] (.serial openSerial) :=
    .cons (.call (.call .refl)) .nil
  have steady : ∀ read ∈ [serialRead ⟨[126], by decide⟩ ⟨.ok, 1, [126]⟩], ¬ HangsUp read.trace := by
    simp [serialRead, AnswersHangUp]
  obtain ⟨each, advances⟩ := reads_progress_iff session (by simp [serialRead])
  refine ⟨(each _ (.head _)).mpr (steady _ (.head _)), ?_⟩
  exact advances steady (by simp [serialRead])

/-- A device that hangs up is read as `Ok` with no bytes, and stays open. -/
theorem reads_progress_hangUp :
    (SerialTransport.new serialOptions).open.Runs [⟨.openDevice "/dev/ttyUSB0", some 3⟩]
        (.ok, openSerial) ∧
      Session ByteStream.readSome (.serial openSerial)
        [serialRead ⟨[], by decide⟩ ⟨.ok, 0, []⟩] (.serial openSerial) ∧
      ¬ ReadProgress (serialRead ⟨[], by decide⟩ ⟨.ok, 0, []⟩).trace ⟨.ok, 0, []⟩
        (ByteStream.serial openSerial).isOpen := by
  refine ⟨.call .refl, .cons (.call (.call .refl)) .nil, fun progress => ?_⟩
  exact absurd (progress.advances rfl) (by decide)

end DlmsTransport.Transport
