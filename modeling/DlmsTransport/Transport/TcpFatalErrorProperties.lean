import DlmsTransport.Transport.WriteAllProperties

/-! Which reads and writes of the TCP client stream fail fatally, and what the
stream does about it: it stays open. -/

set_option autoImplicit false

namespace DlmsTransport.Transport

open Interaction Posix

/-- An answer that a read or write reports as a fatal I/O error: a failed wait, a
transfer that fails for another reason than would-block, or a send of nothing. -/
def FatalAnswer : (request : OsCall) → request.Answer → Prop
  | .select _ _ _, result => result < 0
  | .recv _ _, .error error => TcpStreamTransport.isWouldBlock error = false
  | .send _ _ _, .error error => TcpStreamTransport.isWouldBlock error = false
  | .send _ _ _, .ok count => toInt count.val = 0
  | .errno, error => TcpStreamTransport.isWouldBlock error = false
  | _, _ => False

def SuffersFatal (trace : OsTrace) : Prop :=
  ∃ event ∈ trace, FatalAnswer event.request event.answer

@[simp] theorem not_suffersFatal_nil : ¬ SuffersFatal [] := by simp [SuffersFatal]

@[simp] theorem suffersFatal_cons_iff {event : OsEvent} {rest : OsTrace} :
    SuffersFatal (event :: rest) ↔
      FatalAnswer event.request event.answer ∨ SuffersFatal rest := by
  simp [SuffersFatal]

@[simp] theorem suffersFatal_append_iff {front back : OsTrace} :
    SuffersFatal (front ++ back) ↔ SuffersFatal front ∨ SuffersFatal back := by
  simp [SuffersFatal, or_and_right, exists_or]

def FailsFatally (received : Received) : Prop :=
  received.count < 0 ∧
    ∃ error, received.errno = some error ∧ TcpStreamTransport.isWouldBlock error = false

private theorem concludeRead_ensures (self : TcpStreamTransport) (received : Received) :
    (TcpStreamTransport.members.concludeRead self received).Ensures fun trace outcome =>
      (outcome.1.status = .readFailed ↔ FailsFatally received ∨ SuffersFatal trace) ∧
        (FailsFatally received ∨ SuffersFatal trace → outcome.2 = self) := by
  have form := TcpStreamTransport.members.concludeRead_form self received
  generalize TcpStreamTransport.members.concludeRead self received = program at form
  cases form with
  | delivered positive =>
      have settled : ¬ received.count < 0 := by omega
      simp [FailsFatally, settled]
  | ended zero _ =>
      rw [Program.ensures_call_iff]
      simp [FailsFatally, zero, FatalAnswer]
  | endedUnowned zero _ => simp [FailsFatally, zero]
  | failed negative reason =>
      rename_i error
      cases blocked : TcpStreamTransport.isWouldBlock error <;>
        simp [FailsFatally, negative, reason, TcpStreamTransport.members, blocked]
  | unexplained negative reason =>
      rw [Program.ensures_call_iff]
      intro error
      cases blocked : TcpStreamTransport.isWouldBlock error <;>
        simp [FatalAnswer, FailsFatally, reason, TcpStreamTransport.members, blocked]

private theorem failsFatally_ofInt_iff {length : Nat} (socket : NativeSocket)
    (answer : Except Errno (Delivery length)) :
    FailsFatally (.ofInt answer) ↔ FatalAnswer (.recv socket length) answer := by
  cases answer <;> simp [FailsFatally, Received.ofInt, FatalAnswer]

/-- A read fails fatally exactly when it suffers a fatal answer, and then it
leaves the stream as it was. -/
theorem TcpStreamTransport.readSome_ensures (self : TcpStreamTransport) (output : OutputBuffer) :
    (self.readSome output).Ensures fun trace outcome =>
      (outcome.1.status = .readFailed ↔ SuffersFatal trace) ∧
        (SuffersFatal trace → self.open_ = true ∧ outcome.2 = self) := by
  have form := members.readSome_form self output
  unfold readSome
  generalize members.readSome self output = program at form
  cases form with
  | refused refusal => cases refusal <;> simp
  | waiting opened =>
      have opened : self.open_ = true := opened
      rw [Program.ensures_call_iff]
      intro (result : Int)
      have waitFatal : FatalAnswer (.select (members.socket self) true
          (toTimeval (members.readTimeout self))) result ↔ result < 0 := Iff.rfl
      split
      · next ready =>
        have settled : ¬ result < 0 := by omega
        rw [Program.ensures_call_iff]
        intro answer
        refine (concludeRead_ensures self (.ofInt answer)).mono ?_
        rw [failsFatally_ofInt_iff (members.socket self)]
        intro trace outcome concluded
        simp only [suffersFatal_cons_iff, waitFatal, settled, false_or, opened, true_and]
        exact concluded
      · next unready =>
        simp only [Program.ensures_done_iff, suffersFatal_cons_iff, not_suffersFatal_nil,
          or_false, waitFatal, opened, and_self, implies_true, and_true]
        exact waitStatus_eq_readFailed_iff

def StopsFatally (chunk : Transferred) : Prop :=
  chunk.count = 0 ∨ chunk.count < 0 ∧
    ∃ error, chunk.errno = some error ∧ TcpStreamTransport.isWouldBlock error = false

private theorem stopsFatally_ofInt_iff {length : Nat} (socket : NativeSocket)
    (slice : List UInt8) (answer : Except Errno (Fin (length + 1))) :
    StopsFatally (.ofInt answer) ↔ FatalAnswer (.send socket slice length) answer := by
  cases answer <;> simp [StopsFatally, Transferred.ofInt, FatalAnswer]

/-- What a piece of the loop says of the fatal answers behind it. -/
def WriteIteration.Tells (fatal : Prop) (outcome : WriteIteration) : Prop :=
  outcome.Leaves (fun _ => ¬ fatal) fun status => status = .writeFailed ↔ fatal

private theorem concludeSend_tells {chunk : Transferred} (failed : chunk.count < 0)
    (written : Nat) :
    (do
        let error ← lastError chunk.errno
        pure (if TcpStreamTransport.isWouldBlock error then .again written
          else .returned .writeFailed) : OsProgram WriteIteration).Ensures fun trace outcome =>
      outcome.Tells (StopsFatally chunk ∨ SuffersFatal trace) := by
  obtain ⟨count, errno⟩ := chunk
  have nonzero : count ≠ 0 := Int.ne_of_lt failed
  cases errno with
  | some error =>
      refine Program.ensures_done_iff.mpr ?_
      cases blocked : TcpStreamTransport.isWouldBlock error <;>
        simp [WriteIteration.Tells, WriteIteration.Leaves, StopsFatally, nonzero, failed, blocked]
  | none =>
      rw [lastError, Program.ask_bind, Program.ensures_call_iff]
      intro error
      refine Program.ensures_done_iff.mpr ?_
      cases blocked : TcpStreamTransport.isWouldBlock error <;>
        simp [WriteIteration.Tells, WriteIteration.Leaves, StopsFatally, FatalAnswer, nonzero,
          blocked]

private theorem writeIteration_tells (socket : NativeSocket) (timeout : TransportDuration)
    (input : List UInt8) (written : Nat) :
    (writeIteration socket timeout (sendInt socket) TcpStreamTransport.isWouldBlock input
      written).Ensures fun trace outcome => outcome.Tells (SuffersFatal trace) := by
  rw [writeIteration, waitForDescriptor_bind, Program.ensures_call_iff]
  intro (result : Int)
  have waitFatal : FatalAnswer (.select socket false (toTimeval timeout)) result ↔ result < 0 :=
    Iff.rfl
  split
  · next unready =>
    rw [ne_eq, waitStatus_eq_ok_iff] at unready
    simp only [Program.pure_eq, Program.ensures_done_iff, WriteIteration.Tells,
      WriteIteration.Leaves, suffersFatal_cons_iff, waitFatal, waitStatus_eq_timeout_iff,
      not_suffersFatal_nil, or_false]
    split <;> simp <;> omega
  · next ready =>
    rw [ne_eq, not_not, waitStatus_eq_ok_iff] at ready
    have settled : ¬ result < 0 := by omega
    simp only [suffersFatal_cons_iff, waitFatal, settled, false_or]
    rw [sendInt_eq, Program.call_bind, Program.ensures_call_iff]
    intro answer
    simp only [suffersFatal_cons_iff, Program.done_bind, ← stopsFatally_ofInt_iff]
    generalize Transferred.ofInt answer = chunk
    split
    · next positive =>
      have unstopped : ¬ StopsFatally chunk := by
        simp only [StopsFatally]
        omega
      exact Program.ensures_done_iff.mpr (by
        simpa [WriteIteration.Tells, WriteIteration.Leaves] using unstopped)
    · split
      · next zero =>
        have stopped : StopsFatally chunk := .inl zero
        exact Program.ensures_done_iff.mpr (iff_of_true rfl (.inl stopped))
      · next nonpositive nonzero =>
        have failed : chunk.count < 0 := by omega
        exact concludeSend_tells failed written

private theorem writeLoop_ensures (socket : NativeSocket) (timeout : TransportDuration)
    (input : List UInt8) (budget written : Nat) :
    (writeLoop socket timeout (sendInt socket) TcpStreamTransport.isWouldBlock input budget
      written).Ensures fun trace status => status = .writeFailed ↔ SuffersFatal trace := by
  induction budget generalizing written with
  | zero =>
      rw [writeLoop]
      split <;> simp
  | succ budget ih =>
      rw [writeLoop_succ]
      split
      · rw [Program.ensures_bind_iff]
        refine (writeIteration_tells socket timeout input written).mono ?_
        intro front outcome tells
        cases outcome with
        | again written =>
            have unharmed : ¬ SuffersFatal front := tells
            simpa [WriteIteration.resume, unharmed] using ih written
        | returned status =>
            have told : status = .writeFailed ↔ SuffersFatal front := tells
            simpa [WriteIteration.resume] using told
      · simp

theorem TcpStreamTransport.writeAll_ensures (self : TcpStreamTransport) (input : InputBuffer)
    (budget : Nat) :
    (self.writeAll input budget).Ensures fun trace status =>
      (status = .writeFailed ↔ SuffersFatal trace) ∧
        (SuffersFatal trace → self.open_ = true) := by
  simp only [writeAll, StreamMembers.writeAll]
  split
  · simp
  · next opened =>
    split
    · simp
    · refine (writeLoop_ensures _ _ _ _ _).mono ?_
      intro trace status outcome
      exact ⟨outcome, fun _ => by simpa [members] using opened⟩

/-- `ReadSome` returned `ReadFailed` or `WriteAll` returned `WriteFailed`. -/
def ReportsFatal (invocation : TcpInvocation) : Prop :=
  (∃ output, invocation.method = .readSome output ∧
    invocation.reply.status? = some .readFailed) ∨
  ∃ input budget, invocation.method = .writeAll input budget ∧
    invocation.reply.status? = some .writeFailed

theorem TcpStreamTransport.reportsFatal_iff {invocation : TcpInvocation}
    (run : Program.Runs (invocation.before.invoke invocation.method) invocation.trace
      (invocation.reply, invocation.after)) :
    (ReportsFatal invocation ↔
      invocation.method.transfers = true ∧ SuffersFatal invocation.trace) ∧
    (ReportsFatal invocation → invocation.before.open_ = true ∧
      invocation.after = invocation.before) := by
  obtain ⟨before, method, trace, reply, after⟩ := invocation
  dsimp only at run ⊢
  cases method with
  | «open» => simp [ReportsFatal, StreamMethod.transfers]
  | close => simp [ReportsFatal, StreamMethod.transfers]
  | isOpen => simp [ReportsFatal, StreamMethod.transfers]
  | readSome output =>
      obtain ⟨⟨read, same⟩, reading, mapped⟩ := Program.runs_map_iff.mp run
      obtain ⟨rfl, rfl⟩ := Prod.mk.inj mapped
      obtain ⟨failed, kept⟩ := before.readSome_ensures output trace _ reading
      have reports : ReportsFatal ⟨before, .readSome output, trace, .read read, same⟩ ↔
          SuffersFatal trace := by
        simpa [ReportsFatal, StreamReply.status?] using failed
      exact ⟨by simpa [StreamMethod.transfers] using reports, fun fatal => kept (reports.mp fatal)⟩
  | writeAll input budget =>
      obtain ⟨status, writing, mapped⟩ := Program.runs_map_iff.mp run
      obtain ⟨rfl, rfl⟩ := Prod.mk.inj mapped
      obtain ⟨failed, opened⟩ := before.writeAll_ensures input budget trace status writing
      have reports : ReportsFatal ⟨before, .writeAll input budget, trace, .status status, before⟩ ↔
          SuffersFatal trace := by
        simpa [ReportsFatal, StreamReply.status?] using failed
      exact ⟨by simpa [StreamMethod.transfers] using reports,
        fun fatal => ⟨opened (reports.mp fatal), rfl⟩⟩

/-- Fatal errors close the stream, and no later write puts bytes behind a message
that a failed write left incomplete on the same connection. -/
structure ClosesOnFatal (history : List TcpInvocation) : Prop where
  closes : ∀ invocation ∈ history, ReportsFatal invocation →
    invocation.before.isOpen = true → invocation.after.isOpen = false
  nothingBehind : ∀ front failed middle later back input budget,
    history = front ++ failed :: middle ++ later :: back →
    failed.method = .writeAll input budget → failed.reply = .status .writeFailed →
    accepted failed.trace ≠ [] → accepted failed.trace ≠ input.data →
    (∀ between ∈ middle, ¬ OpensConnection between) →
    (∃ input budget, later.method = .writeAll input budget) →
    later.reply = .status .notOpen ∧ accepted later.trace = []

/-- A run closes the stream on its fatal errors exactly when it has none: no
answer that the OS gives a read or a write is a fatal one. -/
theorem closesOnFatal_iff {start final : TcpStreamTransport} {history : List TcpInvocation}
    (session : Session TcpStreamTransport.invoke start history final) :
    ClosesOnFatal history ↔
      ∀ invocation ∈ history, invocation.method.transfers = true →
        ¬ SuffersFatal invocation.trace := by
  have reports (invocation : TcpInvocation) (member : invocation ∈ history) :=
    TcpStreamTransport.reportsFatal_iff (session.runs_of_mem member)
  constructor
  · intro closing invocation member transfers suffers
    obtain ⟨fatal, kept⟩ := reports invocation member
    have reported := fatal.mpr ⟨transfers, suffers⟩
    obtain ⟨opened, unchanged⟩ := kept reported
    have closed := closing.closes invocation member reported opened
    rw [unchanged, TcpStreamTransport.isOpen, opened] at closed
    contradiction
  · intro harmless
    have unreported (invocation : TcpInvocation) (member : invocation ∈ history) :
        ¬ ReportsFatal invocation := by
      intro reported
      obtain ⟨transfers, suffers⟩ := (reports invocation member).1.mp reported
      exact harmless invocation member transfers suffers
    constructor
    · intro invocation member reported
      exact absurd reported (unreported invocation member)
    · intro front failed middle later back input budget split method reply
      have member : failed ∈ history := by simp [split]
      refine absurd (.inr ⟨input, budget, method, ?_⟩) (unreported failed member)
      simp [reply, StreamReply.status?]

def brokenWrite : TcpInvocation where
  before := meterStream
  method := .writeAll (.bytes [1, 2]) 2
  trace :=
    [⟨.select 3 false ⟨5, 0⟩, (1 : Int)⟩, ⟨.send 3 [1, 2] 2, .ok 1⟩,
      ⟨.select 3 false ⟨5, 0⟩, (-1 : Int)⟩]
  reply := .status .writeFailed
  after := meterStream

def writeBehind : TcpInvocation where
  before := meterStream
  method := .writeAll (.bytes [9]) 2
  trace := [⟨.select 3 false ⟨5, 0⟩, (1 : Int)⟩, ⟨.send 3 [9] 1, .ok 1⟩]
  reply := .status .ok
  after := meterStream

theorem brokenRun :
    Session TcpStreamTransport.invoke (.new meterOptions) [meterOpen, brokenWrite, writeBehind]
      meterStream :=
  .cons meterOpen_runs (.cons (.call (.call (.call .refl))) (.cons (.call (.call .refl)) .nil))

/-- After the failed write the stream is still open, and the next write sends its
byte behind the incomplete message. -/
theorem closesOnFatal_brokenRun :
    Session TcpStreamTransport.invoke (.new meterOptions) [meterOpen, brokenWrite, writeBehind]
      meterStream ∧
    accepted brokenWrite.trace = [1] ∧ accepted writeBehind.trace = [9] ∧
    ¬ ClosesOnFatal [meterOpen, brokenWrite, writeBehind] := by
  refine ⟨brokenRun, rfl, rfl, ?_⟩
  intro closing
  have refused := closing.nothingBehind [meterOpen] brokenWrite [] writeBehind [] _ _ rfl rfl rfl
    (by decide) (by decide) (by simp) ⟨_, _, rfl⟩
  exact absurd refused.1 (by decide)

def closedByPeer : TcpInvocation where
  before := meterStream
  method := .readSome ⟨false, 4⟩
  trace := [⟨.select 3 true ⟨5, 0⟩, (1 : Int)⟩, ⟨.recv 3 4, .ok ⟨[], by decide⟩⟩, ⟨.close 3, ()⟩]
  reply := .read ⟨.connectionClosed, 0, []⟩
  after := .new meterOptions

theorem closesOnFatal_iff_closedByPeer :
    ClosesOnFatal [meterOpen, closedByPeer] := by
  have session : Session TcpStreamTransport.invoke (.new meterOptions) [meterOpen, closedByPeer]
      (.new meterOptions) :=
    .cons meterOpen_runs (.cons (.call (.call (.call .refl))) .nil)
  apply (closesOnFatal_iff session).mpr
  simp [meterOpen, closedByPeer, StreamMethod.transfers, FatalAnswer]

end DlmsTransport.Transport
