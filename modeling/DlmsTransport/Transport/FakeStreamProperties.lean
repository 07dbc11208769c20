import DlmsTransport.Interaction.Lockstep
import DlmsTransport.Transport.Fakes
import DlmsTransport.Transport.TcpStream

/-! The scripted byte stream beside a TCP client stream whose OS follows the same
script. The two agree except where the fake looks at its script before it looks
at the size of the request, where it stays open after a peer close, and where
the length of the request does not fit the OS call. -/

set_option autoImplicit false

namespace DlmsTransport.Transport

open Interaction Posix

inductive ScriptedFailure where
  | timeout
  | wouldBlock
  | readFailed
  | connectionClosed
  deriving DecidableEq, Repr

def ScriptedFailure.status : ScriptedFailure → TransportStatus
  | .timeout => .timeout
  | .wouldBlock => .wouldBlock
  | .readFailed => .readFailed
  | .connectionClosed => .connectionClosed

/-- What the OS is to do: the chunks it will deliver, and how it fails first. -/
structure ScriptedSocket where
  chunks : List (List UInt8)
  failure : Option ScriptedFailure
  nonempty : ∀ chunk ∈ chunks, chunk ≠ []

namespace ScriptedSocket

def unscripted : ScriptedSocket := ⟨[], none, by simp⟩

def failed (self : ScriptedSocket) : ScriptedSocket := { self with failure := none }

/-- The chunks left once the front one has been read with a length. -/
def consume (length : Nat) : List (List UInt8) → List (List UInt8)
  | [] => []
  | chunk :: rest => if length < chunk.length then chunk.drop length :: rest else rest

/-- The OS calls of a read, answered by the script: the failure if one is set,
otherwise what fits of the front chunk, otherwise would-block. -/
def socket : Environment OsCall OsCall.Answer ScriptedSocket where
  step before
    | .select _ _ _, result, after =>
        (before.failure = some .timeout ∧ result = 0 ∧ after = before.failed) ∨
        (before.failure = some .readFailed ∧ result < 0 ∧ after = before.failed) ∨
        (before.failure ≠ some .timeout ∧ 0 < result ∧ after = before)
    | .recv _ length, .ok bytes, after =>
        (before.failure = some .connectionClosed ∧ bytes.val = [] ∧ after = before.failed) ∨
        (before.failure = none ∧ ∃ chunk ∈ before.chunks.head?, bytes.val = chunk.take length ∧
          after.chunks = consume length before.chunks ∧ after.failure = none)
    | .recv _ _, .error error, after =>
        (before.failure = some .wouldBlock ∧ TcpStreamTransport.isWouldBlock error = true ∧
          after = before.failed) ∨
        (before.failure = some .readFailed ∧ TcpStreamTransport.isWouldBlock error = false ∧
          after = before.failed) ∨
        (before.failure = none ∧ before.chunks = [] ∧
          TcpStreamTransport.isWouldBlock error = true ∧ after = before)
    | _, _, after => after = before

end ScriptedSocket

/-- What is added to the script, of the OS and of the fake alike. -/
inductive ScriptInput where
  | chunk (bytes : List UInt8) (nonempty : bytes ≠ [])
  | failure (failure : ScriptedFailure)

def ScriptedSocket.takesIn (_stream : TcpStreamTransport) (before : ScriptedSocket) :
    ScriptInput → ScriptedSocket → Prop
  | .chunk bytes _, after =>
      after.chunks = before.chunks ++ [bytes] ∧ after.failure = before.failure
  | .failure failure, after => after = { before with failure := some failure }

def FakeByteStream.hear (self : FakeByteStream) : ScriptInput → FakeByteStream
  | .chunk bytes _ => self.scriptRead bytes
  | .failure failure => self.scriptNextReadStatus failure.status

/-- The operations that read a stream or end it. -/
inductive ReaderMethod where
  | close
  | isOpen
  | readSome (output : OutputBuffer)
  deriving DecidableEq, Repr

def ReaderMethod.stream : ReaderMethod → StreamMethod
  | .close => .close
  | .isOpen => .isOpen
  | .readSome output => .readSome output

def FakeByteStream.double :
    Double ScriptInput TcpStreamTransport ReaderMethod OsCall OsCall.Answer StreamReply
      FakeByteStream where
  hear := hear
  prepare fake _ _ := fake
  perform fake method := fake.perform method.stream
  Alike stream fake := stream.isOpen = fake.isOpen

def TcpStreamTransport.invokeReader (self : TcpStreamTransport) (method : ReaderMethod) :
    OsProgram (StreamReply × TcpStreamTransport) :=
  self.invoke method.stream

abbrev ReaderEncounter :=
  Encounter TcpStreamTransport ScriptedSocket ReaderMethod OsCall OsCall.Answer StreamReply

abbrev ReaderTurn :=
  Turn ScriptInput TcpStreamTransport ScriptedSocket ReaderMethod OsCall OsCall.Answer StreamReply

/-- Where a read of the fake does what a read of the socket does. A request for no
bytes needs a chunk that it leaves alone; any other must not meet a peer close,
nor have its length changed on the way to the OS. -/
def ScriptedSocket.ServesAlike (script : ScriptedSocket) (output : OutputBuffer) : Prop :=
  if output.size = 0 then
    script.failure = none ∧ script.chunks ≠ []
  else
    script.failure ≠ some .connectionClosed ∧
      (script.failure = none → ∀ chunk ∈ script.chunks.head?,
        min (throughInt output.size) chunk.length = min output.size chunk.length ∧
          min output.size chunk.length ≤ intMax)

/-- Only a read that passes the checks looks at the script. -/
def ReadsAlike (encounter : ReaderEncounter) : Prop :=
  ∀ output, encounter.method = .readSome output → encounter.before.isOpen = true →
    output.invalid = false → encounter.worldBefore.ServesAlike output

namespace ScriptedSocket

/-- The ways a read can end that asks the OS for `length` bytes. A reply is garbled
when the caller does not get the count that the OS returned. -/
inductive Serves (before : ScriptedSocket) (self : TcpStreamTransport) (length : Nat) :
    ReadReply → TcpStreamTransport → ScriptedSocket → Prop where
  | failed {failure} : before.failure = some failure → failure ≠ .connectionClosed →
      Serves before self length (.empty failure.status) self before.failed
  | ended : before.failure = some .connectionClosed →
      Serves before self length (.empty .connectionClosed)
        (TcpStreamTransport.members.release self) before.failed
  | drained : before.failure = none → before.chunks = [] →
      Serves before self length (.empty .wouldBlock) self before
  | delivered {chunk after} : before.failure = none → chunk ∈ before.chunks.head? →
      0 < length → min length chunk.length ≤ intMax →
      after.chunks = consume length before.chunks → after.failure = none →
      Serves before self length ⟨.ok, min length chunk.length, chunk.take length⟩ self after
  | garbled {chunk reply final after} : before.failure = none → chunk ∈ before.chunks.head? →
      length = 0 ∨ intMax < min length chunk.length →
      reply.status ≠ .ok ∨ reply.bytesRead ≠ reply.output.length →
      Serves before self length reply final after

variable {before after : ScriptedSocket} {self : TcpStreamTransport} {length : Nat}
  {chunk : List UInt8}

private theorem concludeRead_delivers (clear : before.failure = none)
    (front : chunk ∈ before.chunks.head?) (asked : 0 < length)
    (fits : min length chunk.length ≤ intMax)
    (consumed : after.chunks = consume length before.chunks) (still : after.failure = none) :
    Program.Meets socket (.always fun _ => True)
      (fun final outcome => before.Serves self length outcome.1 outcome.2 final)
      (TcpStreamTransport.members.concludeRead self
        ⟨(min length chunk.length : Nat), chunk.take length, none⟩) after := by
  have nonempty : 0 < chunk.length :=
    List.length_pos_of_ne_nil (before.nonempty chunk (List.mem_of_mem_head? front))
  have counted : (0 : Int) < (min length chunk.length : Nat) := by omega
  have form := TcpStreamTransport.members.concludeRead_form self
    ⟨(min length chunk.length : Nat), chunk.take length, none⟩
  generalize TcpStreamTransport.members.concludeRead self
    ⟨(min length chunk.length : Nat), chunk.take length, none⟩ = program at form
  cases form with
  | delivered => exact .delivered clear front asked fits consumed still
  | ended none | endedUnowned none => exact absurd none counted.ne'
  | failed negative | unexplained negative => exact absurd negative counted.not_gt

private theorem concludeRead_garbles (clear : before.failure = none)
    (front : chunk ∈ before.chunks.head?) {count : Int} {bytes : List UInt8}
    (beyond : length = 0 ∨ intMax < min length chunk.length)
    (cut : 0 < count → count.toNat ≠ bytes.length) :
    Program.Meets socket (.always fun _ => True)
      (fun final outcome => before.Serves self length outcome.1 outcome.2 final)
      (TcpStreamTransport.members.concludeRead self ⟨count, bytes, none⟩) after := by
  have form := TcpStreamTransport.members.concludeRead_form self ⟨count, bytes, none⟩
  generalize TcpStreamTransport.members.concludeRead self ⟨count, bytes, none⟩ = program at form
  have unsuccessful {error : Errno} :
      (if TcpStreamTransport.members.isWouldBlock error then TransportStatus.wouldBlock
        else .readFailed) ≠ .ok := by split <;> simp
  cases form with
  | delivered counted => exact .garbled clear front beyond (.inr (cut counted))
  | ended => exact ⟨trivial, fun _ _ _ => .garbled clear front beyond (.inl nofun)⟩
  | endedUnowned => exact .garbled clear front beyond (.inl nofun)
  | failed => exact .garbled clear front beyond (.inl unsuccessful)
  | unexplained =>
      exact ⟨trivial, fun _ _ _ => .garbled clear front beyond (.inl unsuccessful)⟩

private theorem concludeRead_receives {count : Int} {bytes : List UInt8}
    (clear : before.failure = none) (front : chunk ∈ before.chunks.head?)
    (taken : bytes = chunk.take length) (returned : count = toInt bytes.length)
    (consumed : after.chunks = consume length before.chunks) (still : after.failure = none) :
    Program.Meets socket (.always fun _ => True)
      (fun final outcome => before.Serves self length outcome.1 outcome.2 final)
      (TcpStreamTransport.members.concludeRead self ⟨count, bytes, none⟩) after := by
  have counted : bytes.length = min length chunk.length := by
    rw [taken, List.length_take]
  rw [counted] at returned
  by_cases exact : 0 < length ∧ min length chunk.length ≤ intMax
  · rw [returned, toInt_of_le exact.2, taken]
    exact concludeRead_delivers clear front exact.1 exact.2 consumed still
  · have beyond : length = 0 ∨ intMax < min length chunk.length := by omega
    apply concludeRead_garbles clear front beyond
    intro positive
    have bounded := toInt_le (min length chunk.length : Nat)
    rw [counted]
    rcases beyond with rfl | large
    · simp [returned, toInt] at positive
    · omega

private theorem concludeRead_ends (failure : before.failure = some .connectionClosed) :
    Program.Meets socket (.always fun _ => True)
      (fun final outcome => before.Serves self length outcome.1 outcome.2 final)
      (TcpStreamTransport.members.concludeRead self ⟨toInt ([] : List UInt8).length, [], none⟩)
      before.failed := by
  have form := TcpStreamTransport.members.concludeRead_form self
    ⟨toInt ([] : List UInt8).length, [], none⟩
  generalize TcpStreamTransport.members.concludeRead self
    ⟨toInt ([] : List UInt8).length, [], none⟩ = program at form
  cases form with
  | ended =>
      refine ⟨trivial, fun _ final same => ?_⟩
      obtain rfl := same
      exact .ended failure
  | endedUnowned => exact .ended failure
  | delivered some | failed some | unexplained some => exact absurd some (by decide)

private theorem answered_serves {fd : Int} {answer : Except Errno (Delivery length)}
    (stepped : socket.step before (.recv fd length) answer after)
    (due : before.failure ≠ some .timeout) {received : Received} (same : received = .ofInt answer) :
    Program.Meets socket (.always fun _ => True)
      (fun final outcome => before.Serves self length outcome.1 outcome.2 final)
      (TcpStreamTransport.members.concludeRead self received) after := by
  cases answer with
  | error error =>
      have own : TcpStreamTransport.members.isWouldBlock = TcpStreamTransport.isWouldBlock := rfl
      rw [same, StreamMembers.concludeRead_error, own]
      rcases stepped with ⟨failure, blocked, rfl⟩ | ⟨failure, hard, rfl⟩ |
        ⟨clear, none, blocked, rfl⟩
      · rw [if_pos blocked]
        exact .failed failure nofun
      · rw [if_neg (by simp [hard])]
        exact .failed failure nofun
      · rw [if_pos blocked]
        exact .drained clear none
  | ok bytes =>
      rcases stepped with ⟨failure, empty, rfl⟩ | ⟨clear, chunk, front, taken, consumed, still⟩
      · rw [same, Received.ofInt, empty]
        exact concludeRead_ends failure
      · have reply : received = ⟨toInt bytes.val.length, bytes.val, none⟩ := same
        obtain ⟨count, returned⟩ : ∃ count, count = toInt bytes.val.length := ⟨_, rfl⟩
        rw [← returned] at reply
        rw [reply]
        exact concludeRead_receives clear front taken returned consumed still

/-- A read of the socket that passes the checks follows the script. -/
theorem readSome_serves (opened : self.open_ = true) {output : OutputBuffer}
    (valid : output.invalid = false) (asked : output.size ≠ 0) :
    Program.Meets socket (.always fun _ => True)
      (fun after outcome =>
        before.Serves self (throughInt output.size) outcome.1 outcome.2 after)
      (self.readSome output) before := by
  have form := TcpStreamTransport.members.readSome_form self output
  unfold TcpStreamTransport.readSome
  generalize TcpStreamTransport.members.readSome self output = program at form
  cases form with
  | refused refusal =>
      cases refusal with
      | closed closed => exact absurd closed (by simp [TcpStreamTransport.members, opened])
      | invalid _ invalid => simp [valid] at invalid
      | empty _ _ empty => exact absurd empty asked
  | waiting =>
      refine ⟨trivial, fun (result : Int) after stepped => ?_⟩
      dsimp only
      rcases stepped with ⟨failure, rfl, rfl⟩ | ⟨failure, negative, rfl⟩ | ⟨due, ready, rfl⟩
      · exact .failed failure nofun
      · rw [if_neg negative.not_gt, waitStatus_eq_readFailed_iff.mpr negative]
        exact .failed failure nofun
      · rw [if_pos ready]
        refine ⟨trivial, fun answer after stepped => ?_⟩
        exact answered_serves stepped due rfl

end ScriptedSocket

/-- The fake that a script stands for. -/
def ScriptedSocket.fake (script : ScriptedSocket) (open_ : Bool) : FakeByteStream where
  open_
  readChunks_ := script.chunks
  writes_ := []
  nextReadStatus_ := script.failure.elim .ok ScriptedFailure.status
  nextWriteStatus_ := .ok

namespace ScriptedSocket

variable {script : ScriptedSocket} {output : OutputBuffer}

private theorem fake_failed (valid : output.invalid = false) {failure : ScriptedFailure}
    (scripted : script.failure = some failure) :
    (script.fake true).readSome output = (.empty failure.status, script.failed.fake true) := by
  cases failure <;> simp [fake, failed, scripted, valid, FakeByteStream.readSome,
    ScriptedFailure.status]

private theorem fake_drained (valid : output.invalid = false) (clear : script.failure = none)
    (drained : script.chunks = []) :
    (script.fake true).readSome output = (.empty .wouldBlock, script.fake true) := by
  simp [fake, clear, drained, valid, FakeByteStream.readSome]

private theorem fake_delivers (valid : output.invalid = false) (clear : script.failure = none)
    {chunk : List UInt8} (front : chunk ∈ script.chunks.head?) :
    (script.fake true).readSome output =
      (⟨.ok, min output.size chunk.length, chunk.take (min output.size chunk.length)⟩,
        { script.fake true with
          readChunks_ := consume (min output.size chunk.length) script.chunks }) := by
  obtain ⟨rest, chunks⟩ := List.head?_eq_some_iff.mp front
  have within : min output.size chunk.length ≤ chunk.length := Nat.min_le_right _ _
  simp only [fake, clear, chunks, valid, FakeByteStream.readSome, consume]
  rcases Nat.lt_or_eq_of_le within with partly | whole
  · simp [partly, partly.ne]
  · simp [whole]

private theorem consume_min (length : Nat) {chunk : List UInt8}
    (front : chunk ∈ script.chunks.head?) :
    consume (min length chunk.length) script.chunks = consume length script.chunks := by
  obtain ⟨rest, chunks⟩ := List.head?_eq_some_iff.mp front
  rw [chunks, consume, consume]
  rcases Nat.lt_or_ge length chunk.length with partly | whole
  · rw [Nat.min_eq_left partly.le]
  · rw [Nat.min_eq_right whole, if_neg (Nat.lt_irrefl _), if_neg (Nat.not_lt.mpr whole)]

theorem servesAlike_iff (asked : output.size ≠ 0) :
    script.ServesAlike output ↔ script.failure ≠ some .connectionClosed ∧
      (script.failure = none → ∀ chunk ∈ script.chunks.head?,
        min (throughInt output.size) chunk.length = min output.size chunk.length ∧
          min output.size chunk.length ≤ intMax) := by
  rw [ServesAlike, if_neg asked]

/-- A request that an `int` can hold only has to miss a peer close. -/
theorem servesAlike_iff_of_le (asked : output.size ≠ 0) (fits : output.size ≤ intMax) :
    script.ServesAlike output ↔ script.failure ≠ some .connectionClosed := by
  rw [servesAlike_iff asked, throughInt_of_le fits]
  refine and_iff_left fun _ chunk _ => ⟨rfl, ?_⟩
  exact (Nat.min_le_left _ _).trans fits

theorem servesAlike_front_iff (asked : output.size ≠ 0) (clear : script.failure = none)
    {chunk : List UInt8} (front : chunk ∈ script.chunks.head?) :
    script.ServesAlike output ↔
      min (throughInt output.size) chunk.length = min output.size chunk.length ∧
        min output.size chunk.length ≤ intMax := by
  rw [servesAlike_iff asked, Option.mem_def.mp front]
  simp [clear]

/-- A read that asks for some bytes has the same outcome on both sides exactly when
the script serves them alike. -/
private theorem Serves.matches_iff {stream final : TcpStreamTransport} {after : ScriptedSocket}
    {reply : ReadReply} (opened : stream.isOpen = true) (valid : output.invalid = false)
    (asked : output.size ≠ 0)
    (serves : script.Serves stream (throughInt output.size) reply final after) :
    (((script.fake true).readSome output).1 = reply ∧
        final.isOpen = ((script.fake true).readSome output).2.isOpen ↔
      script.ServesAlike output) ∧
    (script.ServesAlike output →
      ((script.fake true).readSome output).2 = after.fake final.isOpen) := by
  cases serves with
  | failed scripted survives =>
      rw [servesAlike_iff asked, fake_failed valid scripted, opened]
      simp [scripted, survives, fake, FakeByteStream.isOpen]
  | ended scripted =>
      rw [servesAlike_iff asked, fake_failed valid scripted]
      simp [scripted, fake, FakeByteStream.isOpen, TcpStreamTransport.isOpen,
        TcpStreamTransport.members]
  | drained clear drained =>
      rw [servesAlike_iff asked, fake_drained valid clear drained, opened]
      simp [clear, drained, fake, FakeByteStream.isOpen]
  | @delivered chunk _ clear front positive fits consumed still =>
      rw [servesAlike_front_iff asked clear front, fake_delivers valid clear front, opened]
      constructor
      · constructor
        · intro same
          obtain ⟨same, _⟩ := same
          have counted := congrArg ReadReply.bytesRead same
          dsimp only at counted
          exact ⟨counted.symm, by omega⟩
        · intro alike
          refine ⟨?_, rfl⟩
          rw [← alike.1, ← List.take_eq_take_min]
      · intro alike
        rw [← alike.1, consume_min _ front, ← consumed]
        simp [fake, clear, still]
  | @garbled chunk _ _ _ clear front beyond cut =>
      rw [servesAlike_front_iff asked clear front, fake_delivers valid clear front]
      have nonempty : 0 < chunk.length :=
        List.length_pos_of_ne_nil (script.nonempty chunk (List.mem_of_mem_head? front))
      have apart : ¬ (min (throughInt output.size) chunk.length = min output.size chunk.length ∧
          min output.size chunk.length ≤ intMax) := by omega
      refine ⟨iff_of_false ?_ apart, fun alike => absurd alike apart⟩
      intro same
      obtain ⟨same, _⟩ := same
      rw [← same] at cut
      simp at cut

variable (script) in
/-- A request for no bytes has the same outcome on both sides exactly when nothing
but a chunk is scripted. -/
private theorem empty_matches_iff (valid : output.invalid = false) (empty : output.size = 0) :
    (((script.fake true).readSome output).1 = .empty .ok ∧
        true = ((script.fake true).readSome output).2.isOpen ↔
      script.ServesAlike output) ∧
    (script.ServesAlike output → ((script.fake true).readSome output).2 = script.fake true) := by
  rw [ServesAlike, if_pos empty]
  cases scripted : script.failure with
  | some failure =>
      rw [fake_failed valid scripted]
      cases failure <;> simp [ReadReply.empty, ScriptedFailure.status]
  | none =>
      cases chunks : script.chunks with
      | nil =>
          rw [fake_drained valid scripted chunks]
          simp [ReadReply.empty]
      | cons chunk rest =>
          have front : chunk ∈ script.chunks.head? := by simp [chunks]
          have nonempty : 0 < chunk.length :=
            List.length_pos_of_ne_nil (script.nonempty chunk (List.mem_of_mem_head? front))
          rw [fake_delivers valid scripted front, chunks, empty]
          simp [ReadReply.empty, consume, nonempty, fake, FakeByteStream.isOpen, chunks]

end ScriptedSocket

private theorem close_followed {stream final : TcpStreamTransport} {trace : OsTrace}
    {status : TransportStatus} (run : stream.close.Runs trace (status, final))
    {before after : ScriptedSocket} (followed : ScriptedSocket.socket.Follows before trace after) :
    status = .ok ∧ final.isOpen = false ∧ after = before := by
  have released := TcpStreamTransport.members.close_ensures stream _ _ run
  cases released
  refine ⟨rfl, rfl, ?_⟩
  unfold TcpStreamTransport.close StreamMembers.close at run
  split at run
  · rw [closeNativeSocket_bind] at run
    obtain ⟨_, _, rfl, ended⟩ := Program.runs_call_iff.mp run
    obtain ⟨rfl, _⟩ := Program.runs_done_iff.mp ended
    obtain ⟨_, rfl, rfl⟩ := followed
    rfl
  · obtain ⟨rfl, _⟩ := Program.runs_done_iff.mp run
    obtain rfl := followed
    rfl

/-- One read on both sides. -/
private theorem readSome_matches {stream final : TcpStreamTransport} {output : OutputBuffer}
    {trace : OsTrace} {reply : ReadReply} (run : (stream.readSome output).Runs trace (reply, final))
    {script after : ScriptedSocket} (followed : ScriptedSocket.socket.Follows script trace after) :
    (((script.fake stream.isOpen).readSome output).1 = reply ∧
        final.isOpen = ((script.fake stream.isOpen).readSome output).2.isOpen ↔
      (stream.isOpen = true → output.invalid = false → script.ServesAlike output)) ∧
    ((stream.isOpen = true → output.invalid = false → script.ServesAlike output) →
      ((script.fake stream.isOpen).readSome output).2 = after.fake final.isOpen) := by
  cases opened : stream.isOpen with
  | false =>
      have refused : stream.readSome output = .done (.empty .notOpen, stream) := if_pos opened
      rw [refused] at run
      obtain ⟨rfl, same⟩ := Program.runs_done_iff.mp run
      cases same
      obtain rfl := followed
      rw [opened]
      exact ⟨iff_of_true ⟨rfl, rfl⟩ nofun, fun _ => rfl⟩
  | true =>
      cases valid : output.invalid with
      | true =>
          have refused : stream.readSome output = .done (.empty .invalidArgument, stream) := by
            rw [TcpStreamTransport.readSome, StreamMembers.readSome, if_neg, if_pos valid]
            · rfl
            · exact fun closed => nomatch opened.symm.trans closed
          rw [refused] at run
          obtain ⟨rfl, same⟩ := Program.runs_done_iff.mp run
          cases same
          obtain rfl := followed
          have alike : (script.fake true).readSome output =
              (.empty .invalidArgument, script.fake true) := by
            simp [FakeByteStream.readSome, ScriptedSocket.fake, valid]
          rw [alike, opened]
          exact ⟨iff_of_true ⟨rfl, rfl⟩ nofun, fun _ => rfl⟩
      | false =>
          by_cases empty : output.size = 0
          · have immediate : stream.readSome output = .done (.empty .ok, stream) := by
              rw [TcpStreamTransport.readSome, StreamMembers.readSome, if_neg, if_neg, if_pos empty]
              · rfl
              · simp [valid]
              · exact fun closed => nomatch opened.symm.trans closed
            rw [immediate] at run
            obtain ⟨rfl, same⟩ := Program.runs_done_iff.mp run
            cases same
            obtain rfl := followed
            rw [opened]
            simpa using script.empty_matches_iff valid empty
          · simpa using (ScriptedSocket.readSome_serves opened valid empty).runs run followed
              |>.matches_iff opened valid empty

/-- One call on both sides, from a fake that stands for the script. -/
private theorem reader_matches {encounter : ReaderEncounter} {fake : FakeByteStream}
    (related : fake = encounter.worldBefore.fake encounter.before.isOpen)
    (run : (encounter.before.invokeReader encounter.method).Runs encounter.trace
      (encounter.reply, encounter.after))
    (followed : ScriptedSocket.socket.Follows encounter.worldBefore encounter.trace
      encounter.worldAfter) :
    (FakeByteStream.double.Matches fake encounter.toInvocation ↔ ReadsAlike encounter) ∧
      (ReadsAlike encounter → (FakeByteStream.double.answer fake encounter.toInvocation).2 =
        encounter.worldAfter.fake encounter.after.isOpen) := by
  obtain ⟨⟨before, method, trace, reply, after⟩, scriptBefore, scriptAfter⟩ := encounter
  dsimp only at *
  subst related
  cases method with
  | close =>
      obtain ⟨status, final, ran, rfl, rfl⟩ := Program.runs_prodMap_iff.mp run
      obtain ⟨rfl, closed, rfl⟩ := close_followed ran followed
      refine ⟨iff_of_true ⟨rfl, closed⟩ nofun, fun _ => ?_⟩
      dsimp only [id_eq]
      rw [closed]
      rfl
  | isOpen =>
      obtain ⟨rfl, same⟩ := Program.runs_done_iff.mp run
      cases same
      obtain rfl := followed
      exact ⟨iff_of_true ⟨rfl, rfl⟩ nofun, fun _ => rfl⟩
  | readSome output =>
      obtain ⟨answer, final, ran, rfl, rfl⟩ := Program.runs_prodMap_iff.mp run
      obtain ⟨exact, next⟩ := readSome_matches ran followed
      have alike : ReadsAlike ⟨⟨before, .readSome output, trace, .read answer, final⟩, scriptBefore,
          scriptAfter⟩ ↔ (before.isOpen = true → output.invalid = false →
            scriptBefore.ServesAlike output) := by
        simp [ReadsAlike]
      dsimp only [id_eq]
      rw [alike]
      refine ⟨?_, next⟩
      rw [← exact]
      change StreamReply.read _ = StreamReply.read _ ∧ _ ↔ _
      rw [StreamReply.read.injEq]
      rfl

/-- The scripted byte stream gives the answers of a client stream whose OS follows
the script exactly as long as each read is served alike. -/
theorem fakeStream_faithful_iff {stream final : TcpStreamTransport}
    (opened : stream.open_ = true) {turns : List ReaderTurn} {scriptFinal : ScriptedSocket}
    (session : Turns TcpStreamTransport.invokeReader ScriptedSocket.socket
      ScriptedSocket.takesIn stream .unscripted turns final scriptFinal) :
    FakeByteStream.double.Agrees FakeByteStream.new.open.2 turns ↔
      ∀ encounter, .call encounter ∈ turns → ReadsAlike encounter := by
  refine Turns.agrees_iff FakeByteStream.double
    (fun stream script fake => fake = script.fake stream.isOpen) ReadsAlike ?_ ?_ session ?_
  · intro stream before input after fake related taken
    subst related
    cases input with
    | chunk bytes =>
        obtain ⟨chunks, failure⟩ := taken
        simp [FakeByteStream.double, FakeByteStream.hear, FakeByteStream.scriptRead,
          ScriptedSocket.fake, chunks, failure]
    | failure failure =>
        obtain rfl := taken
        rfl
  · intro encounter fake related run followed
    exact reader_matches related run followed
  · rw [TcpStreamTransport.isOpen, opened]
    rfl

/-- One read of the client stream that stays open or ends as given. -/
def scriptedRead (final : TcpStreamTransport) (size : Nat) (trace : OsTrace) (reply : ReadReply)
    (before after : ScriptedSocket) : ReaderTurn :=
  .call ⟨⟨meterStream, .readSome ⟨false, size⟩, trace, .read reply, final⟩, before, after⟩

def threeBytes : ScriptedSocket := ⟨[[1, 2, 3]], none, by simp⟩

def thirdByte : ScriptedSocket := ⟨[[3]], none, by simp⟩

def thirdByteLate : ScriptedSocket := { thirdByte with failure := some .timeout }

/-- A chunk read in two parts, with a timeout between them. -/
def chunkTurns : List ReaderTurn :=
  [.input (.chunk [1, 2, 3] (by simp)),
    scriptedRead meterStream 2
      [⟨.select 3 true ⟨5, 0⟩, (1 : Int)⟩, ⟨.recv 3 2, .ok ⟨[1, 2], by decide⟩⟩]
      ⟨.ok, 2, [1, 2]⟩ threeBytes thirdByte,
    .input (.failure .timeout),
    scriptedRead meterStream 4 [⟨.select 3 true ⟨5, 0⟩, (0 : Int)⟩] (.empty .timeout)
      thirdByteLate thirdByte,
    scriptedRead meterStream 0 [] (.empty .ok) thirdByte thirdByte,
    scriptedRead meterStream 4
      [⟨.select 3 true ⟨5, 0⟩, (1 : Int)⟩, ⟨.recv 3 4, .ok ⟨[3], by decide⟩⟩]
      ⟨.ok, 1, [3]⟩ thirdByte .unscripted]

private theorem chunkTurns_session :
    Turns TcpStreamTransport.invokeReader ScriptedSocket.socket ScriptedSocket.takesIn
      meterStream .unscripted chunkTurns meterStream .unscripted := by
  refine .input (show ScriptedSocket.takesIn _ _ _ threeBytes from ⟨rfl, rfl⟩) ?_
  refine .call (Program.runs_map_iff.mpr ⟨_, .call (.call .refl), rfl⟩)
    ⟨threeBytes, .inr (.inr ⟨nofun, by decide, rfl⟩), _,
      .inr ⟨rfl, [1, 2, 3], rfl, rfl, rfl, rfl⟩, rfl⟩ ?_
  refine .input rfl ?_
  refine .call (Program.runs_map_iff.mpr ⟨_, .call .refl, rfl⟩)
    ⟨thirdByte, .inl ⟨rfl, rfl, rfl⟩, rfl⟩ ?_
  refine .call (Program.runs_map_iff.mpr ⟨_, .refl, rfl⟩) rfl ?_
  exact .call (Program.runs_map_iff.mpr ⟨_, .call (.call .refl), rfl⟩)
    ⟨thirdByte, .inr (.inr ⟨nofun, by decide, rfl⟩), _,
      .inr ⟨rfl, [3], rfl, rfl, rfl, rfl⟩, rfl⟩ .nil

theorem fakeStream_faithful_iff_chunk :
    FakeByteStream.double.Agrees FakeByteStream.new.open.2 chunkTurns := by
  apply (fakeStream_faithful_iff rfl chunkTurns_session).mpr
  intro encounter member output reads _ _
  simp only [chunkTurns, scriptedRead, List.mem_cons, List.not_mem_nil, reduceCtorEq, false_or,
    or_false, Turn.call.injEq] at member
  rcases member with rfl | rfl | rfl | rfl <;> cases reads
  · exact (ScriptedSocket.servesAlike_iff_of_le (by decide) (by decide)).mpr nofun
  · exact (ScriptedSocket.servesAlike_iff_of_le (by decide) (by decide)).mpr nofun
  · exact ⟨rfl, nofun⟩
  · exact (ScriptedSocket.servesAlike_iff_of_le (by decide) (by decide)).mpr nofun

def peerGone : ScriptedSocket := ⟨[], some .connectionClosed, by simp⟩

def hangUpTurns : List ReaderTurn :=
  [.input (.failure .connectionClosed),
    scriptedRead (.new meterOptions) 4
      [⟨.select 3 true ⟨5, 0⟩, (1 : Int)⟩, ⟨.recv 3 4, .ok Delivery.nothing⟩, ⟨.close 3, ()⟩]
      (.empty .connectionClosed) peerGone .unscripted]

def emptyRequestTurns : List ReaderTurn :=
  [scriptedRead meterStream 0 [] (.empty .ok) .unscripted .unscripted]

/-- After a peer close the fake is still open, and it has no answer to a request for
no bytes that needs no script. -/
theorem fakeStream_unfaithful :
    (Turns TcpStreamTransport.invokeReader ScriptedSocket.socket ScriptedSocket.takesIn
        meterStream .unscripted hangUpTurns (.new meterOptions) .unscripted ∧
      ¬ FakeByteStream.double.Agrees FakeByteStream.new.open.2 hangUpTurns) ∧
    (Turns TcpStreamTransport.invokeReader ScriptedSocket.socket ScriptedSocket.takesIn
        meterStream .unscripted emptyRequestTurns meterStream .unscripted ∧
      ¬ FakeByteStream.double.Agrees FakeByteStream.new.open.2 emptyRequestTurns) := by
  refine ⟨⟨?_, fun agrees => Bool.false_ne_true agrees.1.2⟩, ?_,
    fun agrees => absurd agrees.1.1 (by decide)⟩
  · refine .input (show ScriptedSocket.takesIn _ _ _ peerGone from rfl) ?_
    exact .call (Program.runs_map_iff.mpr ⟨_, .call (.call (.call .refl)), rfl⟩)
      ⟨peerGone, .inr (.inr ⟨nofun, by decide, rfl⟩), .unscripted, .inl ⟨rfl, rfl, rfl⟩, _, rfl,
        rfl⟩
      .nil
  · exact .call (Program.runs_map_iff.mpr ⟨_, .refl, rfl⟩) rfl .nil

end DlmsTransport.Transport
