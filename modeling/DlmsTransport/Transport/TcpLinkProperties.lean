import DlmsTransport.Transport.ReadStreamProperties
import DlmsTransport.Transport.TcpConnection

/-! Two stream objects on the two ends of one TCP connection, each doing any sequence of
calls. What one of them reads is what the other one wrote. -/

set_option autoImplicit false

namespace DlmsTransport.Transport

open Interaction Posix

/-- The OS closed the descriptor or reported the end of its input. -/
def Parted (trace : OsTrace) : Prop :=
  Closes trace ∨ EndsInput trace

theorem parted_concat_iff {front : OsTrace} {event : OsEvent} :
    Parted (front ++ [event]) ↔
      Parted front ∨ isClose event.request = true ∨ AnswersEnd event.request event.answer := by
  simp only [Parted, closes_append_iff, closes_cons_iff, not_closes_nil, or_false,
    endsInput_append_iff, endsInput_cons_iff, not_endsInput_nil]
  exact or_or_or_comm

theorem Received.count_of_answersEnd {socket : NativeSocket} {length : Nat}
    {answer : Except Errno (Delivery length)}
    (ends : AnswersEnd (.recv socket length) answer) : (Received.ofInt answer).count = 0 := by
  cases answer with
  | error error => cases ends
  | ok bytes =>
      obtain ⟨_, empty⟩ := ends
      simp [Received.ofInt, empty, toInt]

/-- The waits and transfers of a write. -/
def Sends : OsCall → Prop
  | .select _ _ _ | .send _ _ _ | .errno => True
  | _ => False

theorem Sends.not_isClose {request : OsCall} (sends : Sends request) :
    isClose request = false := by
  cases request <;> first | rfl | cases sends

theorem Sends.receives_nothing {request : OsCall} (sends : Sends request)
    (answer : request.Answer) :
    receivedBytes request answer = [] ∧ ¬ AnswersEnd request answer := by
  cases request <;> first | exact ⟨rfl, not_false⟩ | cases sends

theorem sends_traces {trace : OsTrace} (sends : ∀ event ∈ trace, Sends event.request) :
    received trace = [] ∧ ¬ EndsInput trace ∧ ¬ Closes trace := by
  refine ⟨?_, ?_, ?_⟩
  · exact List.flatMap_eq_nil_iff.mpr fun event member =>
      ((sends event member).receives_nothing event.answer).1
  · rintro ⟨event, member, ends⟩
    exact ((sends event member).receives_nothing event.answer).2 ends
  · rintro ⟨event, member, closes⟩
    simp [(sends event member).not_isClose] at closes

namespace StreamMembers

variable {σ : Type} (members : StreamMembers σ)

/-- The object has let go of its connection and makes no call on it any more. -/
def Gone (self : σ) : Prop :=
  members.socket self = kInvalidSocket ∧ members.isOpen self = false

theorem gone_release (self : σ) : members.Gone (members.release self) :=
  ⟨members.socket_release self, members.isOpen_release self⟩

/-- A call leaves the object gone once its connection has ended, and calls on nothing that
it has closed. -/
def Departs {ρ : Type} (program : OsProgram (ρ × σ)) (before : OsTrace) : Prop :=
  program.Meets recording (.calls fun before _ => ¬ Closes before)
    (fun after outcome => Parted after → members.Gone outcome.2) before

theorem close_departs {self : σ} {before : OsTrace}
    (departed : Parted before → members.Gone self) :
    members.Departs (members.close self) before := by
  unfold close
  split
  · next owned =>
    rw [closeNativeSocket_bind]
    refine ⟨fun closed => owned (departed (.inl closed)).1, ?_⟩
    exact fun _ _ _ _ => members.gone_release self
  · exact fun _ => members.gone_release self

private theorem concludeRead_departs {self : σ} {before : OsTrace} {length : Nat}
    {answer : Except Errno (Delivery length)} (standing : ¬ Closes before)
    (ends : Parted before → AnswersEnd (.recv (members.socket self) length) answer) :
    members.Departs (members.concludeRead self (.ofInt answer)) before := by
  have goesOn (counted : (Received.ofInt answer).count ≠ 0) : ¬ Parted before :=
    fun parted => counted (Received.count_of_answersEnd (ends parted))
  have form := members.concludeRead_form self (.ofInt answer)
  generalize members.concludeRead self (.ofInt answer) = program at form
  cases form with
  | delivered positive => exact fun parted => absurd parted (goesOn positive.ne')
  | failed negative => exact fun parted => absurd parted (goesOn negative.ne)
  | ended => exact ⟨standing, fun _ _ _ _ => members.gone_release self⟩
  | endedUnowned => exact fun _ => members.gone_release self
  | unexplained negative =>
      refine ⟨standing, fun error after stepped parted => ?_⟩
      rw [recording_step_iff.mp stepped, parted_concat_iff] at parted
      exact absurd parted (by simp [goesOn negative.ne, isClose, AnswersEnd])

theorem readSome_departs {self : σ} (output : OutputBuffer) {before : OsTrace}
    (departed : Parted before → members.Gone self) :
    members.Departs (members.readSome self output) before := by
  have form := members.readSome_form self output
  generalize members.readSome self output = program at form
  cases form with
  | refused => exact departed
  | waiting opened =>
      have stays : ¬ Parted before := by
        intro parted
        simp [(departed parted).2] at opened
      refine ⟨fun closed => stays (.inl closed), fun (result : Int) waited stepped => ?_⟩
      obtain rfl := recording_step_iff.mp stepped
      have still : ¬ Parted (before ++
          [⟨.select (members.socket self) true (toTimeval (members.readTimeout self)),
            result⟩]) := by
        rw [parted_concat_iff]
        simp [stays, isClose, AnswersEnd]
      dsimp only
      split
      · refine ⟨fun closed => still (.inl closed), fun answer after received => ?_⟩
        obtain rfl := recording_step_iff.mp received
        apply members.concludeRead_departs
        · have unclosed : ¬ Closes before := fun closed => stays (.inl closed)
          simp [unclosed, isClose]
        · intro parted
          rw [parted_concat_iff, or_iff_right still] at parted
          simpa [isClose] using parted
      · exact fun parted => absurd parted still

/-- The calls of a read and of `close` hand over nothing to the OS. -/
def SendsNothing (request : OsCall) : Prop :=
  ∀ answer, acceptedBytes request answer = []

theorem sendsNothing_traces {trace : OsTrace}
    (silent : ∀ event ∈ trace, SendsNothing event.request) : accepted trace = [] :=
  List.flatMap_eq_nil_iff.mpr fun event member => silent event member event.answer

theorem close_sendsNothing (self : σ) : (members.close self).Only SendsNothing :=
  members.close_only self fun _ => rfl

theorem readSome_sendsNothing (self : σ) (output : OutputBuffer) :
    (members.readSome self output).Only SendsNothing :=
  members.readSome_only self output (fun _ _ => rfl) (fun _ _ => rfl) (fun _ => rfl) fun _ => rfl

/-- A read hands over what it took from the descriptor, and says so when that has ended. -/
structure Transcribes (trace : OsTrace) (reply : ReadReply) : Prop where
  received : received trace = reply.delivered
  ends : EndsInput trace ↔ reply.status = .connectionClosed

private theorem concludeRead_transcribes (self : σ) {length : Nat} (asked : length ≠ 0)
    (short : length ≤ intMax) (answer : Except Errno (Delivery length)) :
    (members.concludeRead self (.ofInt answer)).Ensures fun back outcome =>
      Transcribes (⟨.recv (members.socket self) length, answer⟩ :: back) outcome.1 := by
  cases answer with
  | error error =>
      rw [concludeRead_error]
      refine Program.ensures_done_iff.mpr ⟨?_, ?_⟩
      · dsimp only
        split <;> rfl
      · dsimp only [ReadReply.status_empty]
        split <;> simp [AnswersEnd]
  | ok bytes =>
      have measured := Received.ofInt_of_le (bytes.property.trans short)
      have form := members.concludeRead_form self (.ofInt (.ok bytes))
      generalize members.concludeRead self (.ofInt (.ok bytes)) = program at form
      rw [measured] at form
      cases form with
      | delivered positive =>
          have some : bytes.val ≠ [] := List.ne_nil_of_length_pos (Int.natCast_pos.mp positive)
          refine Program.ensures_done_iff.mpr ⟨?_, ?_⟩
          · simp [receivedBytes, ReadReply.delivered]
          · simp [AnswersEnd, some]
      | ended none =>
          have empty := List.eq_nil_of_length_eq_zero (Int.natCast_eq_zero.mp none)
          rw [Program.ensures_call_iff]
          intro closed
          refine Program.ensures_done_iff.mpr ⟨?_, ?_⟩
          · simp [receivedBytes, ReadReply.delivered, empty]
          · simp [AnswersEnd, asked, empty]
      | endedUnowned none =>
          have empty := List.eq_nil_of_length_eq_zero (Int.natCast_eq_zero.mp none)
          refine Program.ensures_done_iff.mpr ⟨?_, ?_⟩
          · simp [receivedBytes, ReadReply.delivered, empty]
          · simp [AnswersEnd, asked, empty]
      | failed negative | unexplained negative => exact absurd negative (by simp)

theorem readSome_transcribes (self : σ) {output : OutputBuffer} (fits : output.size ≤ intMax) :
    (members.readSome self output).Ensures fun trace outcome => Transcribes trace outcome.1 := by
  have form := members.readSome_form self output
  generalize members.readSome self output = program at form
  cases form with
  | refused refusal =>
      refine Program.ensures_done_iff.mpr ⟨?_, ?_⟩
      · simp [ReadReply.delivered, ReadReply.empty]
      · cases refusal <;> simp
  | waiting opened valid asked =>
      rw [Program.ensures_call_iff]
      intro (result : Int)
      split
      · rw [Program.ensures_call_iff, throughInt_of_le fits]
        intro answer
        refine (members.concludeRead_transcribes self asked fits answer).mono ?_
        intro back outcome transcribes
        exact ⟨transcribes.received, by simpa [AnswersEnd] using transcribes.ends⟩
      · next unready =>
        refine Program.ensures_done_iff.mpr ⟨?_, ?_⟩
        · simp [receivedBytes, ReadReply.delivered, ReadReply.empty]
        · have timely : waitStatus true result ≠ .connectionClosed := by
            unfold waitStatus
            split
            · simp
            · split <;> simp
          simp [AnswersEnd, timely]

theorem writeAll_sends (sending : ∀ socket, members.transmit socket = sendInt socket) (self : σ)
    (input : InputBuffer) (budget : Nat) : (members.writeAll self input budget).Only Sends := by
  apply members.writeAll_only self input budget (fun _ => trivial) _ trivial
  intro slice
  rw [sending]
  exact ⟨trivial, fun _ => trivial⟩

theorem writeAll_departs (sending : ∀ socket, members.transmit socket = sendInt socket)
    (self : σ) (input : InputBuffer) (budget : Nat) {before : OsTrace}
    (departed : Parted before → members.Gone self) :
    (members.writeAll self input budget).Meets recording (.calls fun before _ => ¬ Closes before)
      (fun after _ => Parted after → members.Gone self) before := by
  by_cases parted : Parted before
  · rw [writeAll, if_pos (departed parted).2]
    exact fun _ => departed parted
  · refine ((members.writeAll_sends sending self input budget).meets_of_keeps (¬ Parted ·)
      ?_ ?_ parted).mono ?_
    · exact fun _ _ world standing closed => standing (.inl closed)
    · intro request sends world answer after standing stepped
      rw [recording_step_iff.mp stepped, parted_concat_iff]
      simp [standing, sends.not_isClose, (sends.receives_nothing answer).2]
    · exact fun _ _ standing parted => absurd parted standing

end StreamMembers

namespace ByteStream

/-- The object is one of the two TCP classes. -/
def IsSocket : ByteStream → Prop
  | .tcp _ | .accepted _ => True
  | .serial _ => False

def Gone : ByteStream → Prop
  | .tcp stream => TcpStreamTransport.members.Gone stream
  | .accepted stream => AcceptedTcpStream.members.Gone stream
  | .serial stream => SerialTransport.members.Gone stream

end ByteStream

/-- One of the two socket classes, among the streams. -/
structure SocketClass {σ : Type} (members : StreamMembers σ) (wrap : σ → ByteStream) : Prop where
  sending : ∀ socket, members.transmit socket = sendInt socket
  isSocket : ∀ self, (wrap self).IsSocket
  gone_iff : ∀ self, (wrap self).Gone ↔ members.Gone self

/-- The calls of one connection: it is not opened anew, and its buffers are such as an
`int` can measure. -/
def Ordinary : StreamMethod → Prop
  | .open => False
  | .close | .isOpen => True
  | .readSome output => output.size ≤ intMax
  | .writeAll input _ => input.size ≤ intMax

/-- What an ordinary call on a socket object runs, whichever its class is. -/
inductive SocketForm : ByteStream → StreamMethod → OsProgram (StreamReply × ByteStream) → Prop where
  | close {σ} {members : StreamMembers σ} {wrap self} : SocketClass members wrap →
      SocketForm (wrap self) .close
        (Prod.map .status id <$> Prod.map id wrap <$> members.close self)
  | isOpen {σ} {members : StreamMembers σ} {wrap self} : SocketClass members wrap →
      SocketForm (wrap self) .isOpen (.done (.flag (members.isOpen self), wrap self))
  | readSome {σ} {members : StreamMembers σ} {wrap self output} : SocketClass members wrap →
      output.size ≤ intMax →
      SocketForm (wrap self) (.readSome output)
        (Prod.map .read id <$> Prod.map id wrap <$> members.readSome self output)
  | writeAll {σ} {members : StreamMembers σ} {wrap self input budget} :
      SocketClass members wrap → input.size ≤ intMax →
      SocketForm (wrap self) (.writeAll input budget)
        ((fun status => (.status status, wrap self)) <$> members.writeAll self input budget)

theorem ByteStream.invoke_form {self : ByteStream} (socket : self.IsSocket) {method : StreamMethod}
    (ordinary : Ordinary method) : SocketForm self method (self.invoke method) := by
  cases self with
  | serial => cases socket
  | tcp stream =>
      have client : SocketClass TcpStreamTransport.members .tcp :=
        ⟨fun _ => rfl, fun _ => trivial, fun _ => Iff.rfl⟩
      cases method with
      | «open» => cases ordinary
      | close => exact .close client
      | isOpen => exact .isOpen client
      | readSome output => exact .readSome client ordinary
      | writeAll input budget => exact .writeAll client ordinary
  | accepted stream =>
      have server : SocketClass AcceptedTcpStream.members .accepted :=
        ⟨fun _ => rfl, fun _ => trivial, fun _ => Iff.rfl⟩
      cases method with
      | «open» => cases ordinary
      | close => exact .close server
      | isOpen => exact .isOpen server
      | readSome output => exact .readSome server ordinary
      | writeAll input budget => exact .writeAll server ordinary

theorem SocketForm.departs {self : ByteStream} {method : StreamMethod}
    {program : OsProgram (StreamReply × ByteStream)} (form : SocketForm self method program)
    {before : OsTrace} (departed : Parted before → self.Gone) :
    program.Meets recording (.calls fun before _ => ¬ Closes before)
      (fun after outcome => outcome.2.IsSocket ∧ (Parted after → outcome.2.Gone)) before := by
  cases form with
  | isOpen socket => exact ⟨socket.isSocket _, departed⟩
  | close socket =>
      rw [socket.gone_iff] at departed
      refine Program.meets_map_iff.mpr <| Program.meets_map_iff.mpr <|
        (StreamMembers.close_departs _ departed).mono ?_
      exact fun _ _ gone => ⟨socket.isSocket _, fun parted => (socket.gone_iff _).mpr (gone parted)⟩
  | readSome socket =>
      rw [socket.gone_iff] at departed
      refine Program.meets_map_iff.mpr <| Program.meets_map_iff.mpr <|
        (StreamMembers.readSome_departs _ _ departed).mono ?_
      exact fun _ _ gone => ⟨socket.isSocket _, fun parted => (socket.gone_iff _).mpr (gone parted)⟩
  | writeAll socket =>
      rw [socket.gone_iff] at departed
      refine Program.meets_map_iff.mpr
        ((StreamMembers.writeAll_departs _ socket.sending _ _ _ departed).mono ?_)
      exact fun _ _ gone => ⟨socket.isSocket _, fun parted => (socket.gone_iff _).mpr (gone parted)⟩

/-- What a reply hands to its caller. -/
def StreamReply.delivered : StreamReply → List UInt8
  | .read reply => reply.delivered
  | _ => []

def StreamReply.ReportsEnd : StreamReply → Prop
  | .read reply => reply.status = .connectionClosed
  | _ => False

/-- What a call is asked to send. -/
def StreamMethod.input : StreamMethod → List UInt8
  | .writeAll input _ => input.data
  | _ => []

/-- The calls of a method against what its caller was told. -/
structure Transcript (method : StreamMethod) (trace : OsTrace) (reply : StreamReply) : Prop where
  received : received trace = reply.delivered
  ends : EndsInput trace ↔ reply.ReportsEnd
  accepted : reply = .status .ok → accepted trace = method.input

theorem SocketForm.transcript {self : ByteStream} {method : StreamMethod}
    {program : OsProgram (StreamReply × ByteStream)} (form : SocketForm self method program) :
    program.Ensures fun trace outcome =>
      outcome.2.IsSocket ∧ Transcript method trace outcome.1 := by
  cases form with
  | isOpen socket =>
      refine Program.ensures_done_iff.mpr ⟨socket.isSocket _, rfl, ?_, by simp⟩
      simp [StreamReply.ReportsEnd]
  | close socket =>
      refine Program.ensures_map_iff.mpr (Program.ensures_map_iff.mpr ?_)
      unfold StreamMembers.close
      split
      · rw [closeNativeSocket_bind, Program.ensures_call_iff]
        intro closed
        refine Program.ensures_done_iff.mpr ⟨socket.isSocket _, rfl, ?_, fun _ => rfl⟩
        simp [StreamReply.ReportsEnd, AnswersEnd]
      · refine Program.ensures_done_iff.mpr ⟨socket.isSocket _, rfl, ?_, fun _ => rfl⟩
        simp [StreamReply.ReportsEnd]
  | readSome socket fits =>
      refine Program.ensures_map_iff.mpr <| Program.ensures_map_iff.mpr <|
        (StreamMembers.readSome_transcribes _ _ fits).mono ?_
      exact fun trace outcome transcribes =>
        ⟨socket.isSocket _, transcribes.received, transcribes.ends, by simp⟩
  | @writeAll σ members wrap self input budget socket fits =>
      refine Program.ensures_map_iff.mpr fun trace status run => ?_
      have form := members.writeAll_form
        (fun handle => by rw [socket.sending]; exact sendInt_faithful handle) self input budget
      obtain ⟨nothing, goesOn, _⟩ :=
        sends_traces ((members.writeAll_sends socket.sending self input budget).mem run)
      refine ⟨socket.isSocket _, nothing, iff_of_false goesOn not_false, fun ok => ?_⟩
      exact ((form.outcome fits run).ok_iff.mp (StreamReply.status.inj ok)).2.2

theorem SocketForm.accepts {self : ByteStream} {method : StreamMethod}
    {program : OsProgram (StreamReply × ByteStream)} (form : SocketForm self method program)
    {trace : OsTrace} (emitted : program.Emits trace) : accepted trace <+: method.input := by
  cases form with
  | isOpen socket =>
      obtain rfl := Program.emits_done_iff.mp emitted
      exact List.prefix_rfl
  | @close σ members wrap self socket =>
      obtain ⟨_, leading⟩ := Program.emits_map_iff.mp (Program.emits_map_iff.mp emitted)
      rw [StreamMembers.sendsNothing_traces ((members.close_sendsNothing self).mem leading)]
      exact List.nil_prefix
  | @readSome σ members wrap self output socket fits =>
      obtain ⟨_, leading⟩ := Program.emits_map_iff.mp (Program.emits_map_iff.mp emitted)
      rw [StreamMembers.sendsNothing_traces
        ((members.readSome_sendsNothing self output).mem leading)]
      exact List.nil_prefix
  | @writeAll σ members wrap self input budget socket fits =>
      have form := members.writeAll_form
        (fun handle => by rw [socket.sending]; exact sendInt_faithful handle) self input budget
      exact form.unfinished fits (Program.emits_map_iff.mp emitted)

/-- A call that closes has handed over nothing. -/
theorem SocketForm.accepts_nothing {self : ByteStream} {method : StreamMethod}
    {program : OsProgram (StreamReply × ByteStream)} (form : SocketForm self method program)
    {trace : OsTrace} (emitted : program.Emits trace) (closes : Closes trace) :
    accepted trace = [] := by
  have leading := form.accepts emitted
  cases form with
  | isOpen | close | readSome => exact List.prefix_nil.mp leading
  | @writeAll σ members wrap self input budget socket =>
      obtain ⟨_, leading⟩ := Program.emits_map_iff.mp emitted
      exact absurd closes
        (sends_traces ((members.writeAll_sends socket.sending self input budget).mem leading)).2.2

theorem SocketForm.silent {self : ByteStream} {method : StreamMethod}
    {program : OsProgram (StreamReply × ByteStream)} (form : SocketForm self method program)
    {trace : OsTrace} (emitted : program.Emits trace) (gone : self.Gone) : trace = [] := by
  cases form with
  | isOpen => exact Program.emits_done_iff.mp emitted
  | close socket =>
      obtain ⟨released, _⟩ := (socket.gone_iff _).mp gone
      simpa [Program.emits_map_iff, StreamMembers.close, released] using emitted
  | readSome socket =>
      obtain ⟨_, closed⟩ := (socket.gone_iff _).mp gone
      simpa [Program.emits_map_iff, StreamMembers.readSome, closed] using emitted
  | writeAll socket =>
      obtain ⟨_, closed⟩ := (socket.gone_iff _).mp gone
      simpa [Program.emits_map_iff, StreamMembers.writeAll, closed] using emitted

abbrev LinkCall := Invocation ByteStream StreamMethod OsCall OsCall.Answer StreamReply

abbrev LinkEnd := Underway ByteStream.invoke

def handedOver (history : List LinkCall) : List UInt8 :=
  (history.map (·.reply.delivered)).flatten

/-- An end works one connection, through an object of a socket class. -/
structure Works (party : LinkEnd) : Prop where
  socket : party.start.IsSocket
  ordinary : party.Each Ordinary

theorem received_sessionTrace (history : List LinkCall) :
    received (sessionTrace history) = (history.map fun call => received call.trace).flatten := by
  induction history with
  | nil => rfl
  | cons call rest ih => simp [ih]

theorem session_transcripts {start final : ByteStream} {history : List LinkCall}
    (session : Session ByteStream.invoke start history final) (socket : start.IsSocket)
    (ordinary : ∀ call ∈ history, Ordinary call.method) :
    ∀ call ∈ history, accepted call.trace <+: call.method.input ∧
      Transcript call.method call.trace call.reply := by
  induction session with
  | nil => simp
  | cons run _ ih =>
      obtain ⟨first, rest⟩ := List.forall_mem_cons.mp ordinary
      have form := ByteStream.invoke_form socket first
      obtain ⟨still, transcript⟩ := form.transcript _ _ run
      exact List.forall_mem_cons.mpr ⟨⟨form.accepts run.emits, transcript⟩, ih still rest⟩

/-- What one end has done, and that it is through with the connection once that ended. -/
structure Account (party : LinkEnd) : Prop where
  received : received party.trace = handedOver party.history ++ received party.tail
  calls : ∀ call ∈ party.history, accepted call.trace <+: call.method.input ∧
    Transcript call.method call.trace call.reply
  last : accepted party.tail <+: party.method.input
  closing : ClosesLast party.trace
  through : Parted (sessionTrace party.history) → party.tail = []
  parting : Closes party.trace → accepted party.tail = []

theorem Works.account {party : LinkEnd} (works : Works party) : Account party := by
  have calls := session_transcripts party.session works.socket works.ordinary.completed
  have initial : party.start.IsSocket ∧ (Parted [] → party.start.Gone) :=
    ⟨works.socket, by simp [Parted]⟩
  obtain ⟨respects, reached⟩ := party.meets
    (fun before stream => stream.IsSocket ∧ (Parted before → stream.Gone))
    (fun _ _ _ ordinary held => (ByteStream.invoke_form held.1 ordinary).departs held.2)
    works.ordinary initial
  obtain ⟨socket, departed⟩ := reached _ (recording_follows_iff.mpr rfl)
  have form := ByteStream.invoke_form socket works.ordinary.last
  have through (parted : Parted (sessionTrace party.history)) : party.tail = [] :=
    form.silent party.running (departed parted)
  refine ⟨?_, calls, form.accepts party.running, respects, through, ?_⟩
  · rw [Underway.trace, received_append, received_sessionTrace, handedOver,
      List.map_congr_left fun call member => (calls call member).2.received]
  · intro closes
    rcases closes_append_iff.mp closes with before | now
    · rw [through (.inl before), accepted_nil]
    · exact form.accepts_nothing party.running now

/-- What one end owes the other, in the direction from `writer` to `reader`. -/
structure Delivers (writer reader : LinkEnd) (direction : Direction) : Prop where
  /-- What has been read, with what an unfinished read has taken and what is under way, is
  what the writer's OS accepted, but for what a broken connection drops at its end. -/
  leading : handedOver reader.history ++ received reader.tail ++ direction.inFlight <+:
    accepted writer.trace
  whole : direction.condition ≠ .broken →
    handedOver reader.history ++ received reader.tail ++ direction.inFlight =
      accepted writer.trace
  /-- That is a beginning of the input of each write, in order, and all of it of a write
  that returned `Ok`. -/
  apportioned : accepted writer.trace =
    (writer.history.map fun call => accepted call.trace).flatten ++ accepted writer.tail
  calls : ∀ call ∈ writer.history, accepted call.trace <+: call.method.input ∧
    (call.reply = .status .ok → accepted call.trace = call.method.input)
  last : accepted writer.tail <+: writer.method.input
  /-- The connection is reported closed where the writer closed and all has been read. -/
  ended : ∀ call ∈ reader.history, call.reply.ReportsEnd →
    Closes writer.trace ∧ handedOver reader.history = accepted writer.trace
  complete : (∃ call ∈ reader.history, call.reply.ReportsEnd) →
    (∀ call ∈ writer.history, ∀ input budget, call.method = .writeAll input budget →
      call.reply = .status .ok) →
    handedOver reader.history = (writer.history.map (·.method.input)).flatten

private theorem delivers_of_account {writer reader : LinkEnd} {direction : Direction}
    (writes : Account writer) (reads : Account reader)
    (conserves : Conserves reader.trace writer.trace direction) :
    Delivers writer reader direction := by
  have apportioned : accepted writer.trace =
      (writer.history.map fun call => accepted call.trace).flatten ++ accepted writer.tail := by
    rw [Underway.trace, accepted_append, accepted_sessionTrace]
  have ended : ∀ call ∈ reader.history, call.reply.ReportsEnd →
      Closes writer.trace ∧ handedOver reader.history = accepted writer.trace := by
    intro call member reports
    obtain ⟨event, within, ends⟩ := (reads.calls call member).2.ends.mpr reports
    have finished : EndsInput (sessionTrace reader.history) :=
      ⟨event, List.mem_flatMap.mpr ⟨call, member, within⟩, ends⟩
    obtain ⟨all, closed⟩ := conserves.drained (endsInput_append_iff.mpr (.inl finished))
    rw [reads.received, reads.through (.inr finished), received_nil, List.append_nil] at all
    exact ⟨closed, all⟩
  refine ⟨?_, ?_, apportioned, ?_, writes.last, ended, ?_⟩
  · rw [← reads.received]
    exact conserves.leading
  · rw [← reads.received]
    exact conserves.whole
  · exact fun call member =>
      ⟨(writes.calls call member).1, (writes.calls call member).2.accepted⟩
  · rintro ⟨call, member, reports⟩ succeeded
    obtain ⟨closed, all⟩ := ended call member reports
    rw [all, apportioned, writes.parting closed, List.append_nil]
    refine congrArg List.flatten (List.map_congr_left fun sent within => ?_)
    obtain ⟨leading, transcript⟩ := writes.calls sent within
    cases method : sent.method with
    | writeAll input budget =>
        rw [← method]
        exact transcript.accepted (succeeded sent within input budget method)
    | «open» | close | isOpen | readSome =>
        rw [method] at leading
        exact List.prefix_nil.mp leading

/-- Two stream objects on the ends of one connection carry bytes faithfully in both
directions, however their calls interleave and whatever the connection delays, splits or
drops by breaking. -/
theorem tcp_delivers {ends : End → LinkEnd} (works : ∀ party, Works (ends party))
    {connection : Connection}
    (carried : tcp.Carries (fun _ => .fresh) (fun party => (ends party).trace) connection) :
    ∀ party : End, Delivers (ends party.other) (ends party) (connection party) := by
  intro party
  have accounts (party : End) : Account (ends party) := (works party).account
  exact delivers_of_account (accounts party.other) (accounts party)
    (tcp_conserves carried (fun party => (accounts party).closing) party)

def line (client server : Direction) : Connection
  | .client => client
  | .server => server

def clientCalls : List LinkCall :=
  [{ before := .tcp meterStream
     method := .writeAll (.bytes [7, 8]) 1
     trace := [⟨.select 3 false ⟨5, 0⟩, (1 : Int)⟩, ⟨.send 3 [7, 8] 2, .ok (Fin.last 2)⟩]
     reply := .status .ok
     after := .tcp meterStream },
   { before := .tcp meterStream
     method := .close
     trace := [⟨.close 3, ()⟩]
     reply := .status .ok
     after := .tcp (.new meterOptions) }]

def serverRead (bytes : Delivery 4) : LinkCall where
  before := .accepted acceptedMeter
  method := .readSome ⟨false, 4⟩
  trace := [⟨.select 3 true ⟨5, 0⟩, (1 : Int)⟩, ⟨.recv 3 4, .ok bytes⟩]
  reply := .read ⟨.ok, bytes.val.length, bytes.val⟩
  after := .accepted acceptedMeter

def serverCalls (first second : Delivery 4) : List LinkCall :=
  [serverRead first, serverRead second,
   { before := .accepted acceptedMeter
     method := .readSome ⟨false, 4⟩
     trace := [⟨.select 3 true ⟨5, 0⟩, (1 : Int)⟩, ⟨.recv 3 4, .ok Delivery.nothing⟩,
       ⟨.close 3, ()⟩]
     reply := .read (.empty .connectionClosed)
     after := .accepted (AcceptedTcpStream.members.release acceptedMeter) }]

theorem clientCalls_session :
    Session ByteStream.invoke (.tcp meterStream) clientCalls (.tcp (.new meterOptions)) :=
  .cons (.call (.call .refl)) (.cons (.call .refl) .nil)

theorem serverCalls_session :
    Session ByteStream.invoke (.accepted acceptedMeter)
      (serverCalls ⟨[7], by decide⟩ ⟨[8], by decide⟩)
      (.accepted (AcceptedTcpStream.members.release acceptedMeter)) :=
  .cons (.call (.call .refl))
    (.cons (.call (.call .refl)) (.cons (.call (.call (.call .refl))) .nil))

def clientEnd : LinkEnd where
  start := .tcp meterStream
  history := clientCalls
  current := .tcp (.new meterOptions)
  method := .isOpen
  tail := []
  session := clientCalls_session
  running := Program.emits_nil _

def serverEnd : LinkEnd where
  start := .accepted acceptedMeter
  history := serverCalls ⟨[7], by decide⟩ ⟨[8], by decide⟩
  current := .accepted (AcceptedTcpStream.members.release acceptedMeter)
  method := .isOpen
  tail := []
  session := serverCalls_session
  running := Program.emits_nil _

def meterEnds : End → LinkEnd
  | .client => clientEnd
  | .server => serverEnd

theorem wait_serves (before : Connection) (caller : End) (socket : NativeSocket)
    (forRead : Bool) (timeout : Timeval) (result : Int) :
    Serves before caller (.select socket forRead timeout) result before where
  taken := rfl
  standing := rfl
  ends ended := ended.elim
  given := by
    obtain ⟨inFlight, condition⟩ := before caller.other
    cases condition <;> simp [isClose, acceptedBytes, Direction.accept]

/-- The second byte arrives after the client has closed. -/
theorem meterEnds_carried :
    tcp.Carries (fun _ => .fresh) (fun party => (meterEnds party).trace)
      (line ⟨[], .ended⟩ ⟨[], .ended⟩) := by
  have waits (caller : End) (forRead : Bool) (before : Connection) :=
    wait_serves before caller 3 forRead ⟨5, 0⟩ 1
  have begun : tcp.Carries (fun _ => .fresh) (fun _ => []) (line .fresh .fresh) := by
    have same : (fun _ => Direction.fresh) = line .fresh .fresh := by
      funext party
      cases party <;> rfl
    rw [same]
    exact .start
  have sent := (begun.answered (waits .client false _)).call .client
    (.send 3 [7, 8] 2) (.ok (Fin.last 2)) (line .fresh ⟨[7, 8], .flowing⟩)
    ⟨rfl, rfl, False.elim, rfl⟩
  have first := (sent.answered (waits .server true _)).call .server
    (.recv 3 4) (.ok ⟨[7], by decide⟩) (line .fresh ⟨[8], .flowing⟩)
    ⟨rfl, rfl, by simp [AnswersEnd], rfl⟩
  have closed := first.call .client (.close 3) () (line .fresh ⟨[8], .ended⟩)
    ⟨rfl, rfl, False.elim, rfl⟩
  have second := (closed.answered (waits .server true _)).call .server
    (.recv 3 4) (.ok ⟨[8], by decide⟩) (line .fresh ⟨[], .ended⟩)
    ⟨rfl, rfl, by simp [AnswersEnd], rfl⟩
  have ended := (second.answered (waits .server true _)).call .server
    (.recv 3 4) (.ok Delivery.nothing) (line .fresh ⟨[], .ended⟩) ⟨rfl, rfl, fun _ => rfl, rfl⟩
  have last := ended.call .server (.close 3) ()
    (line ⟨[], .ended⟩ ⟨[], .ended⟩) ⟨rfl, rfl, False.elim, rfl⟩
  convert last using 1
  funext party
  cases party <;> rfl

theorem tcp_delivers_late :
    handedOver serverEnd.history = [7, 8] ∧
      ∀ party : End, Delivers (meterEnds party.other) (meterEnds party)
        (line ⟨[], .ended⟩ ⟨[], .ended⟩ party) := by
  have works : ∀ party, Works (meterEnds party) := by
    intro party
    cases party with
    | client =>
        refine ⟨trivial, ?_, trivial⟩
        simp [meterEnds, clientEnd, clientCalls, Ordinary, InputBuffer.size, intMax]
    | server =>
        refine ⟨trivial, ?_, trivial⟩
        simp [meterEnds, serverEnd, serverCalls, serverRead, Ordinary, intMax]
  exact ⟨rfl, tcp_delivers works meterEnds_carried⟩

end DlmsTransport.Transport
