import DlmsTransport.Transport.TcpConnection
import DlmsTransport.Transport.UdpReceiveProperties
import Mathlib.Data.List.Forall2

/-! Two datagram objects on the two ends of a network that loses, repeats and reorders
datagrams. Whatever one of them receives is a datagram that the other one sent. -/

set_option autoImplicit false

namespace DlmsTransport.Transport

open Interaction Posix

/-- What one call took out of its socket, beside the number of bytes it had asked for. -/
def receptionsOf : (request : OsCall) → request.Answer → List (Nat × List UInt8)
  | .recv _ length, .ok bytes => [(length, bytes.val)]
  | _, _ => []

def receptions (trace : OsTrace) : List (Nat × List UInt8) :=
  trace.flatMap fun event => receptionsOf event.request event.answer

/-- The datagram that one call put on the network. -/
def putOutBy : (request : OsCall) → request.Answer → List Datagram
  | .send _ slice _, .ok count => [slice.take count.val]
  | _, _ => []

def putOut (trace : OsTrace) : List Datagram :=
  trace.flatMap fun event => putOutBy event.request event.answer

@[simp] theorem receptions_nil : receptions [] = [] := rfl

@[simp] theorem receptions_cons (event : OsEvent) (rest : OsTrace) :
    receptions (event :: rest) = receptionsOf event.request event.answer ++ receptions rest := rfl

@[simp] theorem receptions_append (front back : OsTrace) :
    receptions (front ++ back) = receptions front ++ receptions back := by
  simp [receptions]

@[simp] theorem putOut_nil : putOut [] = [] := rfl

@[simp] theorem putOut_cons (event : OsEvent) (rest : OsTrace) :
    putOut (event :: rest) = putOutBy event.request event.answer ++ putOut rest := rfl

@[simp] theorem putOut_append (front back : OsTrace) :
    putOut (front ++ back) = putOut front ++ putOut back := by
  simp [putOut]

/-- The datagrams that each end has put out, that have arrived at each end so far, and that
still wait in its socket. -/
structure Network where
  sent : End → List Datagram
  arrived : End → List Datagram
  queue : End → List Datagram

/-- The bytes of a reception are as much of the datagram as was asked for. -/
def Takes (reception : Nat × List UInt8) (datagram : Datagram) : Prop :=
  reception.2 = datagram.take reception.1

namespace Network

def fresh : Network := ⟨fun _ => [], fun _ => [], fun _ => []⟩

/-- `recv` takes the oldest datagram, and what of it does not fit is gone. -/
structure Answers (before : Network) (caller : End) (request : OsCall)
    (answer : request.Answer) (after : Network) : Prop where
  sent : after.sent =
    Function.update before.sent caller (before.sent caller ++ putOutBy request answer)
  arrived : after.arrived = before.arrived
  others : ∀ other ≠ caller, after.queue other = before.queue other
  taken : ∃ taken, List.Forall₂ Takes (receptionsOf request answer) taken ∧
    before.queue caller = taken ++ after.queue caller

/-- Any datagram the other end ever put out may arrive, again or late or never, and a socket
may drop what waits in it. -/
inductive Drifts (before : Network) : Network → Prop where
  | arrives {party : End} {datagram} : datagram ∈ before.sent party.other →
      Drifts before { before with
        arrived := Function.update before.arrived party (before.arrived party ++ [datagram])
        queue := Function.update before.queue party (before.queue party ++ [datagram]) }
  | drops {party : End} {kept} : kept.Sublist (before.queue party) →
      Drifts before { before with queue := Function.update before.queue party kept }

end Network

def udp : Medium End OsCall OsCall.Answer Network where
  step := Network.Answers
  drift := Network.Drifts

/-- What one end has received, in the order of arrival, from what the other has put out. -/
structure Relays (reader writer : OsTrace) (sent arrived queue : List Datagram) : Prop where
  sent : sent = putOut writer
  origin : ∀ datagram ∈ arrived, datagram ∈ putOut writer
  taken : ∃ taken, List.Forall₂ Takes (receptions reader) taken ∧
    (taken ++ queue).Sublist arrived

theorem udp_relays {views : End → OsTrace} {network : Network}
    (carried : udp.Carries .fresh views network) (party : End) :
    Relays (views party) (views party.other) (network.sent party.other) (network.arrived party)
      (network.queue party) := by
  refine carried.invariant (fun _ _ => True)
    (fun views network => ∀ party : End, Relays (views party) (views party.other)
      (network.sent party.other) (network.arrived party) (network.queue party))
    (fun _ _ _ _ => trivial) ?_ ?_ ?_ (fun _ => trivial) party
  · exact fun party => ⟨rfl, by simp [Network.fresh], [], .nil, List.Sublist.refl _⟩
  · intro views before caller request answer after holds _ answered party
    obtain ⟨sent, origin, taken, matching, within⟩ := holds party
    by_cases same : party = caller
    · subst same
      obtain ⟨now, matchingNow, queued⟩ := answered.taken
      rw [Medium.extend_self, Medium.extend_of_ne _ party.other_ne, answered.sent,
        Function.update_of_ne party.other_ne, answered.arrived]
      refine ⟨sent, origin, taken ++ now, ?_, ?_⟩
      · simpa using List.rel_append matching matchingNow
      · rwa [queued, ← List.append_assoc] at within
    · obtain rfl := End.eq_other_of_ne same
      rw [Medium.extend_self, Medium.extend_of_ne _ same, answered.sent, Function.update_self,
        answered.arrived, answered.others party same]
      refine ⟨by simp [sent], fun datagram member => ?_, taken, matching, within⟩
      rw [putOut_append]
      exact List.mem_append_left _ (origin datagram member)
  · intro views before after holds drifted party
    obtain ⟨sent, origin, taken, matching, within⟩ := holds party
    cases drifted with
    | @arrives reached datagram known =>
        by_cases same : party = reached
        · subst same
          simp only [Function.update_self]
          refine ⟨sent, ?_, taken, matching, ?_⟩
          · intro other member
            rcases List.mem_append.mp member with before | new
            · exact origin other before
            · obtain rfl := List.mem_singleton.mp new
              exact sent ▸ known
          · rw [← List.append_assoc]
            exact within.append (List.Sublist.refl _)
        · simp only [Function.update_of_ne same]
          exact ⟨sent, origin, taken, matching, within⟩
    | @drops reached kept fewer =>
        by_cases same : party = reached
        · subst same
          simp only [Function.update_self]
          exact ⟨sent, origin, taken, matching,
            ((List.Sublist.refl taken).append fewer).trans within⟩
        · simp only [Function.update_of_ne same]
          exact ⟨sent, origin, taken, matching, within⟩

def TakesNothing (request : OsCall) : Prop :=
  ∀ answer, receptionsOf request answer = []

def PutsNothing (request : OsCall) : Prop :=
  ∀ answer, putOutBy request answer = []

theorem receptions_eq_nil {trace : OsTrace} (silent : ∀ event ∈ trace, TakesNothing event.request) :
    receptions trace = [] :=
  List.flatMap_eq_nil_iff.mpr fun event member => silent event member event.answer

theorem putOut_eq_nil {trace : OsTrace} (silent : ∀ event ∈ trace, PutsNothing event.request) :
    putOut trace = [] :=
  List.flatMap_eq_nil_iff.mpr fun event member => silent event member event.answer

/-- What a receive hands to its caller, beside the room it had. -/
def ReadReply.reception (reply : ReadReply) (output : OutputBuffer) : List (Nat × List UInt8) :=
  if reply.status = .ok then [(output.size, reply.output.take reply.bytesRead)] else []

/-- The size check that a receive makes found something that fits. -/
def ChecksSize (size : Nat) (trace : OsTrace) : Prop :=
  ∃ fd, ∃ pending : Int, pending ≤ size ∧ ⟨.fionread fd, some pending⟩ ∈ trace

theorem pendingSize_le {answer : Option Int} {pending size : Nat}
    (checked : pendingSize answer = some pending) (room : pending ≤ size) :
    ∃ found : Int, answer = some found ∧ found ≤ size := by
  cases answer with
  | none => cases checked
  | some found =>
      refine ⟨found, rfl, ?_⟩
      simp only [pendingSize, Option.ite_none_left_eq_some, Option.some.injEq] at checked
      omega

namespace UdpTransport

theorem receive_putsNothing (self : UdpTransport) (output : OutputBuffer) :
    (self.receive output).Only PutsNothing :=
  self.receive_only output (fun _ _ => rfl) (fun _ => rfl) (fun _ _ => rfl) fun _ => rfl

theorem send_takesNothing (self : UdpTransport) (input : InputBuffer) :
    (self.send input).Only TakesNothing :=
  self.send_only input (fun _ _ => rfl) (fun _ _ _ => rfl) fun _ => rfl

/-- A send puts out at most one datagram, and nothing that it was not given. -/
theorem send_putOut (self : UdpTransport) (input : InputBuffer) {trace : OsTrace}
    (emitted : (self.send input).Emits trace) :
    putOut trace = [] ∨ ∃ datagram, datagram <+: input.data ∧ putOut trace = [datagram] := by
  have form := self.send_form input
  generalize self.send input = program at form emitted
  cases form with
  | closed | unconfigured | invalid =>
      obtain rfl := Program.emits_done_iff.mp emitted
      exact .inl rfl
  | waiting =>
      rcases Program.emits_call_iff.mp emitted with rfl | ⟨(result : Int), rest, rfl, waited⟩
      · exact .inl rfl
      · split at waited
        · rcases Program.emits_call_iff.mp waited with rfl | ⟨answer, last, rfl, residual, leading⟩
          · exact .inl rfl
          · have after := putOut_eq_nil ((concludeSend_only (fun _ => rfl) _ _).mem leading)
            cases answer with
            | error error => exact .inl (by simp [putOutBy, after])
            | ok count =>
                exact .inr ⟨_, List.take_prefix count.val input.data, by simp [putOutBy, after]⟩
        · obtain rfl := Program.emits_done_iff.mp waited
          exact .inl rfl

private theorem concludeSend_whole {input : List UInt8} (fits : input.length ≤ intMax)
    (fd : NativeSocket) (answer : Except Errno (Fin (input.length + 1))) :
    (concludeSend input.length (.ofInt answer)).Ensures fun back status =>
      status = .ok → putOut (⟨.send fd input input.length, answer⟩ :: back) = [input] := by
  cases answer with
  | error error =>
      refine Program.ensures_done_iff.mpr ?_
      split <;> simp
  | ok count =>
      have bounded : count.val ≤ input.length := Nat.le_of_lt_succ count.isLt
      rw [Transferred.ofInt_of_le (bounded.trans fits), concludeSend,
        if_neg (Int.natCast_nonneg _).not_gt]
      split
      · exact Program.ensures_done_iff.mpr (by simp)
      · next whole =>
        rw [Int.toNat_natCast, ne_eq, not_not] at whole
        exact Program.ensures_done_iff.mpr fun _ => by simp [putOutBy, whole]

theorem send_whole (self : UdpTransport) {input : InputBuffer} (fits : input.size ≤ intMax) :
    (self.send input).Ensures fun trace status => status = .ok → putOut trace = [input.data] := by
  have form := self.send_form input
  generalize self.send input = program at form
  cases form with
  | closed | unconfigured | invalid => exact Program.ensures_done_iff.mpr (by simp)
  | waiting _ _ valid =>
      rw [Program.ensures_call_iff]
      intro (result : Int)
      split
      · rw [InputBuffer.size_eq_length valid] at fits ⊢
        rw [Program.ensures_call_iff, throughInt_of_le fits]
        exact fun answer => (concludeSend_whole fits self.socket_ answer).mono
          fun _ _ whole ok => whole ok
      · refine Program.ensures_done_iff.mpr ?_
        split <;> simp

private theorem concludeReceive_takes {output : OutputBuffer} (fits : output.size ≤ intMax)
    (fd : NativeSocket) (answer : Except Errno (Delivery output.size)) :
    (concludeReceive (.ofInt answer)).Ensures fun back reply =>
      receptions (⟨.recv fd output.size, answer⟩ :: back) = reply.reception output := by
  cases answer with
  | error error =>
      refine Program.ensures_done_iff.mpr ?_
      have failed :
          (if isWouldBlock error then TransportStatus.wouldBlock else .readFailed) ≠ .ok := by
        split <;> simp
      simp [receptionsOf, ReadReply.reception, failed]
  | ok bytes =>
      rw [Received.ofInt_of_le (bytes.property.trans fits), concludeReceive,
        if_pos (Int.natCast_nonneg _)]
      exact Program.ensures_done_iff.mpr (by simp [receptionsOf, ReadReply.reception])

theorem receive_takes (self : UdpTransport) {output : OutputBuffer}
    (fits : output.size ≤ intMax) :
    (self.receive output).Ensures fun trace reply =>
      receptions trace = reply.reception output ∧
        (reply.status = .ok → ChecksSize output.size trace) := by
  have form := self.receive_form output
  generalize self.receive output = program at form
  cases form with
  | closed | invalid => exact Program.ensures_done_iff.mpr ⟨rfl, by simp⟩
  | waiting =>
      rw [Program.ensures_call_iff]
      intro (result : Int)
      split
      · rw [Program.ensures_call_iff]
        intro answer
        cases checked : pendingSize answer with
        | none =>
            exact Program.ensures_done_iff.mpr
              ⟨by simp [receptionsOf, ReadReply.reception, ReadReply.empty], by simp⟩
        | some pending =>
            rw [receivePending]
            split
            · exact Program.ensures_done_iff.mpr
                ⟨by simp [receptionsOf, ReadReply.reception, ReadReply.empty], by simp⟩
            · next room =>
              rw [receiveInt_bind, Program.ensures_call_iff, throughInt_of_le fits]
              intro arrived
              refine (concludeReceive_takes fits self.socket_ arrived).mono ?_
              intro back reply taken
              obtain ⟨found, rfl, small⟩ := pendingSize_le checked (Nat.not_lt.mp room)
              exact ⟨taken, fun _ => ⟨self.socket_, found, small, by simp⟩⟩
      · next unready =>
        refine Program.ensures_done_iff.mpr ⟨?_, ?_⟩
        · have failed : waitStatus true result ≠ .ok := by simpa using unready
          simp [receptionsOf, ReadReply.reception, failed]
        · simpa using fun ready => absurd ready unready

end UdpTransport

abbrev UdpCall := Invocation UdpTransport DatagramMethod OsCall OsCall.Answer DatagramReply

abbrev UdpEnd := Underway UdpTransport.invoke

/-- The calls of one socket: it is not opened anew, and its buffers are such as an `int` can
measure. -/
def UsesSocket : DatagramMethod → Prop
  | .open => False
  | .close | .isOpen => True
  | .send input => input.size ≤ intMax
  | .receive output => output.size ≤ intMax

/-- What a call handed to its caller, beside the room it had. -/
def receptionOf (method : DatagramMethod) (reply : DatagramReply) : List (Nat × List UInt8) :=
  match method, reply with
  | .receive output, .read reply => reply.reception output
  | _, _ => []

/-- What a call has put on the network: at most one datagram, of what it was asked to send. -/
def PutsOut (method : DatagramMethod) (datagrams : List Datagram) : Prop :=
  datagrams = [] ∨ ∃ input datagram, method = .send input ∧ datagram <+: input.data ∧
    datagrams = [datagram]

/-- The calls of a method against what its caller was told. -/
structure UdpTranscript (method : DatagramMethod) (trace : OsTrace) (reply : DatagramReply) :
    Prop where
  received : receptions trace = receptionOf method reply
  checked : ∀ output result, method = .receive output → reply = .read result →
    result.status = .ok → ChecksSize output.size trace
  whole : ∀ input, method = .send input → reply = .status .ok → putOut trace = [input.data]

theorem UdpTransport.invoke_putsOut (self : UdpTransport) {method : DatagramMethod}
    (ordinary : UsesSocket method) {trace : OsTrace}
    (emitted : (self.invoke method).Emits trace) : PutsOut method (putOut trace) := by
  cases method with
  | «open» => cases ordinary
  | isOpen =>
      obtain rfl := Program.emits_done_iff.mp emitted
      exact .inl rfl
  | close =>
      obtain ⟨_, leading⟩ := Program.emits_map_iff.mp emitted
      exact .inl (putOut_eq_nil ((self.close_only fun _ => rfl).mem leading))
  | send input =>
      rcases self.send_putOut input (Program.emits_map_iff.mp emitted) with none | sent
      · exact .inl none
      · obtain ⟨datagram, leading, one⟩ := sent
        exact .inr ⟨input, datagram, rfl, leading, one⟩
  | receive output =>
      obtain ⟨_, leading⟩ := Program.emits_map_iff.mp emitted
      exact .inl (putOut_eq_nil ((self.receive_putsNothing output).mem leading))

theorem UdpTransport.invoke_transcript (self : UdpTransport) {method : DatagramMethod}
    (ordinary : UsesSocket method) :
    (self.invoke method).Ensures fun trace outcome => UdpTranscript method trace outcome.1 := by
  cases method with
  | «open» => cases ordinary
  | isOpen => exact Program.ensures_done_iff.mpr ⟨rfl, by simp, by simp⟩
  | close =>
      refine Program.ensures_map_iff.mpr fun trace outcome run => ?_
      exact ⟨receptions_eq_nil ((self.close_only fun _ => rfl).mem run), by simp, by simp⟩
  | send input =>
      refine Program.ensures_map_iff.mpr fun trace status run => ?_
      refine ⟨receptions_eq_nil ((self.send_takesNothing input).mem run), by simp, ?_⟩
      intro sent same ok
      obtain rfl := DatagramMethod.send.inj same
      exact self.send_whole ordinary _ _ run (StreamReply.status.inj ok)
  | receive output =>
      refine Program.ensures_map_iff.mpr fun trace reply run => ?_
      obtain ⟨taken, checked⟩ := self.receive_takes ordinary _ _ run
      refine ⟨taken, ?_, by simp⟩
      intro room result same answered
      obtain rfl := DatagramMethod.receive.inj same
      obtain rfl := StreamReply.read.inj answered
      exact checked

theorem udp_transcripts {start final : UdpTransport} {history : List UdpCall}
    (session : Session UdpTransport.invoke start history final)
    (ordinary : ∀ call ∈ history, UsesSocket call.method) :
    ∀ call ∈ history, PutsOut call.method (putOut call.trace) ∧
      UdpTranscript call.method call.trace call.reply := by
  intro call member
  have run := session.runs_of_mem member
  have uses := ordinary call member
  exact ⟨call.before.invoke_putsOut uses run.emits, call.before.invoke_transcript uses _ _ run⟩

theorem putOut_sessionTrace (history : List UdpCall) :
    putOut (sessionTrace history) = (history.map fun call => putOut call.trace).flatten := by
  induction history with
  | nil => rfl
  | cons call rest ih => simp [ih]

theorem receptions_sessionTrace (history : List UdpCall) :
    receptions (sessionTrace history) =
      (history.map fun call => receptions call.trace).flatten := by
  induction history with
  | nil => rfl
  | cons call rest ih => simp [ih]

/-- What two datagram objects owe each other, in the direction from `writer` to `reader`. -/
structure Exchanges (writer reader : UdpEnd) (arrived queue : List Datagram) : Prop where
  /-- Each successful receive took one datagram of its own off those that had arrived, in
  their order, and handed over as much of it as there was room for. -/
  taken : ∃ taken,
    List.Forall₂ Takes
      ((reader.history.map fun call => receptionOf call.method call.reply).flatten ++
        receptions reader.tail) taken ∧
      (taken ++ queue).Sublist arrived
  /-- Its size check had found a datagram that fits. -/
  checked : ∀ call ∈ reader.history, ∀ output result, call.method = .receive output →
    call.reply = .read result → result.status = .ok → ChecksSize output.size call.trace
  /-- Whatever arrives is what some call of the other end has put out. -/
  origin : ∀ datagram ∈ arrived,
    (∃ call ∈ writer.history, datagram ∈ putOut call.trace) ∨ datagram ∈ putOut writer.tail
  sent : ∀ call ∈ writer.history, PutsOut call.method (putOut call.trace) ∧
    ∀ input, call.method = .send input → call.reply = .status .ok →
      putOut call.trace = [input.data]
  last : PutsOut writer.method (putOut writer.tail)

def meterSend : UdpCall where
  before := meterUdp
  method := .send (.bytes [1, 2, 3])
  trace := [⟨.select 3 false ⟨5, 0⟩, (1 : Int)⟩, ⟨.send 3 [1, 2, 3] 3, .ok (Fin.last 3)⟩]
  reply := .status .ok
  after := meterUdp

/-- A receive with room for the eight bytes of a larger datagram. -/
def meterReceive (bytes : Delivery 8) : UdpCall where
  before := listeningUdp
  method := .receive ⟨false, 8⟩
  trace := [⟨.select 5 true ⟨5, 0⟩, (1 : Int)⟩, ⟨.fionread 5, some 3⟩, ⟨.recv 5 8, .ok bytes⟩]
  reply := .read ⟨.ok, bytes.val.length, bytes.val⟩
  after := listeningUdp

def arrivedBytes : Delivery 8 := ⟨[1, 2, 3], by decide⟩

theorem meterSend_session : Session UdpTransport.invoke meterUdp [meterSend] meterUdp :=
  .cons (.call (.call .refl)) .nil

theorem meterReceive_session :
    Session UdpTransport.invoke listeningUdp [meterReceive arrivedBytes, meterReceive arrivedBytes]
      listeningUdp :=
  .cons (.call (.call (.call .refl))) (.cons (.call (.call (.call .refl))) .nil)

def udpEnds : End → UdpEnd
  | .client =>
      { start := meterUdp
        history := [meterSend]
        current := meterUdp
        method := .isOpen
        tail := []
        session := meterSend_session
        running := Program.emits_nil _ }
  | .server =>
      { start := listeningUdp
        history := [meterReceive arrivedBytes, meterReceive arrivedBytes]
        current := listeningUdp
        method := .isOpen
        tail := []
        session := meterReceive_session
        running := Program.emits_nil _ }

theorem Network.Answers.idle {before : Network} {caller : End} {request : OsCall}
    {answer : request.Answer} (takes : receptionsOf request answer = [])
    (puts : putOutBy request answer = []) : before.Answers caller request answer before where
  sent := by simp [puts]
  arrived := rfl
  others _ _ := rfl
  taken := ⟨[], by simp [takes], rfl⟩

/-- The client has sent one datagram, and this is what the server has of it. -/
def towardsServer (arrived queue : List Datagram) : Network where
  sent := Function.update (fun _ => []) .client [[1, 2, 3]]
  arrived := Function.update (fun _ => []) .server arrived
  queue := Function.update (fun _ => []) .server queue

private theorem towardsServer_arrives (arrived queue : List Datagram) :
    (towardsServer arrived queue).Drifts
      (towardsServer (arrived ++ [[1, 2, 3]]) (queue ++ [[1, 2, 3]])) := by
  have known : [1, 2, 3] ∈ (towardsServer arrived queue).sent End.server.other := by
    simp [towardsServer, End.other]
  simpa [towardsServer] using Network.Drifts.arrives known

private theorem towardsServer_receives (arrived queue : List Datagram) :
    (towardsServer arrived ([1, 2, 3] :: queue)).Answers .server (.recv 5 8) (.ok arrivedBytes)
      (towardsServer arrived queue) where
  sent := by simp [putOutBy, towardsServer]
  arrived := rfl
  others other different := by simp [towardsServer, Function.update_of_ne different]
  taken := ⟨[[1, 2, 3]], .cons rfl .nil, by simp [towardsServer]⟩

end DlmsTransport.Transport
