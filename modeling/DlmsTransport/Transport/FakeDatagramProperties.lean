import DlmsTransport.Interaction.Lockstep
import DlmsTransport.Transport.Fakes
import DlmsTransport.Transport.UdpOpening
import DlmsTransport.Transport.UdpReceiveProperties

/-! The scripted datagram transport as a double of the real one. The fake is told
of every datagram that arrives and, before a call, of the way the OS will fail;
it then answers as the real transport on a queue of datagrams does. -/

set_option autoImplicit false

namespace DlmsTransport.Transport

open Interaction Posix

/-- The datagrams that wait at a socket, and those it has put on the wire. -/
structure DatagramSocket where
  queue : List Datagram
  transmitted : List Datagram
  deriving DecidableEq, Repr

namespace DatagramSocket

/-- `FIONREAD` reports the size of the oldest datagram, `recv` removes it and
delivers what fits, `send` transmits all of a datagram or nothing. A call that
fails moves nothing. -/
def socket : Environment OsCall OsCall.Answer DatagramSocket where
  step before
    | .fionread _, size, after =>
        (size = none ∨ size = some (headSize before.queue : Int)) ∧ after = before
    | .recv _ length, .ok bytes, after =>
        ∃ datagram rest, before.queue = datagram :: rest ∧
          bytes.val = datagram.take length ∧ after = { before with queue := rest }
    | .send _ slice length, .ok accepted, after =>
        after = if accepted.val = length then
          { before with transmitted := before.transmitted ++ [slice.take length] }
        else
          before
    | .close _, _, after => after = { before with queue := [] }
    | _, _, after => after = before

/-- Datagrams arrive while there is a socket for them. -/
def arrives (udp : UdpTransport) (before : DatagramSocket) (datagram : Datagram)
    (after : DatagramSocket) : Prop :=
  udp.open_ = true ∧ after = { before with queue := before.queue ++ [datagram] }

end DatagramSocket

/-- The status an OS failure is reported with. -/
def osFailure : (request : OsCall) → request.Answer → Option TransportStatus
  | .select _ forRead _, result =>
      if 0 < result then none
      else if result = 0 then some .timeout
      else some (if forRead then .readFailed else .writeFailed)
  | .fionread _, none => some .readFailed
  | .recv _ _, .error error =>
      some (if UdpTransport.isWouldBlock error then .wouldBlock else .readFailed)
  | .send _ _ _, .error error =>
      some (if UdpTransport.isWouldBlock error then .wouldBlock else .writeFailed)
  | .send _ _ length, .ok accepted =>
      if accepted.val = length then none else some .writeFailed
  | _, _ => none

def failureStatus (trace : OsTrace) : Option TransportStatus :=
  trace.findSome? fun event => osFailure event.request event.answer

@[simp] theorem failureStatus_nil : failureStatus [] = none := rfl

@[simp] theorem failureStatus_cons (event : OsEvent) (rest : OsTrace) :
    failureStatus (event :: rest) =
      (osFailure event.request event.answer).or (failureStatus rest) := by
  rw [failureStatus, List.findSome?_cons]
  cases osFailure event.request event.answer <;> rfl

theorem osFailure_select_ready {fd : Int} {forRead : Bool} {timeout : Timeval} {result : Int}
    (ready : 0 < result) : osFailure (.select fd forRead timeout) result = none :=
  if_pos ready

theorem osFailure_select_unready {fd : Int} {forRead : Bool} {timeout : Timeval} {result : Int}
    (unready : ¬ 0 < result) :
    osFailure (.select fd forRead timeout) result = some (waitStatus forRead result) := by
  rw [osFailure, waitStatus, if_neg unready, if_neg unready]
  split
  · rfl
  · cases forRead <;> rfl

def FakeDatagramTransport.prepare (self : FakeDatagramTransport) (method : DatagramMethod)
    (failure : Option TransportStatus) : FakeDatagramTransport :=
  match method, failure with
  | .receive _, some status => self.scriptNextReceiveStatus status
  | .send _, some status => self.scriptNextSendStatus status
  | _, _ => self

def FakeDatagramTransport.double :
    Double Datagram UdpTransport DatagramMethod OsCall OsCall.Answer DatagramReply
      FakeDatagramTransport where
  hear := scriptReceive
  prepare fake method trace := fake.prepare method (failureStatus trace)
  perform := perform
  Alike udp fake := udp.isOpen = fake.isOpen

abbrev DatagramEncounter :=
  Encounter UdpTransport DatagramSocket DatagramMethod OsCall OsCall.Answer DatagramReply

abbrev DatagramTurn :=
  Turn Datagram UdpTransport DatagramSocket DatagramMethod OsCall OsCall.Answer DatagramReply

def DatagramMethod.size : DatagramMethod → Nat
  | .send input => input.size
  | .receive output => output.size
  | _ => 0

/-- One `Open` succeeds, and every other one meets an open transport. -/
def OpensOnce (turns : List DatagramTurn) : Prop :=
  ∃ front opening back, turns = front ++ .call opening :: back ∧
    opening.method = .open ∧ opening.reply = .status .ok ∧
    (∀ encounter, .call encounter ∈ front → encounter.method ≠ .open) ∧
    ∀ encounter, .call encounter ∈ back → encounter.method = .open →
      encounter.reply = .status .alreadyOpen

namespace DatagramSocket

/-- The ways a receive on an open transport can end. -/
inductive Receives (before : DatagramSocket) (output : OutputBuffer) :
    Option TransportStatus → ReadReply → DatagramSocket → Prop where
  | failed {status} : status ≠ .ok → Receives before output (some status) (.empty status) before
  | refused {datagram rest} : before.queue = datagram :: rest →
      output.size < datagram.length →
      Receives before output none (.empty .outputBufferTooSmall) before
  | taken {datagram rest} : before.queue = datagram :: rest →
      datagram.length ≤ output.size →
      Receives before output none ⟨.ok, datagram.length, datagram⟩ { before with queue := rest }

/-- The ways a send on an open transport can end. -/
inductive Sends (before : DatagramSocket) (input : InputBuffer) :
    Option TransportStatus → TransportStatus → DatagramSocket → Prop where
  | failed {status} : status ≠ .ok → Sends before input (some status) status before
  | sent : Sends before input none .ok
      { before with transmitted := before.transmitted ++ [input.data] }

variable {before after : DatagramSocket} {trace : OsTrace} {udp : UdpTransport}

private theorem receivePending_receives {output : OutputBuffer} (fits : output.size ≤ intMax)
    {size : Option Int} (reported : size = none ∨ size = some (headSize before.queue : Int))
    {reply : ReadReply} (run : (udp.receivePending output (pendingSize size)).Runs trace reply)
    (followed : socket.Follows before trace after) :
    before.Receives output ((osFailure (.fionread udp.socket_) size).or (failureStatus trace))
      reply after := by
  rcases reported with rfl | rfl
  · obtain ⟨rfl, rfl⟩ := Program.runs_done_iff.mp run
    obtain rfl := followed
    exact .failed (by simp)
  · rw [pendingSize_natCast] at run
    unfold UdpTransport.receivePending at run
    dsimp only at run
    split at run
    · next large =>
      obtain ⟨rfl, rfl⟩ := Program.runs_done_iff.mp run
      obtain rfl := followed
      cases queued : before.queue with
      | nil => simp [queued, headSize] at large
      | cons datagram rest =>
          rw [queued] at large
          exact .refused queued large
    · next small =>
      rw [receiveInt_bind] at run
      obtain ⟨answer, rest, rfl, concluded⟩ := Program.runs_call_iff.mp run
      obtain ⟨middle, stepped, following⟩ := followed
      cases answer with
      | error error =>
          obtain rfl := stepped
          obtain ⟨rfl, rfl⟩ :=
            UdpTransport.concludeReceive_runs concluded (.inr (by simp [Received.ofInt]))
          obtain rfl := following
          exact .failed (by split <;> simp)
      | ok bytes =>
          obtain ⟨datagram, others, queued, taken, rfl⟩ := stepped
          rw [queued] at small
          have fitting : datagram.length ≤ output.size := Nat.not_lt.mp small
          have whole : datagram.take (throughInt output.size) = datagram := by
            rw [throughInt_of_le fits, List.take_of_length_le fitting]
          replace taken := taken.trans whole
          have counted : bytes.val.length ≤ intMax := by
            rw [taken]
            exact fitting.trans fits
          rw [Received.ofInt_of_le counted] at concluded
          obtain ⟨rfl, rfl⟩ :=
            UdpTransport.concludeReceive_runs concluded (.inl (Int.natCast_nonneg _))
          obtain rfl := following
          rw [taken, if_pos (Int.natCast_nonneg _), Int.toNat_natCast]
          exact .taken queued fitting

theorem receive_receives (opened : udp.open_ = true) {output : OutputBuffer}
    (valid : output.invalid = false) (fits : output.size ≤ intMax) {reply : ReadReply}
    (run : (udp.receive output).Runs trace reply) (followed : socket.Follows before trace after) :
    before.Receives output (failureStatus trace) reply after := by
  have form := udp.receive_form output
  generalize udp.receive output = program at form run
  cases form with
  | closed closed => simp [opened] at closed
  | invalid _ invalid => simp [valid] at invalid
  | waiting =>
      obtain ⟨result, rest, rfl, waited⟩ := Program.runs_call_iff.mp run
      obtain ⟨_, rfl, following⟩ := followed
      split at waited
      · next ready =>
        obtain ⟨size, rest, rfl, checked⟩ := Program.runs_call_iff.mp waited
        obtain ⟨_, ⟨reported, rfl⟩, following⟩ := following
        have received := receivePending_receives fits reported checked following
        rw [failureStatus_cons, failureStatus_cons, osFailure_select_ready ready, Option.none_or]
        exact received
      · next unready =>
        obtain ⟨rfl, rfl⟩ := Program.runs_done_iff.mp waited
        obtain rfl := following
        rw [failureStatus_cons, osFailure_select_unready unready]
        exact .failed (by simp; omega)

theorem send_sends (opened : udp.open_ = true) (remote : udp.remoteConfigured_ = true)
    {input : InputBuffer} (valid : input.invalid = false) (fits : input.size ≤ intMax)
    {status : TransportStatus} (run : (udp.send input).Runs trace status)
    (followed : socket.Follows before trace after) :
    before.Sends input (failureStatus trace) status after := by
  have form := udp.send_form input
  generalize udp.send input = program at form run
  cases form with
  | closed closed => simp [opened] at closed
  | unconfigured _ unconfigured => simp [remote] at unconfigured
  | invalid _ _ invalid => simp [valid] at invalid
  | waiting =>
      obtain ⟨result, rest, rfl, waited⟩ := Program.runs_call_iff.mp run
      obtain ⟨_, rfl, following⟩ := followed
      split at waited
      · next ready =>
        obtain ⟨answer, rest, rfl, concluded⟩ := Program.runs_call_iff.mp waited
        obtain ⟨middle, stepped, following⟩ := following
        rw [failureStatus_cons, failureStatus_cons, osFailure_select_ready ready, Option.none_or]
        rw [InputBuffer.size_eq_length valid] at fits concluded
        cases answer with
        | error error =>
            obtain rfl := stepped
            obtain ⟨rfl, rfl⟩ := Program.runs_done_iff.mp concluded
            obtain rfl := following
            exact .failed (by split <;> simp)
        | ok accepted =>
            have whole : throughInt input.data.length = input.data.length := throughInt_of_le fits
            have counted : accepted.val ≤ intMax := by omega
            rw [Transferred.ofInt_of_le counted, UdpTransport.concludeSend,
              if_neg (Int.natCast_nonneg _).not_gt, Int.toNat_natCast] at concluded
            split at concluded
            · next short =>
              have partly : ¬ accepted.val = throughInt input.data.length := by omega
              obtain rfl := stepped.trans (if_neg partly)
              obtain ⟨rfl, rfl⟩ := Program.runs_done_iff.mp concluded
              obtain rfl := following
              rw [osFailure, if_neg partly]
              exact .failed nofun
            · next all =>
              have complete : accepted.val = throughInt input.data.length := by omega
              obtain rfl := stepped.trans (if_pos complete)
              obtain ⟨rfl, rfl⟩ := Program.runs_done_iff.mp concluded
              obtain rfl := following
              rw [osFailure, if_pos complete, List.take_of_length_le whole.ge]
              exact .sent
      · next unready =>
        obtain ⟨rfl, rfl⟩ := Program.runs_done_iff.mp waited
        obtain rfl := following
        rw [failureStatus_cons, osFailure_select_unready unready]
        have reported : (if result = 0 then .timeout else .writeFailed) =
            waitStatus false result := by
          rw [waitStatus, if_neg unready]
          rfl
        rw [reported]
        exact .failed (by simp; omega)

end DatagramSocket

namespace FakeDatagramTransport

/-- A fake with no status scripted, as it is between two calls. -/
def idle (open_ : Bool) (queue sent : List Datagram) : FakeDatagramTransport where
  open_
  receiveDatagrams_ := queue
  sentDatagrams_ := sent
  nextReceiveStatus_ := .ok
  nextSendStatus_ := .ok

theorem receive_idle {before after : DatagramSocket} {output : OutputBuffer}
    {failure : Option TransportStatus} {reply : ReadReply} (valid : output.invalid = false)
    (received : before.Receives output failure reply after) :
    ((idle true before.queue before.transmitted).prepare (.receive output) failure).receive output =
      (reply, idle true after.queue after.transmitted) := by
  cases received with
  | failed status => simp [prepare, idle, scriptNextReceiveStatus, receive, valid, status]
  | refused queued small => simp [prepare, idle, receive, valid, queued, small]
  | taken queued fitting => simp [prepare, idle, receive, valid, queued, fitting.not_gt]

theorem send_idle {before after : DatagramSocket} {input : InputBuffer}
    {failure : Option TransportStatus} {status : TransportStatus} (valid : input.invalid = false)
    (sends : before.Sends input failure status after) :
    ((idle true before.queue before.transmitted).prepare (.send input) failure).send input =
      (status, idle true after.queue after.transmitted) := by
  cases sends with
  | failed status => simp [prepare, idle, scriptNextSendStatus, send, valid, status]
  | sent => simp [prepare, idle, send, valid, InputBuffer.copy_eq_data valid]

end FakeDatagramTransport

open FakeDatagramTransport in
/-- The real transport on its socket, and the fake that stands for both. -/
inductive DatagramsRelated : UdpTransport → DatagramSocket → FakeDatagramTransport → Prop where
  | opened {udp socket} : udp.open_ = true → udp.remoteConfigured_ = true →
      DatagramsRelated udp socket (idle true socket.queue socket.transmitted)
  | closed {options socket queue} :
      DatagramsRelated (.new options) socket (idle false queue socket.transmitted)

/-- A closed transport answers at once, as a closed fake does. -/
theorem invoke_closed (options : UdpTransportOptions) (queue sent : List Datagram)
    {method : DatagramMethod} (used : method ≠ .open) : ∃ reply,
      (UdpTransport.new options).invoke method = .done (reply, .new options) ∧
        (FakeDatagramTransport.idle false queue sent).perform method =
          (reply, .idle false queue sent) := by
  cases method with
  | «open» => contradiction
  | close =>
      refine ⟨.status .ok, ?_, rfl⟩
      simp [UdpTransport.invoke, UdpTransport.close, UdpTransport.new]
  | isOpen => exact ⟨.flag false, rfl, rfl⟩
  | send input => exact ⟨.status .notOpen, rfl, rfl⟩
  | receive output => exact ⟨.read (.empty .notOpen), rfl, rfl⟩

/-- Looking up addresses and setting up sockets neither sends nor receives. -/
private theorem open_followed {udp : UdpTransport} {trace : OsTrace}
    {outcome : TransportStatus × UdpTransport} (run : udp.open.Runs trace outcome)
    {before after : DatagramSocket} (followed : DatagramSocket.socket.Follows before trace after)
    (quiet : before.queue = []) : after = before := by
  refine Program.Only.follows (fun world => world = before) ?_ udp.open_only run followed rfl
  intro request prepares world answer next same stepped
  subst same
  cases request with
  | close => exact stepped.trans (by cases world; simp_all)
  | getaddrinfo | freeaddrinfo | socket | fcntlGetFlags | fcntlSetNonBlock | connect | bind =>
      exact stepped
  | _ => exact prepares.elim

/-- A call that first checks its arguments, and refuses them without a call to the OS. -/
private theorem checked_matches {α : Type} {invalid : Bool} {refusal reply : α}
    {rest : OsProgram α} {trace : OsTrace} {before after : DatagramSocket}
    (Agrees : Option TransportStatus → α → DatagramSocket → Prop)
    (refuses : invalid = true → Agrees none refusal before)
    (proceeds : invalid = false → Agrees (failureStatus trace) reply after)
    (run : (if invalid = true then pure refusal else rest).Runs trace reply)
    (followed : DatagramSocket.socket.Follows before trace after) :
    Agrees (failureStatus trace) reply after := by
  cases valid : invalid with
  | false => exact proceeds valid
  | true =>
      rw [if_pos valid] at run
      obtain ⟨rfl, rfl⟩ := Program.runs_done_iff.mp run
      obtain rfl := followed
      exact refuses valid

/-- A send on an open transport and on the fake that stands for it. -/
private theorem send_matches {udp : UdpTransport} {before after : DatagramSocket}
    (opened : udp.open_ = true) (remote : udp.remoteConfigured_ = true) {input : InputBuffer}
    (fits : input.size ≤ intMax) {trace : OsTrace} {status : TransportStatus}
    (run : (udp.send input).Runs trace status)
    (followed : DatagramSocket.socket.Follows before trace after) :
    ((FakeDatagramTransport.idle true before.queue before.transmitted).prepare (.send input)
        (failureStatus trace)).send input =
      (status, .idle true after.queue after.transmitted) := by
  have proceeds (valid : input.invalid = false) := FakeDatagramTransport.send_idle valid
    (DatagramSocket.send_sends opened remote valid fits run followed)
  rw [UdpTransport.send, if_neg (by simp [opened]), if_neg (by simp [remote])] at run
  refine checked_matches (fun failure status socket =>
    ((FakeDatagramTransport.idle true before.queue before.transmitted).prepare (.send input)
      failure).send input = (status, .idle true socket.queue socket.transmitted))
    (fun invalid => ?_) proceeds run followed
  simp [FakeDatagramTransport.prepare, FakeDatagramTransport.send, FakeDatagramTransport.idle,
    invalid]

private theorem receive_matches {udp : UdpTransport} {before after : DatagramSocket}
    (opened : udp.open_ = true) {output : OutputBuffer} (fits : output.size ≤ intMax)
    {trace : OsTrace} {reply : ReadReply} (run : (udp.receive output).Runs trace reply)
    (followed : DatagramSocket.socket.Follows before trace after) :
    ((FakeDatagramTransport.idle true before.queue before.transmitted).prepare (.receive output)
        (failureStatus trace)).receive output =
      (reply, .idle true after.queue after.transmitted) := by
  have proceeds (valid : output.invalid = false) := FakeDatagramTransport.receive_idle valid
    (DatagramSocket.receive_receives opened valid fits run followed)
  rw [UdpTransport.receive, if_neg (by simp [opened])] at run
  refine checked_matches (fun failure reply socket =>
    ((FakeDatagramTransport.idle true before.queue before.transmitted).prepare (.receive output)
      failure).receive output = (reply, .idle true socket.queue socket.transmitted))
    (fun invalid => ?_) proceeds run followed
  simp [FakeDatagramTransport.prepare, FakeDatagramTransport.receive, FakeDatagramTransport.idle,
    invalid]

private theorem opened_matches {udp : UdpTransport} {before : DatagramSocket}
    (opened : udp.open_ = true) (remote : udp.remoteConfigured_ = true)
    {method : DatagramMethod} (fits : method.size ≤ intMax) {trace : OsTrace}
    {reply : DatagramReply} {final : UdpTransport} {after : DatagramSocket}
    (run : (udp.invoke method).Runs trace (reply, final))
    (followed : DatagramSocket.socket.Follows before trace after) :
    ∃ fake, ((FakeDatagramTransport.idle true before.queue before.transmitted).prepare method
        (failureStatus trace)).perform method = (reply, fake) ∧
      DatagramsRelated final after fake := by
  cases method with
  | «open» =>
      obtain ⟨outcome, ran, same⟩ := Program.runs_map_iff.mp run
      rw [UdpTransport.open, if_pos opened] at ran
      obtain ⟨rfl, rfl⟩ := Program.runs_done_iff.mp ran
      cases same
      obtain rfl := followed
      exact ⟨_, rfl, .opened opened remote⟩
  | close =>
      obtain ⟨outcome, ran, same⟩ := Program.runs_map_iff.mp run
      rw [UdpTransport.close] at ran
      split at ran
      · rw [closeNativeSocket_bind] at ran
        obtain ⟨_, _, rfl, ended⟩ := Program.runs_call_iff.mp ran
        obtain ⟨rfl, rfl⟩ := Program.runs_done_iff.mp ended
        cases same
        obtain ⟨_, rfl, rfl⟩ := followed
        exact ⟨_, rfl, .closed⟩
      · obtain ⟨rfl, rfl⟩ := Program.runs_done_iff.mp ran
        cases same
        obtain rfl := followed
        exact ⟨_, rfl, .closed⟩
  | isOpen =>
      obtain ⟨rfl, same⟩ := Program.runs_done_iff.mp run
      cases same
      obtain rfl := followed
      exact ⟨_, by simp [UdpTransport.isOpen, opened]; rfl, .opened opened remote⟩
  | send input =>
      obtain ⟨status, ran, same⟩ := Program.runs_map_iff.mp run
      cases same
      refine ⟨_, ?_, .opened opened remote⟩
      rw [FakeDatagramTransport.perform, send_matches opened remote fits ran followed]
      rfl
  | receive output =>
      obtain ⟨received, ran, same⟩ := Program.runs_map_iff.mp run
      cases same
      refine ⟨_, ?_, .opened opened remote⟩
      rw [FakeDatagramTransport.perform, receive_matches opened fits ran followed]
      rfl

private theorem DatagramsRelated.alike {udp : UdpTransport} {socket : DatagramSocket}
    {fake : FakeDatagramTransport} (related : DatagramsRelated udp socket fake) :
    udp.isOpen = fake.isOpen := by
  cases related with
  | opened opened => exact opened
  | closed => rfl

private theorem DatagramsRelated.sent {udp : UdpTransport} {socket : DatagramSocket}
    {fake : FakeDatagramTransport} (related : DatagramsRelated udp socket fake) :
    fake.sentDatagrams = socket.transmitted := by
  cases related with
  | opened => rfl
  | closed => rfl

private theorem closed_matches {options : UdpTransportOptions} (queue : List Datagram)
    {before after : DatagramSocket} {method : DatagramMethod} (used : method ≠ .open)
    {trace : OsTrace} {reply : DatagramReply} {final : UdpTransport}
    (run : ((UdpTransport.new options).invoke method).Runs trace (reply, final))
    (followed : DatagramSocket.socket.Follows before trace after) :
    ((FakeDatagramTransport.idle false queue before.transmitted).prepare method
        (failureStatus trace)).perform method =
          (reply, .idle false queue before.transmitted) ∧
      final = .new options ∧ after = before := by
  obtain ⟨answer, invoked, performed⟩ := invoke_closed options queue before.transmitted used
  rw [invoked] at run
  obtain ⟨rfl, same⟩ := Program.runs_done_iff.mp run
  cases same
  obtain rfl := followed
  refine ⟨?_, rfl, rfl⟩
  cases method <;> exact performed

private theorem reopened_open {udp : UdpTransport} {trace : OsTrace} {final : UdpTransport}
    (run : (udp.invoke .open).Runs trace (.status .alreadyOpen, final)) : udp.open_ = true := by
  obtain ⟨status, after, ran, same, rfl⟩ := Program.runs_prodMap_iff.mp run
  cases same
  cases udp.open_opened _ _ ran with
  | alreadyOpen opened => exact opened
  | refused _ status => simp at status

private def LaterCall (encounter : DatagramEncounter) : Prop :=
  encounter.method.size ≤ intMax ∧
    (encounter.method = .open → encounter.reply = .status .alreadyOpen)

/-- One step of the simulation, once the transport has been opened. -/
private theorem related_matches {encounter : DatagramEncounter} {fake : FakeDatagramTransport}
    (related : DatagramsRelated encounter.before encounter.worldBefore fake)
    (later : LaterCall encounter)
    (run : (encounter.before.invoke encounter.method).Runs encounter.trace
      (encounter.reply, encounter.after))
    (followed : DatagramSocket.socket.Follows encounter.worldBefore encounter.trace
      encounter.worldAfter) :
    FakeDatagramTransport.double.Matches fake encounter.toInvocation ∧
      DatagramsRelated encounter.after encounter.worldAfter
        (FakeDatagramTransport.double.answer fake encounter.toInvocation).2 := by
  suffices matched : ∃ next, FakeDatagramTransport.double.answer fake encounter.toInvocation =
      (encounter.reply, next) ∧ DatagramsRelated encounter.after encounter.worldAfter next by
    obtain ⟨next, answered, following⟩ := matched
    rw [Double.Matches, answered]
    exact ⟨⟨rfl, following.alike⟩, following⟩
  obtain ⟨⟨before, method, trace, reply, after⟩, socketBefore, socketAfter⟩ := encounter
  dsimp only at *
  obtain ⟨fits, reopened⟩ := later
  cases related with
  | opened opened remote => exact opened_matches opened remote fits run followed
  | @closed options _ queue =>
      have used : method ≠ .open := by
        intro opens
        obtain rfl := opens
        obtain rfl := reopened rfl
        cases reopened_open run
      obtain ⟨performed, rfl, rfl⟩ := closed_matches queue used run followed
      exact ⟨_, performed, .closed⟩

/-- One step before the transport is opened: nothing moves. -/
private theorem fresh_matches {encounter : DatagramEncounter} {options : UdpTransportOptions}
    {fake : FakeDatagramTransport}
    (fresh : encounter.before = .new options ∧ encounter.worldBefore = ⟨[], []⟩ ∧ fake = .new)
    (used : encounter.method ≠ .open)
    (run : (encounter.before.invoke encounter.method).Runs encounter.trace
      (encounter.reply, encounter.after))
    (followed : DatagramSocket.socket.Follows encounter.worldBefore encounter.trace
      encounter.worldAfter) :
    FakeDatagramTransport.double.Matches fake encounter.toInvocation ∧
      encounter.after = .new options ∧ encounter.worldAfter = ⟨[], []⟩ ∧
        (FakeDatagramTransport.double.answer fake encounter.toInvocation).2 = .new := by
  obtain ⟨⟨before, method, trace, reply, after⟩, socketBefore, socketAfter⟩ := encounter
  dsimp only at *
  obtain ⟨rfl, rfl, rfl⟩ := fresh
  obtain ⟨performed, rfl, rfl⟩ := closed_matches [] used run followed
  have answered : FakeDatagramTransport.double.answer .new
      ⟨.new options, method, trace, reply, .new options⟩ = (reply, .new) := performed
  rw [Double.Matches, answered]
  exact ⟨⟨rfl, rfl⟩, rfl, rfl, rfl⟩

/-- Up to its first `Open` neither the transport nor its fake changes. -/
private theorem fresh_simulated {options : UdpTransportOptions} {turns : List DatagramTurn}
    {final : UdpTransport} {socketFinal : DatagramSocket}
    (session : Turns UdpTransport.invoke DatagramSocket.socket DatagramSocket.arrives
      (.new options) ⟨[], []⟩ turns final socketFinal)
    (used : ∀ encounter, .call encounter ∈ turns → encounter.method ≠ .open) :
    FakeDatagramTransport.double.Agrees .new turns ∧ final = .new options ∧
      socketFinal = ⟨[], []⟩ ∧ FakeDatagramTransport.double.final .new turns = .new := by
  refine Turns.simulates FakeDatagramTransport.double
    (fun udp socket fake => udp = .new options ∧ socket = ⟨[], []⟩ ∧ fake = .new)
    (fun encounter => encounter.method ≠ .open) ?_ ?_ session ⟨rfl, rfl, rfl⟩ used
  · intro udp socket datagram after fake fresh taken
    obtain ⟨rfl, _⟩ := fresh
    cases taken.1
  · intro encounter fake fresh used run followed
    exact fresh_matches fresh used run followed

private theorem related_simulated {turns : List DatagramTurn} {udp final : UdpTransport}
    {socket socketFinal : DatagramSocket} {fake : FakeDatagramTransport}
    (session : Turns UdpTransport.invoke DatagramSocket.socket DatagramSocket.arrives
      udp socket turns final socketFinal)
    (related : DatagramsRelated udp socket fake)
    (later : ∀ encounter, .call encounter ∈ turns → LaterCall encounter) :
    FakeDatagramTransport.double.Agrees fake turns ∧
      DatagramsRelated final socketFinal (FakeDatagramTransport.double.final fake turns) := by
  refine Turns.simulates FakeDatagramTransport.double DatagramsRelated LaterCall ?_ ?_ session
    related later
  · intro udp socket datagram after fake related taken
    obtain ⟨opened, rfl⟩ := taken
    cases related with
    | opened _ remote => exact .opened opened remote
    | closed => cases opened
  · intro encounter fake related later run followed
    exact related_matches related later run followed

/-- The successful `Open`, of the transport and of the fake. -/
private theorem opening_related {options : UdpTransportOptions}
    (remote : options.remoteHost.isEmpty = false) {trace : OsTrace} {final : UdpTransport}
    {after : DatagramSocket}
    (run : ((UdpTransport.new options).invoke .open).Runs trace (.status .ok, final))
    (followed : DatagramSocket.socket.Follows ⟨[], []⟩ trace after) :
    final.isOpen = true ∧ DatagramsRelated final after (.idle true [] []) := by
  obtain ⟨⟨status, kept⟩, ran, same⟩ := Program.runs_map_iff.mp run
  obtain rfl := open_followed ran followed rfl
  cases same
  cases UdpTransport.open_opened _ _ _ ran with
  | refused _ status => simp at status
  | kept =>
      refine ⟨rfl, .opened rfl ?_⟩
      simp [UdpTransport.keep, UdpTransport.hasRemote, UdpTransport.new, remote]

/-- The fake answers every call as the real transport does, and has recorded what
was put on the wire. -/
theorem fakeDatagram_refined {options : UdpTransportOptions}
    (remote : options.remoteHost.isEmpty = false) {turns : List DatagramTurn}
    {final : UdpTransport} {socketFinal : DatagramSocket}
    (session : Turns UdpTransport.invoke DatagramSocket.socket DatagramSocket.arrives
      (.new options) ⟨[], []⟩ turns final socketFinal)
    (once : OpensOnce turns)
    (sized : ∀ encounter, .call encounter ∈ turns → encounter.method.size ≤ intMax) :
    FakeDatagramTransport.double.Agrees .new turns ∧
      (FakeDatagramTransport.double.final .new turns).sentDatagrams = socketFinal.transmitted := by
  obtain ⟨front, opening, back, rfl, opens, succeeded, used, later⟩ := once
  obtain ⟨_, _, head, tail⟩ := Turns.append_iff.mp session
  obtain ⟨first, rfl, rfl, fresh⟩ := fresh_simulated head used
  cases tail with
  | call run followed rest =>
      dsimp only at opens succeeded
      subst opens succeeded
      obtain ⟨alike, related⟩ := opening_related remote run followed
      have laterCall : ∀ encounter, .call encounter ∈ back → LaterCall encounter :=
        fun encounter member => ⟨sized encounter (List.mem_append_right front (.tail _ member)),
          later encounter member⟩
      obtain ⟨agrees, last⟩ := related_simulated rest related laterCall
      rw [Double.agrees_append_iff, Double.final_append, fresh]
      exact ⟨⟨first, ⟨rfl, alike⟩, agrees⟩, last.sent⟩

/-- A datagram that first does not fit, a request, a wait that times out, and a close. -/
def meterTurns : List DatagramTurn :=
  [.call ⟨⟨.new meterUdpOptions, .isOpen, [], .flag false, .new meterUdpOptions⟩, ⟨[], []⟩,
      ⟨[], []⟩⟩,
    .call ⟨⟨.new meterUdpOptions, .open, meterUdpOpenTrace, .status .ok, meterUdp⟩, ⟨[], []⟩,
      ⟨[], []⟩⟩,
    .input [1, 2, 3],
    .call ⟨⟨meterUdp, .receive ⟨false, 2⟩,
      [⟨.select 3 true ⟨5, 0⟩, (1 : Int)⟩, ⟨.fionread 3, some 3⟩],
      .read (.empty .outputBufferTooSmall), meterUdp⟩, ⟨[[1, 2, 3]], []⟩, ⟨[[1, 2, 3]], []⟩⟩,
    .call ⟨⟨meterUdp, .send (.bytes [7]),
      [⟨.select 3 false ⟨5, 0⟩, (1 : Int)⟩, ⟨.send 3 [7] 1, .ok ⟨1, by decide⟩⟩],
      .status .ok, meterUdp⟩, ⟨[[1, 2, 3]], []⟩, ⟨[[1, 2, 3]], [[7]]⟩⟩,
    .call ⟨⟨meterUdp, .receive ⟨false, 4⟩, [⟨.select 3 true ⟨5, 0⟩, (0 : Int)⟩],
      .read (.empty .timeout), meterUdp⟩, ⟨[[1, 2, 3]], [[7]]⟩, ⟨[[1, 2, 3]], [[7]]⟩⟩,
    .call ⟨⟨meterUdp, .close, [⟨.close 3, ()⟩], .status .ok, .new meterUdpOptions⟩,
      ⟨[[1, 2, 3]], [[7]]⟩, ⟨[], [[7]]⟩⟩]

private theorem meterTurns_session :
    Turns UdpTransport.invoke DatagramSocket.socket DatagramSocket.arrives
      (.new meterUdpOptions) ⟨[], []⟩ meterTurns (.new meterUdpOptions) ⟨[], [[7]]⟩ := by
  refine .call .refl rfl ?_
  refine .call (Program.runs_map_iff.mpr ⟨_, meterUdp_opens, rfl⟩)
    ⟨_, rfl, _, rfl, _, rfl, _, rfl, _, rfl, _, rfl, _, rfl, _, rfl, _, rfl, rfl⟩ ?_
  refine .input ⟨rfl, rfl⟩ ?_
  refine .call (Program.runs_map_iff.mpr ⟨_, .call (.call .refl), rfl⟩)
    ⟨_, rfl, _, ⟨.inr rfl, rfl⟩, rfl⟩ ?_
  refine .call (Program.runs_map_iff.mpr ⟨_, .call (.call .refl), rfl⟩)
    ⟨_, rfl, _, rfl, rfl⟩ ?_
  refine .call (Program.runs_map_iff.mpr ⟨_, .call .refl, rfl⟩) ⟨_, rfl, rfl⟩ ?_
  exact .call (Program.runs_map_iff.mpr ⟨_, .call .refl, rfl⟩) ⟨_, rfl, rfl⟩ .nil

theorem fakeDatagram_refined_meter :
    FakeDatagramTransport.double.Agrees .new meterTurns ∧
      (FakeDatagramTransport.double.final .new meterTurns).sentDatagrams = [[7]] := by
  refine fakeDatagram_refined (by decide) meterTurns_session ?_ ?_
  · refine ⟨[_], _, _, rfl, rfl, rfl, ?_, ?_⟩
    · simp
    · simp
  · simp [meterTurns, DatagramMethod.size, InputBuffer.size, intMax]

end DlmsTransport.Transport
