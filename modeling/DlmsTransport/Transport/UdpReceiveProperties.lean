import DlmsTransport.Interaction.Environment
import DlmsTransport.Transport.Udp
import Mathlib.Data.List.TakeDrop

/-! Whole datagrams. The socket is a queue that datagrams may join before each of
the calls that one receive makes, so the size that was checked need not be the
size of the datagram that is read. -/

set_option autoImplicit false

namespace DlmsTransport.Transport

open Interaction Posix

abbrev Datagram := List UInt8

/-- What happens around a datagram socket: the datagrams that join its queue just
before its n-th call, and what `select` answers if that is the n-th call. It may
report a socket readable that has nothing queued. -/
structure SocketSchedule where
  arrivals : Nat → List Datagram
  readiness : Nat → Int

def headSize : List Datagram → Nat
  | [] => 0
  | datagram :: _ => datagram.length

structure SocketState where
  queue : List Datagram
  clock : Nat
  deriving DecidableEq, Repr

namespace SocketSchedule

variable (schedule : SocketSchedule)

def pending (before : SocketState) : List Datagram :=
  before.queue ++ schedule.arrivals before.clock

/-- The answers of the socket: `FIONREAD` reports the size of the oldest datagram,
`recv` removes it and delivers what fits, and an empty queue would block. -/
def socket : Environment OsCall OsCall.Answer SocketState where
  step before
    | .select _ _ _, result, after =>
        result = schedule.readiness before.clock ∧
          after = ⟨schedule.pending before, before.clock + 1⟩
    | .fionread _, size, after =>
        size = some (headSize (schedule.pending before) : Int) ∧
          after = ⟨schedule.pending before, before.clock + 1⟩
    | .recv _ length, .ok bytes, after =>
        ∃ datagram rest, schedule.pending before = datagram :: rest ∧
          bytes.val = datagram.take length ∧ after = ⟨rest, before.clock + 1⟩
    | .recv _ _, .error error, after =>
        schedule.pending before = [] ∧ UdpTransport.isWouldBlock error = true ∧
          after = ⟨[], before.clock + 1⟩
    | _, _, _ => False

def arrived (start count : Nat) : List Datagram :=
  (List.range' start count).flatMap schedule.arrivals

/-- The datagram that arrives between the size check and the read, into an empty
queue, when it is larger than the buffer. -/
def Overtakes (before : SocketState) (outputSize : Nat) : Prop :=
  0 < schedule.readiness before.clock ∧
    before.queue ++ schedule.arrived before.clock 2 = [] ∧
    ∃ datagram rest, schedule.arrivals (before.clock + 2) = datagram :: rest ∧
      outputSize < datagram.length

/-- What one receive owes its caller, given the queue before and after it. -/
structure ReceivesWhole (before : SocketState) (output : OutputBuffer) (reply : ReadReply)
    (after : SocketState) : Prop where
  /-- `Ok` removes the oldest datagram and delivers all of it. -/
  whole : reply.status = .ok → ∃ datagram,
    before.queue ++ schedule.arrived before.clock (after.clock - before.clock) =
        datagram :: after.queue ∧
      reply.output = datagram ∧ reply.bytesRead = datagram.length
  /-- Any other status leaves every datagram in the queue. -/
  kept : reply.status ≠ .ok →
    after.queue =
      before.queue ++ schedule.arrived before.clock (after.clock - before.clock)
  /-- A datagram that does not fit is refused. -/
  tooSmall : 0 < schedule.readiness before.clock → ∀ datagram rest,
    before.queue ++ schedule.arrived before.clock 2 = datagram :: rest →
    output.size < datagram.length →
    reply.status = .outputBufferTooSmall ∧ after.queue = datagram :: rest

@[simp] theorem arrived_zero (start : Nat) : schedule.arrived start 0 = [] := rfl

theorem arrived_succ (start count : Nat) :
    schedule.arrived start (count + 1) =
      schedule.arrived start count ++ schedule.arrivals (start + count) := by
  simp [arrived, List.range'_concat]

theorem pending_queue (before : SocketState) (count : Nat) :
    schedule.pending ⟨before.queue ++ schedule.arrived before.clock count,
        before.clock + count⟩ =
      before.queue ++ schedule.arrived before.clock (count + 1) := by
  rw [arrived_succ, pending, List.append_assoc]

/-- The ways a receive can end, with what it says and what it leaves queued. -/
inductive Outcome (before : SocketState) (output : OutputBuffer) :
    ReadReply → SocketState → Prop where
  | unready : schedule.readiness before.clock ≤ 0 →
      Outcome before output (.empty (waitStatus true (schedule.readiness before.clock)))
        ⟨before.queue ++ schedule.arrived before.clock 1, before.clock + 1⟩
  | refused {datagram rest} : 0 < schedule.readiness before.clock →
      before.queue ++ schedule.arrived before.clock 2 = datagram :: rest →
      output.size < datagram.length →
      Outcome before output (.empty .outputBufferTooSmall)
        ⟨datagram :: rest, before.clock + 2⟩
  | delivered {datagram rest} : 0 < schedule.readiness before.clock →
      (∀ first others, before.queue ++ schedule.arrived before.clock 2 = first :: others →
        first.length ≤ output.size) →
      before.queue ++ schedule.arrived before.clock 3 = datagram :: rest →
      Outcome before output
        ⟨.ok, (datagram.take output.size).length, datagram.take output.size⟩
        ⟨rest, before.clock + 3⟩
  | blocked : 0 < schedule.readiness before.clock →
      before.queue ++ schedule.arrived before.clock 3 = [] →
      Outcome before output (.empty .wouldBlock) ⟨[], before.clock + 3⟩

variable {schedule}

private theorem receivePending_outcome {self : UdpTransport} {output : OutputBuffer}
    (fits : output.size ≤ intMax) {before final : SocketState} {trace : OsTrace}
    {reply : ReadReply} (ready : 0 < schedule.readiness before.clock)
    (checked : ∀ first others, before.queue ++ schedule.arrived before.clock 2 = first :: others →
      first.length ≤ output.size)
    (run : (receiveInt self.socket_ output.size >>= UdpTransport.concludeReceive).Runs trace reply)
    (followed : schedule.socket.Follows
      ⟨before.queue ++ schedule.arrived before.clock 2, before.clock + 2⟩ trace final) :
    schedule.Outcome before output reply final := by
  rw [receiveInt_bind] at run
  obtain ⟨answer, rest, rfl, concluded⟩ := Program.runs_call_iff.mp run
  obtain ⟨received, stepped, following⟩ := followed
  cases answer with
  | error error =>
      obtain ⟨empty, blocked, rfl⟩ := stepped
      rw [schedule.pending_queue before 2] at empty
      obtain ⟨rfl, rfl⟩ :=
        UdpTransport.concludeReceive_runs concluded (.inr (by simp [Received.ofInt]))
      obtain rfl := following
      simpa [Received.ofInt, blocked, ReadReply.empty] using Outcome.blocked ready empty
  | ok bytes =>
      obtain ⟨datagram, others, queued, taken, rfl⟩ := stepped
      rw [schedule.pending_queue before 2] at queued
      have whole : datagram.take (throughInt output.size) = datagram.take output.size := by
        rw [throughInt_of_le fits]
      replace taken := taken.trans whole
      have counted : bytes.val.length ≤ intMax := by
        rw [taken, List.length_take]
        omega
      rw [Received.ofInt_of_le counted] at concluded
      obtain ⟨rfl, rfl⟩ := UdpTransport.concludeReceive_runs concluded (.inl (Int.natCast_nonneg _))
      obtain rfl := following
      rw [taken, if_pos (Int.natCast_nonneg _), Int.toNat_natCast]
      exact Outcome.delivered ready checked queued

theorem receive_outcome {self : UdpTransport} (opened : self.open_ = true)
    {output : OutputBuffer} (valid : output.invalid = false) (fits : output.size ≤ intMax)
    {before final : SocketState} {trace : OsTrace} {reply : ReadReply}
    (run : (self.receive output).Runs trace reply)
    (followed : schedule.socket.Follows before trace final) :
    schedule.Outcome before output reply final := by
  have form := self.receive_form output
  generalize self.receive output = program at form run
  cases form with
  | closed closed => simp [opened] at closed
  | invalid _ invalid => simp [valid] at invalid
  | waiting =>
      obtain ⟨result, afterWait, rfl, waited⟩ := Program.runs_call_iff.mp run
      obtain ⟨_, ⟨rfl, rfl⟩, following⟩ := followed
      have first := schedule.pending_queue before 0
      simp only [arrived_zero, List.append_nil, Nat.add_zero] at first
      rw [first] at following
      split at waited
      · next ready =>
        obtain ⟨size, afterCheck, rfl, checked⟩ := Program.runs_call_iff.mp waited
        obtain ⟨_, ⟨rfl, rfl⟩, following⟩ := following
        rw [schedule.pending_queue before 1] at checked following
        rw [pendingSize_natCast] at checked
        unfold UdpTransport.receivePending at checked
        dsimp only at checked
        cases queued : before.queue ++ schedule.arrived before.clock 2 with
        | nil =>
            simp only [Nat.reduceAdd, queued] at checked
            rw [if_neg (by simp [headSize])] at checked
            refine receivePending_outcome fits ready ?_ checked following
            simp [queued]
        | cons datagram rest =>
            simp only [Nat.reduceAdd, queued] at checked
            split at checked
            · next large =>
              obtain ⟨rfl, rfl⟩ := Program.runs_done_iff.mp checked
              obtain rfl := following
              simpa [queued] using Outcome.refused ready queued large
            · next small =>
              refine receivePending_outcome fits ready ?_ checked following
              intro first others head
              obtain ⟨rfl, rfl⟩ := List.cons.inj (queued.symm.trans head)
              exact Nat.not_lt.mp small
      · next unready =>
        obtain ⟨rfl, rfl⟩ := Program.runs_done_iff.mp waited
        obtain rfl := following
        exact .unready (by omega)

private theorem delivered_whole_iff {before : SocketState} {output : OutputBuffer}
    {datagram : Datagram} {rest : List Datagram} (ready : 0 < schedule.readiness before.clock)
    (checked : ∀ first others, before.queue ++ schedule.arrived before.clock 2 = first :: others →
      first.length ≤ output.size)
    (queued : before.queue ++ schedule.arrived before.clock 3 = datagram :: rest) :
    datagram.length ≤ output.size ↔ ¬ schedule.Overtakes before output.size := by
  rw [arrived_succ, ← List.append_assoc] at queued
  cases found : before.queue ++ schedule.arrived before.clock 2 with
  | nil =>
      rw [found, List.nil_append] at queued
      constructor
      · intro small truncating
        obtain ⟨_, _, late, others, arrived, large⟩ := truncating
        obtain ⟨rfl, rfl⟩ := List.cons.inj (queued.symm.trans arrived)
        omega
      · intro undisturbed
        refine Nat.not_lt.mp fun large => undisturbed ⟨ready, found, datagram, rest, queued, large⟩
  | cons first others =>
      rw [found] at queued
      obtain ⟨rfl, _⟩ := List.cons.inj queued
      constructor
      · intro _ truncating
        obtain ⟨_, empty, _⟩ := truncating
        simp [found] at empty
      · exact fun _ => checked first others found

/-- A receive delivers whole datagrams unless one overtakes its size check. -/
theorem Outcome.receivesWhole_iff {before final : SocketState} {output : OutputBuffer}
    {reply : ReadReply} (outcome : schedule.Outcome before output reply final) :
    schedule.ReceivesWhole before output reply final ↔
      ¬ schedule.Overtakes before output.size := by
  cases outcome with
  | unready unready =>
      constructor
      · intro _ truncating
        obtain ⟨ready, _⟩ := truncating
        omega
      · intro _
        constructor
        · intro ok
          have ready := waitStatus_eq_ok_iff.mp ok
          omega
        · intro _
          simp
        · intro ready
          omega
  | refused ready queued large =>
      constructor
      · intro _ truncating
        obtain ⟨_, empty, _⟩ := truncating
        simp [queued] at empty
      · intro _
        constructor
        · nofun
        · intro _
          simpa using queued.symm
        · intro _ datagram rest found _
          exact ⟨rfl, queued.symm.trans found⟩
  | delivered ready checked queued =>
      rename_i datagram rest
      rw [← delivered_whole_iff ready checked queued]
      constructor
      · intro receives
        obtain ⟨whole, found, taken, _⟩ := receives.whole rfl
        simp only [Nat.add_sub_cancel_left] at found
        obtain ⟨rfl, _⟩ := List.cons.inj (queued.symm.trans found)
        exact (List.take_eq_self_iff _).mp taken
      · intro small
        have taken : datagram.take output.size = datagram := List.take_of_length_le small
        constructor
        · intro _
          exact ⟨datagram, by simpa using queued, taken, by rw [taken]⟩
        · intro unsuccessful
          exact absurd rfl unsuccessful
        · intro _ first others found large
          have := checked first others found
          omega
  | blocked ready empty =>
      constructor
      · intro _ truncating
        obtain ⟨_, _, datagram, rest, arrived, _⟩ := truncating
        rw [arrived_succ, arrived] at empty
        simp at empty
      · intro _
        constructor
        · nofun
        · intro _
          simpa using empty.symm
        · intro _ datagram rest found
          rw [arrived_succ, ← List.append_assoc, found] at empty
          simp at empty

end SocketSchedule

structure Reception where
  before : SocketState
  output : OutputBuffer
  reply : ReadReply
  after : SocketState

/-- Any number of receives, one after the other, on one socket. -/
inductive Receptions (self : UdpTransport) (schedule : SocketSchedule) :
    SocketState → List Reception → SocketState → Prop where
  | nil {state} : Receptions self schedule state [] state
  | cons {before output trace reply after rest final} :
      (self.receive output).Runs trace reply → schedule.socket.Follows before trace after →
      Receptions self schedule after rest final →
      Receptions self schedule before (⟨before, output, reply, after⟩ :: rest) final

/-- Over any number of receives, each delivers a whole datagram or refuses it,
exactly when no oversized datagram overtakes a size check that found none. -/
theorem receptions_whole_iff {self : UdpTransport} (opened : self.open_ = true)
    {schedule : SocketSchedule} {start final : SocketState} {receptions : List Reception}
    (received : Receptions self schedule start receptions final)
    (buffers : ∀ reception ∈ receptions,
      reception.output.invalid = false ∧ reception.output.size ≤ intMax) :
    (∀ reception ∈ receptions, schedule.ReceivesWhole reception.before reception.output
      reception.reply reception.after) ↔
    ∀ reception ∈ receptions,
      ¬ schedule.Overtakes reception.before reception.output.size := by
  induction received with
  | nil => simp
  | cons run followed _ ih =>
      obtain ⟨⟨valid, fits⟩, others⟩ := List.forall_mem_cons.mp buffers
      have outcome := SocketSchedule.receive_outcome opened valid fits run followed
      rw [List.forall_mem_cons, List.forall_mem_cons, outcome.receivesWhole_iff, ih others]

def listeningUdp : UdpTransport where
  options := {}
  socket_ := 5
  open_ := true
  remoteConfigured_ := false

def lateDatagram : SocketSchedule where
  arrivals clock := if clock = 2 then [[1, 2, 3, 4, 5, 6]] else []
  readiness _ := 1

def spuriousReceive (length : Nat) (bytes : Delivery length) : OsTrace :=
  [⟨.select 5 true ⟨5, 0⟩, (1 : Int)⟩, ⟨.fionread 5, some 0⟩, ⟨.recv 5 length, .ok bytes⟩]

private theorem spuriousReceive_followed (length : Nat) (bytes : Delivery length)
    (taken : bytes.val = List.take length [1, 2, 3, 4, 5, 6]) :
    lateDatagram.socket.Follows ⟨[], 0⟩ (spuriousReceive length bytes) ⟨[], 3⟩ :=
  ⟨⟨[], 1⟩, ⟨rfl, rfl⟩, ⟨[], 2⟩, ⟨rfl, rfl⟩, ⟨[], 3⟩,
    ⟨[1, 2, 3, 4, 5, 6], [], rfl, taken, rfl⟩, rfl⟩

def cutReception : Reception where
  before := ⟨[], 0⟩
  output := ⟨false, 4⟩
  reply := ⟨.ok, 4, [1, 2, 3, 4]⟩
  after := ⟨[], 3⟩

/-- With room for four bytes the late datagram is cut, and the rest of it is lost. -/
theorem receptions_whole_cut :
    Receptions listeningUdp lateDatagram ⟨[], 0⟩ [cutReception] ⟨[], 3⟩ ∧
      ¬ lateDatagram.ReceivesWhole cutReception.before cutReception.output cutReception.reply
        cutReception.after := by
  have run : (listeningUdp.receive ⟨false, 4⟩).Runs
      (spuriousReceive 4 ⟨[1, 2, 3, 4], by decide⟩) cutReception.reply :=
    .call (.call (.call .refl))
  refine ⟨.cons run (spuriousReceive_followed 4 _ rfl) .nil, fun receives => ?_⟩
  obtain ⟨datagram, queued, delivered, _⟩ := receives.whole rfl
  have late : datagram = [1, 2, 3, 4, 5, 6] := (List.cons.inj queued).1.symm
  exact absurd (delivered.trans late) (by decide)

def wholeReception : Reception where
  before := ⟨[], 0⟩
  output := ⟨false, 8⟩
  reply := ⟨.ok, 6, [1, 2, 3, 4, 5, 6]⟩
  after := ⟨[], 3⟩

theorem receptions_whole_iff_late :
    lateDatagram.ReceivesWhole wholeReception.before wholeReception.output wholeReception.reply
      wholeReception.after := by
  have run : (listeningUdp.receive ⟨false, 8⟩).Runs
      (spuriousReceive 8 ⟨[1, 2, 3, 4, 5, 6], by decide⟩) wholeReception.reply :=
    .call (.call (.call .refl))
  have received : Receptions listeningUdp lateDatagram ⟨[], 0⟩ [wholeReception] ⟨[], 3⟩ :=
    .cons run (spuriousReceive_followed 8 _ rfl) .nil
  refine (receptions_whole_iff rfl received ?_).mpr ?_ _ List.mem_cons_self
  · simp [wholeReception, OutputBuffer.invalid, intMax]
  · intro reception member truncating
    obtain ⟨_, _, datagram, rest, arrived, large⟩ := truncating
    obtain rfl := List.mem_singleton.mp member
    obtain ⟨rfl, _⟩ := List.cons.inj arrived
    exact absurd large (by decide)

end DlmsTransport.Transport
