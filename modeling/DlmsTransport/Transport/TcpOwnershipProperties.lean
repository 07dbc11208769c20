import DlmsTransport.Transport.DescriptorOwnership
import DlmsTransport.Transport.TcpStream

/-! Descriptor ownership of the TCP client stream over whole runs: nothing leaks,
nothing is closed twice, and `Open` keeps the first candidate that connects. -/

set_option autoImplicit false

namespace DlmsTransport.Transport

open Interaction Posix

namespace TcpStreamTransport

def Attempt.Holds (live : Set Int) : Attempt → Prop
  | .skipped | .failed _ => live = ∅
  | .connected candidate => candidate ≠ kInvalidSocket ∧ live = {candidate}

private theorem close_skipped_custodial (candidate : NativeSocket) {attempt : Attempt}
    (dropped : attempt.Holds ∅) :
    Custodial (.call (.close candidate) fun _ => .done attempt) {candidate}
      fun after attempt => attempt.Holds after :=
  Custody.meets_release_only (fun _ => rfl) rfl fun _ => dropped

private theorem awaitConnection_custodial (options : TcpStreamTransportOptions)
    {candidate : NativeSocket} (valid : candidate ≠ kInvalidSocket) :
    Custodial (awaitConnection options candidate) {candidate}
      fun after attempt => attempt.Holds after := by
  have held : candidate ∈ ({candidate} : Set Int) := rfl
  have finish (status : TransportStatus) : Custodial (if status = .ok then
        pure (.connected candidate)
      else do
        closeNativeSocket candidate
        pure (Attempt.failed status)) {candidate} fun after attempt => attempt.Holds after := by
    split
    · exact ⟨valid, rfl⟩
    · exact close_skipped_custodial candidate rfl
  rw [awaitConnection, waitForDescriptor_bind]
  apply Custody.meets_quiet (fun _ => rfl) rfl (usesLive_of_mem held rfl)
  intro result
  split
  · apply Program.meets_bind_iff.mpr
    apply Custody.meets_quiet (fun _ => rfl) rfl (usesLive_of_mem held rfl)
    intro answer
    cases answer with
    | none => exact finish .openFailed
    | some error => exact finish _
  · exact finish _

theorem tryCandidate_custodial (options : TcpStreamTransportOptions) (address : AddrInfo) :
    Custodial (tryCandidate options address) ∅ fun after attempt => attempt.Holds after := by
  unfold tryCandidate
  rw [Program.ask_bind]
  apply socket_custodial
  · rfl
  · intro fd
    have valid := nativeSocket_some_ne fd
    generalize nativeSocket (some fd) = candidate at valid
    have held : candidate ∈ ({candidate} : Set Int) := rfl
    dsimp only
    rw [if_neg valid]
    refine Program.meets_bind_iff.mpr ((setNonBlocking_custodial held).mono ?_)
    intro after nonBlocking same
    subst same
    split
    · exact close_skipped_custodial candidate rfl
    · rw [Program.ask_bind]
      apply Custody.meets_quiet (fun _ => rfl) rfl (usesLive_of_mem held rfl)
      intro connectResult
      cases connectResult with
      | ok => exact ⟨valid, rfl⟩
      | error error =>
          dsimp only
          split
          · exact close_skipped_custodial candidate rfl
          · exact awaitConnection_custodial options valid

theorem tryAddresses_custodial {self : TcpStreamTransport} (owns : members.Owns ∅ self)
    (finalStatus : TransportStatus) (addresses : List AddrInfo) :
    Custodial (tryAddresses self finalStatus addresses) ∅ fun after outcome =>
      members.Owns after outcome.2 := by
  induction addresses generalizing finalStatus with
  | nil => exact owns
  | cons address rest ih =>
      unfold tryAddresses
      refine Program.meets_bind_iff.mpr ((tryCandidate_custodial self.options address).mono ?_)
      intro live attempt holds
      cases attempt with
      | skipped =>
          obtain rfl := holds
          exact ih finalStatus
      | failed status =>
          obtain rfl := holds
          exact ih status
      | connected candidate =>
          obtain ⟨valid, rfl⟩ := holds
          exact StreamMembers.Owns.ofOpen rfl valid rfl

theorem open_custodial {live : Set Int} {self : TcpStreamTransport}
    (owns : members.Owns live self) :
    Custodial self.open live fun after outcome => members.Owns after outcome.2 := by
  unfold TcpStreamTransport.open
  split
  · exact owns
  · next closed =>
    obtain rfl := owns.eq_empty (by simpa [members] using closed)
    split
    · exact owns
    · rw [Program.ask_bind]
      apply Custody.meets_quiet (fun _ => rfl) rfl (usesLive_of_none rfl)
      intro resolved
      cases resolved with
      | none => exact owns
      | some addresses =>
          refine Program.meets_bind_iff.mpr
            ((tryAddresses_custodial owns .openFailed addresses.entries).mono ?_)
          intro live outcome owned
          exact Custody.meets_quiet (fun _ => rfl) rfl (usesLive_of_none rfl) fun _ => owned

/-- Every operation keeps the ownership and uses live descriptors only. -/
theorem invoke_custodial {live : Set Int} {self : TcpStreamTransport}
    (owns : members.Owns live self) (method : StreamMethod) :
    Custodial (self.invoke method) live fun after outcome => members.Owns after outcome.2 := by
  cases method with
  | «open» => exact Program.meets_map_iff.mpr (open_custodial owns)
  | close => exact Program.meets_map_iff.mpr (StreamMembers.close_owns owns)
  | isOpen => exact owns
  | readSome output =>
      exact Program.meets_map_iff.mpr (StreamMembers.readSome_custodial owns output)
  | writeAll input budget =>
      exact Program.meets_map_iff.mpr
        (StreamMembers.writeAll_custodial (fun _ => rfl) owns input budget)

/-- The answers that complete a connection: `connect` succeeds, or the pending
error of the socket is read as zero. -/
def CompletesConnection : (request : OsCall) → request.Answer → Prop
  | .connect _ _, .ok _ => True
  | .socketError _, some error => error = 0
  | _, _ => False

def Connects (trace : OsTrace) : Prop :=
  ∃ event ∈ trace, CompletesConnection event.request event.answer

/-- The calls of an attempt at one address: a socket is requested for it, and
every later call is on that socket. -/
def Tries (address : AddrInfo) (answer : Option Nat) (trace : OsTrace) : Prop :=
  ∃ rest, trace = ⟨.socket address.family address.socktype address.protocol, answer⟩ :: rest ∧
    ∀ event ∈ rest, event.request.descriptor? = some (nativeSocket answer)

@[simp] theorem not_connects_nil : ¬ Connects [] := by simp [Connects]

@[simp] theorem connects_cons_iff {event : OsEvent} {rest : OsTrace} :
    Connects (event :: rest) ↔
      CompletesConnection event.request event.answer ∨ Connects rest := by
  simp [Connects]

def FailsOpen (status : TransportStatus) : Prop :=
  status ≠ .ok ∧ status ≠ .alreadyOpen

/-- What an attempt says about the calls it made on its socket. -/
def Attempt.Reports (candidate : NativeSocket) (trace : OsTrace) : Attempt → Prop
  | .skipped => ¬ Connects trace
  | .failed status => FailsOpen status ∧ ¬ Connects trace
  | .connected kept => kept = candidate ∧ Connects trace

private def Conducts (candidate : NativeSocket) (trace : OsTrace) (attempt : Attempt) : Prop :=
  (∀ event ∈ trace, event.request.descriptor? = some candidate) ∧
    attempt.Reports candidate trace

private theorem Conducts.cons {candidate : NativeSocket} {event : OsEvent} {trace : OsTrace}
    {attempt : Attempt} (uses : event.request.descriptor? = some candidate)
    (quiet : ¬ CompletesConnection event.request event.answer)
    (conducts : Conducts candidate trace attempt) :
    Conducts candidate (event :: trace) attempt := by
  refine ⟨List.forall_mem_cons.mpr ⟨uses, conducts.1⟩, ?_⟩
  have reports := conducts.2
  cases attempt <;> simpa [Attempt.Reports, quiet] using reports

private theorem call_conducts {candidate : NativeSocket} {request : OsCall}
    {next : request.Answer → OsProgram Attempt} (uses : request.descriptor? = some candidate)
    (quiet : ∀ answer, ¬ CompletesConnection request answer)
    (rest : ∀ answer, (next answer).Ensures (Conducts candidate)) :
    (Program.call request next).Ensures (Conducts candidate) := by
  rw [Program.ensures_call_iff]
  intro answer
  exact (rest answer).mono fun _ _ conducts => conducts.cons uses (quiet answer)

private theorem close_conducts (candidate : NativeSocket) {attempt : Attempt}
    (reports : attempt.Reports candidate []) :
    (Program.call (.close candidate) fun _ => .done attempt : OsProgram Attempt).Ensures
      (Conducts candidate) :=
  call_conducts rfl (fun _ => not_false) fun _ => Program.ensures_done_iff.mpr ⟨by simp, reports⟩

private theorem failsOpen_waitStatus {result : Int} (unready : ¬ 0 < result) :
    FailsOpen (waitStatus false result) := by
  simp only [waitStatus, gt_iff_lt, unready, ↓reduceIte]
  split <;> simp [FailsOpen]

private theorem awaitConnection_conducts (options : TcpStreamTransportOptions)
    (candidate : NativeSocket) :
    (awaitConnection options candidate).Ensures (Conducts candidate) := by
  have finish (status : TransportStatus) (fails : FailsOpen status) :
      (if status = .ok then pure (.connected candidate)
        else do
          closeNativeSocket candidate
          pure (Attempt.failed status) : OsProgram Attempt).Ensures (Conducts candidate) := by
    rw [if_neg fails.1]
    exact close_conducts candidate ⟨fails, not_connects_nil⟩
  rw [awaitConnection, waitForDescriptor_bind]
  refine call_conducts rfl (fun _ => not_false) fun (result : Int) => ?_
  by_cases ready : 0 < result
  · rw [if_pos (waitStatus_eq_ok_iff.mpr ready), checkConnected, bind_assoc, Program.ask_bind,
      Program.ensures_call_iff]
    intro answer
    have refused : FailsOpen .openFailed := by simp [FailsOpen]
    cases answer with
    | none =>
        refine (finish .openFailed refused).mono ?_
        intro trace attempt conducts
        exact conducts.cons rfl not_false
    | some error =>
        by_cases clear : error = 0
        · subst clear
          refine Program.ensures_done_iff.mpr ⟨by simp [OsCall.descriptor?], rfl, ?_⟩
          simp [CompletesConnection]
        · simp only [clear, ↓reduceIte, Program.pure_eq, Program.done_bind]
          refine (finish .openFailed refused).mono ?_
          intro trace attempt conducts
          exact conducts.cons rfl clear
  · rw [if_neg (mt waitStatus_eq_ok_iff.mp ready), Program.pure_eq, Program.done_bind]
    exact finish _ (failsOpen_waitStatus ready)

theorem tryCandidate_ensures (options : TcpStreamTransportOptions) (address : AddrInfo) :
    (tryCandidate options address).Ensures fun trace attempt =>
      ∃ answer, Tries address answer trace ∧
        attempt.Reports (nativeSocket answer) trace := by
  unfold tryCandidate
  rw [Program.ask_bind, Program.ensures_call_iff]
  intro answer
  have conducting {program : OsProgram Attempt}
      (conducted : program.Ensures (Conducts (nativeSocket answer))) :
      program.Ensures fun trace attempt => ∃ socket,
        Tries address socket (⟨.socket address.family address.socktype address.protocol,
          answer⟩ :: trace) ∧
        attempt.Reports (nativeSocket socket) (⟨.socket address.family address.socktype
          address.protocol, answer⟩ :: trace) := by
    refine conducted.mono fun trace attempt conducts => ⟨answer, ⟨trace, rfl, conducts.1⟩, ?_⟩
    have reports := conducts.2
    cases attempt <;> simpa [Attempt.Reports, CompletesConnection] using reports
  apply conducting
  generalize nativeSocket answer = candidate
  dsimp only
  split
  · exact Program.ensures_done_iff.mpr ⟨by simp, not_connects_nil⟩
  · rw [setNonBlocking_bind]
    refine call_conducts rfl (fun _ => not_false) fun (flags : Int) => ?_
    split
    · refine call_conducts rfl (fun _ => not_false) fun (result : Int) => ?_
      split
      · exact close_conducts candidate not_connects_nil
      · rw [Program.ask_bind, Program.ensures_call_iff]
        intro connectResult
        cases connectResult with
        | ok =>
            refine Program.ensures_done_iff.mpr ⟨by simp [OsCall.descriptor?], rfl, ?_⟩
            simp [CompletesConnection]
        | error error =>
            have refused {program : OsProgram Attempt}
                (conducted : program.Ensures (Conducts candidate)) :
                program.Ensures fun trace =>
                  Conducts candidate (⟨.connect candidate address.addr, .error error⟩ :: trace) :=
              conducted.mono fun _ _ conducts => conducts.cons rfl not_false
            dsimp only
            split
            · exact refused (close_conducts candidate not_connects_nil)
            · exact refused (awaitConnection_conducts options candidate)
    · exact close_conducts candidate not_connects_nil

private theorem tryCandidate_valid (options : TcpStreamTransportOptions) (address : AddrInfo) :
    (tryCandidate options address).Ensures fun _ attempt =>
      ∀ candidate, attempt = .connected candidate → candidate ≠ kInvalidSocket := by
  intro trace attempt run candidate connected
  subst connected
  obtain ⟨answer, ⟨rest, rfl, _⟩, rfl, _⟩ := tryCandidate_ensures options address _ _ run
  cases answer with
  | some fd => exact nativeSocket_some_ne fd
  | none =>
      cases run with
      | call following => cases following

private theorem tryAddresses_settles (self : TcpStreamTransport) {finalStatus : TransportStatus}
    (fails : FailsOpen finalStatus) (addresses : List AddrInfo) :
    (tryAddresses self finalStatus addresses).Ensures fun _ outcome =>
      FailsOpen outcome.1 ∨
        (outcome.2.open_ = true ∧ outcome.2.socket_ ≠ kInvalidSocket) := by
  induction addresses generalizing finalStatus with
  | nil => exact Program.ensures_done_iff.mpr (.inl fails)
  | cons address rest ih =>
      rw [tryAddresses, Program.ensures_bind_iff]
      intro trace attempt run
      obtain ⟨answer, _, reports⟩ := tryCandidate_ensures self.options address _ _ run
      cases attempt with
      | skipped => exact ih fails
      | failed status => exact ih reports.1
      | connected candidate =>
          have valid := tryCandidate_valid self.options address _ _ run candidate rfl
          exact Program.ensures_done_iff.mpr (.inr ⟨rfl, valid⟩)

/-- An `Open` finds the stream open, fails, or leaves it open on a descriptor. -/
theorem open_settles (self : TcpStreamTransport) :
    self.open.Ensures fun _ outcome =>
      (outcome.1 = .alreadyOpen ∧ outcome.2.open_ = true) ∨ FailsOpen outcome.1 ∨
        (outcome.2.open_ = true ∧ outcome.2.socket_ ≠ kInvalidSocket) := by
  unfold TcpStreamTransport.open
  split
  · next opened => exact Program.ensures_done_iff.mpr (.inl ⟨rfl, opened⟩)
  · split
    · exact Program.ensures_done_iff.mpr (.inr (.inl (by simp [FailsOpen])))
    · rw [Program.ask_bind, Program.ensures_call_iff]
      intro resolved
      have refused : FailsOpen .openFailed := by simp [FailsOpen]
      cases resolved with
      | none => exact Program.ensures_done_iff.mpr (.inr (.inl refused))
      | some addresses =>
          dsimp only
          rw [Program.ensures_bind_iff]
          refine (tryAddresses_settles self refused addresses.entries).mono fun _ outcome kept => ?_
          rw [Program.ask_bind, Program.ensures_call_iff]
          exact fun _ => Program.ensures_done_iff.mpr (.inr kept)

/-- The attempts of a successful walk: candidates that did not connect, then the
first that did, and none after it. -/
def FirstConnected (addresses : List AddrInfo) (trace : OsTrace)
    (kept : NativeSocket) : Prop :=
  ∃ rejected chosen later attempts last answer,
    addresses = rejected ++ chosen :: later ∧ trace = List.flatten attempts ++ last ∧
    List.Forall₂ (fun address attempt => (∃ socket, Tries address socket attempt) ∧
      ¬ Connects attempt) rejected attempts ∧
    Tries chosen answer last ∧ Connects last ∧ kept = nativeSocket answer

private theorem FirstConnected.skip {address : AddrInfo} {rest : List AddrInfo}
    {attempt trace : OsTrace} {kept : NativeSocket} {socket : Option Nat}
    (tries : Tries address socket attempt) (rejected : ¬ Connects attempt)
    (walked : FirstConnected rest trace kept) :
    FirstConnected (address :: rest) (attempt ++ trace) kept := by
  obtain ⟨earlier, chosen, later, attempts, last, answer, rfl, rfl, each, found⟩ := walked
  exact ⟨address :: earlier, chosen, later, attempt :: attempts, last, answer, rfl, by simp,
    .cons ⟨⟨socket, tries⟩, rejected⟩ each, found⟩

/-- The walk over the addresses keeps the first candidate that connects, and
without one it leaves the stream as it was. -/
theorem tryAddresses_ensures (self : TcpStreamTransport) {finalStatus : TransportStatus}
    (fails : FailsOpen finalStatus) (addresses : List AddrInfo) :
    (tryAddresses self finalStatus addresses).Ensures fun trace outcome =>
      (outcome.1 = .ok ∧ FirstConnected addresses trace outcome.2.socket_) ∨
        (FailsOpen outcome.1 ∧ outcome.2 = self) := by
  induction addresses generalizing finalStatus with
  | nil => exact Program.ensures_done_iff.mpr (.inr ⟨fails, rfl⟩)
  | cons address rest ih =>
      unfold tryAddresses
      rw [Program.ensures_bind_iff]
      refine (tryCandidate_ensures self.options address).mono ?_
      intro attempt result tried
      obtain ⟨socket, tries, reports⟩ := tried
      have continued {status : TransportStatus} (fails : FailsOpen status)
          (rejected : ¬ Connects attempt) :
          (tryAddresses self status rest).Ensures fun trace outcome =>
            (outcome.1 = .ok ∧
              FirstConnected (address :: rest) (attempt ++ trace) outcome.2.socket_) ∨
            (FailsOpen outcome.1 ∧ outcome.2 = self) := by
        refine (ih fails).mono ?_
        intro trace outcome walked
        rcases walked with ⟨succeeded, walked⟩ | failed
        · exact .inl ⟨succeeded, walked.skip tries rejected⟩
        · exact .inr failed
      cases result with
      | skipped => exact continued fails reports
      | failed status => exact continued reports.1 reports.2
      | connected kept =>
          obtain ⟨rfl, connects⟩ := reports
          refine Program.ensures_done_iff.mpr (.inl ⟨rfl, ?_⟩)
          exact ⟨[], address, rest, [], attempt, socket, rfl, by simp, .nil, tries, connects, rfl⟩

/-- The trace of an `Open` that succeeds: the resolver's list is walked up to the
first candidate that connects, and then freed. -/
def KeepsFirstConnected (options : TcpStreamTransportOptions) (trace : OsTrace)
    (kept : NativeSocket) : Prop :=
  ∃ addresses walk,
    trace = ⟨.getaddrinfo (some options.host) (toString options.port.toNat) hints,
      some addresses⟩ :: walk ++ [⟨.freeaddrinfo addresses, ()⟩] ∧
    FirstConnected addresses.entries walk kept

theorem open_ensures (self : TcpStreamTransport) :
    self.open.Ensures fun trace outcome =>
      (outcome.1 = .ok ∧ KeepsFirstConnected self.options trace outcome.2.socket_) ∨
      (outcome.1 = .alreadyOpen ∧ trace = [] ∧ outcome.2 = self) ∨
      (FailsOpen outcome.1 ∧ self.open_ = false ∧ outcome.2 = self) := by
  unfold TcpStreamTransport.open
  split
  · exact Program.ensures_done_iff.mpr (.inr (.inl ⟨rfl, rfl, rfl⟩))
  · next closed =>
    have closed : self.open_ = false := by simpa using closed
    split
    · exact Program.ensures_done_iff.mpr (.inr (.inr ⟨by simp [FailsOpen], closed, rfl⟩))
    · rw [Program.ask_bind, Program.ensures_call_iff]
      intro resolved
      have refused : FailsOpen .openFailed := by simp [FailsOpen]
      cases resolved with
      | none => exact Program.ensures_done_iff.mpr (.inr (.inr ⟨refused, closed, rfl⟩))
      | some addresses =>
          dsimp only
          rw [Program.ensures_bind_iff]
          refine (tryAddresses_ensures self refused addresses.entries).mono ?_
          intro walk outcome walked
          rw [Program.ask_bind, Program.ensures_call_iff]
          intro freed
          refine Program.ensures_done_iff.mpr ?_
          rcases walked with ⟨succeeded, first⟩ | ⟨failed, kept⟩
          · exact .inl ⟨succeeded, addresses, walk, rfl, first⟩
          · exact .inr (.inr ⟨failed, closed, kept⟩)

theorem invoke_closed {self : TcpStreamTransport} (closed : self.open_ = false)
    (method : StreamMethod) :
    (self.invoke method).Ensures fun trace outcome =>
      (method.transfers = true → outcome.1.status? = some .notOpen ∧ trace = []) ∧
        (¬ (method = .open ∧ outcome.1 = .status .ok) → outcome.2.open_ = false) := by
  cases method with
  | «open» =>
      refine Program.ensures_map_iff.mpr (self.open_ensures.mono ?_)
      rintro trace ⟨status, after⟩ result
      refine ⟨nofun, fun unopened => ?_⟩
      rcases result with ⟨rfl, _⟩ | ⟨_, _, rfl⟩ | ⟨_, _, rfl⟩
      · exact absurd ⟨rfl, rfl⟩ unopened
      · exact closed
      · exact closed
  | close =>
      refine Program.ensures_map_iff.mpr ((members.close_ensures self).mono ?_)
      rintro trace outcome rfl
      exact ⟨nofun, fun _ => members.isOpen_release self⟩
  | isOpen => exact Program.ensures_done_iff.mpr ⟨nofun, fun _ => closed⟩
  | readSome output =>
      have refused : self.readSome output = .done (.empty .notOpen, self) := by
        simp [readSome, StreamMembers.readSome, members, closed]
      simp [invoke, refused, closed, StreamReply.status?]
  | writeAll input budget =>
      have refused : self.writeAll input budget = .done .notOpen := by
        simp [writeAll, StreamMembers.writeAll, members, closed]
      simp [invoke, refused, closed, StreamReply.status?]

/-- `Close`, and a read that found the connection closed by the peer. -/
def Releases (invocation : TcpInvocation) : Prop :=
  invocation.method = .close ∨
    (∃ output, invocation.method = .readSome output) ∧
      invocation.reply.status? = some .connectionClosed

theorem open_outcome {invocation : TcpInvocation} {status : TransportStatus}
    (run : Program.Runs (invocation.before.invoke invocation.method) invocation.trace
      (invocation.reply, invocation.after))
    (method : invocation.method = .open) (reply : invocation.reply = .status status) :
    (status = .ok ∧ KeepsFirstConnected invocation.before.options invocation.trace
      invocation.after.socket_) ∨
    (status = .alreadyOpen ∧ invocation.trace = [] ∧ invocation.after = invocation.before) ∨
    (FailsOpen status ∧ invocation.before.open_ = false ∧
      invocation.after = invocation.before) := by
  rw [method, reply] at run
  obtain ⟨answer, after, opened, same, rfl⟩ := Program.runs_prodMap_iff.mp run
  obtain rfl := StreamReply.status.inj same
  exact invocation.before.open_ensures _ _ opened

theorem closed_of_releases {invocation : TcpInvocation}
    (run : Program.Runs (invocation.before.invoke invocation.method) invocation.trace
      (invocation.reply, invocation.after)) (releases : Releases invocation) :
    invocation.after.open_ = false := by
  obtain ⟨before, method, trace, reply, after⟩ := invocation
  dsimp only at run ⊢
  rcases releases with closing | ⟨⟨output, reading⟩, ended⟩
  · obtain rfl := closing
    obtain ⟨outcome, closed, mapped⟩ := Program.runs_map_iff.mp run
    obtain rfl := members.close_ensures before trace outcome closed
    obtain ⟨-, rfl⟩ := Prod.mk.inj mapped
    rfl
  · obtain rfl := reading
    obtain ⟨read, same, ran, rfl, rfl⟩ := Program.runs_prodMap_iff.mp run
    exact StreamMembers.readSome_releases before output trace _ ran (Option.some.inj ended)

theorem closed_of_session {start final : TcpStreamTransport} {history : List TcpInvocation}
    (session : Session TcpStreamTransport.invoke start history final)
    (closed : start.open_ = false)
    (unopened : ∀ invocation ∈ history, ¬ OpensConnection invocation) :
    final.open_ = false := by
  induction session with
  | nil => exact closed
  | cons run _ ih =>
      obtain ⟨first, rest⟩ := List.forall_mem_cons.mp unopened
      exact ih ((invoke_closed closed _ _ _ run).2 first) rest

end TcpStreamTransport

/-- What descriptor ownership means for a run of a client stream. -/
structure DescriptorsOwned (history : List TcpInvocation) (final : TcpStreamTransport) :
    Prop where
  /-- After each operation the stream is open exactly when its socket is live, and
  no other descriptor is. -/
  owned : ∀ front invocation back live, history = front ++ invocation :: back →
    descriptors.ledger.Follows ∅ (sessionTrace (front ++ [invocation])) live →
    (invocation.after.open_ = true ↔ invocation.after.socket_ ∈ live) ∧
      live ⊆ {invocation.after.socket_}
  /-- No call is made on a descriptor that is not live, by a further operation
  that may be unfinished either. -/
  usesLive : ∀ method trace, (final.invoke method).Emits trace →
    descriptors.ledger.Respects descriptors.UsesLive ∅ (sessionTrace history ++ trace)
  /-- When the destructor has run, every descriptor was obtained and closed in
  turn, and none is left. -/
  closedOnce : ∀ trace live, final.destroy.Runs trace () →
    descriptors.ledger.Follows ∅ (sessionTrace history ++ trace) live →
    live = ∅ ∧
      descriptors.ledger.Respects descriptors.UsesLive ∅ (sessionTrace history ++ trace) ∧
      ∀ fd, Alternates False (descriptors.lifecycle fd (sessionTrace history ++ trace)) False
  /-- A successful `Open` keeps the first candidate that connected. -/
  keepsFirst : ∀ invocation ∈ history, OpensConnection invocation →
    TcpStreamTransport.KeepsFirstConnected invocation.before.options invocation.trace
      invocation.after.socket_
  /-- A failed `Open` leaves the stream closed and no descriptor live. -/
  refused : ∀ front opened back live status, history = front ++ opened :: back →
    opened.method = .open → opened.reply = .status status → status ≠ .ok →
    status ≠ .alreadyOpen →
    descriptors.ledger.Follows ∅ (sessionTrace (front ++ [opened])) live →
    opened.after.open_ = false ∧ live = ∅
  alreadyOpen : ∀ invocation ∈ history, invocation.method = .open →
    invocation.reply = .status .alreadyOpen →
    invocation.trace = [] ∧ invocation.after = invocation.before
  /-- A released stream refuses reads and writes without a call until it connects
  again. -/
  silent : ∀ front released middle later back,
    history = front ++ released :: middle ++ later :: back →
    TcpStreamTransport.Releases released → (∀ between ∈ middle, ¬ OpensConnection between) →
    later.method.transfers = true →
    later.reply.status? = some .notOpen ∧ later.trace = []

private theorem session_custodial {options : TcpStreamTransportOptions}
    {history : List TcpInvocation} {final : TcpStreamTransport}
    (session : Session TcpStreamTransport.invoke (.new options) history final) :
    descriptors.ledger.Respects descriptors.UsesLive ∅ (sessionTrace history) ∧
      ∀ live, descriptors.ledger.Follows ∅ (sessionTrace history) live →
        TcpStreamTransport.members.Owns live final := by
  have initial : TcpStreamTransport.members.Owns ∅ (.new options) := .closed rfl rfl
  have preserved (live : Set Int) (before : TcpStreamTransport) (method : StreamMethod)
      (owns : TcpStreamTransport.members.Owns live before) :
      Custodial (before.invoke method) live fun after outcome =>
        TcpStreamTransport.members.Owns after outcome.2 :=
    TcpStreamTransport.invoke_custodial owns method
  exact session.meets preserved initial

private theorem destroy_custodial {live : Set Int} {self : TcpStreamTransport}
    (owns : TcpStreamTransport.members.Owns live self) :
    Custodial self.destroy live fun after _ => after = ∅ := by
  refine Program.meets_bind_iff.mpr ((StreamMembers.close_custodial owns).mono ?_)
  intro after outcome closed
  obtain ⟨emptied, _⟩ := closed
  exact emptied

/-- Over whole runs, for every resolver result and all answers of the OS, a client
stream owns exactly the descriptor it holds open. -/
theorem descriptors_owned {options : TcpStreamTransportOptions} {history : List TcpInvocation}
    {final : TcpStreamTransport}
    (session : Session TcpStreamTransport.invoke (.new options) history final) :
    DescriptorsOwned history final := by
  obtain ⟨respected, owning⟩ := session_custodial session
  constructor
  · intro front invocation back live split followed
    subst split
    have owns := (session_custodial session.through.2.1).2 live followed
    exact ⟨owns.isOpen_iff, owns.subset⟩
  · intro method trace emitted
    apply Environment.respects_append respected
    intro live followed
    exact (TcpStreamTransport.invoke_custodial (owning live followed) method).respects emitted
  · intro trace live run followed
    have whole : descriptors.ledger.Respects descriptors.UsesLive ∅
        (sessionTrace history ++ trace) := by
      apply Environment.respects_append respected
      intro middle head
      exact (destroy_custodial (owning middle head)).respects run.emits
    obtain ⟨middle, head, tail⟩ := Environment.follows_append_iff.mp followed
    obtain rfl : live = ∅ := (destroy_custodial (owning middle head)).runs run tail
    refine ⟨rfl, whole, fun fd => ?_⟩
    simpa using Custody.lifecycle_alternates whole followed fd
  · intro invocation member failed
    obtain ⟨method, reply⟩ := failed
    rcases TcpStreamTransport.open_outcome (session.runs_of_mem member) method reply with
      ⟨_, kept⟩ | ⟨refused, _⟩ | ⟨failed, _⟩
    · exact kept
    · cases refused
    · exact absurd rfl failed.1
  · intro front opened back live status split method reply failed already followed
    subst split
    have run := session.runs_of_mem (List.mem_append_right front List.mem_cons_self)
    have owns := (session_custodial session.through.2.1).2 live followed
    rcases TcpStreamTransport.open_outcome run method reply with
      ⟨ok, _⟩ | ⟨same, _⟩ | ⟨_, closed, unchanged⟩
    · exact absurd ok failed
    · exact absurd same already
    · rw [← unchanged] at closed
      exact ⟨closed, owns.eq_empty closed⟩
  · intro invocation member method reply
    rcases TcpStreamTransport.open_outcome (session.runs_of_mem member) method reply with
      ⟨ok, _⟩ | ⟨_, same⟩ | ⟨failed, _⟩
    · cases ok
    · exact same
    · exact absurd rfl failed.2
  · intro front released middle later back split releases unopened transfers
    subst split
    rw [List.append_assoc, List.cons_append] at session
    have closed := TcpStreamTransport.closed_of_releases
      (session.runs_of_mem (List.mem_append_right front List.mem_cons_self)) releases
    have following := session.through.2.2
    have stayed := TcpStreamTransport.closed_of_session following.through.1 closed unopened
    have run := following.runs_of_mem (List.mem_append_right middle List.mem_cons_self)
    exact (TcpStreamTransport.invoke_closed stayed _ _ _ run).1 transfers

theorem descriptors_owned_meter : DescriptorsOwned [meterOpen] meterStream :=
  descriptors_owned (.cons meterOpen_runs .nil)

end DlmsTransport.Transport
