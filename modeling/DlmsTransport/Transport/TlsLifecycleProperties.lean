import DlmsTransport.Transport.StreamTransfers
import DlmsTransport.Transport.TlsSessionProperties

/-! The two open flags of a TLS connection: the wrapper's own, and the one of the socket below
it, which a read that observes the end of the stream clears. What keeps them in step, or parts
them, is read off the calls and the OS answers of a whole run. -/

set_option autoImplicit false

namespace DlmsTransport.Transport

open Interaction Posix

open TcpStreamTransport (FailsOpen)

/-- A concrete byte stream, with the OS calls made through it so far and their answers. -/
structure LowerStream where
  stream : ByteStream
  answered : OsTrace

/-- The operation gives the result and leads to `after`, its OS calls on record. -/
def LowerStream.Performs {ρ : Type} (self : LowerStream) (operation : OsProgram (ρ × ByteStream))
    (result : ρ) (after : LowerStream) : Prop :=
  ∃ trace, operation.Runs trace (result, after.stream) ∧ after.answered = self.answered ++ trace

/-- A `WriteAll` goes around its loop as often as it needs to. -/
def LowerStream.Writes (self : LowerStream) (input : InputBuffer) (status : TransportStatus)
    (after : LowerStream) : Prop :=
  ∃ budget, self.Performs ((·, self.stream) <$> self.stream.writeAll input budget) status after

/-- A wrapper over a concrete byte stream with a backend that forwards reads,
writes and `Close` to it. The handshake may read from and write to the stream and
answer anything. -/
def forwarding : Environment TlsCall TlsCall.Answer LowerStream where
  step lower
    | .lowerOpen, status, after => lower.Performs lower.stream.openStream status after
    | .lowerClose, status, after => lower.Performs lower.stream.close status after
    | .lowerIsOpen, value, after => value = lower.stream.isOpen ∧ after = lower
    | .lowerReadSome output, reply, after =>
        lower.Performs (lower.stream.readSome output) reply after
    | .lowerWriteAll input, status, after => lower.Writes input status after
    | .handshake _, _, after =>
        ∃ history, Session ByteStream.invoke lower.stream history after.stream ∧
          (∀ invocation ∈ history, invocation.method.transfers = true) ∧
          after.answered = lower.answered ++ sessionTrace history
    | .backendClose, status, after => lower.Performs lower.stream.close status after
    | .backendReadSome output, reply, after =>
        lower.Performs (lower.stream.readSome output) reply after
    | .backendWriteAll input, status, after => lower.Writes input status after

abbrev TlsEncounter :=
  Encounter TlsStreamTransport LowerStream StreamMethod TlsCall TlsCall.Answer StreamReply

/-- `IsOpen()` answers `value` over the stream `lower`. -/
def TlsStreamTransport.ReportsOpen (self : TlsStreamTransport) (lower : LowerStream)
    (value : Bool) : Prop :=
  ∃ trace after, self.isOpen.Runs trace value ∧ forwarding.Follows lower trace after

theorem TlsStreamTransport.reportsOpen_iff {self : TlsStreamTransport} {lower : LowerStream}
    {value : Bool} :
    self.ReportsOpen lower value ↔ value = (self.open_ && self.lower_ && lower.stream.isOpen) := by
  unfold ReportsOpen TlsStreamTransport.isOpen
  split
  · next asked =>
    simp only [Program.runs_ask_iff, asked, Bool.true_and]
    constructor
    · intro ran
      obtain ⟨trace, after, rfl, _, ⟨answered, _⟩, _⟩ := ran
      exact answered
    · intro answered
      exact ⟨_, lower, rfl, lower, ⟨answered, rfl⟩, rfl⟩
  · next unasked =>
    rw [Bool.not_eq_true] at unasked
    simp only [Program.pure_eq, Program.runs_done_iff, unasked, Bool.false_and]
    constructor
    · intro ran
      obtain ⟨trace, after, ⟨rfl, same⟩, _⟩ := ran
      exact same.symm
    · rintro rfl
      exact ⟨[], lower, ⟨rfl, rfl⟩, rfl⟩

/-- The calls of an `Open` that starts a new connection: the lower `Open`, and the
handshake if that allows one. -/
def StartsAnew (trace : TlsTrace) : Prop :=
  ∃ opened rest, trace = ⟨.lowerOpen, opened⟩ :: rest ∧
    (opened = TransportStatus.ok ∨ opened = TransportStatus.alreadyOpen →
      ∃ options status later, rest = ⟨.handshake options, status⟩ :: later)

/-- `Open` returns `AlreadyOpen` exactly when `IsOpen()` was true before, and
starts a new connection when it was false. -/
def AgreesWithIsOpen (encounter : TlsEncounter) : Prop :=
  encounter.method = .open →
    (encounter.reply = .status .alreadyOpen ↔
      encounter.before.ReportsOpen encounter.worldBefore true) ∧
    (encounter.before.ReportsOpen encounter.worldBefore false → StartsAnew encounter.trace)

/-- The OS calls of an encounter and their answers. -/
def osTrace (encounter : TlsEncounter) : OsTrace :=
  encounter.worldAfter.answered.drop encounter.worldBefore.answered.length

/-- A session begins with an `Open` that returns `Ok`, whose handshake belongs to it, and ends
with a `Close`. -/
def continueSession (session : Option OsTrace) (encounter : TlsEncounter) : Option OsTrace :=
  if encounter.method = .close then
    none
  else if encounter.method = .open ∧ encounter.reply = .status .ok then
    some (osTrace encounter)
  else
    session.map (· ++ osTrace encounter)

/-- The OS calls and answers of the session that the calls so far have left, if they have left
one. -/
def sessionSoFar (earlier : List TlsEncounter) : Option OsTrace :=
  earlier.foldl continueSession none

/-- A read of the session, one of its handshake included, was answered with the end of the
stream. -/
def PeerCloseObserved (earlier : List TlsEncounter) : Prop :=
  ∃ session, sessionSoFar earlier = some session ∧ observesEnd session = true

def HandshakeAlreadyOpen (encounter : TlsEncounter) : Prop :=
  ∃ options, ⟨.handshake options, TransportStatus.alreadyOpen⟩ ∈ encounter.trace

/-- The flag of the wrapper says whether there is a session, and that of the stream below, while
there is one, whether its end was not observed. -/
structure InStep (earlier : List TlsEncounter) (wrapper : TlsStreamTransport)
    (lower : LowerStream) : Prop where
  wired : wrapper.Wired
  valid : wrapper.hasValidConfiguration = true
  session : wrapper.open_ = (sessionSoFar earlier).isSome
  flag : ∀ answers, sessionSoFar earlier = some answers →
    lower.stream.isOpen = !observesEnd answers

theorem InStep.start {wrapper : TlsStreamTransport} (valid : wrapper.hasValidConfiguration = true)
    (closed : wrapper.open_ = false) (lower : LowerStream) : InStep [] wrapper lower where
  wired := fun _ => valid
  valid := valid
  session := closed
  flag := nofun

theorem sessionSoFar_concat (earlier : List TlsEncounter) (encounter : TlsEncounter) :
    sessionSoFar (earlier ++ [encounter]) =
      continueSession (sessionSoFar earlier) encounter :=
  List.foldl_concat ..

theorem osTrace_eq {encounter : TlsEncounter} {trace : OsTrace}
    (recorded : encounter.worldAfter.answered = encounter.worldBefore.answered ++ trace) :
    osTrace encounter = trace := by
  rw [osTrace, recorded, List.drop_left]

/-- What an encounter has to leave of the flags. -/
def LeavesInStep (encounter : TlsEncounter) (session : Option OsTrace) : Prop :=
  encounter.after.open_ = session.isSome ∧
    ∀ answers, session = some answers →
      encounter.worldAfter.stream.isOpen = !observesEnd answers

/-- A call inside a session adds its OS calls to it, one outside of any adds nothing. -/
private theorem InStep.continued {earlier : List TlsEncounter} {encounter : TlsEncounter}
    (inStep : InStep earlier encounter.before encounter.worldBefore)
    (going : encounter.method ≠ .close)
    (refused : encounter.method = .open → encounter.reply ≠ .status .ok)
    (same : encounter.after.open_ = encounter.before.open_)
    (flag : encounter.before.open_ = true → ∃ trace,
      encounter.worldAfter.answered = encounter.worldBefore.answered ++ trace ∧
      encounter.worldAfter.stream.isOpen =
        (encounter.worldBefore.stream.isOpen && !observesEnd trace)) :
    LeavesInStep encounter (continueSession (sessionSoFar earlier) encounter) := by
  rw [continueSession, if_neg going, if_neg (not_and.mpr refused)]
  refine ⟨by rw [same, inStep.session, Option.isSome_map], fun answers extended => ?_⟩
  obtain ⟨session, present, rfl⟩ := Option.map_eq_some_iff.mp extended
  obtain ⟨trace, recorded, flag⟩ := flag (by rw [inStep.session, present]; rfl)
  rw [osTrace_eq recorded, flag, inStep.flag session present, observesEnd_append, Bool.not_or]

/-- A call that leaves the stream alone. -/
private theorem InStep.untouched {earlier : List TlsEncounter} {encounter : TlsEncounter}
    (inStep : InStep earlier encounter.before encounter.worldBefore)
    (going : encounter.method ≠ .close)
    (refused : encounter.method = .open → encounter.reply ≠ .status .ok)
    (same : encounter.after.open_ = encounter.before.open_)
    (alone : encounter.worldBefore = encounter.worldAfter) :
    LeavesInStep encounter (continueSession (sessionSoFar earlier) encounter) :=
  inStep.continued going refused same fun _ => ⟨[], by simp [alone]⟩

/-- After a `Close` there is no session. -/
private theorem leavesInStep_close {session : Option OsTrace} {encounter : TlsEncounter}
    (closes : encounter.method = .close) (closed : encounter.after.open_ = false) :
    LeavesInStep encounter (continueSession session encounter) := by
  rw [continueSession, if_pos closes]
  exact ⟨closed, nofun⟩

/-- Every encounter keeps the flags in step. -/
theorem InStep.step {earlier : List TlsEncounter} {encounter : TlsEncounter}
    (inStep : InStep earlier encounter.before encounter.worldBefore)
    (run : (encounter.before.invoke encounter.method).Runs encounter.trace
      (encounter.reply, encounter.after))
    (followed : forwarding.Follows encounter.worldBefore encounter.trace encounter.worldAfter) :
    InStep (earlier ++ [encounter]) encounter.after encounter.worldAfter := by
  have step := TlsStreamTransport.step_of_runs inStep.wired run
  suffices left : LeavesInStep encounter (continueSession (sessionSoFar earlier) encounter) by
    rw [← sessionSoFar_concat] at left
    exact ⟨step.wired inStep.wired, step.sameConfiguration.trans inStep.valid, left.1, left.2⟩
  obtain ⟨⟨before, method, trace, reply, after⟩, worldBefore, worldAfter⟩ := encounter
  dsimp only at step followed inStep
  cases step with
  | alreadyOpen => exact inStep.untouched (by simp) (by simp) rfl followed
  | invalidConfiguration closed =>
      exact inStep.continued (by simp) (by simp) rfl (absurd · (by simp [closed]))
  | lowerRefused closed _ notOk =>
      exact inStep.continued (by simp) (by simp [notOk]) rfl (absurd · (by simp [closed]))
  | handshakeFailed closed _ _ notOk =>
      exact inStep.continued (by simp) (by simp [notOk]) rfl (absurd · (by simp [closed]))
  | established closed _ ready =>
      -- The session begins here, with the OS calls of the handshake.
      obtain ⟨middle, ⟨opening, opened, begun⟩, _, ⟨history, session, transfers, recorded⟩, rfl⟩ :=
        followed
      rw [begun, List.append_assoc] at recorded
      rw [continueSession, if_neg (by simp), if_pos (by simp), osTrace_eq recorded]
      refine ⟨rfl, fun answers same => ?_⟩
      obtain rfl := Option.some.inj same
      have silent := (ByteStream.openStream_movesNothing _).observesEnd opened
      have openBelow := (ByteStream.openStream_flag _ _ _ opened).resolve_left fun failed =>
        ready.elim failed.1 failed.2
      simpa [silent, openBelow] using ByteStream.transfers_flag session transfers
  | closedNothing closed | closedLower closed => exact leavesInStep_close rfl closed
  | ended => exact leavesInStep_close rfl rfl
  | reportedClosed closed =>
      exact inStep.continued (by simp) (by simp) rfl (absurd · (by simp [closed]))
  | askedLower =>
      obtain ⟨middle, ⟨_, rfl⟩, rfl⟩ := followed
      exact inStep.untouched (by simp) (by simp) rfl rfl
  | refusedRead | refusedWrite => exact inStep.untouched (by simp) (by simp) rfl followed
  | read =>
      obtain ⟨middle, ⟨trace, ran, recorded⟩, rfl⟩ := followed
      exact inStep.continued (by simp) (by simp) rfl fun _ =>
        ⟨trace, recorded, worldBefore.stream.readSome_flag _ _ _ ran⟩
  | @wrote input =>
      obtain ⟨middle, ⟨budget, trace, ran, recorded⟩, rfl⟩ := followed
      obtain ⟨status, written, same⟩ := Program.runs_map_iff.mp ran
      have kept : worldBefore.stream = middle.stream := congrArg Prod.snd same
      have silent := worldBefore.stream.writeAll_observesNoEnd input budget written
      exact inStep.continued (by simp) (by simp) rfl fun _ =>
        ⟨trace, recorded, by simp [silent, kept]⟩

/-- After any course of a validly configured wrapper the flags are in step. -/
theorem flags_inStep {options : TlsStreamTransportOptions} {lower : ByteStream}
    (valid : (TlsStreamTransport.new true true options).hasValidConfiguration = true)
    {encounters : List TlsEncounter} {final : TlsStreamTransport} {lowerFinal : LowerStream}
    (course : Course TlsStreamTransport.invoke forwarding (.new true true options) ⟨lower, []⟩
      encounters final lowerFinal) : InStep encounters final lowerFinal :=
  course.invariant_history InStep (fun _ _ inStep run followed => inStep.step run followed)
    (.start valid rfl _)

/-- Only the observed end of the stream parts the flags. -/
theorem InStep.parted_iff {earlier : List TlsEncounter} {wrapper : TlsStreamTransport}
    {lower : LowerStream} (inStep : InStep earlier wrapper lower) :
    wrapper.open_ = true ∧ lower.stream.isOpen = false ↔ PeerCloseObserved earlier := by
  rw [inStep.session, Option.isSome_iff_exists]
  constructor
  · intro parted
    obtain ⟨⟨answers, present⟩, closed⟩ := parted
    rw [inStep.flag answers present] at closed
    exact ⟨answers, present, by simpa using closed⟩
  · intro observed
    obtain ⟨answers, present, ended⟩ := observed
    exact ⟨⟨answers, present⟩, by rw [inStep.flag answers present, ended, Bool.not_true]⟩

/-- What one `Open` makes of the two flags. -/
private theorem agrees_iff {encounter : TlsEncounter}
    (valid : encounter.before.hasValidConfiguration = true)
    (step : TlsStreamTransport.Step encounter.before encounter.method encounter.trace
      encounter.reply encounter.after) :
    AgreesWithIsOpen encounter ↔
      (encounter.method = .open →
        ¬ (encounter.before.open_ = true ∧ encounter.worldBefore.stream.isOpen = false) ∧
          ¬ HandshakeAlreadyOpen encounter) := by
  obtain ⟨⟨before, method, trace, reply, after⟩, worldBefore, worldAfter⟩ := encounter
  dsimp only at valid step
  apply forall_congr'
  intro opens
  obtain rfl : method = .open := opens
  obtain ⟨present, _⟩ := TlsStreamTransport.valid_pointers valid
  simp only [TlsStreamTransport.reportsOpen_iff, HandshakeAlreadyOpen]
  cases step with
  | alreadyOpen opened =>
      cases below : worldBefore.stream.isOpen <;> simp [opened, present, StartsAnew]
  | invalidConfiguration _ invalid => simp [valid] at invalid
  | lowerRefused unopened _ notOk notAlready =>
      simp [unopened, notAlready, StartsAnew, notOk]
  | @handshakeFailed _ status _ unopened _ ready failed =>
      by_cases already : status = .alreadyOpen
      · subst already
        simp [unopened]
      · simp [unopened, already, Ne.symm already, StartsAnew]
  | established unopened _ ready =>
      simp [unopened, StartsAnew]

/-- Over every course of a wrapper with a valid configuration, `Open` agrees with `IsOpen()`
exactly when no `Open` comes after a read of the session that observed the end of the stream,
and no handshake answers `AlreadyOpen` of its own accord. -/
theorem tlsLifecycle_agrees_iff {options : TlsStreamTransportOptions} {lower : ByteStream}
    (valid : (TlsStreamTransport.new true true options).hasValidConfiguration = true)
    {encounters : List TlsEncounter} {final : TlsStreamTransport} {lowerFinal : LowerStream}
    (course : Course TlsStreamTransport.invoke forwarding (.new true true options) ⟨lower, []⟩
      encounters final lowerFinal) :
    (∀ encounter ∈ encounters, AgreesWithIsOpen encounter) ↔
      ∀ front encounter back, encounters = front ++ encounter :: back →
        encounter.method = .open →
          ¬ PeerCloseObserved front ∧ ¬ HandshakeAlreadyOpen encounter := by
  have each {front encounter back} (split : encounters = front ++ encounter :: back) :
      AgreesWithIsOpen encounter ↔ (encounter.method = .open →
        ¬ PeerCloseObserved front ∧ ¬ HandshakeAlreadyOpen encounter) := by
    subst split
    have inStep := flags_inStep valid course.through.1
    have step := TlsStreamTransport.step_of_runs inStep.wired course.runs_of_split
    rw [agrees_iff inStep.valid step, inStep.parted_iff]
  constructor
  · intro agrees front encounter back split
    exact (each split).mp (agrees encounter (by simp [split]))
  · intro avoids encounter member
    obtain ⟨front, back, split⟩ := List.append_of_mem member
    exact (each split).mpr (avoids front encounter back split)

/-- The lower stream before and after the connection of the meter, and after its peer closed. -/
def lowerUnconnected : LowerStream := ⟨.tcp (.new meterOptions), []⟩

def lowerConnected : LowerStream :=
  ⟨.tcp meterStream, TcpStreamTransport.connectTrace meterOptions 0 meterAddress 3⟩

def closingTrace : OsTrace :=
  [⟨.select 3 true ⟨5, 0⟩, (1 : Int)⟩, ⟨.recv 3 4, .ok Delivery.nothing⟩, ⟨.close 3, ()⟩]

def lowerDisconnected : LowerStream :=
  ⟨.tcp (.new meterOptions), lowerConnected.answered ++ closingTrace⟩

private theorem securedOpen_followed :
    forwarding.Follows lowerUnconnected securedOpen.trace lowerConnected := by
  have opened : (ByteStream.tcp (.new meterOptions)).openStream.Runs
      (TcpStreamTransport.connectTrace meterOptions 0 meterAddress 3) (.ok, .tcp meterStream) :=
    Program.runs_map_iff.mpr
      ⟨_, TcpStreamTransport.open_connects meterOptions_valid 0 meterAddress 3, rfl⟩
  exact ⟨lowerConnected, ⟨_, opened, rfl⟩, lowerConnected, ⟨[], .nil, by simp, by simp⟩, rfl⟩

private theorem securedOpen_runs :
    (meterTls.invoke .open).Runs securedOpen.trace (.status .ok, securedOpen.after) :=
  .call (.call .refl)

def connectingOpen : TlsEncounter where
  toInvocation := securedOpen
  worldBefore := lowerUnconnected
  worldAfter := lowerConnected

def repeatedOpen : TlsEncounter where
  before := securedOpen.after
  method := .open
  trace := []
  reply := .status .alreadyOpen
  after := securedOpen.after
  worldBefore := lowerConnected
  worldAfter := lowerConnected

theorem tlsLifecycle_agrees_meter :
    AgreesWithIsOpen connectingOpen ∧ AgreesWithIsOpen repeatedOpen := by
  have valid : meterTls.hasValidConfiguration = true := by decide
  have course : Course TlsStreamTransport.invoke forwarding meterTls lowerUnconnected
      [connectingOpen, repeatedOpen] securedOpen.after lowerConnected :=
    .cons securedOpen_runs securedOpen_followed (.cons .refl rfl .nil)
  have agrees : ∀ encounter ∈ [connectingOpen, repeatedOpen], AgreesWithIsOpen encounter := by
    refine (tlsLifecycle_agrees_iff valid course).mpr ?_
    intro front encounter back split _
    rcases List.cons_eq_append_iff.mp split with ⟨rfl, here⟩ | ⟨between, rfl, later⟩
    · obtain rfl := (List.cons.inj here).1
      exact ⟨by simp [PeerCloseObserved, sessionSoFar],
        by simp [HandshakeAlreadyOpen, connectingOpen, securedOpen]⟩
    · rcases List.cons_eq_append_iff.mp later with ⟨rfl, here⟩ | ⟨_, _, none⟩
      · obtain rfl := (List.cons.inj here).1
        refine ⟨fun observed => ?_, by simp [HandshakeAlreadyOpen, repeatedOpen]⟩
        obtain ⟨answers, present, ended⟩ := observed
        obtain rfl : osTrace connectingOpen = answers := Option.some.inj present
        exact absurd ended (by decide)
      · simp at none
  exact ⟨agrees _ (by simp), agrees _ (by simp)⟩

def closingRead : TlsEncounter where
  before := securedOpen.after
  method := .readSome ⟨false, 4⟩
  trace := [⟨.backendReadSome ⟨false, 4⟩, ⟨.connectionClosed, 0, []⟩⟩]
  reply := .read ⟨.connectionClosed, 0, []⟩
  after := securedOpen.after
  worldBefore := lowerConnected
  worldAfter := lowerDisconnected

def staleOpen : TlsEncounter where
  before := securedOpen.after
  method := .open
  trace := []
  reply := .status .alreadyOpen
  after := securedOpen.after
  worldBefore := lowerDisconnected
  worldAfter := lowerDisconnected

/-- After the peer closed, `IsOpen()` is false and `Open` still returns
`AlreadyOpen` without a call. -/
theorem tlsLifecycle_stale :
    Course TlsStreamTransport.invoke forwarding meterTls lowerUnconnected
      [connectingOpen, closingRead, staleOpen] securedOpen.after lowerDisconnected ∧
    PeerCloseObserved [connectingOpen, closingRead] ∧
    staleOpen.before.ReportsOpen staleOpen.worldBefore false ∧ ¬ AgreesWithIsOpen staleOpen := by
  have observed : ((ByteStream.tcp meterStream).readSome ⟨false, 4⟩).Runs closingTrace
      (⟨.connectionClosed, 0, []⟩, .tcp (.new meterOptions)) :=
    .call (.call (.call .refl))
  have reported : staleOpen.before.ReportsOpen staleOpen.worldBefore false :=
    TlsStreamTransport.reportsOpen_iff.mpr rfl
  refine ⟨?_, ⟨_, rfl, rfl⟩, reported, fun agrees => ?_⟩
  · exact .cons securedOpen_runs securedOpen_followed
      (.cons (.call .refl) ⟨lowerDisconnected, ⟨_, observed, rfl⟩, rfl⟩ (.cons .refl rfl .nil))
  · obtain ⟨opened, rest, made, _⟩ := (agrees rfl).2 reported
    cases made

end DlmsTransport.Transport
