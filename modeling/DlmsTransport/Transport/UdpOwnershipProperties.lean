import DlmsTransport.Interaction.Session
import DlmsTransport.Posix.AddressLists
import DlmsTransport.Posix.Descriptors
import DlmsTransport.Transport.UdpOpening

/-! Ownership of the datagram transport over whole runs: its socket, the address
lists it resolves, and the connection that `Send` relies on. -/

set_option autoImplicit false

namespace DlmsTransport.Transport

open Interaction Posix

/-- What a transport may hold of the OS. -/
@[ext] structure Holdings where
  sockets : Set Int
  connected : Set Int
  lists : Set AddressList

namespace Holdings

def connectedAfter (connected : Set Int) : (request : OsCall) → request.Answer → Set Int
  | .connect fd _, .ok _ => insert fd connected
  | .close fd, _ => connected \ {fd}
  | _, _ => connected

/-- The ledgers of descriptors and of address lists, and which descriptors have
been connected since they were handed out. -/
def system : Environment OsCall OsCall.Answer Holdings where
  step before request answer after :=
    descriptors.ledger.step before.sockets request answer after.sockets ∧
      addressLists.ledger.step before.lists request answer after.lists ∧
      after.connected = connectedAfter before.connected request answer

/-- Only live descriptors and lists are used, and `send` has somewhere to go. -/
structure Permits (world : Holdings) (request : OsCall) : Prop where
  sockets : descriptors.UsesLive world.sockets request
  lists : addressLists.UsesLive world.lists request
  reads : ReadsLive world.lists request
  sends : ∀ fd slice length, request = .send fd slice length → fd ∈ world.connected

abbrev guarantee : Guarantee OsCall Holdings := .calls Permits

abbrev Keeps {α : Type} (program : OsProgram α) (world : Holdings)
    (post : Holdings → α → Prop) : Prop :=
  program.Meets system guarantee post world

theorem sockets_ledger {trace : OsTrace} {before after : Holdings}
    (respected : system.Respects Permits before trace)
    (followed : system.Follows before trace after) :
    descriptors.ledger.Respects descriptors.UsesLive before.sockets trace ∧
      descriptors.ledger.Follows before.sockets trace after.sockets := by
  refine Custody.ledger_of_view sockets ?_ ?_ respected followed
  · intro before request answer after stepped
    exact stepped.1
  · intro world request permits
    exact permits.sockets

theorem lists_ledger {trace : OsTrace} {before after : Holdings}
    (respected : system.Respects Permits before trace)
    (followed : system.Follows before trace after) :
    addressLists.ledger.Respects addressLists.UsesLive before.lists trace ∧
      addressLists.ledger.Follows before.lists trace after.lists := by
  refine Custody.ledger_of_view lists ?_ ?_ respected followed
  · intro before request answer after stepped
    exact stepped.2.1
  · intro world request permits
    exact permits.lists

/-- A call on a descriptor that hands nothing out and takes nothing back. -/
def Plain : OsCall → Prop
  | .fcntlGetFlags _ | .fcntlSetNonBlock _ _ | .bind _ _ | .getsockname _ | .select _ _ _
  | .fionread _ | .recv _ _ | .send _ _ _ | .errno => True
  | _ => False

theorem step_plain {request : OsCall} (plain : Plain request) {answer : request.Answer}
    {before after : Holdings} (stepped : system.step before request answer after) :
    after = before := by
  obtain ⟨sockets, lists, connected⟩ := stepped
  cases request with
  | fcntlGetFlags | fcntlSetNonBlock | bind | getsockname | select | fionread | recv | send
  | errno => exact Holdings.ext sockets connected lists
  | _ => exact plain.elim

theorem keeps_plain {α : Type} {post : Holdings → α → Prop} {request : OsCall}
    {next : request.Answer → OsProgram α} {world : Holdings} (plain : Plain request)
    (permits : world.Permits request) (rest : ∀ answer, Keeps (next answer) world post) :
    Keeps (.call request next) world post := by
  refine ⟨permits, fun answer after stepped => ?_⟩
  obtain rfl := step_plain plain stepped
  exact rest answer

variable {world : Holdings} {fd : Int}

theorem permits_of_mem (held : fd ∈ world.sockets) {request : OsCall}
    (uses : request.descriptor? = some fd) (reads : ReadsLive world.lists request)
    (sends : ∀ fd slice length, request = .send fd slice length → fd ∈ world.connected) :
    world.Permits request where
  sockets := usesLive_of_mem held uses
  lists := by
    intro addresses used
    cases request with
    | freeaddrinfo => cases uses
    | _ => cases used
  reads
  sends

theorem permits_of_none {request : OsCall} (uses : request.descriptor? = none)
    (lists : addressLists.UsesLive world.lists request) (reads : ReadsLive world.lists request) :
    world.Permits request where
  sockets := usesLive_of_none uses
  lists
  reads
  sends := by
    intro fd slice length same
    subst same
    cases uses

theorem setNonBlocking_keeps (held : fd ∈ world.sockets) :
    Keeps (setNonBlocking fd) world fun after _ => after = world := by
  unfold setNonBlocking
  rw [Program.ask_bind]
  refine keeps_plain trivial (permits_of_mem held rfl trivial nofun) fun (flags : Int) => ?_
  split
  · exact keeps_plain trivial (permits_of_mem held rfl trivial nofun) fun _ => rfl
  · rfl

theorem resolveUdpAddress_keeps (host : String) (port : UInt16) (family : Family)
    (passive : Bool) :
    Keeps (resolveUdpAddress host port family passive) world fun after answer =>
      answer.elim (after = world) fun addresses => addresses.owned = some addresses ∧
        addresses ∉ world.lists ∧ after = { world with lists := insert addresses world.lists } := by
  unfold resolveUdpAddress
  rw [Program.ask_bind]
  refine ⟨permits_of_none rfl (Custody.usesLive_of_none rfl) trivial, ?_⟩
  intro answer after stepped
  obtain ⟨sockets, lists, connected⟩ := stepped
  cases answer with
  | none => exact Holdings.ext sockets connected lists
  | some addresses =>
      change Keeps (.done addresses.owned) after _
      by_cases empty : addresses.entries.isEmpty = true
      · have nothing : addresses.owned = none := if_pos empty
        rw [nothing]
        exact Holdings.ext sockets connected ((Custody.ledger_step_quiet nothing rfl).mp lists)
      · have owned : addresses.owned = some addresses := if_neg empty
        obtain ⟨fresh, inserted⟩ := (Custody.ledger_step_obtain owned).mp lists
        rw [owned]
        exact ⟨owned, fresh, Holdings.ext sockets connected inserted⟩

theorem freeaddrinfo_keeps {α : Type} {post : Holdings → α → Prop} {addresses : AddressList}
    {next : Unit → OsProgram α} (owned : addresses.owned = some addresses)
    (live : addresses ∈ world.lists)
    (rest : ∀ answer, Keeps (next answer) { world with lists := world.lists \ {addresses} } post) :
    Keeps (.call (.freeaddrinfo addresses) next) world post := by
  have used : addressLists.UsesLive world.lists (.freeaddrinfo addresses) := by
    intro list uses
    exact Option.some.inj (owned.symm.trans uses) ▸ live
  refine ⟨permits_of_none rfl used trivial, fun answer after stepped => ?_⟩
  obtain ⟨sockets, lists, connected⟩ := stepped
  obtain rfl : after = { world with lists := world.lists \ {addresses} } :=
    Holdings.ext sockets connected ((Custody.ledger_step_release rfl owned).mp lists)
  exact rest answer

theorem bindFirst_keeps (world : Holdings) (held : fd ∈ world.sockets) {addresses : List AddrInfo}
    (listed : ∀ address ∈ addresses, ∃ list ∈ world.lists, address ∈ list.entries) :
    Keeps (bindFirst fd addresses) world fun after _ => after = world := by
  induction addresses with
  | nil => rfl
  | cons address rest ih =>
      obtain ⟨⟨list, live, entry⟩, others⟩ := List.forall_mem_cons.mp listed
      rw [bindFirst, Program.ask_bind]
      refine keeps_plain trivial
        (permits_of_mem held rfl ⟨list, live, address, entry, rfl⟩ (by simp)) ?_
      intro (result : Int)
      split
      · rfl
      · exact ih others

theorem bindLocal_keeps (held : fd ∈ world.sockets) (options : UdpTransportOptions)
    (family : Family) : Keeps (bindLocal options fd family) world fun after _ => after = world := by
  refine Program.meets_bind_iff.mpr ((resolveUdpAddress_keeps _ _ _ _).mono ?_)
  intro after localAddresses resolved
  cases localAddresses with
  | none => exact resolved
  | some addresses =>
      obtain ⟨owned, fresh, rfl⟩ := resolved
      have binds := bindFirst_keeps { world with lists := insert addresses world.lists } held
        fun _ entry => ⟨addresses, Set.mem_insert _ _, entry⟩
      refine Program.meets_bind_iff.mpr (binds.mono fun after bound same => ?_)
      subst same
      apply freeaddrinfo_keeps owned (Set.mem_insert _ _)
      intro _
      have removed : insert addresses world.lists \ {addresses} = world.lists := by simp [fresh]
      dsimp only
      rw [removed]
      rfl

/-- What an attempt at one candidate leaves, beside the lists that were live before. -/
def afterAttempt (lists : Set AddressList) (hasRemote : Bool) : Option NativeSocket → Holdings
  | none => ⟨∅, ∅, lists⟩
  | some candidate => ⟨{candidate}, if hasRemote then {candidate} else ∅, lists⟩

theorem close_keeps {α : Type} {post : Holdings → α → Prop} {next : Unit → OsProgram α}
    (held : fd ∈ world.sockets)
    (rest : ∀ answer, Keeps (next answer)
      ⟨world.sockets \ {fd}, world.connected \ {fd}, world.lists⟩ post) :
    Keeps (.call (.close fd) next) world post := by
  refine ⟨permits_of_mem held rfl trivial nofun, fun answer after stepped => ?_⟩
  obtain ⟨sockets, lists, connected⟩ := stepped
  obtain rfl : after = ⟨world.sockets \ {fd}, world.connected \ {fd}, world.lists⟩ :=
    Holdings.ext sockets connected lists
  exact rest answer

private theorem givenUp_keeps (lists : Set AddressList) (candidate : NativeSocket)
    (hasRemote : Bool) :
    Keeps (do
      closeNativeSocket candidate
      pure (none : Option NativeSocket)) ⟨{candidate}, ∅, lists⟩ fun after kept =>
        after = afterAttempt lists hasRemote kept ∧ kept ≠ some kInvalidSocket := by
  rw [closeNativeSocket_bind]
  refine close_keeps rfl fun _ => ⟨?_, nofun⟩
  simp [afterAttempt]

private theorem connect_keeps {lists : Set AddressList} (address : AddrInfo)
    (candidate : NativeSocket) (listed : ∃ list ∈ lists, address ∈ list.entries)
    (kept : some candidate ≠ some kInvalidSocket) :
    Keeps (do
      let answer ← os (.connect candidate address.addr)
      let connected := answer.isOk
      if connected = false then do
        closeNativeSocket candidate
        pure none
      else
        pure (some candidate)) ⟨{candidate}, ∅, lists⟩ fun after kept =>
          after = afterAttempt lists true kept ∧ kept ≠ some kInvalidSocket := by
  obtain ⟨list, live, entry⟩ := listed
  rw [Program.ask_bind]
  refine ⟨permits_of_mem rfl rfl ⟨list, live, address, entry, rfl⟩ nofun, ?_⟩
  intro answer after stepped
  obtain ⟨sockets, same, connected⟩ := stepped
  cases answer with
  | error error =>
      obtain rfl : after = ⟨{candidate}, ∅, lists⟩ := Holdings.ext sockets connected same
      exact givenUp_keeps lists candidate true
  | ok =>
      have single : insert candidate ∅ = ({candidate} : Set Int) := by simp
      exact ⟨Holdings.ext sockets (connected.trans single) same, kept⟩

theorem attempt_keeps (options : UdpTransportOptions) (hasRemote : Bool) {lists : Set AddressList}
    {address : AddrInfo} (listed : ∃ list ∈ lists, address ∈ list.entries) :
    Keeps (UdpTransport.attempt options hasRemote address) ⟨∅, ∅, lists⟩ fun after kept =>
      after = afterAttempt lists hasRemote kept ∧ kept ≠ some kInvalidSocket := by
  obtain ⟨list, live, entry⟩ := listed
  rw [UdpTransport.attempt, Program.ask_bind]
  refine ⟨permits_of_none rfl (Custody.usesLive_of_none rfl) ⟨list, live, address, entry, rfl⟩, ?_⟩
  intro answer after stepped
  obtain ⟨sockets, same, connected⟩ := stepped
  cases answer with
  | none =>
      exact ⟨Holdings.ext sockets connected same, by simp⟩
  | some fd =>
      obtain ⟨_, inserted⟩ := (Custody.ledger_step_obtain rfl).mp sockets
      have single : insert (fd : Int) ∅ = ({nativeSocket (some fd)} : Set Int) := by
        simp [nativeSocket]
      obtain rfl : after = ⟨{nativeSocket (some fd)}, ∅, lists⟩ :=
        Holdings.ext (inserted.trans single) connected same
      have valid := nativeSocket_some_ne fd
      dsimp only
      generalize nativeSocket (some fd) = candidate at valid
      rw [if_neg valid]
      refine Program.meets_bind_iff.mpr ((setNonBlocking_keeps rfl).mono ?_)
      intro after nonBlocking same
      subst same
      split
      · exact givenUp_keeps lists candidate hasRemote
      · refine Program.meets_bind_iff.mpr ((bindLocal_keeps rfl options address.family).mono ?_)
        intro after bound same
        subst same
        split
        · exact givenUp_keeps lists candidate hasRemote
        · have kept : some candidate ≠ some kInvalidSocket := fun same =>
            valid (Option.some.inj same)
          cases hasRemote with
          | false => exact ⟨rfl, kept⟩
          | true => exact connect_keeps address candidate ⟨list, live, entry⟩ kept

end Holdings

namespace UdpTransport

open Holdings

/-- A closed transport holds nothing. An open one holds its socket, connected if
there is a remote endpoint, and no list. -/
inductive Owns : Holdings → UdpTransport → Prop where
  | closed {options} : Owns ⟨∅, ∅, ∅⟩ (.new options)
  | opened {self} : self.open_ = true → self.socket_ ≠ kInvalidSocket →
      Owns ⟨{self.socket_}, if self.remoteConfigured_ then {self.socket_} else ∅, ∅⟩ self

variable {self : UdpTransport} {world : Holdings}

theorem Owns.open_iff (owns : Owns world self) :
    self.open_ = true ↔ self.socket_ ∈ world.sockets := by
  cases owns with
  | closed => simp [new]
  | opened opened => simp [opened]

theorem Owns.sole (owns : Owns world self) : world.sockets ⊆ {self.socket_} ∧ world.lists = ∅ := by
  cases owns with
  | closed => simp
  | opened => simp

theorem Owns.remote (owns : Owns world self) (remote : self.remoteConfigured_ = true) :
    self.open_ = true ∧ self.socket_ ∈ world.connected := by
  cases owns with
  | closed => cases remote
  | opened opened => simp [opened, remote]

theorem Owns.empty (owns : Owns world self) (closed : self.open_ = false) :
    world = ⟨∅, ∅, ∅⟩ ∧ self = .new self.options := by
  cases owns with
  | closed => exact ⟨rfl, rfl⟩
  | opened opened => simp [closed] at opened

theorem close_owns (owns : Owns world self) :
    Keeps self.close world fun after outcome => after = ⟨∅, ∅, ∅⟩ ∧ Owns after outcome.2 := by
  unfold UdpTransport.close
  cases owns with
  | closed => exact ⟨rfl, .closed⟩
  | opened opened valid =>
      rw [if_pos valid, closeNativeSocket_bind]
      apply close_keeps rfl
      intro _
      have emptied : (⟨{self.socket_} \ {self.socket_},
          (if self.remoteConfigured_ then {self.socket_} else ∅) \ {self.socket_}, ∅⟩ : Holdings) =
          ⟨∅, ∅, ∅⟩ := by
        cases self.remoteConfigured_ <;> simp
      exact ⟨emptied, emptied ▸ .closed⟩

/-- The walk over a list ends with the list freed and at most the kept socket live. -/
private theorem walk_owns {addresses : AddressList} (owned : addresses.owned = some addresses)
    (same : self = .new self.options) :
    Keeps (self.tryAddresses (hasRemote self.options) addresses.entries) ⟨∅, ∅, {addresses}⟩
      fun after outcome => Keeps (do
        os (.freeaddrinfo addresses)
        pure outcome) after fun final outcome => Owns final outcome.2 := by
  have freeing (sockets connected : Set Int) (outcome : TransportStatus × UdpTransport)
      (owns : Owns ⟨sockets, connected, ∅⟩ outcome.2) :
      Keeps (do
        os (.freeaddrinfo addresses)
        pure outcome) ⟨sockets, connected, {addresses}⟩ fun final outcome =>
          Owns final outcome.2 := by
    rw [Program.ask_bind]
    refine freeaddrinfo_keeps owned rfl fun _ => ?_
    simpa using owns
  refine meets_tryAddresses (fun world => world = ⟨∅, ∅, {addresses}⟩) ?_ ?_ rfl
  · intro address entry world searching
    subst searching
    have listed : ∃ list ∈ ({addresses} : Set AddressList), address ∈ list.entries :=
      ⟨addresses, rfl, entry⟩
    apply (attempt_keeps self.options _ listed).mono
    intro after kept held
    obtain ⟨rfl, valid⟩ := held
    cases kept with
    | none => rfl
    | some candidate =>
        have real : (self.keep (hasRemote self.options) candidate).socket_ ≠ kInvalidSocket :=
          fun invalid => valid (congrArg some invalid)
        exact freeing _ _ _ (.opened rfl real)
  · intro world searching
    subst searching
    apply freeing ∅ ∅ _
    dsimp only
    rw [same]
    exact .closed

theorem open_owns (owns : Owns world self) :
    Keeps self.open world fun after outcome => Owns after outcome.2 := by
  have form := self.open_form
  generalize self.open = program at form
  cases form with
  | alreadyOpen => exact owns
  | invalid => exact owns
  | walking closed =>
      obtain ⟨rfl, same⟩ := owns.empty closed
      have resolving : Keeps (resolveWalked self.options) ⟨∅, ∅, ∅⟩ fun after walked =>
          walked.elim (after = ⟨∅, ∅, ∅⟩) fun addresses =>
            addresses.owned = some addresses ∧ after = ⟨∅, ∅, {addresses}⟩ := by
        unfold resolveWalked
        split
        all_goals
          apply (resolveUdpAddress_keeps _ _ _ _).mono
          intro after walked resolved
          cases walked with
          | none => exact resolved
          | some addresses =>
              obtain ⟨owned, _, rfl⟩ := resolved
              exact ⟨owned, by simp⟩
      refine Program.meets_bind_iff.mpr (resolving.mono fun after walked resolved => ?_)
      cases walked with
      | none =>
          obtain rfl := resolved
          exact owns
      | some addresses =>
          obtain ⟨owned, rfl⟩ := resolved
          exact Program.meets_bind_iff.mpr (walk_owns owned same)

private theorem errno_keeps {α : Type} (conclude : Errno → α) (errno : Option Errno) :
    Keeps (do
      let error ← lastError errno
      pure (conclude error)) world fun after _ => after = world := by
  cases errno with
  | some error => rfl
  | none =>
      exact keeps_plain trivial
        (permits_of_none rfl (Custody.usesLive_of_none rfl) trivial) fun _ => rfl

private theorem concludeReceive_keeps (received : Received) :
    Keeps (concludeReceive received) world fun after _ => after = world := by
  unfold concludeReceive
  split
  · rfl
  · exact errno_keeps _ _

private theorem concludeSend_keeps (inputSize : Nat) (sent : Transferred) :
    Keeps (concludeSend inputSize sent) world fun after _ => after = world := by
  unfold concludeSend
  split
  · exact errno_keeps _ _
  · split <;> rfl

theorem receive_keeps (owns : Owns world self) (output : OutputBuffer) :
    Keeps (self.receive output) world fun after _ => after = world := by
  have form := self.receive_form output
  generalize self.receive output = program at form
  cases form with
  | closed => rfl
  | invalid => rfl
  | waiting opened =>
      have held := owns.open_iff.mp opened
      refine keeps_plain trivial (permits_of_mem held rfl trivial nofun) fun (result : Int) => ?_
      split
      · refine keeps_plain trivial (permits_of_mem held rfl trivial nofun) fun answer => ?_
        cases pendingSize answer with
        | none => rfl
        | some pending =>
            unfold receivePending
            dsimp only
            split
            · rfl
            · rw [receiveInt_bind]
              refine keeps_plain trivial (permits_of_mem held rfl trivial nofun) fun received => ?_
              exact concludeReceive_keeps _
      · rfl

/-- A send reaches the OS on a connected socket. -/
theorem send_keeps (owns : Owns world self) (input : InputBuffer) :
    Keeps (self.send input) world fun after _ => after = world := by
  have form := self.send_form input
  generalize self.send input = program at form
  cases form with
  | closed => rfl
  | unconfigured => rfl
  | invalid => rfl
  | waiting opened remote =>
      have held := owns.open_iff.mp opened
      refine keeps_plain trivial (permits_of_mem held rfl trivial nofun) fun (result : Int) => ?_
      split
      · refine keeps_plain trivial (permits_of_mem held rfl trivial ?_) fun answer => ?_
        · intro fd slice length same
          obtain ⟨rfl, _⟩ := OsCall.send.inj same
          exact (owns.remote remote).2
        · exact concludeSend_keeps _ _
      · rfl

theorem localPort_keeps (owns : Owns world self) :
    Keeps self.localPort world fun after _ => after = world := by
  unfold localPort
  split
  · rfl
  · next opened =>
    have held := owns.open_iff.mp (by simpa using opened)
    unfold boundLocalPort
    rw [bind_assoc, Program.ask_bind]
    refine keeps_plain trivial (permits_of_mem held rfl trivial nofun) fun answer => ?_
    split <;> rfl

theorem operate_owns (owns : Owns world self) (method : UdpMethod) :
    Keeps (self.operate method) world fun after outcome => Owns after outcome.2 := by
  have staying {α β : Type} {program : OsProgram α} {f : α → β}
      (keeps : Keeps program world fun after _ => after = world) :
      Keeps ((fun result => (f result, self)) <$> program) world fun after outcome =>
        Owns after outcome.2 :=
    Program.meets_map_iff.mpr (keeps.mono fun after _ same => same ▸ owns)
  cases method with
  | localPort => exact staying (localPort_keeps owns)
  | datagram method =>
      apply Program.meets_map_iff.mpr
      cases method with
      | «open» => exact Program.meets_map_iff.mpr (open_owns owns)
      | close =>
          refine Program.meets_map_iff.mpr ((close_owns owns).mono fun after outcome closed => ?_)
          exact closed.2
      | isOpen => exact owns
      | send input => exact staying (send_keeps owns input)
      | receive output => exact staying (receive_keeps owns output)

theorem destroy_owns (owns : Owns world self) :
    Keeps self.destroy world fun after _ => after = ⟨∅, ∅, ∅⟩ := by
  refine Program.meets_bind_iff.mpr ((close_owns owns).mono fun after outcome closed => ?_)
  exact closed.1

/-- The resolver call of `resolveUdpAddress`. -/
abbrev udpQuery (host : String) (port : UInt16) (family : Family) (passive : Bool) : OsCall :=
  .getaddrinfo (if host.isEmpty then none else some host) (toString port.toNat)
    ⟨family, .dgram, .udp, passive⟩

/-- The calls that prepare one socket, apart from the call that hands it out. -/
def OnSocket (socket : NativeSocket) : OsCall → Prop
  | .getaddrinfo _ _ _ | .freeaddrinfo _ => True
  | .fcntlGetFlags fd | .fcntlSetNonBlock fd _ | .bind fd _ | .connect fd _ => fd = socket
  | _ => False

/-- A local address was resolved for the family, and the socket was bound to it. -/
def BindsLocal (options : UdpTransportOptions) (socket : NativeSocket) (family : Family)
    (trace : OsTrace) : Prop :=
  ∃ addresses : AddressList, ∃ chosen ∈ addresses.entries,
    ⟨udpQuery options.localHost options.localPort family true, some addresses⟩ ∈ trace ∧
      ⟨.bind socket chosen.addr, (0 : Int)⟩ ∈ trace

/-- The calls of the attempt whose socket is kept: they hand the socket out, bind it
to a local address of the candidate's family, and connect it to the candidate if
and only if there is a remote endpoint. -/
structure Establishes (options : UdpTransportOptions) (address : AddrInfo) (kept : NativeSocket)
    (trace : OsTrace) : Prop where
  handedOut : ∃ fd rest, kept = nativeSocket (some fd) ∧
    trace = ⟨.socket address.family .dgram .udp, some fd⟩ :: rest ∧
    ∀ event ∈ rest, OnSocket kept event.request
  bound : BindsLocal options kept address.family trace
  connected : hasRemote options = true → ⟨.connect kept address.addr, .ok ()⟩ ∈ trace
  unconnected : hasRemote options = false →
    ∀ event ∈ trace, ∀ fd addr, event.request ≠ .connect fd addr

private theorem bindFirst_ensures (candidate : NativeSocket) (addresses : List AddrInfo) :
    (bindFirst candidate addresses).Ensures fun trace bound =>
      (∀ event ∈ trace, ∃ addr, event.request = .bind candidate addr) ∧
        (bound = true →
          ∃ chosen ∈ addresses, ⟨.bind candidate chosen.addr, (0 : Int)⟩ ∈ trace) := by
  induction addresses with
  | nil => exact Program.ensures_done_iff.mpr ⟨by simp, nofun⟩
  | cons address rest ih =>
      rw [bindFirst, Program.ask_bind, Program.ensures_call_iff]
      intro (result : Int)
      split
      · next accepted =>
        subst accepted
        exact Program.ensures_done_iff.mpr ⟨by simp, fun _ => ⟨address, by simp, by simp⟩⟩
      · refine ih.mono fun trace bound walked => ?_
        obtain ⟨binds, found⟩ := walked
        refine ⟨List.forall_mem_cons.mpr ⟨⟨_, rfl⟩, binds⟩, fun succeeded => ?_⟩
        obtain ⟨chosen, entry, bound⟩ := found succeeded
        exact ⟨chosen, .tail _ entry, .tail _ bound⟩

private theorem resolveUdpAddress_ensures (host : String) (port : UInt16) (family : Family)
    (passive : Bool) :
    (resolveUdpAddress host port family passive).Ensures fun trace answer =>
      (∃ reply, trace = [⟨udpQuery host port family passive, reply⟩]) ∧
        ∀ addresses, answer = some addresses →
          trace = [⟨udpQuery host port family passive, some addresses⟩] := by
  unfold resolveUdpAddress
  rw [Program.ask_bind, Program.ensures_call_iff]
  intro answer
  cases answer with
  | none => exact Program.ensures_done_iff.mpr ⟨⟨_, rfl⟩, nofun⟩
  | some found =>
      refine Program.ensures_done_iff.mpr ⟨⟨_, rfl⟩, fun addresses same => ?_⟩
      split at same
      · cases same
      · cases same
        rfl

private theorem bindLocal_ensures (options : UdpTransportOptions) (candidate : NativeSocket)
    (family : Family) :
    (bindLocal options candidate family).Ensures fun trace bound =>
      (∀ event ∈ trace, OnSocket candidate event.request ∧
        ∀ fd addr, event.request ≠ .connect fd addr) ∧
      (bound = true → BindsLocal options candidate family trace) := by
  unfold bindLocal
  rw [Program.ensures_bind_iff]
  refine (resolveUdpAddress_ensures _ _ _ _).mono fun front localAddresses resolved => ?_
  obtain ⟨⟨reply, rfl⟩, found⟩ := resolved
  cases localAddresses with
  | none =>
      refine Program.ensures_done_iff.mpr ⟨?_, nofun⟩
      simp [OnSocket]
  | some addresses =>
      dsimp only
      rw [Program.ensures_bind_iff]
      refine (bindFirst_ensures candidate addresses.entries).mono fun walk bound walked => ?_
      obtain ⟨binds, chosen⟩ := walked
      rw [Program.ask_bind, Program.ensures_call_iff]
      intro freed
      refine Program.ensures_done_iff.mpr ⟨?_, fun succeeded => ?_⟩
      · intro event member
        rcases List.mem_append.mp member with asking | later
        · obtain rfl := List.mem_singleton.mp asking
          exact ⟨trivial, nofun⟩
        · rcases List.mem_append.mp later with binding | freeing
          · obtain ⟨addr, same⟩ := binds event binding
            rw [same]
            exact ⟨rfl, nofun⟩
          · obtain rfl := List.mem_singleton.mp freeing
            exact ⟨trivial, nofun⟩
      · obtain ⟨chosen, entry, bound⟩ := chosen succeeded
        refine ⟨addresses, chosen, entry, ?_, ?_⟩
        · rw [found addresses rfl]
          simp
        · simp [bound]

private theorem setNonBlocking_ensures (candidate : NativeSocket) :
    (setNonBlocking candidate).Ensures fun trace _ =>
      ∀ event ∈ trace, OnSocket candidate event.request ∧
        ∀ fd addr, event.request ≠ .connect fd addr := by
  unfold setNonBlocking
  rw [Program.ask_bind, Program.ensures_call_iff]
  intro (flags : Int)
  split
  · rw [Program.ask_bind, Program.ensures_call_iff]
    intro result
    refine Program.ensures_done_iff.mpr ?_
    simp [OnSocket]
  · refine Program.ensures_done_iff.mpr ?_
    simp [OnSocket]

/-- An attempt that gives its socket up has nothing to show. -/
private theorem givenUp_ensures (candidate : NativeSocket)
    {post : OsTrace → Option NativeSocket → Prop} (nothing : ∀ trace, post trace none) :
    (do
      closeNativeSocket candidate
      pure none).Ensures post := by
  rw [closeNativeSocket_bind, Program.ensures_call_iff]
  exact fun _ => Program.ensures_done_iff.mpr (nothing _)

/-- The calls between the socket call and the result of a kept attempt. -/
private theorem establishes_of_parts {options : UdpTransportOptions} {address : AddrInfo}
    {fd : Nat} {front connects : OsTrace}
    (prepares : ∀ event ∈ front, OnSocket (nativeSocket (some fd)) event.request ∧
      ∀ fd addr, event.request ≠ .connect fd addr)
    (bound : BindsLocal options (nativeSocket (some fd)) address.family front)
    (connected : connects = if hasRemote options then
      [⟨.connect (nativeSocket (some fd)) address.addr, .ok ()⟩] else []) :
    Establishes options address (nativeSocket (some fd))
      (⟨.socket address.family .dgram .udp, some fd⟩ :: (front ++ connects)) := by
  constructor
  · refine ⟨fd, front ++ connects, rfl, rfl, ?_⟩
    intro event member
    rcases List.mem_append.mp member with earlier | last
    · exact (prepares event earlier).1
    · rw [connected] at last
      split at last
      · obtain rfl := List.mem_singleton.mp last
        rfl
      · cases last
  · obtain ⟨addresses, chosen, entry, resolved, accepted⟩ := bound
    exact ⟨addresses, chosen, entry, .tail _ (List.mem_append_left _ resolved),
      .tail _ (List.mem_append_left _ accepted)⟩
  · intro remote
    rw [connected, if_pos remote]
    simp
  · intro unconfigured
    rw [connected, if_neg (by simp [unconfigured]), List.append_nil]
    exact List.forall_mem_cons.mpr ⟨nofun, fun event member => (prepares event member).2⟩

theorem attempt_ensures (options : UdpTransportOptions) (address : AddrInfo) :
    (attempt options (hasRemote options) address).Ensures fun trace kept =>
      ∀ candidate, kept = some candidate → Establishes options address candidate trace := by
  have nothing (trace : OsTrace) : ∀ candidate, none = some candidate →
      Establishes options address candidate trace := by
    simp
  rw [attempt, Program.ask_bind, Program.ensures_call_iff]
  intro answer
  dsimp only
  cases answer with
  | none => exact Program.ensures_done_iff.mpr (nothing _)
  | some fd =>
      rw [if_neg (nativeSocket_some_ne fd), Program.ensures_bind_iff]
      refine (setNonBlocking_ensures _).mono fun first nonBlocking prepares => ?_
      split
      · exact givenUp_ensures _ fun _ => nothing _
      · rw [Program.ensures_bind_iff]
        refine (bindLocal_ensures options _ address.family).mono fun second bound binding => ?_
        obtain ⟨binds, succeeded⟩ := binding
        split
        · exact givenUp_ensures _ fun _ => nothing _
        · next accepted =>
          have whole : ∀ event ∈ first ++ second,
              OnSocket (nativeSocket (some fd)) event.request ∧
                ∀ fd addr, event.request ≠ .connect fd addr :=
            List.forall_mem_append.mpr ⟨prepares, binds⟩
          have localBound : BindsLocal options (nativeSocket (some fd)) address.family
              (first ++ second) := by
            obtain ⟨addresses, chosen, entry, resolved, taken⟩ :=
              succeeded (by simpa using accepted)
            exact ⟨addresses, chosen, entry, List.mem_append_right _ resolved,
              List.mem_append_right _ taken⟩
          cases remote : hasRemote options with
          | false =>
              refine Program.ensures_done_iff.mpr fun candidate same => ?_
              cases same
              have none : ([] : OsTrace) = if hasRemote options then
                  [⟨.connect (nativeSocket (some fd)) address.addr, .ok ()⟩] else [] := by
                simp [remote]
              simpa using establishes_of_parts whole localBound none
          | true =>
              rw [if_pos rfl, Program.ask_bind, Program.ensures_call_iff]
              intro connectResult
              cases connectResult with
              | error error => exact givenUp_ensures _ fun _ => nothing _
              | ok =>
                  refine Program.ensures_done_iff.mpr fun candidate same => ?_
                  cases same
                  have one : ([⟨.connect (nativeSocket (some fd)) address.addr, .ok ()⟩] :
                      OsTrace) = if hasRemote options then
                        [⟨.connect (nativeSocket (some fd)) address.addr, .ok ()⟩] else [] := by
                    simp [remote]
                  simpa using establishes_of_parts whole localBound one

theorem tryAddresses_ensures (self : UdpTransport) (addresses : List AddrInfo) :
    (self.tryAddresses (hasRemote self.options) addresses).Ensures fun trace outcome =>
      outcome.1 = .ok → ∃ address ∈ addresses, ∃ front attempt, trace = front ++ attempt ∧
        Establishes self.options address outcome.2.socket_ attempt := by
  induction addresses with
  | nil => exact Program.ensures_done_iff.mpr nofun
  | cons address rest ih =>
      rw [tryAddresses_cons, Program.ensures_bind_iff]
      refine (attempt_ensures self.options address).mono fun attempt kept established => ?_
      cases kept with
      | none =>
          refine ih.mono fun trace outcome walked => ?_
          intro succeeded
          obtain ⟨chosen, entry, front, last, rfl, established⟩ := walked succeeded
          exact ⟨chosen, .tail _ entry, attempt ++ front, last, by simp, established⟩
      | some candidate =>
          refine Program.ensures_done_iff.mpr fun _ => ?_
          exact ⟨address, .head _, [], attempt, by simp, established candidate rfl⟩

def walkedHost (options : UdpTransportOptions) : String :=
  if hasRemote options then options.remoteHost else options.localHost

def walkedPort (options : UdpTransportOptions) : UInt16 :=
  if hasRemote options then options.remotePort else options.localPort

/-- The trace of an `Open` that succeeds: the list of the remote endpoint, or without
one of the local endpoint, is walked up to an attempt that is kept, and then freed. -/
def EstablishesFrom (options : UdpTransportOptions) (kept : NativeSocket) (trace : OsTrace) :
    Prop :=
  ∃ walked : AddressList, ∃ address ∈ walked.entries, ∃ front attempt,
    trace = ⟨udpQuery (walkedHost options) (walkedPort options) .unspec (!hasRemote options),
        some walked⟩ :: (front ++ attempt ++ [⟨.freeaddrinfo walked, ()⟩]) ∧
      Establishes options address kept attempt

private theorem resolveWalked_eq (options : UdpTransportOptions) :
    resolveWalked options =
      resolveUdpAddress (walkedHost options) (walkedPort options) .unspec (!hasRemote options) := by
  unfold resolveWalked walkedHost walkedPort hasRemote
  cases options.remoteHost.isEmpty with
  | true => rfl
  | false => rfl

theorem open_ensures (self : UdpTransport) :
    self.open.Ensures fun trace outcome =>
      outcome.1 = .ok → EstablishesFrom self.options outcome.2.socket_ trace := by
  have form := self.open_form
  generalize self.open = program at form
  cases form with
  | alreadyOpen => exact Program.ensures_done_iff.mpr nofun
  | invalid => exact Program.ensures_done_iff.mpr nofun
  | walking =>
      rw [Program.ensures_bind_iff, resolveWalked_eq]
      refine (resolveUdpAddress_ensures _ _ _ _).mono fun query walked resolved => ?_
      cases walked with
      | none => exact Program.ensures_done_iff.mpr (by simp)
      | some addresses =>
          rw [walk, Program.ensures_bind_iff]
          refine (self.tryAddresses_ensures addresses.entries).mono fun tries outcome tried => ?_
          rw [Program.ask_bind, Program.ensures_call_iff]
          refine fun freed => Program.ensures_done_iff.mpr fun succeeded => ?_
          obtain ⟨address, entry, front, attempt, rfl, established⟩ := tried succeeded
          obtain rfl := resolved.2 addresses rfl
          exact ⟨addresses, address, entry, front, attempt, rfl, established⟩

theorem operate_options (self : UdpTransport) (method : UdpMethod) :
    (self.operate method).Ensures fun _ outcome => outcome.2.options = self.options := by
  have staying {α β : Type} (program : OsProgram α) (f : α → β) :
      ((fun result => (f result, self)) <$> program).Ensures fun _ outcome =>
        outcome.2.options = self.options := by
    rw [Program.ensures_map_iff]
    exact fun _ _ _ => rfl
  cases method with
  | localPort => exact staying self.localPort UdpReply.port
  | datagram method =>
      rw [operate, Program.ensures_map_iff]
      cases method with
      | «open» =>
          rw [invoke, Program.ensures_map_iff]
          refine self.open_opened.mono fun _ outcome opened => ?_
          cases opened with
          | alreadyOpen | refused | kept => rfl
      | close =>
          rw [invoke, Program.ensures_map_iff]
          unfold UdpTransport.close
          dsimp only
          split
          · rw [closeNativeSocket_bind, Program.ensures_call_iff]
            exact fun _ => Program.ensures_done_iff.mpr rfl
          · exact Program.ensures_done_iff.mpr rfl
      | isOpen => exact Program.ensures_done_iff.mpr rfl
      | send input => exact staying (self.send input) StreamReply.status
      | receive output => exact staying (self.receive output) StreamReply.read

/-- The program behind an operation that was `Open`. -/
private theorem open_runs {method : UdpMethod} {trace : OsTrace} {status : TransportStatus}
    {reply : UdpReply} {after : UdpTransport}
    (run : (self.operate method).Runs trace (reply, after)) (opens : method = .datagram .open)
    (replied : reply = .datagram (.status status)) : self.open.Runs trace (status, after) := by
  subst opens
  subst replied
  obtain ⟨inner, invoked, same⟩ := Program.runs_map_iff.mp run
  obtain ⟨⟨opened, left⟩, ran, rfl⟩ := Program.runs_map_iff.mp invoked
  cases same
  exact ran

theorem Opened.failed {status : TransportStatus} {after : UdpTransport}
    (opened : self.Opened (status, after)) (failed : status ≠ .ok)
    (already : status ≠ .alreadyOpen) : self.open_ = false ∧ after = self := by
  cases opened with
  | alreadyOpen => exact absurd rfl already
  | kept => exact absurd rfl failed
  | refused closed => exact ⟨closed, rfl⟩

end UdpTransport

abbrev UdpInvocation := Invocation UdpTransport UdpMethod OsCall OsCall.Answer UdpReply

/-- What ownership means for a run of a datagram transport. -/
structure HoldingsOwned (options : UdpTransportOptions) (history : List UdpInvocation)
    (final : UdpTransport) : Prop where
  /-- After each operation the transport is open exactly when its socket is live, no
  other descriptor and no list is, and a configured remote endpoint is connected. -/
  owned : ∀ front invocation back world, history = front ++ invocation :: back →
    Holdings.system.Follows ⟨∅, ∅, ∅⟩ (sessionTrace (front ++ [invocation])) world →
    (invocation.after.open_ = true ↔ invocation.after.socket_ ∈ world.sockets) ∧
      (world.sockets ⊆ {invocation.after.socket_} ∧ world.lists = ∅) ∧
      (invocation.after.remoteConfigured_ = true →
        invocation.after.open_ = true ∧ invocation.after.socket_ ∈ world.connected)
  /-- No call uses a closed descriptor or a freed list, and none sends on a socket
  that is not connected, by a further operation that may be unfinished either. -/
  usesLive : ∀ method trace, (final.operate method).Emits trace →
    Holdings.system.Respects Holdings.Permits ⟨∅, ∅, ∅⟩ (sessionTrace history ++ trace)
  /-- When the destructor has run, every descriptor and every list was obtained and
  given back in turn, and none is left. -/
  releasedOnce : ∀ trace world, final.destroy.Runs trace () →
    Holdings.system.Follows ⟨∅, ∅, ∅⟩ (sessionTrace history ++ trace) world →
    world = ⟨∅, ∅, ∅⟩ ∧
      Holdings.system.Respects Holdings.Permits ⟨∅, ∅, ∅⟩ (sessionTrace history ++ trace) ∧
      (∀ fd, Alternates False (descriptors.lifecycle fd (sessionTrace history ++ trace)) False) ∧
      ∀ addresses,
        Alternates False (addressLists.lifecycle addresses (sessionTrace history ++ trace)) False
  established : ∀ opened ∈ history, opened.method = .datagram .open →
    opened.reply = .datagram (.status .ok) →
    UdpTransport.EstablishesFrom options opened.after.socket_ opened.trace
  /-- A failed `Open` leaves the transport closed, and nothing live. -/
  refused : ∀ front opened back world status, history = front ++ opened :: back →
    opened.method = .datagram .open → opened.reply = .datagram (.status status) →
    status ≠ .ok → status ≠ .alreadyOpen →
    Holdings.system.Follows ⟨∅, ∅, ∅⟩ (sessionTrace (front ++ [opened])) world →
    opened.after.open_ = false ∧ world = ⟨∅, ∅, ∅⟩

section Runs

variable {options : UdpTransportOptions} {history : List UdpInvocation} {final : UdpTransport}
variable (session : Session UdpTransport.operate (.new options) history final)

include session

private theorem session_holdings :
    Holdings.system.Respects Holdings.Permits ⟨∅, ∅, ∅⟩ (sessionTrace history) ∧
      ∀ world, Holdings.system.Follows ⟨∅, ∅, ∅⟩ (sessionTrace history) world →
        UdpTransport.Owns world final := by
  have initial : UdpTransport.Owns ⟨∅, ∅, ∅⟩ (.new options) := .closed
  have preserved (world : Holdings) (before : UdpTransport) (method : UdpMethod)
      (owns : UdpTransport.Owns world before) :
      Holdings.Keeps (before.operate method) world fun after outcome =>
        UdpTransport.Owns after outcome.2 :=
    UdpTransport.operate_owns owns method
  exact session.meets preserved initial

private theorem session_options :
    ∀ invocation ∈ history, invocation.before.options = options := by
  have preserved (before : UdpTransport) (method : UdpMethod) (trace : OsTrace) (reply : UdpReply)
      (after : UdpTransport) (same : before.options = options)
      (run : (before.operate method).Runs trace (reply, after)) : after.options = options :=
    (before.operate_options method _ _ run).trans same
  exact fun invocation member => ((session.invariant preserved rfl).2 invocation member).1

/-- Over whole runs, for every resolver result and all answers of the OS, a datagram
transport owns exactly the socket it holds open and no address list. -/
theorem holdings_owned : HoldingsOwned options history final := by
  obtain ⟨respected, owning⟩ := session_holdings session
  constructor
  · intro front invocation back world split followed
    subst split
    have owns := (session_holdings session.through.2.1).2 world followed
    exact ⟨owns.open_iff, owns.sole, owns.remote⟩
  · intro method trace emitted
    apply Environment.respects_append respected
    intro world followed
    exact (UdpTransport.operate_owns (owning world followed) method).respects emitted
  · intro trace world run followed
    have whole : Holdings.system.Respects Holdings.Permits ⟨∅, ∅, ∅⟩
        (sessionTrace history ++ trace) := by
      apply Environment.respects_append respected
      intro middle head
      exact (UdpTransport.destroy_owns (owning middle head)).respects run.emits
    obtain ⟨middle, head, tail⟩ := Environment.follows_append_iff.mp followed
    obtain rfl := (UdpTransport.destroy_owns (owning middle head)).runs run tail
    refine ⟨rfl, whole, fun fd => ?_, fun addresses => ?_⟩
    · obtain ⟨respects, follows⟩ := Holdings.sockets_ledger whole followed
      simpa using Custody.lifecycle_alternates respects follows fd
    · obtain ⟨respects, follows⟩ := Holdings.lists_ledger whole followed
      simpa using Custody.lifecycle_alternates respects follows addresses
  · intro opened member method reply
    have run := UdpTransport.open_runs (session.runs_of_mem member) method reply
    have established := opened.before.open_ensures _ _ run rfl
    rwa [session_options session opened member] at established
  · intro front opened back world status split method reply failed already followed
    subst split
    have run := UdpTransport.open_runs
      (session.runs_of_mem (List.mem_append_right front List.mem_cons_self)) method reply
    have owns := (session_holdings session.through.2.1).2 world followed
    obtain ⟨closed, same⟩ := (opened.before.open_opened _ _ run).failed failed already
    rw [← same] at closed
    exact ⟨closed, (owns.empty closed).1⟩

end Runs

theorem holdings_owned_meter :
    HoldingsOwned meterUdpOptions
      [⟨.new meterUdpOptions, .datagram .open, meterUdpOpenTrace, .datagram (.status .ok),
        meterUdp⟩] meterUdp :=
  holdings_owned (.cons (Program.runs_map_iff.mpr ⟨_, Program.runs_map_iff.mpr
    ⟨_, meterUdp_opens, rfl⟩, rfl⟩) .nil)

end DlmsTransport.Transport
