import DlmsTransport.Transport.CApiCalls
import DlmsTransport.Transport.HandleOwnership
import DlmsTransport.Transport.ServerOwnershipProperties
import DlmsTransport.Transport.TcpOwnershipProperties

/-! The descriptors of a C program: its handles divide them among themselves, through any
sequence of calls on any handles of the three families. -/

set_option autoImplicit false

namespace DlmsTransport.Transport

open Interaction Posix

/-- The program keeps what the object owns. -/
def Custodian {σ : Type} (Owns : Set Int → σ → Prop) : Work σ := fun object _ program left =>
  ∀ own, Owns own object → Custodial program own fun kept result => Holding Owns kept (left result)

theorem tcpClass_custodian :
    tcpClass.Every (TcpStreamTransport.members.Owns ∅)
      (Custodian TcpStreamTransport.members.Owns) where
  builds options construction built := by
    obtain ⟨host, _, rfl⟩ := Option.map_eq_some_iff.mp built
    exact .closed rfl rfl
  destroys object own owns := Program.meets_bind_iff.mpr
    ((StreamMembers.close_custodial owns).mono fun _ _ closed => closed.1)
  opens object own owns := Program.meets_map_iff.mpr (TcpStreamTransport.open_custodial owns)
  closes object own owns := Program.meets_map_iff.mpr (StreamMembers.close_owns owns)
  reads output object own owns :=
    Program.meets_map_iff.mpr (StreamMembers.readSome_custodial owns output)
  writes input budget object own owns := Program.meets_map_iff.mpr
    (StreamMembers.writeAll_custodial (fun _ => rfl) owns input budget)

theorem udpClass_custodian :
    udpClass.Every (UdpTransport.OwnsSocket ∅) (Custodian UdpTransport.OwnsSocket) where
  builds options construction built := by
    obtain rfl := Option.some.inj built
    exact .closed rfl rfl
  destroys object own owns := UdpTransport.destroy_custodial owns
  opens object own owns := Program.meets_map_iff.mpr (UdpTransport.open_custodial owns)
  closes object own owns :=
    Program.meets_map_iff.mpr ((UdpTransport.close_custodial owns).mono fun _ _ closed => closed.2)
  reads output object own owns :=
    Program.meets_map_iff.mpr (UdpTransport.receive_custodial owns output)
  writes input _ object own owns :=
    Program.meets_map_iff.mpr (UdpTransport.send_custodial owns input)

theorem localPort_custodian (object : UdpTransport) :
    Custodian UdpTransport.OwnsSocket object _ object.localPort fun _ => some object :=
  fun _ owns => UdpTransport.localPort_custodial owns

theorem serialClass_custodian :
    serialClass.Every (SerialTransport.members.Owns ∅)
      (Custodian SerialTransport.members.Owns) where
  builds options construction built := by
    obtain ⟨name, rfl⟩ := DlmsTransportSerialOptions.construction_eq built
    exact .closed rfl rfl
  destroys object own owns := SerialTransport.destroy_custodial owns
  opens object own owns := Program.meets_map_iff.mpr (SerialTransport.open_custodial owns)
  closes object own owns := Program.meets_map_iff.mpr (StreamMembers.close_owns owns)
  reads output object own owns :=
    Program.meets_map_iff.mpr (SerialTransport.readSome_custodial owns output)
  writes input budget object own owns :=
    Program.meets_map_iff.mpr (SerialTransport.writeAll_custodial owns input budget)

theorem UdpTransport.OwnsSocket.mem_iff {own : Set Int} {self : UdpTransport}
    (owns : OwnsSocket own self) (fd : Int) : fd ∈ own ↔ heldSocket self.socket_ = some fd := by
  cases owns with
  | closed _ invalid => simp [invalid]
  | opened _ valid => simp [heldSocket_of_ne valid, eq_comm]

section Pools

variable {σ : Type} {Owns : Set Int → σ → Prop} {pool : Pool σ}
  {share : CHandle → Set Int} {live own : Set Int}

/-- Each object of a pool owns the share of its handle. -/
def PoolHolds (Owns : Set Int → σ → Prop) (family : Handle → CHandle)
    (share : CHandle → Set Int) (pool : Pool σ) : Prop :=
  ∀ handle, Holding Owns (share (family handle)) (pool.object? handle)

theorem PoolHolds.owns {family : Handle → CHandle} (holds : PoolHolds Owns family share pool)
    {handle : Handle} {object : σ} (alive : pool.object? handle = some object) :
    Owns (share (family handle)) object := by
  simpa [alive, Holding] using holds handle

theorem PoolHolds.mem_iff {family : Handle → CHandle} (holds : PoolHolds Owns family share pool)
    {socket : σ → NativeSocket}
    (owned : ∀ own object, Owns own object → ∀ fd,
      fd ∈ own ↔ heldSocket (socket object) = some fd) (handle : Handle) (fd : Int) :
    fd ∈ share (family handle) ↔
      ((pool.object? handle).bind fun object => heldSocket (socket object)) = some fd := by
  cases alive : pool.object? handle with
  | none =>
      have nothing := holds handle
      rw [alive] at nothing
      simp [show share (family handle) = ∅ from nothing]
  | some object => exact owned _ object (holds.owns alive) fd

theorem PoolHolds.update {family : Handle → CHandle} (apart : Function.Injective family)
    (holds : PoolHolds Owns family share pool) {handle : Handle} {earlier : σ}
    (alive : pool.object? handle = some earlier) {object : Option σ}
    (holding : Holding Owns own object) :
    PoolHolds Owns family (Function.update share (family handle) own)
      (pool.update handle object) := by
  intro other
  by_cases same : other = handle
  · subst same
    rw [Function.update_self, pool.object?_update alive]
    exact holding
  · rw [Function.update_of_ne (apart.ne same), pool.update_sameExcept handle object other same]
    exact holds other

theorem PoolHolds.congr {family : Handle → CHandle} {shared : CHandle → Set Int}
    (holds : PoolHolds Owns family share pool)
    (same : ∀ handle, shared (family handle) = share (family handle)) :
    PoolHolds Owns family shared pool := by
  intro handle
  rw [same]
  exact holds handle

theorem PoolHolds.insert {family : Handle → CHandle} (holds : PoolHolds Owns family share pool)
    {object : σ} (owns : Owns ∅ object) : PoolHolds Owns family share (pool.insert object) := by
  intro other
  by_cases same : other = pool.fresh
  · subst same
    have nothing := holds pool.fresh
    rw [pool.object?_fresh] at nothing
    rw [pool.object?_insert_fresh, show share (family pool.fresh) = ∅ from nothing]
    exact owns
  · rw [pool.insert_sameExcept object other same]
    exact holds other

end Pools

section Forms

variable {σ : Type} {Owns : Set Int → σ → Prop} {pool : Pool σ}
variable {family : Handle → CHandle} {share : CHandle → Set Int} {live : Set Int}
  {transport : Option Handle} {program : OsProgram (CReply × Pool σ)}

/-- After a call on one pool the descriptors are divided anew, within its family. -/
def PoolKeeps (Owns : Set Int → σ → Prop) (family : Handle → CHandle)
    (share : CHandle → Set Int) (after : Set Int) (pool : Pool σ) : Prop :=
  ∃ shared, Custody.Divides shared after ∧ PoolHolds Owns family shared pool ∧
    ∀ owner, (∀ handle, family handle ≠ owner) → shared owner = share owner

theorem PoolCall.keeps (form : PoolCall (Owns ∅) (Custodian Owns) pool transport program)
    (apart : Function.Injective family) (divides : Custody.Divides share live)
    (holds : PoolHolds Owns family share pool) :
    Custodial program live fun after outcome => PoolKeeps Owns family share after outcome.2 := by
  cases form with
  | answered reply => exact ⟨share, divides, holds, fun _ _ => rfl⟩
  | @creating count object created failed owns =>
      have quiet : (allocateAll count).Only (descriptors.Quiet live) :=
        allocateAll_only (quiet_of_none rfl fun _ => rfl) count
      refine Program.meets_bind_iff.mpr ((Custody.meets_of_quiet quiet).mono ?_)
      rintro after allocated rfl
      cases allocated with
      | false => exact ⟨share, divides, holds, fun _ _ => rfl⟩
      | true => exact ⟨share, divides, holds.insert owns, fun _ _ => rfl⟩
  | @working handle object α program left tell alive works =>
      have operated := divides.operate (family handle) (works _ (holds.owns alive))
      refine Program.meets_bind_iff.mpr (operated.mono ?_)
      intro after result kept
      obtain ⟨kept, divides, holding⟩ := kept
      refine ⟨_, divides, holds.update apart alive holding, fun owner other => ?_⟩
      exact Function.update_of_ne (other handle).symm ..

/-- A call uses no descriptor that belongs to another handle than its own. -/
theorem PoolCall.avoids (form : PoolCall (Owns ∅) (Custodian Owns) pool transport program)
    (divides : Custody.Divides share live) (holds : PoolHolds Owns family share pool)
    {trace : OsTrace} (emitted : program.Emits trace) {after : Set Int}
    (followed : descriptors.ledger.Follows live trace after) {event : Event OsCall OsCall.Answer}
    (member : event ∈ trace) {other : CHandle} (different : transport.map family ≠ some other)
    {fd : Int} (held : fd ∈ share other) : event.request.descriptor? ≠ some fd := by
  cases form with
  | answered reply =>
      rw [Program.emits_done_iff.mp emitted] at member
      cases member
  | @creating count object created failed owns =>
      have only : Program.Only (fun request => request.descriptor? = none) (do
          let allocated ← allocateAll count
          if allocated then pure (created, pool.insert object) else pure (failed, pool)) := by
        refine Program.Only.bind (allocateAll_only (by rfl) count) fun allocated => ?_
        split <;> trivial
      obtain ⟨_, leading⟩ := emitted
      simp [only.mem leading event member]
  | @working handle object α program left tell alive works =>
      rw [← map_eq_pure_bind, Program.emits_map_iff] at emitted
      have respected := (works _ (holds.owns alive)).respects emitted
      exact divides.avoids (family handle) respected followed member
        (fun same => different (congrArg some same.symm)) held

end Forms

namespace CHandles

/-- The descriptor that the object behind a handle holds open. -/
def descriptor? (self : CHandles) : CHandle → Option NativeSocket
  | .tcp handle => (self.tcp.object? handle).bind fun object => heldSocket object.socket_
  | .udp handle => (self.udp.object? handle).bind fun object => heldSocket object.socket_
  | .serial handle => (self.serial.object? handle).bind fun object => heldSocket object.handle_

/-- Every object owns the share of its handle. -/
structure Holds (handles : CHandles) (share : CHandle → Set Int) : Prop where
  tcp : PoolHolds TcpStreamTransport.members.Owns .tcp share handles.tcp
  udp : PoolHolds UdpTransport.OwnsSocket .udp share handles.udp
  serial : PoolHolds SerialTransport.members.Owns .serial share handles.serial

def Owns (live : Set Int) (self : CHandles) : Prop :=
  ∃ share, Custody.Divides share live ∧ self.Holds share

variable {self : CHandles} {share : CHandle → Set Int} {live : Set Int}

theorem owns_none : CHandles.none.Owns ∅ := by
  refine ⟨fun _ => ∅, ⟨?_, ?_⟩, ⟨fun _ => ?_, fun _ => ?_, fun _ => ?_⟩⟩
  · simp
  · intro fd first second left
    exact left.elim
  all_goals simp [CHandles.none, Pool.empty, Pool.object?, Holding]

theorem Holds.mem_iff (holds : self.Holds share) (owner : CHandle) (fd : Int) :
    fd ∈ share owner ↔ self.descriptor? owner = some fd := by
  cases owner with
  | tcp handle => exact holds.tcp.mem_iff (fun _ _ owns => owns.mem_iff) handle fd
  | udp handle => exact holds.udp.mem_iff (fun _ _ owns => owns.mem_iff) handle fd
  | serial handle => exact holds.serial.mem_iff (fun _ _ owns => owns.mem_iff) handle fd

theorem Owns.unique (owns : self.Owns live) :
    (∀ fd ∈ live, ∃! owner, self.descriptor? owner = some fd) ∧
      ∀ owner fd, self.descriptor? owner = some fd → fd ∈ live := by
  obtain ⟨share, divides, holds⟩ := owns
  constructor
  · intro fd alive
    simpa only [holds.mem_iff] using divides.unique alive
  · intro owner fd held
    exact divides.mem_iff.mpr ⟨owner, (holds.mem_iff owner fd).mpr held⟩

private theorem onUdp_keeps (divides : Custody.Divides share live) (holds : self.Holds share)
    {transport : Option Handle} {program : OsProgram (CReply × Pool UdpTransport)}
    (form : PoolCall (UdpTransport.OwnsSocket ∅) (Custodian UdpTransport.OwnsSocket) self.udp
      transport program) :
    Custodial (Prod.map id (fun udp => { self with udp }) <$> program) live fun after outcome =>
      outcome.2.Owns after := by
  refine Program.meets_map_iff.mpr ((form.keeps CHandle.udp_injective divides holds.udp).mono ?_)
  intro after outcome kept
  obtain ⟨shared, divides, udp, elsewhere⟩ := kept
  exact ⟨shared, divides, holds.tcp.congr fun _ => elsewhere _ (by simp), udp,
    holds.serial.congr fun _ => elsewhere _ (by simp)⟩

theorem invoke_keeps (owns : self.Owns live) (method : CCall) :
    Custodial (self.invoke method) live fun after outcome => outcome.2.Owns after := by
  obtain ⟨share, divides, holds⟩ := owns
  cases method with
  | tcp call =>
      have form := tcpCall_poolCall tcpClass_custodian self.tcp call
      refine Program.meets_map_iff.mpr
        ((form.keeps CHandle.tcp_injective divides holds.tcp).mono ?_)
      intro after outcome kept
      obtain ⟨shared, divides, tcp, elsewhere⟩ := kept
      exact ⟨shared, divides, tcp, holds.udp.congr fun _ => elsewhere _ (by simp),
        holds.serial.congr fun _ => elsewhere _ (by simp)⟩
  | udp call => exact onUdp_keeps divides holds (udpCall_poolCall udpClass_custodian self.udp call)
  | udpLocalPort transport =>
      exact onUdp_keeps divides holds
        (udpLocalPort_poolCall localPort_custodian self.udp transport)
  | serial call =>
      have form := serialCall_poolCall serialClass_custodian self.serial call
      refine Program.meets_map_iff.mpr
        ((form.keeps CHandle.serial_injective divides holds.serial).mono ?_)
      intro after outcome kept
      obtain ⟨shared, divides, serial, elsewhere⟩ := kept
      exact ⟨shared, divides, holds.tcp.congr fun _ => elsewhere _ (by simp),
        holds.udp.congr fun _ => elsewhere _ (by simp), serial⟩

/-- No call, finished or not, uses a descriptor that another handle holds. -/
theorem invoke_avoids (owns : self.Owns live) {method : CCall} {trace : OsTrace}
    (emitted : (self.invoke method).Emits trace) {after : Set Int}
    (followed : descriptors.ledger.Follows live trace after) {owner : CHandle}
    (different : method.handle? ≠ some owner) {fd : Int} (held : self.descriptor? owner = some fd)
    {event : Event OsCall OsCall.Answer} (member : event ∈ trace) :
    event.request.descriptor? ≠ some fd := by
  obtain ⟨share, divides, holds⟩ := owns
  have held := (holds.mem_iff owner fd).mpr held
  cases method with
  | tcp call =>
      have form := tcpCall_poolCall tcpClass_custodian self.tcp call
      exact form.avoids divides holds.tcp (Program.emits_map_iff.mp emitted) followed member
        different held
  | udp call =>
      have form := udpCall_poolCall udpClass_custodian self.udp call
      exact form.avoids divides holds.udp (Program.emits_map_iff.mp emitted) followed member
        different held
  | udpLocalPort transport =>
      exact (udpLocalPort_poolCall localPort_custodian self.udp transport).avoids divides holds.udp
        (Program.emits_map_iff.mp emitted) followed member different held
  | serial call =>
      have form := serialCall_poolCall serialClass_custodian self.serial call
      exact form.avoids divides holds.serial (Program.emits_map_iff.mp emitted) followed member
        different held

end CHandles

/-- What ownership means for a C program and the handles it was given. -/
structure CDescriptorsOwned (history : List CInvocation) (final : CHandles) : Prop where
  /-- After each call every live descriptor is held behind exactly one handle, and what is
  held behind a handle is live. -/
  owned : ∀ front invocation back live, history = front ++ invocation :: back →
    descriptors.ledger.Follows ∅ (sessionTrace (front ++ [invocation])) live →
    (∀ fd ∈ live, ∃! owner, invocation.after.descriptor? owner = some fd) ∧
      ∀ owner fd, invocation.after.descriptor? owner = some fd → fd ∈ live
  /-- A further call, finished or not, is on live descriptors only. -/
  usesLive : ∀ method trace, (final.invoke method).Emits trace →
    descriptors.ledger.Respects descriptors.UsesLive ∅ (sessionTrace history ++ trace)
  /-- Nor does it touch what is held behind a handle it was not given. -/
  isolated : ∀ method trace live, (final.invoke method).Emits trace →
    descriptors.ledger.Follows ∅ (sessionTrace history ++ trace) live →
    ∀ owner fd, method.handle? ≠ some owner → final.descriptor? owner = some fd →
      ∀ event ∈ trace, event.request.descriptor? ≠ some fd
  /-- Every descriptor was obtained and closed in turn, and is open only if it is still
  held behind a handle. -/
  closedOnce : ∀ live fd, descriptors.ledger.Follows ∅ (sessionTrace history) live →
    Alternates False (descriptors.lifecycle fd (sessionTrace history))
      (∃ owner, final.descriptor? owner = some fd)

private theorem session_owns {history : List CInvocation} {final : CHandles}
    (session : Session CHandles.invoke .none history final) :
    descriptors.ledger.Respects descriptors.UsesLive ∅ (sessionTrace history) ∧
      ∀ live, descriptors.ledger.Follows ∅ (sessionTrace history) live → final.Owns live := by
  have preserved (live : Set Int) (before : CHandles) (method : CCall) (owns : before.Owns live) :
      Custodial (before.invoke method) live fun after outcome => outcome.2.Owns after :=
    CHandles.invoke_keeps owns method
  exact session.meets preserved CHandles.owns_none

/-- The handles of a C program divide the descriptors of the process among themselves, over
any sequence of calls on any of them. -/
theorem c_descriptors_owned {history : List CInvocation} {final : CHandles}
    (session : Session CHandles.invoke .none history final) : CDescriptorsOwned history final := by
  obtain ⟨respected, owning⟩ := session_owns session
  constructor
  · intro front invocation back live split followed
    subst split
    exact ((session_owns session.through.2.1).2 live followed).unique
  · intro method trace emitted
    apply Environment.respects_append respected
    intro live followed
    exact (CHandles.invoke_keeps (owning live followed) method).respects emitted
  · intro method trace live emitted followed owner fd different held event member
    obtain ⟨middle, head, tail⟩ := Environment.follows_append_iff.mp followed
    exact CHandles.invoke_avoids (owning middle head) emitted tail different held member
  · intro live fd followed
    have owned_iff : fd ∈ live ↔ ∃ owner, final.descriptor? owner = some fd := by
      obtain ⟨unique, held⟩ := (owning live followed).unique
      exact ⟨fun member => (unique fd member).exists, fun owned => held _ _ owned.choose_spec⟩
    have alternates := Custody.lifecycle_alternates respected followed fd
    rw [owned_iff] at alternates
    simpa using alternates

def meterDestroy : CInvocation where
  before := tcpHandle meterStream
  method := .tcp (.destroy (some 0))
  trace := [⟨.close 3, ()⟩]
  reply := .destroyed
  after := ⟨⟨[none]⟩, .empty, .empty⟩

theorem meterDestroy_session :
    Session CHandles.invoke .none
      [meterCreate, meterOpenCall, meterReadCall, nullReadCall, meterDestroy]
      meterDestroy.after := by
  have destroyed : Session CHandles.invoke (tcpHandle meterStream) [meterDestroy]
      meterDestroy.after :=
    .cons (.call .refl) .nil
  exact Session.append_iff.mpr ⟨_, meterCalls_session, destroyed⟩

theorem c_descriptors_owned_meter :
    CDescriptorsOwned [meterCreate, meterOpenCall, meterReadCall, nullReadCall, meterDestroy]
      meterDestroy.after :=
  c_descriptors_owned meterDestroy_session

end DlmsTransport.Transport
