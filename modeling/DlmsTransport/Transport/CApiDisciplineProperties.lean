import DlmsTransport.Transport.CApiOwnershipProperties
import DlmsTransport.Transport.TransportDiscipline

/-! A C program uses every descriptor of its process as the state of the descriptor allows. -/

set_option autoImplicit false

namespace DlmsTransport.Transport

open Interaction Posix

namespace Expectation

variable {σ α : Type} {expects : Expectation σ} {object : σ}

/-- A new object holds no descriptor. -/
def Vacant (expects : Expectation σ) (object : σ) : Prop :=
  expects.isOpen object = false ∧ expects.socket object = kInvalidSocket

theorem Conforms.returning (operation : σ → OsProgram (α × σ))
    (conforms : expects.Conforms object _ (operation object) fun outcome => some outcome.2) :
    expects.Conforms object _ (returning operation object) fun outcome => some outcome.2 :=
  fun states sound met => Program.meets_map_iff.mpr (conforms states sound met)

theorem Conforms.observing (operation : σ → OsProgram α)
    (conforms : expects.Conforms object _ (operation object) fun _ => some object) :
    expects.Conforms object _ (observing operation object) fun outcome => some outcome.2 :=
  fun states sound met => Program.meets_map_iff.mpr (conforms states sound met)

end Expectation

theorem tcpClass_conforms :
    tcpClass.Every TcpStreamTransport.expects.Vacant TcpStreamTransport.expects.Conforms where
  builds options construction built := by
    obtain ⟨host, _, rfl⟩ := Option.map_eq_some_iff.mp built
    exact ⟨rfl, rfl⟩
  destroys := StreamMembers.destroy_conforms
  opens object := .returning _ object.open_conforms
  closes object := .returning _ (StreamMembers.close_conforms object)
  reads output object := .returning (TcpStreamTransport.readSome · output)
    (StreamMembers.readSome_conforms object output)
  writes input budget object := .observing (TcpStreamTransport.writeAll · input budget)
    (StreamMembers.writeAll_conforms object input budget sendInt_steady trivial)

theorem udpClass_conforms :
    udpClass.Every UdpTransport.expects.Vacant UdpTransport.expects.Conforms where
  builds options construction built := by
    obtain rfl := Option.some.inj built
    exact ⟨rfl, rfl⟩
  destroys := UdpTransport.destroy_conforms
  opens object := .returning _ object.open_conforms
  closes object := .returning _ object.close_conforms
  reads output object := .observing (UdpTransport.receive · output) (object.receive_conforms output)
  writes input _ object := .observing (UdpTransport.send · input) (object.send_conforms input)

theorem serialClass_conforms :
    serialClass.Every SerialTransport.expects.Vacant SerialTransport.expects.Conforms where
  builds options construction built := by
    obtain ⟨name, rfl⟩ := DlmsTransportSerialOptions.construction_eq built
    exact ⟨rfl, rfl⟩
  destroys := StreamMembers.destroy_conforms
  opens object := .returning _ object.open_conforms
  closes object := .returning _ (StreamMembers.close_conforms object)
  reads output object := .returning (SerialTransport.readSome · output)
    (object.readSome_conforms output)
  writes input budget object := .observing (SerialTransport.writeAll · input budget)
    (object.writeAll_conforms input budget)

section Pools

variable {σ : Type} {expects : Expectation σ} {pool : Pool σ} {states : DescriptorStates}

/-- What the handles of a pool claim. -/
def poolClaim (expects : Expectation σ) (pool : Pool σ) (handle : Handle) :
    Claim Int DescriptorState :=
  (pool.object? handle).bind expects.claim

def PoolSound (expects : Expectation σ) (pool : Pool σ) : Prop :=
  ∀ handle object, pool.object? handle = some object → expects.Sound object

theorem poolClaim_of_alive {handle : Handle} {object : σ}
    (alive : pool.object? handle = some object) :
    poolClaim expects pool handle = expects.claim object := by
  simp [poolClaim, alive]

theorem PoolSound.empty : PoolSound expects .empty := by
  intro handle object alive
  simp [Pool.empty, Pool.object?] at alive

theorem PoolSound.insert (sound : PoolSound expects pool) {object : σ}
    (vacant : expects.Vacant object) : PoolSound expects (pool.insert object) := by
  intro handle other alive
  by_cases same : handle = pool.fresh
  · subst same
    obtain rfl := Option.some.inj ((pool.object?_insert_fresh object).symm.trans alive)
    exact Expectation.sound_of_closed vacant.1 vacant.2
  · rw [pool.insert_sameExcept object handle same] at alive
    exact sound handle other alive

theorem poolClaim_insert {object : σ} (vacant : expects.Vacant object) :
    poolClaim expects (pool.insert object) = poolClaim expects pool := by
  funext handle
  by_cases same : handle = pool.fresh
  · subst same
    rw [poolClaim_of_alive (pool.object?_insert_fresh object), poolClaim, pool.object?_fresh]
    exact expects.claim_of_invalid vacant.2
  · rw [poolClaim, poolClaim, pool.insert_sameExcept object handle same]

theorem PoolSound.update (sound : PoolSound expects pool) {handle : Handle} {earlier : σ}
    (alive : pool.object? handle = some earlier) {object : Option σ}
    (left : ∀ next, object = some next → expects.Sound next) :
    PoolSound expects (pool.update handle object) := by
  intro other next standing
  by_cases same : other = handle
  · subst same
    rw [pool.object?_update alive] at standing
    exact left next standing
  · rw [pool.update_sameExcept handle object other same] at standing
    exact sound other next standing

theorem poolClaim_update {handle : Handle} {earlier : σ}
    (alive : pool.object? handle = some earlier) (object : Option σ) :
    poolClaim expects (pool.update handle object) =
      Function.update (poolClaim expects pool) handle (object.bind expects.claim) := by
  funext other
  by_cases same : other = handle
  · subst same
    rw [Function.update_self, poolClaim, pool.object?_update alive]
  · rw [Function.update_of_ne same, poolClaim, poolClaim,
      pool.update_sameExcept handle object other same]

/-- A C call trades one claim of its pool into another, and is admitted all the way. -/
theorem PoolCall.conforms {transport : Option Handle} {program : OsProgram (CReply × Pool σ)}
    (form : PoolCall expects.Vacant expects.Conforms pool transport program)
    (sound : PoolSound expects pool)
    (met : ∀ handle, Met states (poolClaim expects pool handle)) :
    Obeys program states fun after outcome => PoolSound expects outcome.2 ∧
      ∃ handle kept, poolClaim expects outcome.2 =
          Function.update (poolClaim expects pool) handle kept ∧
        Trades states (poolClaim expects pool handle) after kept := by
  have unchanged : ∃ handle kept, poolClaim expects pool =
      Function.update (poolClaim expects pool) handle kept ∧
        Trades states (poolClaim expects pool handle) states kept :=
    ⟨pool.fresh, _, (Function.update_eq_self ..).symm, .same (met _)⟩
  cases form with
  | answered reply => exact ⟨sound, unchanged⟩
  | @creating count object created failed vacant =>
      have allocating : (allocateAll count).Only (descriptorProtocol.Steady states) :=
        allocateAll_only (steady_of_none (by rfl) fun _ => rfl) count
      refine Program.meets_bind_iff.mpr
        ((Interaction.Protocol.obeys_of_steady allocating).mono ?_)
      rintro after allocated rfl
      cases allocated with
      | false => exact ⟨sound, unchanged⟩
      | true =>
          refine ⟨sound.insert vacant, ?_⟩
          dsimp only
          rw [poolClaim_insert vacant]
          exact unchanged
  | @working handle object α program left tell alive conforms =>
      have held := met handle
      rw [poolClaim_of_alive alive] at held
      refine Program.meets_bind_iff.mpr ((conforms states (sound handle object alive) held).mono ?_)
      intro after result traded
      refine ⟨sound.update alive traded.1, handle, _, poolClaim_update alive (left result), ?_⟩
      rw [poolClaim_of_alive alive]
      exact traded.2

end Pools

namespace CHandles

/-- The descriptor behind a handle, in the state that its object expects. -/
def claim (self : CHandles) : CHandle → Claim Int DescriptorState
  | .tcp handle => poolClaim TcpStreamTransport.expects self.tcp handle
  | .udp handle => poolClaim UdpTransport.expects self.udp handle
  | .serial handle => poolClaim SerialTransport.expects self.serial handle

structure Sound (self : CHandles) : Prop where
  tcp : PoolSound TcpStreamTransport.expects self.tcp
  udp : PoolSound UdpTransport.expects self.udp
  serial : PoolSound SerialTransport.expects self.serial

/-- The handles account for every live descriptor and for the state it is in. -/
def Accounts (states : DescriptorStates) (self : CHandles) : Prop :=
  self.Sound ∧ Census self.claim states

variable {self : CHandles} {states : DescriptorStates}

theorem accounts_none : CHandles.none.Accounts fun _ => Option.none := by
  have nothing : CHandles.none.claim = fun _ => Option.none := by
    funext owner
    cases owner <;> rfl
  exact ⟨⟨.empty, .empty, .empty⟩, nothing ▸ Census.none⟩

theorem Accounts.met (accounts : self.Accounts states) (owner : CHandle) :
    Met states (self.claim owner) :=
  accounts.2.met owner

/-- Trading the claim of one handle of a family trades one claim of the process. -/
private theorem Accounts.traded (accounts : self.Accounts states) {next : CHandles}
    {after : DescriptorStates} {family : Handle → CHandle} (apart : Function.Injective family)
    (sound : next.Sound) {handle : Handle} {kept : Claim Int DescriptorState}
    (own : (fun other => next.claim (family other)) =
      Function.update (fun other => self.claim (family other)) handle kept)
    (others : ∀ owner, (∀ handle, owner ≠ family handle) → next.claim owner = self.claim owner)
    (trades : Trades states (self.claim (family handle)) after kept) : next.Accounts after := by
  have claims : next.claim = Function.update self.claim (family handle) kept := by
    funext owner
    by_cases mine : ∃ other, owner = family other
    · obtain ⟨other, rfl⟩ := mine
      have same := congrFun own other
      by_cases this : other = handle
      · subst this
        rw [Function.update_self]
        exact same.trans (Function.update_self ..)
      · rw [Function.update_of_ne (apart.ne this)]
        exact same.trans (Function.update_of_ne this ..)
    · have other : owner ≠ family handle := fun same => mine ⟨handle, same⟩
      rw [Function.update_of_ne other]
      exact others owner fun handle same => mine ⟨handle, same⟩
  exact ⟨sound, claims ▸ accounts.2.trade _ trades⟩

theorem invoke_conforms (accounts : self.Accounts states) (method : CCall) :
    Obeys (self.invoke method) states fun after outcome => outcome.2.Accounts after := by
  have met := accounts.met
  obtain ⟨tcp, udp, serial⟩ := accounts.1
  have onUdp {transport : Option Handle} {program : OsProgram (CReply × Pool UdpTransport)}
      (form : PoolCall UdpTransport.expects.Vacant UdpTransport.expects.Conforms self.udp
        transport program) :
      Obeys (Prod.map id (fun udp => { self with udp }) <$> program) states
        fun after outcome => outcome.2.Accounts after := by
    refine Program.meets_map_iff.mpr ((form.conforms udp fun handle => met (.udp handle)).mono ?_)
    intro after outcome traded
    obtain ⟨sound, handle, kept, own, trades⟩ := traded
    refine accounts.traded CHandle.udp_injective ⟨tcp, sound, serial⟩ own ?_ trades
    intro owner other
    cases owner with
    | udp handle => exact absurd rfl (other handle)
    | tcp | serial => rfl
  cases method with
  | tcp call =>
      refine Program.meets_map_iff.mpr (((tcpCall_poolCall tcpClass_conforms self.tcp call).conforms
        tcp fun handle => met (.tcp handle)).mono ?_)
      intro after outcome traded
      obtain ⟨sound, handle, kept, own, trades⟩ := traded
      refine accounts.traded CHandle.tcp_injective ⟨sound, udp, serial⟩ own ?_ trades
      intro owner other
      cases owner with
      | tcp handle => exact absurd rfl (other handle)
      | udp | serial => rfl
  | udp call => exact onUdp (udpCall_poolCall udpClass_conforms self.udp call)
  | udpLocalPort transport =>
      exact onUdp (udpLocalPort_poolCall UdpTransport.localPort_conforms self.udp transport)
  | serial call =>
      refine Program.meets_map_iff.mpr
        (((serialCall_poolCall serialClass_conforms self.serial call).conforms
          serial fun handle => met (.serial handle)).mono ?_)
      intro after outcome traded
      obtain ⟨sound, handle, kept, own, trades⟩ := traded
      refine accounts.traded CHandle.serial_injective ⟨tcp, udp, sound⟩ own ?_ trades
      intro owner other
      cases owner with
      | serial handle => exact absurd rfl (other handle)
      | tcp | udp => rfl

end CHandles

/-- What the protocol of descriptors means for a C program. -/
structure CDescriptorsDisciplined (history : List CInvocation) (final : CHandles) : Prop where
  /-- Every call, also of a function that has not returned, is on a descriptor that is ready
  for it. -/
  admitted : ∀ method trace, (final.invoke method).Emits trace →
    descriptorProtocol.discipline.Respects descriptorProtocol.Admits (fun _ => none)
      (sessionTrace history ++ trace)
  /-- After each call the live descriptors are those behind the handles, each in the state
  that its object expects. -/
  accounted : ∀ front invocation back states, history = front ++ invocation :: back →
    descriptorProtocol.discipline.Follows (fun _ => none)
      (sessionTrace (front ++ [invocation])) states →
    ∀ fd state, states fd = some state ↔
      ∃! owner, invocation.after.claim owner = some (fd, state)

private theorem c_session_accounts {history : List CInvocation} {final : CHandles}
    (session : Session CHandles.invoke .none history final) :
    descriptorProtocol.discipline.Respects descriptorProtocol.Admits (fun _ => none)
        (sessionTrace history) ∧
      ∀ states, descriptorProtocol.discipline.Follows (fun _ => none) (sessionTrace history)
        states → final.Accounts states := by
  have preserved (states : DescriptorStates) (before : CHandles) (method : CCall)
      (accounts : before.Accounts states) :
      Obeys (before.invoke method) states fun after outcome => outcome.2.Accounts after :=
    CHandles.invoke_conforms accounts method
  exact session.meets preserved CHandles.accounts_none

/-- Over any sequence of calls on any handles of the three families. -/
theorem c_descriptors_disciplined {history : List CInvocation} {final : CHandles}
    (session : Session CHandles.invoke .none history final) :
    CDescriptorsDisciplined history final := by
  constructor
  · intro method trace emitted
    obtain ⟨respected, accounting⟩ := c_session_accounts session
    apply Environment.respects_append respected
    intro states followed
    exact (CHandles.invoke_conforms (accounting states followed) method).respects emitted
  · intro front invocation back states split followed fd state
    subst split
    have census := ((c_session_accounts session.through.2.1).2 states followed).2
    rw [census.claimed_iff]
    constructor
    · intro claimed
      obtain ⟨owner, claims⟩ := claimed
      exact ⟨owner, claims, fun other others => census.apart others claims⟩
    · exact ExistsUnique.exists

theorem c_descriptors_disciplined_meter :
    CDescriptorsDisciplined [meterCreate, meterOpenCall, meterReadCall, nullReadCall, meterDestroy]
      meterDestroy.after :=
  c_descriptors_disciplined meterDestroy_session

end DlmsTransport.Transport
