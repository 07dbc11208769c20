import DlmsTransport.Transport.TransportDiscipline
import Mathlib.Data.List.Nodup

/-! A server uses every descriptor as its state allows, and loses one for each exception that
leaves an `Accept`. -/

set_option autoImplicit false

namespace DlmsTransport.Transport

open Interaction Posix

namespace ServerSystem

/-- The descriptor of the listener and those of the accepted streams, in the states that the
objects expect. -/
def claim (self : ServerSystem) : ServerOwner → Claim Int DescriptorState
  | .listener => self.listener.bind TcpServerTransport.expects.claim
  | .stream slot => (self.streams slot).bind AcceptedTcpStream.expects.claim

structure Sound (system : ServerSystem) : Prop where
  listener : ∀ listener, system.listener = some listener →
    TcpServerTransport.expects.Sound listener
  streams : ∀ slot stream, system.streams slot = some stream →
    AcceptedTcpStream.expects.Sound stream

variable {self : ServerSystem} {states : DescriptorStates}

theorem Sound.setListener (sound : self.Sound) {listener : Option TcpServerTransport}
    (left : ∀ next, listener = some next → TcpServerTransport.expects.Sound next) :
    (self.setListener listener).Sound :=
  ⟨left, sound.streams⟩

theorem Sound.setStream (sound : self.Sound) {slot : Nat} {stream : Option AcceptedTcpStream}
    (left : ∀ next, stream = some next → AcceptedTcpStream.expects.Sound next) :
    (self.setStream slot stream).Sound where
  listener := sound.listener
  streams other next present := by
    by_cases same : other = slot
    · subst same
      rw [streams_setStream] at present
      exact left next present
    · rw [streams_setStream_ne self stream same] at present
      exact sound.streams other next present

theorem claim_setListener (self : ServerSystem) (listener : Option TcpServerTransport) :
    (self.setListener listener).claim =
      Function.update self.claim .listener (listener.bind TcpServerTransport.expects.claim) := by
  funext owner
  cases owner with
  | listener => simp [claim]
  | stream slot => simp [claim]

theorem claim_setStream (self : ServerSystem) (slot : Nat) (stream : Option AcceptedTcpStream) :
    (self.setStream slot stream).claim =
      Function.update self.claim (.stream slot)
        (stream.bind AcceptedTcpStream.expects.claim) := by
  funext owner
  cases owner with
  | listener => simp [claim]
  | stream other =>
      by_cases same : other = slot
      · subst same
        simp [claim]
      · simp [claim, same, streams_setStream_ne]

/-- The claims of the objects, and those that nobody makes any more. -/
def claimOrLost (self : ServerSystem) (lost : List Int) :
    ServerOwner ⊕ Nat → Claim Int DescriptorState :=
  Sum.elim self.claim fun index => lost[index]?.map fun fd => (fd, ⟨.connected, true⟩)

/-- The objects and the lost descriptors account for every live descriptor. -/
def Accounts (losses : Nat) (states : DescriptorStates) (self : ServerSystem) : Prop :=
  self.Sound ∧ ∃ lost : List Int, lost.length = losses ∧ Census (self.claimOrLost lost) states

variable {losses : Nat}

theorem accounts_new (options : TcpServerTransportOptions) :
    (new options).Accounts 0 fun _ => none := by
  have nothing : (new options).claimOrLost [] = fun _ => none := by
    funext owner
    rcases owner with (_ | _) | _ <;> rfl
  refine ⟨⟨?_, nofun⟩, [], rfl, nothing ▸ Census.none⟩
  rintro _ ⟨⟩
  exact Expectation.sound_of_closed rfl rfl

theorem Accounts.met (accounts : self.Accounts losses states) (owner : ServerOwner) :
    Met states (self.claim owner) := by
  obtain ⟨_, lost, _, census⟩ := accounts
  exact census.met (.inl owner)

/-- One object trades its claim into another. -/
theorem Accounts.traded (accounts : self.Accounts losses states) {next : ServerSystem}
    {after : DescriptorStates} (sound : next.Sound) {owner : ServerOwner}
    {kept : Claim Int DescriptorState} (claims : next.claim = Function.update self.claim owner kept)
    (trades : Trades states (self.claim owner) after kept) : next.Accounts losses after := by
  obtain ⟨_, lost, counted, census⟩ := accounts
  refine ⟨sound, lost, counted, ?_⟩
  rw [claimOrLost, claims, ← Sum.update_elim_inl]
  exact census.trade (.inl owner) trades

/-- A descriptor that nobody claims is lost. -/
theorem Accounts.leaked (accounts : self.Accounts losses states) {fd : Int}
    (fresh : states fd = none) :
    self.Accounts (losses + 1) (Function.update states fd (some ⟨.connected, true⟩)) := by
  obtain ⟨sound, lost, counted, census⟩ := accounts
  refine ⟨sound, lost ++ [fd], by simp [counted], ?_⟩
  have claims : self.claimOrLost (lost ++ [fd]) = Function.update (self.claimOrLost lost)
      (.inr lost.length) (some (fd, ⟨.connected, true⟩)) := by
    rw [claimOrLost, claimOrLost, Sum.update_elim_inr]
    refine congrArg _ (funext fun index => ?_)
    by_cases last : index = lost.length
    · simp [last]
    · rw [Function.update_of_ne last]
      rcases Nat.lt_or_gt_of_ne last with before | beyond
      · rw [List.getElem?_append_left before]
      · rw [List.getElem?_eq_none (by simp; omega), List.getElem?_eq_none (by omega)]
  have empty : self.claimOrLost lost (.inr lost.length) = none := by simp [claimOrLost]
  rw [claims]
  refine census.trade (.inr lost.length) ?_
  rw [empty]
  exact .gained _ fresh

end ServerSystem

def ServerReply.isThrown : ServerReply → Bool
  | .thrown => true
  | _ => false

namespace ServerSystem

variable {self : ServerSystem} {states : DescriptorStates} {losses : Nat}

theorem listener_returns (listener : TcpServerTransport) (method : TcpServerMethod) :
    (listener.invoke method).Ensures fun _ outcome => outcome.1.isThrown = false := by
  cases method with
  | «open» | close => exact Program.ensures_map_iff.mpr fun _ _ _ => rfl
  | isOpen | localPort => exact Program.ensures_done_iff.mpr rfl

/-- An operation on one of the objects. -/
private theorem operate_accounts (accounts : self.Accounts losses states) (owner : ServerOwner)
    {σ α : Type} {expects : Expectation σ} {object : σ} {program : OsProgram α}
    {left : α → Option σ} (conforms : expects.Conforms object α program left)
    (sound : expects.Sound object) (held : self.claim owner = expects.claim object)
    {conclude : α → ServerReply × ServerSystem}
    (returns : program.Ensures fun _ result => (conclude result).1.isThrown = false)
    (claims : ∀ result, (conclude result).2.claim =
      Function.update self.claim owner ((left result).bind expects.claim))
    (leaves : ∀ result, (∀ next, left result = some next → expects.Sound next) →
      (conclude result).2.Sound) :
    Obeys (conclude <$> program) states fun after outcome =>
      outcome.2.Accounts (losses + outcome.1.isThrown.toNat) after := by
  have met := (conforms states sound (held ▸ accounts.met owner)).ensuring returns
  refine Program.meets_map_iff.mpr (met.mono fun after result traded => ?_)
  obtain ⟨⟨sounds, trades⟩, _, returned⟩ := traded
  rw [returned, Bool.toNat_false, Nat.add_zero]
  exact accounts.traded (leaves result sounds) (claims result) (held ▸ trades)

private theorem acceptEmpty_accounts (accounts : self.Accounts losses states)
    {listener : TcpServerTransport} (listening : self.listener = some listener) {slot : Nat}
    (empty : self.streams slot = none) :
    Obeys (listener.accept none) states fun after outcome =>
      (self.setStream slot outcome.2).Accounts
        (losses + (acceptReply outcome.1).isThrown.toNat) after := by
  have claimed : self.claim .listener = TcpServerTransport.expects.claim listener := by
    simp [claim, listening]
  have vacant : self.setStream slot none = self := by
    rw [setStream, ← empty, Function.update_eq_self]
  refine (TcpServerTransport.accept_obeys (accounts.1.listener _ listening)
    (claimed ▸ accounts.met .listener)).mono fun after outcome accepted => ?_
  cases accepted with
  | refused same =>
      subst same
      rw [vacant]
      exact accounts
  | @taken status stream sound trades =>
      have nothing : self.claim (.stream slot) = none := by simp [claim, empty]
      refine accounts.traded (accounts.1.setStream ?_) (self.claim_setStream slot (some stream)) ?_
      · rintro _ ⟨⟩
        exact sound
      · rw [nothing]
        exact trades
  | leaked fresh same =>
      subst same
      rw [vacant]
      exact accounts.leaked fresh

/-- `Accept` first gives up what its pointer held. -/
private theorem accept_accounts (accounts : self.Accounts losses states)
    {listener : TcpServerTransport} (listening : self.listener = some listener) (slot : Nat) :
    Obeys (listener.accept ((self.streams slot).map AcceptedTcpStream.destroy)) states
      fun after outcome => (self.setStream slot outcome.2).Accounts
        (losses + (acceptReply outcome.1).isThrown.toNat) after := by
  cases occupied : self.streams slot with
  | none => exact acceptEmpty_accounts accounts listening occupied
  | some earlier =>
      have held : self.claim (.stream slot) = AcceptedTcpStream.expects.claim earlier := by
        simp [claim, occupied]
      rw [TcpServerTransport.accept_eq, Option.map_some, resetConnection]
      refine Program.meets_bind_iff.mpr ((earlier.destroy_conforms states
        (accounts.1.streams slot earlier occupied) (held ▸ accounts.met _)).mono ?_)
      intro after _ traded
      have released : (self.setStream slot none).Accounts losses after :=
        accounts.traded (accounts.1.setStream traded.1) (self.claim_setStream slot none)
          (held ▸ traded.2)
      have reset := acceptEmpty_accounts released listening (self.streams_setStream slot none)
      simpa using reset

theorem invoke_accounts (accounts : self.Accounts losses states) (method : ServerMethod) :
    Obeys (self.invoke method) states fun after outcome =>
      outcome.2.Accounts (losses + outcome.1.isThrown.toNat) after := by
  have absent : Obeys (.done (ServerReply.absent, self)) states fun after outcome =>
      outcome.2.Accounts (losses + outcome.1.isThrown.toNat) after := accounts
  have sound := accounts.1
  cases method with
  | listener method =>
      rw [invoke]
      cases present : self.listener with
      | none => exact absent
      | some listener =>
          exact operate_accounts accounts .listener (listener.invoke_conforms method)
            (sound.listener _ present) (by simp [claim, present])
            (listener_returns listener method)
            (fun result => self.claim_setListener (some result.2))
            fun _ left => sound.setListener left
  | accept slot =>
      rw [invoke]
      cases present : self.listener with
      | none => exact absent
      | some listener =>
          exact Program.meets_map_iff.mpr (accept_accounts accounts present slot)
  | destroy =>
      rw [invoke]
      cases present : self.listener with
      | none => exact absent
      | some listener =>
          exact operate_accounts accounts .listener listener.destroy_conforms
            (sound.listener _ present) (by simp [claim, present]) (fun _ _ _ => rfl)
            (fun _ => self.claim_setListener none) fun _ left => sound.setListener left
  | stream slot method =>
      rw [invoke]
      cases present : self.streams slot with
      | none => exact absent
      | some stream =>
          exact operate_accounts accounts (.stream slot) (stream.invoke_conforms method)
            (sound.streams _ _ present) (by simp [claim, present]) (fun _ _ _ => rfl)
            (fun result => self.claim_setStream slot (some result.2))
            fun _ left => sound.setStream left
  | release slot =>
      rw [invoke]
      cases present : self.streams slot with
      | none => exact absent
      | some stream =>
          exact operate_accounts accounts (.stream slot) stream.destroy_conforms
            (sound.streams _ _ present) (by simp [claim, present]) (fun _ _ _ => rfl)
            (fun _ => self.claim_setStream slot none) fun _ left => sound.setStream left

end ServerSystem

/-- The live descriptors are those of the objects, each of one object and in the state that it
expects, and the lost ones, which are connections that nobody holds. -/
structure ServerSystem.Inventory (system : ServerSystem) (lost : List Int)
    (states : DescriptorStates) : Prop where
  distinct : lost.Nodup
  held_iff : ∀ fd ∉ lost, ∀ state,
    states fd = some state ↔ ∃! owner, system.claim owner = some (fd, state)
  lost : ∀ fd ∈ lost, states fd = some ⟨.connected, true⟩ ∧
    ∀ owner state, system.claim owner ≠ some (fd, state)

theorem ServerSystem.Accounts.inventory {system : ServerSystem} {losses : Nat}
    {states : DescriptorStates} (accounts : system.Accounts losses states) :
    ∃ lost, lost.length = losses ∧ system.Inventory lost states := by
  obtain ⟨_, lost, counted, census⟩ := accounts
  have misses {index : Nat} {fd : Int} (found : lost[index]? = some fd) :
      system.claimOrLost lost (.inr index) = some (fd, ⟨.connected, true⟩) := by
    simp [claimOrLost, found]
  refine ⟨lost, counted, ?_, ?_, ?_⟩
  · refine List.nodup_iff_getElem?_ne_getElem?.mpr fun first second earlier inside same => ?_
    have found := List.getElem?_eq_getElem inside
    have apart := census.apart (misses (same.trans found)) (misses found)
    exact absurd (Sum.inr.inj apart) earlier.ne
  · intro fd kept state
    rw [census.claimed_iff]
    constructor
    · intro claimed
      obtain ⟨owner | index, claims⟩ := claimed
      · exact ⟨owner, claims, fun other others => Sum.inl.inj (census.apart others claims)⟩
      · obtain ⟨other, found, same⟩ := Option.map_eq_some_iff.mp claims
        obtain ⟨rfl, _⟩ := Prod.mk.inj same
        exact absurd (List.mem_of_getElem? found) kept
    · intro claimed
      obtain ⟨owner, claims, _⟩ := claimed
      exact ⟨.inl owner, claims⟩
  · intro fd missing
    obtain ⟨index, found⟩ := List.mem_iff_getElem?.mp missing
    refine ⟨census.claimed_iff.mpr ⟨_, misses found⟩, fun owner state claims => ?_⟩
    have owned : system.claimOrLost lost (.inl owner) = some (fd, state) := claims
    cases census.apart owned (misses found)

/-- What the protocol of descriptors means for a server. -/
structure ServerDescriptorsDisciplined (history : List ServerInvocation) (final : ServerSystem) :
    Prop where
  /-- Every call, also of a function that has not returned, is on a descriptor that is ready
  for it. -/
  admitted : ∀ method trace, (final.invoke method).Emits trace →
    descriptorProtocol.discipline.Respects descriptorProtocol.Admits (fun _ => none)
      (sessionTrace history ++ trace)
  /-- One descriptor is lost for each exception that has left an `Accept`, and no other. -/
  accounted : ∀ front invocation back states, history = front ++ invocation :: back →
    descriptorProtocol.discipline.Follows (fun _ => none)
      (sessionTrace (front ++ [invocation])) states →
    ∃ lost, lost.length = (front ++ [invocation]).countP (·.reply.isThrown) ∧
      invocation.after.Inventory lost states

private theorem server_session_accounts {options : TcpServerTransportOptions}
    {history : List ServerInvocation} {final : ServerSystem}
    (session : Session ServerSystem.invoke (.new options) history final) :
    descriptorProtocol.discipline.Respects descriptorProtocol.Admits (fun _ => none)
        (sessionTrace history) ∧
      ∀ states, descriptorProtocol.discipline.Follows (fun _ => none) (sessionTrace history)
        states → final.Accounts (history.countP (·.reply.isThrown)) states := by
  have preserved (losses : Nat) (states : DescriptorStates) (before : ServerSystem)
      (method : ServerMethod) (accounts : before.Accounts losses states) :
      Obeys (before.invoke method) states fun after outcome =>
        outcome.2.Accounts (losses + outcome.1.isThrown.toNat) after :=
    ServerSystem.invoke_accounts accounts method
  have met := session.meets_tallying ServerReply.isThrown preserved
    (ServerSystem.accounts_new options)
  rwa [Nat.zero_add] at met

/-- Over any sequence of calls on the listener and the streams that it accepts, allocations
that fail included. -/
theorem server_descriptors_disciplined {options : TcpServerTransportOptions}
    {history : List ServerInvocation} {final : ServerSystem}
    (session : Session ServerSystem.invoke (.new options) history final) :
    ServerDescriptorsDisciplined history final := by
  constructor
  · intro method trace emitted
    obtain ⟨respected, accounting⟩ := server_session_accounts session
    apply Environment.respects_append respected
    intro states followed
    exact (ServerSystem.invoke_accounts (accounting states followed) method).respects emitted
  · intro front invocation back states split followed
    subst split
    exact ((server_session_accounts session.through.2.1).2 states followed).inventory

theorem server_descriptors_disciplined_meter :
    ServerDescriptorsDisciplined meterServerRun (meterAccepted.setListener none) :=
  server_descriptors_disciplined meterServerRun_session

end DlmsTransport.Transport
