import DlmsTransport.Posix.DescriptorStates
import DlmsTransport.Transport.CApiCalls
import DlmsTransport.Transport.ServerOwnershipProperties

/-! What it takes that the descriptors of the transports are used as their states allow: an
object expects the one it holds to be in some state, and its operations keep it so. -/

set_option autoImplicit false

namespace DlmsTransport.Transport

open Interaction Posix

/-- How an object of a class tells which descriptor it holds, and its state. -/
structure Expectation (σ : Type) where
  socket : σ → NativeSocket
  isOpen : σ → Bool
  state : σ → DescriptorState

namespace Expectation

variable {σ : Type} (expects : Expectation σ)

def claim (self : σ) : Claim Int DescriptorState :=
  (heldSocket (expects.socket self)).map fun fd => (fd, expects.state self)

/-- The open flag tells whether there is a descriptor. -/
def Sound (self : σ) : Prop :=
  expects.isOpen self = true ↔ expects.socket self ≠ kInvalidSocket

/-- Every call of the program is admitted, and the object that is left has the descriptor that
it then expects. -/
def Conforms : Work σ := fun self _ program left =>
  ∀ states, expects.Sound self → Met states (expects.claim self) →
    Obeys program states fun after result =>
      (∀ next, left result = some next → expects.Sound next) ∧
        Trades states (expects.claim self) after ((left result).bind expects.claim)

variable {self : σ} {states : DescriptorStates}

theorem claim_of_ne (valid : expects.socket self ≠ kInvalidSocket) :
    expects.claim self = some (expects.socket self, expects.state self) := by
  simp [claim, heldSocket_of_ne valid]

theorem claim_of_invalid (invalid : expects.socket self = kInvalidSocket) :
    expects.claim self = none := by
  simp [claim, invalid]

variable {expects}

theorem Sound.invalid (sound : expects.Sound self) (closed : expects.isOpen self = false) :
    expects.socket self = kInvalidSocket := by
  by_contra valid
  simp [sound.mpr valid] at closed

theorem Sound.held (sound : expects.Sound self) (met : Met states (expects.claim self))
    (opened : expects.isOpen self = true) :
    states (expects.socket self) = some (expects.state self) :=
  met _ _ (expects.claim_of_ne (sound.mp opened))

theorem sound_of_closed (closed : expects.isOpen self = false)
    (invalid : expects.socket self = kInvalidSocket) : expects.Sound self := by
  simp [Sound, closed, invalid]

section Programs

variable {α : Type} {post : DescriptorStates → α → Prop}

/-- An object that answers at once stays as it is. -/
theorem Conforms.answered (expects : Expectation σ) (self : σ) (result : α) :
    expects.Conforms self α (.done result) fun _ => some self := by
  intro states sound met
  exact ⟨by rintro _ ⟨⟩; exact sound, .same met⟩

theorem Conforms.standing {program : OsProgram α}
    (steady : ∀ states, expects.Sound self → Met states (expects.claim self) →
      program.Only (descriptorProtocol.Steady states)) :
    expects.Conforms self α program fun _ => some self := by
  intro states sound met
  refine (Interaction.Protocol.obeys_of_steady (steady states sound met)).mono ?_
  rintro after result rfl
  exact ⟨by rintro _ ⟨⟩; exact sound, .same met⟩

theorem releasing_obeys (expects : Expectation σ) {result : α}
    (valid : expects.socket self ≠ kInvalidSocket) (met : Met states (expects.claim self))
    (released : ∀ after, Trades states (expects.claim self) after none → post after result) :
    Obeys (.call (.close (expects.socket self)) fun _ => .done result) states post := by
  rw [expects.claim_of_ne valid] at released met
  refine Interaction.Protocol.obeys_use (by rfl) (met _ _ rfl) trivial (fun _ => rfl) fun _ => ?_
  exact released _ (.released states _ _)

theorem closing_obeys (expects : Expectation σ) {result : α}
    (met : Met states (expects.claim self))
    (released : ∀ after, Trades states (expects.claim self) after none → post after result) :
    Obeys (if expects.socket self ≠ kInvalidSocket then do
        closeNativeSocket (expects.socket self)
        pure result
      else
        pure result) states post := by
  split
  · next valid => exact expects.releasing_obeys valid met released
  · next invalid =>
    have same := Trades.same met
    rw [expects.claim_of_invalid (not_not.mp invalid)] at released same
    exact released states same

/-- The object that a close leaves is empty. -/
theorem closing_conforms (expects : Expectation σ) {result : α} {left : α → Option σ}
    (emptied : ∀ next, left result = some next →
      expects.isOpen next = false ∧ expects.socket next = kInvalidSocket) :
    expects.Conforms self α (if expects.socket self ≠ kInvalidSocket then do
        closeNativeSocket (expects.socket self)
        pure result
      else
        pure result) left := by
  intro states _ met
  refine expects.closing_obeys met fun after released => ⟨fun next same => ?_, ?_⟩
  · obtain ⟨closed, invalid⟩ := emptied next same
    exact sound_of_closed closed invalid
  · cases same : left result with
    | none => exact released
    | some next =>
        rw [Option.bind_some, expects.claim_of_invalid (emptied next same).2]
        exact released

/-- A destructor closes, and leaves no object. -/
theorem closing_destroys (expects : Expectation σ) {result : α} :
    expects.Conforms self Unit ((if expects.socket self ≠ kInvalidSocket then do
        closeNativeSocket (expects.socket self)
        pure result
      else
        pure result) >>= fun _ => pure ()) fun _ => none := by
  intro states _ met
  exact Program.meets_bind_iff.mpr (expects.closing_obeys met fun _ released => ⟨nofun, released⟩)

/-- Addresses that were looked up are walked, and the list of them is given back. -/
theorem walking_obeys (nothing : expects.claim self = none) {walk : OsProgram (α × σ)}
    (addresses : AddressList)
    (walks : Obeys walk states fun after outcome =>
      expects.Sound outcome.2 ∧ Trades states none after (expects.claim outcome.2)) :
    Obeys (do
        let outcome ← walk
        os (.freeaddrinfo addresses)
        pure outcome) states fun after outcome =>
      (∀ next, some outcome.2 = some next → expects.Sound next) ∧
        Trades states (expects.claim self) after ((some outcome.2).bind expects.claim) := by
  refine Program.meets_bind_iff.mpr (walks.mono fun after outcome left => ?_)
  refine Interaction.Protocol.obeys_idle (by rfl) (fun _ => rfl) fun _ => ?_
  rw [nothing]
  exact ⟨by rintro _ ⟨⟩; exact left.1, left.2⟩

/-- The `Open` of a class that looks addresses up. -/
theorem opening_conforms (expects : Expectation σ) (self : σ) {invalid : Prop}
    {checked : Decidable invalid} {alreadyOpen invalidArgument openFailed : α}
    {host : Option String} {service : String} {hints : Hints}
    {resolve : Option AddressList → OsProgram (α × σ)}
    {walk : List AddrInfo → OsProgram (α × σ)}
    (unresolved : resolve none = .done (openFailed, self))
    (resolves : ∀ addresses : AddressList, resolve (some addresses) = do
      let outcome ← walk addresses.entries
      os (.freeaddrinfo addresses)
      pure outcome)
    (walks : ∀ states, expects.Sound self → expects.claim self = none → ∀ addresses,
      Obeys (walk addresses) states fun after outcome =>
        expects.Sound outcome.2 ∧ Trades states none after (expects.claim outcome.2)) :
    expects.Conforms self _
      (if expects.isOpen self = true then pure (alreadyOpen, self)
      else if invalid then pure (invalidArgument, self)
      else os (.getaddrinfo host service hints) >>= resolve) fun outcome => some outcome.2 := by
  intro states sound met
  have unchanged (result : α) := Conforms.answered expects self result states sound met
  split
  · exact unchanged alreadyOpen
  · next closed =>
    have nothing : expects.claim self = none :=
      expects.claim_of_invalid (sound.invalid (Bool.not_eq_true _ ▸ closed))
    split
    · exact unchanged invalidArgument
    · rw [Program.ask_bind]
      refine Interaction.Protocol.obeys_idle (by rfl) (fun _ => rfl) fun resolved => ?_
      cases resolved with
      | none =>
          rw [unresolved]
          exact unchanged openFailed
      | some addresses =>
          rw [resolves]
          exact walking_obeys nothing addresses (walks states sound nothing addresses.entries)

end Programs

end Expectation

/-- A call on a descriptor that leaves it as it is. -/
theorem steady_of_some {states : DescriptorStates} {request : OsCall} {fd : Int}
    {state : DescriptorState} (uses : request.descriptor? = some fd)
    (here : states fd = some state) (admits : request.AdmittedIn state)
    (obtains : ∀ answer, descriptorProtocol.obtains request answer = none)
    (moves : ∀ answer, request.movedTo state answer = some state) :
    descriptorProtocol.Steady states request where
  obtains
  admits := Interaction.Protocol.admits_of_some uses here admits
  moves other _ answer usesIt there := by
    obtain rfl := Option.some.inj (uses.symm.trans usesIt)
    obtain rfl := Option.some.inj (here.symm.trans there)
    exact moves answer

theorem steady_of_none {states : DescriptorStates} {request : OsCall}
    (unused : request.descriptor? = none)
    (obtains : ∀ answer, descriptorProtocol.obtains request answer = none) :
    descriptorProtocol.Steady states request where
  obtains
  admits := Interaction.Protocol.admits_of_none unused
  moves _ _ _ uses := by
    have none_eq := unused.symm.trans uses
    cases none_eq

section Opening

variable {α : Type} {post : DescriptorStates → α → Prop} {states : DescriptorStates}

theorem setNonBlocking_obeys (socket : NativeSocket) (state : DescriptorState) :
    Obeys (setNonBlocking socket) (Function.update states socket (some state))
      fun after nonBlocking => after = Function.update states socket
        (some (if nonBlocking then { state with nonBlocking := true } else state)) := by
  unfold setNonBlocking
  rw [Program.ask_bind]
  refine Interaction.Protocol.obeys_own (by rfl) trivial (fun _ => rfl) fun (flags : Int) => ?_
  split
  · refine Interaction.Protocol.obeys_own (by rfl) trivial (fun _ => rfl) fun (result : Int) => ?_
    have told : (if result = 0 then { state with nonBlocking := true } else state) =
        if result == 0 then { state with nonBlocking := true } else state := by
      simp only [beq_iff_eq]
    exact congrArg (fun state => Function.update states socket (some state)) told
  · rfl

/-- A candidate that is closed again leaves nothing behind. -/
theorem dropped_obeys {candidate : NativeSocket} {state : DescriptorState} {next : OsProgram α}
    (fresh : states candidate = none) (rest : Obeys next states post) :
    Obeys (.call (.close candidate) fun _ => next)
      (Function.update states candidate (some state)) post := by
  refine Interaction.Protocol.obeys_own (by rfl) trivial (fun _ => rfl) fun _ => ?_
  have back : Function.update states candidate none = states := by
    rw [← fresh, Function.update_eq_self]
  exact back.symm ▸ rest

theorem socket_obeys {family : Family} {socktype : SocketType} {protocol : Posix.Protocol}
    {next : Option Nat → OsProgram α} (refused : Obeys (next none) states post)
    (handed : ∀ fd : Nat, states (nativeSocket (some fd)) = none →
      Obeys (next (some fd))
        (Function.update states (nativeSocket (some fd)) (some ⟨.created, false⟩)) post) :
    Obeys (.call (.socket family socktype protocol) next) states post := by
  refine Interaction.Protocol.obeys_obtain (Interaction.Protocol.admits_of_none rfl)
    (fun _ => Interaction.Protocol.used_of_none rfl) ?_ ?_
  · intro (answer : Option Nat) none_given
    cases answer with
    | none => exact refused
    | some fd => cases none_given
  · intro (answer : Option Nat) handle state given fresh
    cases answer with
    | none => cases given
    | some fd =>
        cases given
        exact handed fd fresh

/-- What an attempt at an address leaves: nothing, or a new descriptor in a state. -/
def Acquired (states : DescriptorStates) (state : DescriptorState) (after : DescriptorStates) :
    Option NativeSocket → Prop
  | none => after = states
  | some candidate => candidate ≠ kInvalidSocket ∧ states candidate = none ∧
      after = Function.update states candidate (some state)

end Opening

namespace StreamMembers

variable {σ : Type} (members : StreamMembers σ)

/-- A stream holds a descriptor that does not block, ready to transfer bytes. -/
def expects (stage : Stage) : Expectation σ where
  socket := members.socket
  isOpen := members.isOpen
  state _ := ⟨stage, true⟩

variable {members} {stage : Stage} {self : σ} {states : DescriptorStates}

theorem expects_release (members : StreamMembers σ) (stage : Stage) (self : σ) :
    (members.expects stage).Sound (members.release self) ∧
      (members.expects stage).claim (members.release self) = none :=
  ⟨Expectation.sound_of_closed (members.isOpen_release self) (members.socket_release self),
    (members.expects stage).claim_of_invalid (members.socket_release self)⟩

theorem conforms_release {after : DescriptorStates}
    (released : Trades states ((members.expects stage).claim self) after none) :
    (∀ next, some (members.release self) = some next → (members.expects stage).Sound next) ∧
      Trades states ((members.expects stage).claim self) after
        ((some (members.release self)).bind (members.expects stage).claim) := by
  obtain ⟨sound, nothing⟩ := members.expects_release stage self
  refine ⟨by rintro _ ⟨⟩; exact sound, ?_⟩
  rw [Option.bind_some, nothing]
  exact released

theorem close_conforms (self : σ) :
    (members.expects stage).Conforms self _ (members.close self) fun outcome => some outcome.2 := by
  refine (members.expects stage).closing_conforms ?_
  rintro _ ⟨⟩
  exact ⟨members.isOpen_release self, members.socket_release self⟩

theorem destroy_conforms (self : σ) :
    (members.expects stage).Conforms self Unit (do
      let _ ← members.close self
      pure ()) fun _ => none :=
  (members.expects stage).closing_destroys

theorem concludeRead_obeys (sound : (members.expects stage).Sound self)
    (met : Met states ((members.expects stage).claim self)) (received : Received) :
    Obeys (members.concludeRead self received) states fun after outcome =>
      (∀ next, some outcome.2 = some next → (members.expects stage).Sound next) ∧
        Trades states ((members.expects stage).claim self) after
          ((some outcome.2).bind (members.expects stage).claim) := by
  have unchanged {α : Type} (result : α) :=
    Expectation.Conforms.answered (members.expects stage) self result
  have form := members.concludeRead_form self received
  generalize members.concludeRead self received = program at form
  cases form with
  | delivered => exact unchanged () states sound met
  | ended _ valid =>
      exact (members.expects stage).releasing_obeys valid met
        fun _ released => conforms_release released
  | endedUnowned _ invalid =>
      have same := Trades.same met
      rw [(members.expects stage).claim_of_invalid invalid] at same
      refine conforms_release ?_
      rw [(members.expects stage).claim_of_invalid invalid]
      exact same
  | failed => exact unchanged () states sound met
  | unexplained =>
      refine Interaction.Protocol.obeys_idle (by rfl) (fun _ => rfl) fun _ => ?_
      exact unchanged () states sound met

theorem readSome_conforms (self : σ) (output : OutputBuffer) :
    (members.expects .connected).Conforms self _ (members.readSome self output)
      fun outcome => some outcome.2 := by
  intro states sound met
  have unchanged {α : Type} (result : α) :=
    Expectation.Conforms.answered (members.expects .connected) self result
  have form := members.readSome_form self output
  generalize members.readSome self output = program at form
  cases form with
  | refused => exact unchanged () states sound met
  | waiting opened =>
      have held := sound.held met opened
      refine Interaction.Protocol.obeys_steady (steady_of_some (by rfl) held ⟨rfl, trivial⟩
        (fun _ => rfl) fun _ => rfl) fun (result : Int) => ?_
      dsimp only
      split
      · exact Interaction.Protocol.obeys_steady (steady_of_some (by rfl) held ⟨rfl, .inr rfl⟩
          (fun _ => rfl) fun _ => rfl) fun answer => concludeRead_obeys sound met _
      · exact unchanged () states sound met

theorem writeAll_conforms (self : σ) (input : InputBuffer) (budget : Nat)
    (transmits : ∀ states slice, states (members.socket self) = some ⟨stage, true⟩ →
      (members.transmit (members.socket self) slice).Only (descriptorProtocol.Steady states))
    (awaits : stage.Awaits false) :
    (members.expects stage).Conforms self _ (members.writeAll self input budget)
      fun _ => some self := by
  cases opened : members.isOpen self with
  | false =>
      rw [writeAll, if_pos opened]
      exact .answered _ _ _
  | true =>
      refine .standing fun states sound met => ?_
      have held := sound.held met opened
      exact members.writeAll_only self input budget
        (fun _ => steady_of_some (by rfl) held ⟨rfl, awaits⟩ (fun _ => rfl) fun _ => rfl)
        (fun slice => transmits states slice held) (steady_of_none (by rfl) fun _ => rfl)

end StreamMembers

end DlmsTransport.Transport
