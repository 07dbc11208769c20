import DlmsTransport.Transport.DescriptorDiscipline
import DlmsTransport.Transport.HandleOwnership

/-! What each class does to its descriptor, from the call that obtains it to the one that closes
it, call by call as the state of the descriptor allows. -/

set_option autoImplicit false

namespace DlmsTransport.Transport

open Interaction Posix

/-- A `send` on a connected socket. -/
theorem sendInt_steady {socket : NativeSocket} (states : DescriptorStates) (slice : List UInt8)
    (held : states socket = some ⟨.connected, true⟩) :
    (sendInt socket slice).Only (descriptorProtocol.Steady states) :=
  ⟨steady_of_some (by rfl) held ⟨rfl, rfl⟩ (fun _ => rfl) fun _ => rfl, fun _ => trivial⟩

namespace TcpStreamTransport

def expects : Expectation TcpStreamTransport := members.expects .connected

def Attempt.kept? : Attempt → Option NativeSocket
  | .skipped | .failed _ => none
  | .connected candidate => some candidate

variable {states : DescriptorStates}

private theorem awaitConnection_obeys (options : TcpStreamTransportOptions)
    {candidate : NativeSocket} (valid : candidate ≠ kInvalidSocket)
    (fresh : states candidate = none) :
    Obeys (awaitConnection options candidate)
      (Function.update states candidate (some ⟨.connecting, true⟩)) fun after attempt =>
        Acquired states ⟨.connected, true⟩ after attempt.kept? := by
  have failed (state : DescriptorState) (status : TransportStatus) :
      Obeys (.call (.close candidate) fun _ => .done (Attempt.failed status))
        (Function.update states candidate (some state)) fun after attempt =>
          Acquired states ⟨.connected, true⟩ after attempt.kept? :=
    dropped_obeys fresh rfl
  rw [awaitConnection, waitForDescriptor_bind]
  refine Interaction.Protocol.obeys_own (by rfl) ⟨rfl, rfl⟩ (fun _ => rfl) fun result => ?_
  by_cases ready : waitStatus false result = .ok
  · rw [if_pos ready, checkConnected, bind_assoc, Program.ask_bind]
    refine Interaction.Protocol.obeys_own (by rfl) (by rfl) (fun _ => rfl)
      fun (answer : Option Int) => ?_
    cases answer with
    | none => exact failed _ _
    | some error =>
        by_cases clear : error = 0
        · subst clear
          exact ⟨valid, fresh, rfl⟩
        · simp only [clear, ↓reduceIte, Program.pure_eq, Program.done_bind, reduceCtorEq]
          exact failed _ _
  · rw [if_neg ready, Program.pure_eq, Program.done_bind]
    dsimp only
    rw [if_neg ready]
    exact failed _ _

theorem tryCandidate_obeys (options : TcpStreamTransportOptions) (address : AddrInfo) :
    Obeys (tryCandidate options address) states fun after attempt =>
      Acquired states ⟨.connected, true⟩ after attempt.kept? := by
  unfold tryCandidate
  rw [Program.ask_bind]
  refine socket_obeys rfl fun fd fresh => ?_
  have valid := nativeSocket_some_ne fd
  generalize nativeSocket (some fd) = candidate at valid fresh
  dsimp only
  rw [if_neg valid]
  refine Program.meets_bind_iff.mpr ((setNonBlocking_obeys candidate _).mono ?_)
  rintro after nonBlocking rfl
  cases nonBlocking with
  | false => exact dropped_obeys fresh rfl
  | true =>
      rw [if_neg (by decide), Program.ask_bind]
      refine Interaction.Protocol.obeys_own (by rfl) ⟨rfl, .inl rfl⟩ (fun _ => rfl)
        fun connectResult => ?_
      cases connectResult with
      | ok => exact ⟨valid, fresh, rfl⟩
      | error error =>
          dsimp only
          split
          · exact dropped_obeys fresh rfl
          · exact awaitConnection_obeys options valid fresh

theorem tryAddresses_obeys {self : TcpStreamTransport} (closed : expects.claim self = none)
    (sound : expects.Sound self) (finalStatus : TransportStatus) (addresses : List AddrInfo) :
    Obeys (tryAddresses self finalStatus addresses) states fun after outcome =>
      expects.Sound outcome.2 ∧ Trades states none after (expects.claim outcome.2) := by
  induction addresses generalizing finalStatus with
  | nil =>
      refine ⟨sound, ?_⟩
      dsimp only
      rw [closed]
      exact .nothing _
  | cons address rest ih =>
      unfold tryAddresses
      refine Program.meets_bind_iff.mpr ((tryCandidate_obeys self.options address).mono ?_)
      intro after attempt acquired
      cases attempt with
      | skipped =>
          obtain rfl := acquired
          exact ih finalStatus
      | failed status =>
          obtain rfl := acquired
          exact ih status
      | connected candidate =>
          obtain ⟨valid, fresh, rfl⟩ := acquired
          have opened : expects.Sound { self with socket_ := candidate, open_ := true } := by
            simpa [Expectation.Sound, expects, StreamMembers.expects, members] using valid
          refine ⟨opened, ?_⟩
          dsimp only
          rw [expects.claim_of_ne (opened.mp rfl)]
          exact .gained _ fresh

theorem open_conforms (self : TcpStreamTransport) :
    expects.Conforms self _ self.open fun outcome => some outcome.2 := by
  unfold TcpStreamTransport.open
  exact expects.opening_conforms self rfl (fun _ => rfl)
    fun _ sound closed => tryAddresses_obeys closed sound .openFailed

end TcpStreamTransport

namespace SerialTransport

def expects : Expectation SerialTransport := members.expects .device

variable {states : DescriptorStates} {self : SerialTransport}

theorem open_conforms (self : SerialTransport) :
    expects.Conforms self _ self.open fun outcome => some outcome.2 := by
  intro states sound met
  have unchanged {α : Type} (result : α) := Expectation.Conforms.answered expects self result states
    sound met
  unfold SerialTransport.open
  split
  · exact unchanged ()
  · next closed =>
    have nothing : expects.claim self = none := by
      rw [Bool.not_eq_true] at closed
      exact expects.claim_of_invalid (sound.invalid closed)
    split
    · exact unchanged ()
    · rw [Program.ask_bind]
      refine Interaction.Protocol.obeys_obtain (Interaction.Protocol.admits_of_none rfl)
        (fun _ => Interaction.Protocol.used_of_none rfl) ?_ ?_
      · intro (answer : Option Nat) none_given
        cases answer with
        | none => exact unchanged ()
        | some fd => cases none_given
      · intro (answer : Option Nat) handle state given fresh
        cases answer with
        | none => cases given
        | some fd =>
            cases given
            have valid := nativeSocket_some_ne fd
            dsimp only
            rw [if_neg valid, nothing]
            have opened : expects.Sound
                { self with handle_ := nativeSocket (some fd), open_ := true } := by
              simpa [Expectation.Sound, expects, StreamMembers.expects, members] using valid
            refine ⟨by rintro _ ⟨⟩; exact opened, ?_⟩
            rw [Option.bind_some, expects.claim_of_ne (opened.mp rfl)]
            exact .gained _ fresh

theorem readSome_conforms (self : SerialTransport) (output : OutputBuffer) :
    expects.Conforms self _ (self.readSome output) fun outcome => some outcome.2 := by
  intro states sound met
  have unchanged {α : Type} (result : α) := Expectation.Conforms.answered expects self result states
    sound met
  unfold readSome
  split
  · exact unchanged ()
  · next opened =>
    rw [Bool.not_eq_false] at opened
    have held := sound.held met opened
    split
    · exact unchanged ()
    · split
      · exact unchanged ()
      · have steady : (nativeRead self.handle_ output.size self.options.readTimeout).Only
            (descriptorProtocol.Steady states) := by
          rw [nativeRead, waitForDescriptor_bind]
          refine ⟨steady_of_some (by rfl) held ⟨rfl, trivial⟩ (fun _ => rfl) fun _ => rfl,
            fun result => ?_⟩
          dsimp only
          split
          · trivial
          · refine ⟨steady_of_some (by rfl) held ⟨rfl, rfl⟩ (fun _ => rfl) fun _ => rfl,
              fun answer => ?_⟩
            cases answer <;> trivial
        refine Program.meets_bind_iff.mpr
          ((Interaction.Protocol.obeys_of_steady steady).mono ?_)
        rintro after reply rfl
        exact unchanged ()

theorem writeAll_conforms (self : SerialTransport) (input : InputBuffer) (budget : Nat) :
    expects.Conforms self _ (self.writeAll input budget) fun _ => some self := by
  rw [writeAll_eq]
  refine StreamMembers.writeAll_conforms self input budget (fun states slice held => ?_) trivial
  exact ⟨steady_of_some (by rfl) held ⟨rfl, rfl⟩ (fun _ => rfl) fun _ => rfl, fun _ => trivial⟩

end SerialTransport

namespace UdpTransport

/-- The socket of a datagram transport is bound, and connected if there is a remote. -/
def expects : Expectation UdpTransport where
  socket self := self.socket_
  isOpen self := self.open_
  state self := ⟨if self.remoteConfigured_ then .connected else .bound, true⟩

variable {states : DescriptorStates} {self : UdpTransport}

private theorem bindFirst_obeys (candidate : NativeSocket) (addresses : List AddrInfo) :
    Obeys (bindFirst candidate addresses)
      (Function.update states candidate (some ⟨.created, true⟩)) fun after bound =>
        after = Function.update states candidate
          (some ⟨if bound then .bound else .created, true⟩) := by
  induction addresses with
  | nil => rfl
  | cons address rest ih =>
      rw [bindFirst, Program.ask_bind]
      refine Interaction.Protocol.obeys_own (by rfl) (by rfl) (fun _ => rfl)
        fun (result : Int) => ?_
      by_cases zero : result = 0
      · subst zero
        rfl
      · have unmoved : descriptorProtocol.moves (.bind candidate address.addr) result
            ⟨.created, true⟩ = some ⟨.created, true⟩ := by
          simp [descriptorProtocol, OsCall.movedTo, zero]
        rw [unmoved, if_neg zero]
        exact ih

private theorem bindLocal_obeys (options : UdpTransportOptions) (candidate : NativeSocket)
    (family : Family) :
    Obeys (bindLocal options candidate family)
      (Function.update states candidate (some ⟨.created, true⟩)) fun after bound =>
        after = Function.update states candidate
          (some ⟨if bound then .bound else .created, true⟩) := by
  refine Program.meets_bind_iff.mpr ((Interaction.Protocol.obeys_of_steady
    (resolveUdpAddress_only (fun _ _ _ => steady_of_none (by rfl) fun _ => rfl) _ _ _ _)).mono ?_)
  rintro after localAddresses rfl
  cases localAddresses with
  | none => rfl
  | some addresses =>
      refine Program.meets_bind_iff.mpr ((bindFirst_obeys candidate addresses.entries).mono ?_)
      intro after bound same
      exact Interaction.Protocol.obeys_idle (by rfl) (fun _ => rfl) fun _ => same

theorem attempt_obeys (options : UdpTransportOptions) (hasRemote : Bool) (address : AddrInfo) :
    Obeys (attempt options hasRemote address) states
      (Acquired states ⟨if hasRemote then .connected else .bound, true⟩) := by
  rw [attempt, Program.ask_bind]
  refine socket_obeys rfl fun fd fresh => ?_
  have valid := nativeSocket_some_ne fd
  generalize nativeSocket (some fd) = candidate at valid fresh
  dsimp only
  rw [if_neg valid]
  refine Program.meets_bind_iff.mpr ((setNonBlocking_obeys candidate _).mono ?_)
  rintro after nonBlocking rfl
  cases nonBlocking with
  | false => exact dropped_obeys fresh rfl
  | true =>
      refine Program.meets_bind_iff.mpr ((bindLocal_obeys options candidate address.family).mono ?_)
      rintro after bound rfl
      cases bound with
      | false => exact dropped_obeys fresh rfl
      | true =>
          cases hasRemote with
          | false => exact ⟨valid, fresh, rfl⟩
          | true =>
              refine Interaction.Protocol.obeys_own (by rfl) ⟨rfl, .inr rfl⟩ (fun _ => rfl)
                fun connected => ?_
              cases connected with
              | error error => exact dropped_obeys fresh rfl
              | ok => exact ⟨valid, fresh, rfl⟩

theorem tryAddresses_obeys (sound : expects.Sound self) (nothing : expects.claim self = none)
    (hasRemote : Bool) (addresses : List AddrInfo) :
    Obeys (self.tryAddresses hasRemote addresses) states fun after outcome =>
      expects.Sound outcome.2 ∧ Trades states none after (expects.claim outcome.2) := by
  refine meets_tryAddresses (· = states) ?_ ?_ rfl
  · rintro address _ world rfl
    refine (attempt_obeys self.options hasRemote address).mono fun after kept acquired => ?_
    cases kept with
    | none => exact acquired
    | some candidate =>
        obtain ⟨valid, fresh, rfl⟩ := acquired
        have opened : expects.Sound (self.keep hasRemote candidate) := by
          simpa [Expectation.Sound, expects, keep] using valid
        refine ⟨opened, ?_⟩
        dsimp only
        rw [expects.claim_of_ne (opened.mp rfl)]
        exact .gained _ fresh
  · rintro world rfl
    refine ⟨sound, ?_⟩
    dsimp only
    rw [nothing]
    exact .nothing _

theorem open_conforms (self : UdpTransport) :
    expects.Conforms self _ self.open fun outcome => some outcome.2 := by
  intro states sound met
  have unchanged {α : Type} (result : α) := Expectation.Conforms.answered expects self result states
    sound met
  have form := self.open_form
  generalize self.open = program at form
  cases form with
  | alreadyOpen | invalid => exact unchanged ()
  | walking closed =>
      have nothing : expects.claim self = none :=
        expects.claim_of_invalid (sound.invalid closed)
      refine Program.meets_bind_iff.mpr ((Interaction.Protocol.obeys_of_steady
        (resolveWalked_only (fun _ _ _ => steady_of_none (by rfl) fun _ => rfl)
          self.options)).mono ?_)
      rintro after walked rfl
      cases walked with
      | none => exact unchanged ()
      | some addresses =>
          exact Expectation.walking_obeys nothing addresses
            (tryAddresses_obeys sound nothing _ addresses.entries)

theorem close_conforms (self : UdpTransport) :
    expects.Conforms self _ self.close fun outcome => some outcome.2 :=
  expects.closing_conforms (by rintro _ ⟨⟩; exact ⟨rfl, rfl⟩)

theorem destroy_conforms (self : UdpTransport) :
    expects.Conforms self _ self.destroy fun _ => none :=
  expects.closing_destroys

theorem receive_conforms (self : UdpTransport) (output : OutputBuffer) :
    expects.Conforms self _ (self.receive output) fun _ => some self := by
  cases opened : self.open_ with
  | false =>
      rw [receive, if_pos opened]
      exact .answered _ _ _
  | true =>
      refine .standing fun states sound met => ?_
      have held := sound.held met opened
      have transfers : (expects.state self).stage = .bound ∨
          (expects.state self).stage = .connected := by
        simp only [expects]
        split <;> simp
      have awaits : (expects.state self).stage.Awaits true := by
        rcases transfers with stage | stage <;> rw [stage] <;> trivial
      exact self.receive_only output
        (fun _ => steady_of_some (by rfl) held ⟨rfl, awaits⟩ (fun _ => rfl) fun _ => rfl)
        (steady_of_some (by rfl) held ⟨rfl, transfers⟩ (fun _ => rfl) fun _ => rfl)
        (fun _ => steady_of_some (by rfl) held ⟨rfl, transfers⟩ (fun _ => rfl) fun _ => rfl)
        (steady_of_none (by rfl) fun _ => rfl)

theorem send_conforms (self : UdpTransport) (input : InputBuffer) :
    expects.Conforms self _ (self.send input) fun _ => some self := by
  cases opened : self.open_ with
  | false =>
      rw [send, if_pos opened]
      exact .answered _ _ _
  | true =>
      cases configured : self.remoteConfigured_ with
      | false =>
          rw [send, if_neg (by simp [opened]), if_pos configured]
          exact .answered _ _ _
      | true =>
          refine .standing fun states sound met => ?_
          have held := sound.held met opened
          have connected : expects.state self = ⟨.connected, true⟩ := by
            simp [expects, configured]
          rw [connected] at held
          exact self.send_only input
            (fun _ => steady_of_some (by rfl) held ⟨rfl, trivial⟩ (fun _ => rfl) fun _ => rfl)
            (fun _ _ => steady_of_some (by rfl) held ⟨rfl, rfl⟩ (fun _ => rfl) fun _ => rfl)
            (steady_of_none (by rfl) fun _ => rfl)

theorem localPort_conforms (self : UdpTransport) :
    expects.Conforms self _ self.localPort fun _ => some self := by
  cases opened : self.open_ with
  | false =>
      rw [localPort, if_pos opened]
      exact .answered _ _ _
  | true =>
      refine .standing fun states sound met => ?_
      have held := sound.held met opened
      have named : (OsCall.getsockname self.socket_).AdmittedIn (expects.state self) := by
        simp only [OsCall.AdmittedIn, expects]
        split <;> simp
      exact self.localPort_only
        (steady_of_some (by rfl) held named (fun _ => rfl) fun _ => rfl)

end UdpTransport

namespace AcceptedTcpStream

def expects : Expectation AcceptedTcpStream := members.expects .connected

theorem invoke_conforms (self : AcceptedTcpStream) (method : StreamMethod) :
    expects.Conforms self _ (self.invoke method) fun outcome => some outcome.2 := by
  intro states sound met
  cases method with
  | «open» | isOpen => exact Expectation.Conforms.answered _ _ () states sound met
  | close =>
      exact Program.meets_map_iff.mpr (StreamMembers.close_conforms self states sound met)
  | readSome output =>
      exact Program.meets_map_iff.mpr (StreamMembers.readSome_conforms self output states sound met)
  | writeAll input budget =>
      have conforms : expects.Conforms self _ (self.writeAll input budget) fun _ => some self :=
        StreamMembers.writeAll_conforms self input budget sendInt_steady trivial
      exact Program.meets_map_iff.mpr (conforms states sound met)

theorem destroy_conforms (self : AcceptedTcpStream) :
    expects.Conforms self _ self.destroy fun _ => none :=
  StreamMembers.destroy_conforms self

end AcceptedTcpStream

namespace TcpServerTransport

def expects : Expectation TcpServerTransport where
  socket self := self.socket_
  isOpen self := self.open_
  state _ := ⟨.listening, true⟩

variable {states : DescriptorStates} {self : TcpServerTransport}

private theorem tryAddresses_obeys (sound : expects.Sound self)
    (nothing : expects.claim self = none) (addresses : List AddrInfo) :
    Obeys (self.tryAddresses addresses) states fun after outcome =>
      expects.Sound outcome.2 ∧ Trades states none after (expects.claim outcome.2) := by
  induction addresses with
  | nil =>
      refine ⟨sound, ?_⟩
      dsimp only
      rw [nothing]
      exact .nothing _
  | cons address rest ih =>
      rw [tryAddresses, Program.ask_bind]
      refine socket_obeys ih fun fd fresh => ?_
      have valid := nativeSocket_some_ne fd
      generalize nativeSocket (some fd) = candidate at valid fresh
      dsimp only
      rw [if_neg valid, Program.ask_bind]
      refine Interaction.Protocol.obeys_own (by rfl) (by rfl) (fun _ => rfl) fun _ => ?_
      refine Program.meets_bind_iff.mpr ((setNonBlocking_obeys candidate _).mono ?_)
      rintro after nonBlocking rfl
      cases nonBlocking with
      | false => exact dropped_obeys fresh ih
      | true =>
          rw [if_neg (by decide), Program.ask_bind]
          refine Interaction.Protocol.obeys_own (by rfl) (by rfl) (fun _ => rfl)
            fun (bound : Int) => ?_
          by_cases refused : bound ≠ 0
          · rw [if_pos refused]
            exact dropped_obeys fresh ih
          · obtain rfl := not_not.mp refused
            rw [if_neg refused, Program.ask_bind]
            refine Interaction.Protocol.obeys_own (by rfl) (by rfl) (fun _ => rfl)
              fun (listening : Int) => ?_
            by_cases refused : listening ≠ 0
            · rw [if_pos refused]
              exact dropped_obeys fresh ih
            · obtain rfl := not_not.mp refused
              rw [if_neg refused]
              have named : (socketLocalPort candidate).Only (descriptorProtocol.Steady
                  (Function.update states candidate (some ⟨.listening, true⟩))) := by
                rw [socketLocalPort, Program.ask_bind]
                refine ⟨steady_of_some (by rfl) (Function.update_self ..) (.inr (.inl rfl))
                  (fun _ => rfl) fun _ => rfl, fun answer => ?_⟩
                dsimp only
                split <;> trivial
              refine Program.meets_bind_iff.mpr
                ((Interaction.Protocol.obeys_of_steady named).mono ?_)
              rintro after port rfl
              have opened : expects.Sound
                  { self with socket_ := candidate, open_ := true, localPort_ := port } := by
                simpa [Expectation.Sound, expects] using valid
              refine ⟨opened, ?_⟩
              dsimp only
              rw [expects.claim_of_ne (opened.mp rfl)]
              exact .gained _ fresh

theorem open_conforms (self : TcpServerTransport) :
    expects.Conforms self _ self.open fun outcome => some outcome.2 := by
  unfold TcpServerTransport.open
  exact expects.opening_conforms self rfl (fun _ => rfl)
    fun _ sound nothing => tryAddresses_obeys sound nothing

theorem close_conforms (self : TcpServerTransport) :
    expects.Conforms self _ self.close fun outcome => some outcome.2 :=
  expects.closing_conforms (by rintro _ ⟨⟩; exact ⟨rfl, rfl⟩)

theorem destroy_conforms (self : TcpServerTransport) :
    expects.Conforms self _ self.destroy fun _ => none :=
  expects.closing_destroys

theorem invoke_conforms (self : TcpServerTransport) (method : TcpServerMethod) :
    expects.Conforms self _ (self.invoke method) fun outcome => some outcome.2 := by
  intro states sound met
  cases method with
  | «open» => exact Program.meets_map_iff.mpr (self.open_conforms states sound met)
  | close => exact Program.meets_map_iff.mpr (self.close_conforms states sound met)
  | isOpen | localPort => exact Expectation.Conforms.answered _ _ () states sound met

/-- What an `Accept` into an empty pointer leaves. A descriptor that an exception left behind
is one that nobody holds. -/
inductive Accepted (states after : DescriptorStates) :
    Option TransportStatus × Option AcceptedTcpStream → Prop where
  | refused {status} : after = states → Accepted states after (some status, none)
  | taken {status stream} : AcceptedTcpStream.expects.Sound stream →
      Trades states none after (AcceptedTcpStream.expects.claim stream) →
      Accepted states after (some status, some stream)
  | leaked {fd : Nat} : states fd = none →
      after = Function.update states fd (some ⟨.connected, true⟩) →
      Accepted states after (none, none)

theorem accept_obeys (sound : expects.Sound self) (met : Met states (expects.claim self)) :
    Obeys (self.accept none) states (Accepted states) := by
  rw [accept, resetConnection, Program.pure_eq, Program.done_bind]
  split
  · exact .refused rfl
  · next opened =>
    have held := sound.held met (by simpa [expects] using opened)
    rw [waitForDescriptor_bind]
    refine Interaction.Protocol.obeys_steady
      (steady_of_some (by rfl) held ⟨rfl, rfl⟩ (fun _ => rfl) fun _ => rfl) fun result => ?_
    split
    · exact .refused rfl
    · split
      · exact .refused rfl
      · rw [Program.ask_bind]
        refine Interaction.Protocol.obeys_obtain
          (Interaction.Protocol.admits_of_some (by rfl) held ⟨rfl, rfl⟩)
          (fun _ => Interaction.Protocol.used_of_same (by rfl) held rfl) ?_ ?_
        · intro answer none_given
          cases answer with
          | error error => exact .refused rfl
          | ok fd => cases none_given
        · intro answer handle state given fresh
          cases answer with
          | error error => cases given
          | ok fd =>
              cases given
              refine Program.meets_bind_iff.mpr ((setNonBlocking_obeys (fd : Int) _).mono ?_)
              rintro after nonBlocking rfl
              cases nonBlocking with
              | false => exact dropped_obeys fresh (Accepted.refused rfl)
              | true =>
                  rw [if_neg (by decide), Program.ask_bind]
                  refine Interaction.Protocol.obeys_idle (by rfl) (fun _ => rfl)
                    fun (allocated : Bool) => ?_
                  cases allocated with
                  | false => exact .leaked fresh rfl
                  | true =>
                      have valid := nativeSocket_some_ne fd
                      have opened : AcceptedTcpStream.expects.Sound
                          (.new (fd : Int) self.options.readTimeout self.options.writeTimeout) :=
                        ⟨fun _ => valid, fun _ => rfl⟩
                      refine .taken opened ?_
                      rw [AcceptedTcpStream.expects.claim_of_ne (opened.mp rfl)]
                      exact .gained _ fresh

end TcpServerTransport

end DlmsTransport.Transport
