import DlmsTransport.Transport.CApiProperties

/-! The forms of a C call. Whatever is known of the member functions of the classes, one
object at a time, a call on a pool does it for the one object behind its handle. -/

set_option autoImplicit false

namespace DlmsTransport.Transport

open Interaction Posix

theorem DlmsTransportSerialOptions.construction_eq {options : DlmsTransportSerialOptions}
    {construction : Construction SerialTransport}
    (built : options.construction = some construction) :
    ∃ deviceName, construction = ⟨.new (options.toCpp deviceName), 3⟩ := by
  unfold DlmsTransportSerialOptions.construction at built
  split at built
  · obtain ⟨name, _, rfl⟩ := Option.map_eq_some_iff.mp built
    exact ⟨name, rfl⟩
  · cases built

/-- A property of a program that works on an object and may leave one. -/
abbrev Work (σ : Type) := σ → (α : Type) → OsProgram α → (α → Option σ) → Prop

/-- New objects have one property, and the member functions of the class the other. -/
structure CppClass.Every {Options σ : Type} (cpp : CppClass Options σ) (Initial : σ → Prop)
    (Works : Work σ) : Prop where
  builds : ∀ options construction, cpp.builds options = some construction →
    Initial construction.object
  destroys : ∀ object, Works object _ (cpp.destroys object) fun _ => none
  opens : ∀ object, Works object _ (cpp.opens object) fun outcome => some outcome.2
  closes : ∀ object, Works object _ (cpp.closes object) fun outcome => some outcome.2
  reads : ∀ output object, Works object _ (cpp.reads output object) fun outcome => some outcome.2
  writes : ∀ input budget object,
    Works object _ (cpp.writes input budget object) fun outcome => some outcome.2

/-- The handle that a call is made with. -/
def HandleCall.handle? {Options : Type} : HandleCall Options → Option Handle
  | .create _ _ => none
  | .destroy transport | .open transport | .close transport | .isOpen transport |
    .read transport _ _ | .write transport _ _ => transport

section

variable {σ : Type} {Initial : σ → Prop} {Works : Work σ} {pool : Pool σ}

/-- What a call on a pool can be: it answers at once, it creates an object, or it works on
the one object behind its handle. -/
inductive PoolCall (Initial : σ → Prop) (Works : Work σ) (pool : Pool σ) :
    Option Handle → OsProgram (CReply × Pool σ) → Prop where
  | answered {transport} (reply : CReply) :
      PoolCall Initial Works pool transport (.done (reply, pool))
  | creating {count : Nat} {object : σ} (created failed : CReply) : Initial object →
      PoolCall Initial Works pool none (do
        let allocated ← allocateAll count
        if allocated then pure (created, pool.insert object) else pure (failed, pool))
  | working {handle : Handle} {object : σ} {α : Type} {program : OsProgram α}
      (left : α → Option σ) (tell : α → CReply) : pool.object? handle = some object →
      Works object α program left →
      PoolCall Initial Works pool (some handle) (do
        let result ← program
        pure (tell result, pool.update handle (left result)))

theorem allocateAll_only {allowed : OsCall → Prop} (allocates : allowed .allocate)
    (count : Nat) : (allocateAll count).Only allowed := by
  induction count with
  | zero => trivial
  | succ count ih =>
      rw [allocateAll, Program.ask_bind]
      refine ⟨allocates, fun (allocated : Bool) => ?_⟩
      cases allocated with
      | true => exact ih
      | false => trivial

theorem onObject_poolCall {α : Type} {operation : Operation σ α} (handle : Handle)
    (tell : Option α → CReply)
    (works : ∀ object, Works object _ (operation object) fun outcome => some outcome.2) :
    PoolCall Initial Works pool (some handle) (onObject pool handle operation tell) := by
  unfold onObject
  split
  · exact .answered .undefined
  · next object alive =>
    exact .working (fun outcome : Option α × σ => some outcome.2) (fun outcome => tell outcome.1)
      alive (works object)

theorem statusCall_poolCall {operation : Operation σ TransportStatus} (transport : Option Handle)
    (works : ∀ object, Works object _ (operation object) fun outcome => some outcome.2) :
    PoolCall Initial Works pool transport (statusCall pool operation transport) := by
  cases transport with
  | none => exact .answered _
  | some handle =>
      unfold statusCall
      exact onObject_poolCall handle _ works

theorem CppClass.call_poolCall {Options : Type} {cpp : CppClass Options σ}
    (every : cpp.Every Initial Works) (call : HandleCall Options) :
    PoolCall Initial Works pool call.handle? (cpp.call pool call) := by
  cases call with
  | create options transport =>
      cases built : options.bind cpp.builds with
      | none =>
          simp only [CppClass.call, createCall, built]
          exact .answered _
      | some construction =>
          simp only [CppClass.call, createCall, built]
          cases transport with
          | none => exact .answered _
          | some cell =>
              obtain ⟨given, _, built⟩ := Option.bind_eq_some_iff.mp built
              exact .creating _ _ (every.builds given construction built)
  | destroy transport =>
      cases transport with
      | none => exact .answered _
      | some handle =>
          simp only [CppClass.call, destroyCall]
          split
          · exact .answered _
          · next object alive =>
            exact .working (fun _ => none) (fun _ => .destroyed) alive (every.destroys object)
  | «open» transport => exact statusCall_poolCall transport every.opens
  | close transport => exact statusCall_poolCall transport every.closes
  | isOpen transport =>
      cases transport with
      | none => exact .answered _
      | some handle =>
          simp only [CppClass.call, isOpenCall]
          split <;> exact .answered _
  | read transport output bytesRead =>
      cases transport with
      | none => exact .answered _
      | some handle =>
          cases bytesRead with
          | none => exact .answered _
          | some stored => exact onObject_poolCall handle _ (every.reads output)
  | write transport input budget => exact statusCall_poolCall transport (every.writes input budget)

end

section

variable {Initial : UdpTransport → Prop} {Works : Work UdpTransport}

theorem udpLocalPort_poolCall
    (works : ∀ object, Works object _ object.localPort fun _ => some object)
    (pool : Pool UdpTransport) (transport : Option Handle) :
    PoolCall Initial Works pool transport (dlmsTransportUdpLocalPort pool transport) := by
  cases transport with
  | none => exact .answered _
  | some handle =>
      unfold dlmsTransportUdpLocalPort
      dsimp only
      split
      · exact .answered _
      · next object alive =>
        have working : PoolCall Initial Works pool (some handle) (do
            let port ← object.localPort
            pure (.port port, pool.update handle (some object))) :=
          .working (fun _ => some object) .port alive (works object)
        rwa [pool.update_same alive] at working

end

/-- The handles of the three families. -/
inductive CHandle where
  | tcp (handle : Handle)
  | udp (handle : Handle)
  | serial (handle : Handle)
  deriving DecidableEq, Repr

/-- The handle that a call is made with, and so the one object it is about. -/
def CCall.handle? : CCall → Option CHandle
  | .tcp call => call.handle?.map .tcp
  | .udp call => call.handle?.map .udp
  | .udpLocalPort transport => transport.map .udp
  | .serial call => call.handle?.map .serial

theorem CHandle.tcp_injective : Function.Injective CHandle.tcp := fun _ _ => CHandle.tcp.inj

theorem CHandle.udp_injective : Function.Injective CHandle.udp := fun _ _ => CHandle.udp.inj

theorem CHandle.serial_injective : Function.Injective CHandle.serial :=
  fun _ _ => CHandle.serial.inj

theorem tcpCall_poolCall {Initial : TcpStreamTransport → Prop} {Works : Work TcpStreamTransport}
    (every : tcpClass.Every Initial Works) (pool : Pool TcpStreamTransport)
    (call : HandleCall DlmsTransportTcpOptions) :
    PoolCall Initial Works pool call.handle? (tcpCall pool call) := by
  rw [tcpCall_eq]
  exact CppClass.call_poolCall every call

theorem udpCall_poolCall {Initial : UdpTransport → Prop} {Works : Work UdpTransport}
    (every : udpClass.Every Initial Works) (pool : Pool UdpTransport)
    (call : HandleCall DlmsTransportUdpOptions) :
    PoolCall Initial Works pool call.handle? (udpCall pool call) := by
  rw [udpCall_eq]
  exact CppClass.call_poolCall every call

theorem serialCall_poolCall {Initial : SerialTransport → Prop} {Works : Work SerialTransport}
    (every : serialClass.Every Initial Works) (pool : Pool SerialTransport)
    (call : HandleCall DlmsTransportSerialOptions) :
    PoolCall Initial Works pool call.handle? (serialCall pool call) := by
  rw [serialCall_eq]
  exact CppClass.call_poolCall every call

end DlmsTransport.Transport
