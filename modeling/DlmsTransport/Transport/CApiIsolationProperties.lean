import DlmsTransport.Transport.CApiCalls

/-! The handles of a C program do not interfere: what the calls on one of them do and reply is
what they would do and reply if there were no other. -/

set_option autoImplicit false

namespace DlmsTransport.Transport

open Interaction Posix

section Pools

variable {Options σ α : Type}

private theorem onObject_only (pool : Pool σ) (handle : Handle) (operation : Operation σ α)
    (reply : Option α → CReply) :
    onObject (pool.only handle) handle operation reply =
      Prod.map id (·.only handle) <$> onObject pool handle operation reply := by
  rw [onObject, onObject, pool.object?_only]
  cases alive : pool.object? handle with
  | none => rfl
  | some object =>
      dsimp only
      rw [map_bind]
      refine congrArg _ (funext fun outcome => ?_)
      simp [pool.update_only alive]

private theorem statusCall_only (pool : Pool σ) (handle : Handle)
    (operation : Operation σ TransportStatus) :
    statusCall (pool.only handle) operation (some handle) =
      Prod.map id (·.only handle) <$> statusCall pool operation (some handle) := by
  unfold statusCall
  exact onObject_only pool handle operation _

/-- A call looks at no object but the one behind its handle. -/
theorem CppClass.call_only (cpp : CppClass Options σ) (pool : Pool σ) {call : HandleCall Options}
    {handle : Handle} (concerned : call.handle? = some handle) :
    cpp.call (pool.only handle) call =
      Prod.map id (·.only handle) <$> cpp.call pool call := by
  cases call with
  | create options transport => cases concerned
  | destroy transport =>
      obtain rfl : transport = some handle := concerned
      simp only [CppClass.call, destroyCall, pool.object?_only]
      cases alive : pool.object? handle with
      | none => rfl
      | some object =>
          dsimp only
          rw [map_bind]
          refine congrArg _ (funext fun outcome => ?_)
          simp [pool.update_only alive]
  | «open» transport =>
      obtain rfl : transport = some handle := concerned
      exact statusCall_only pool handle cpp.opens
  | close transport =>
      obtain rfl : transport = some handle := concerned
      exact statusCall_only pool handle cpp.closes
  | isOpen transport =>
      obtain rfl : transport = some handle := concerned
      simp only [CppClass.call, isOpenCall, pool.object?_only]
      cases alive : pool.object? handle <;> rfl
  | read transport output bytesRead =>
      obtain rfl : transport = some handle := concerned
      cases bytesRead with
      | none => rfl
      | some stored => exact onObject_only pool handle (cpp.reads output) _
  | write transport input budget =>
      obtain rfl : transport = some handle := concerned
      exact statusCall_only pool handle (cpp.writes input budget)

private theorem localPort_only (pool : Pool UdpTransport) (handle : Handle) :
    dlmsTransportUdpLocalPort (pool.only handle) (some handle) =
      Prod.map id (·.only handle) <$> dlmsTransportUdpLocalPort pool (some handle) := by
  simp only [dlmsTransportUdpLocalPort, pool.object?_only]
  cases alive : pool.object? handle with
  | none => rfl
  | some object =>
      dsimp only
      rw [map_bind]
      rfl

/-- A call gives out no handle again and touches no other object than the one behind its own. -/
theorem PoolCall.elsewhere {Initial : σ → Prop} {Works : Work σ} {pool after : Pool σ}
    {transport : Option Handle} {program : OsProgram (CReply × Pool σ)}
    (form : PoolCall Initial Works pool transport program) {trace : OsTrace} {reply : CReply}
    (run : program.Runs trace (reply, after)) :
    pool.fresh ≤ after.fresh ∧ ∀ handle < pool.fresh, transport ≠ some handle →
      after.object? handle = pool.object? handle := by
  cases form with
  | answered answer =>
      obtain ⟨_, _, rfl⟩ := Program.runs_done_pair_iff.mp run
      exact ⟨le_rfl, fun _ _ _ => rfl⟩
  | creating created failed =>
      obtain ⟨_, _, allocated, _, _, concluded⟩ := Program.runs_bind_iff.mp run
      cases allocated with
      | false =>
          obtain ⟨_, _, rfl⟩ := Program.runs_done_pair_iff.mp concluded
          exact ⟨le_rfl, fun _ _ _ => rfl⟩
      | true =>
          obtain ⟨_, _, rfl⟩ := Program.runs_done_pair_iff.mp concluded
          refine ⟨by simp [pool.fresh_insert], fun handle earlier _ => ?_⟩
          exact pool.insert_sameExcept _ handle earlier.ne
  | @working own object _ _ left tell =>
      obtain ⟨_, _, result, _, _, concluded⟩ := Program.runs_bind_iff.mp run
      obtain ⟨_, _, rfl⟩ := Program.runs_done_pair_iff.mp concluded
      refine ⟨by simp [pool.fresh_update], fun handle _ different => ?_⟩
      exact pool.update_sameExcept own _ handle fun same => different (congrArg some same.symm)

end Pools

/-- Any class, and any work. -/
private theorem CppClass.anything {Options σ : Type} (cpp : CppClass Options σ) :
    cpp.Every (fun _ => True) fun _ _ _ _ => True where
  builds _ _ _ := trivial
  destroys _ := trivial
  opens _ := trivial
  closes _ := trivial
  reads _ _ := trivial
  writes _ _ _ := trivial

namespace CHandles

/-- The process in which only one handle has an object. -/
def only (self : CHandles) : CHandle → CHandles
  | .tcp handle => ⟨self.tcp.only handle, .empty, .empty⟩
  | .udp handle => ⟨.empty, self.udp.only handle, .empty⟩
  | .serial handle => ⟨.empty, .empty, self.serial.only handle⟩

/-- The handle has been given out, and may have been destroyed since. -/
def Issued (self : CHandles) : CHandle → Prop
  | .tcp handle => handle < self.tcp.fresh
  | .udp handle => handle < self.udp.fresh
  | .serial handle => handle < self.serial.fresh

variable {self after : CHandles} {owner : CHandle} {method : CCall}

theorem invoke_only (self : CHandles) (concerned : method.handle? = some owner) :
    (self.only owner).invoke method = Prod.map id (·.only owner) <$> self.invoke method := by
  cases method with
  | tcp call =>
      obtain ⟨handle, own, rfl⟩ := Option.map_eq_some_iff.mp concerned
      simp only [invoke, only, tcpCall_eq, tcpClass.call_only self.tcp own, Functor.map_map]
      rfl
  | udp call =>
      obtain ⟨handle, own, rfl⟩ := Option.map_eq_some_iff.mp concerned
      simp only [invoke, only, udpCall_eq, udpClass.call_only self.udp own, Functor.map_map]
      rfl
  | udpLocalPort transport =>
      obtain ⟨handle, rfl, rfl⟩ := Option.map_eq_some_iff.mp concerned
      simp only [invoke, only, localPort_only, Functor.map_map]
      rfl
  | serial call =>
      obtain ⟨handle, own, rfl⟩ := Option.map_eq_some_iff.mp concerned
      simp only [invoke, only, serialCall_eq, serialClass.call_only self.serial own,
        Functor.map_map]
      rfl

/-- What a call leaves of the handles that have been given out. -/
private theorem invoke_elsewhere {trace : OsTrace} {reply : CReply}
    (run : (self.invoke method).Runs trace (reply, after)) (issued : self.Issued owner) :
    after.Issued owner ∧ (method.handle? ≠ some owner → after.only owner = self.only owner) := by
  cases method with
  | tcp call =>
      obtain ⟨answer, pool, inner, rfl, rfl⟩ := Program.runs_prodMap_iff.mp run
      obtain ⟨grown, same⟩ := (tcpCall_poolCall tcpClass.anything self.tcp call).elsewhere inner
      cases owner with
      | tcp handle =>
          refine ⟨issued.trans_le grown, fun different => ?_⟩
          have same := same handle issued fun own => different (by simp [CCall.handle?, own])
          simp only [only, Pool.only_congr same]
      | udp | serial => exact ⟨issued, fun _ => rfl⟩
  | udp call =>
      obtain ⟨answer, pool, inner, rfl, rfl⟩ := Program.runs_prodMap_iff.mp run
      obtain ⟨grown, same⟩ := (udpCall_poolCall udpClass.anything self.udp call).elsewhere inner
      cases owner with
      | udp handle =>
          refine ⟨issued.trans_le grown, fun different => ?_⟩
          have same := same handle issued fun own => different (by simp [CCall.handle?, own])
          simp only [only, Pool.only_congr same]
      | tcp | serial => exact ⟨issued, fun _ => rfl⟩
  | udpLocalPort transport =>
      obtain ⟨answer, pool, inner, rfl, rfl⟩ := Program.runs_prodMap_iff.mp run
      obtain rfl := udpLocalPort_runs inner
      exact ⟨issued, fun _ => rfl⟩
  | serial call =>
      obtain ⟨answer, pool, inner, rfl, rfl⟩ := Program.runs_prodMap_iff.mp run
      obtain ⟨grown, same⟩ :=
        (serialCall_poolCall serialClass.anything self.serial call).elsewhere inner
      cases owner with
      | serial handle =>
          refine ⟨issued.trans_le grown, fun different => ?_⟩
          have same := same handle issued fun own => different (by simp [CCall.handle?, own])
          simp only [only, Pool.only_congr same]
      | tcp | udp => exact ⟨issued, fun _ => rfl⟩

end CHandles

/-- What the calls with one handle are among all the calls of a C program. -/
structure CHandleIsolated (owner : CHandle) (start : CHandles) (history : List CInvocation)
    (final : CHandles) : Prop where
  /-- They are a run of a process that has no other handle, call by call with the same OS calls
  and the same replies. -/
  alone : Session CHandles.invoke (start.only owner)
    ((history.filter fun invocation => invocation.method.handle? = some owner).map
      (·.onPart (·.only owner))) (final.only owner)
  /-- The same holds for a further call that has not returned. -/
  unfinished : ∀ method trace, method.handle? = some owner →
    ((final.invoke method).Emits trace ↔ ((final.only owner).invoke method).Emits trace)

/-- The calls on other handles, in whatever order they come, are not noticed by the C layer.
The OS that answers is one for all handles: that they share no descriptor of it is
`CDescriptorsOwned`. -/
theorem c_handles_isolated {start final : CHandles} {history : List CInvocation}
    (session : Session CHandles.invoke start history final) {owner : CHandle}
    (issued : start.Issued owner) : CHandleIsolated owner start history final where
  alone := by
    refine session.project (·.only owner)
      (fun method => method.handle? = some owner) (·.Issued owner) ?_ ?_ ?_ issued
    · intro before method trace reply after issued run
      exact (CHandles.invoke_elsewhere run issued).1
    · intro before method trace reply after concerned run
      rw [before.invoke_only (of_decide_eq_true concerned)]
      exact Program.runs_prodMap_iff.mpr ⟨reply, after, run, rfl, rfl⟩
    · intro before method trace reply after issued unconcerned run
      exact (CHandles.invoke_elsewhere run issued).2 (of_decide_eq_false unconcerned)
  unfinished method trace concerned := by
    rw [final.invoke_only concerned, Program.emits_map_iff]

def twoTcpHandles : CHandles :=
  ⟨⟨[some meterStream, some (.new meterOptions)]⟩, .empty, .empty⟩

/-- A second stream is created between the opening of the first and a read on it. -/
def meterReadBeside : List CInvocation :=
  [meterOpenCall,
    ⟨tcpHandle meterStream, .tcp (.create (some meterTcpOptions) (some none)),
      [⟨.allocate, true⟩, ⟨.allocate, true⟩, ⟨.allocate, true⟩],
      .created .ok (some (some 1)), twoTcpHandles⟩,
    ⟨twoTcpHandles, .tcp (.read (some 0) ⟨false, 4⟩ (some 9)), meterReadCall.trace,
      .read .ok (some 2) [126, 160], twoTcpHandles⟩]

theorem meterReadBeside_session :
    Session CHandles.invoke (tcpHandle (.new meterOptions)) meterReadBeside twoTcpHandles :=
  .cons (.call (.call (.call (.call (.call (.call .refl))))))
    (.cons (.call (.call (.call .refl))) (.cons (.call (.call .refl)) .nil))

theorem c_handles_isolated_meter :
    CHandleIsolated (.tcp 0) (tcpHandle (.new meterOptions)) meterReadBeside twoTcpHandles :=
  c_handles_isolated meterReadBeside_session Nat.zero_lt_one

end DlmsTransport.Transport
