import DlmsTransport.Interaction.Environment
import DlmsTransport.Transport.Udp

/-! How `Open` of a datagram transport proceeds, one candidate address at a time,
against any environment. -/

set_option autoImplicit false

namespace DlmsTransport.Transport.UdpTransport

open Interaction Posix

/-- The body of the outer loop of `Open`: the socket it keeps, if it keeps one. -/
def attempt (options : UdpTransportOptions) (hasRemote : Bool) (address : AddrInfo) :
    OsProgram (Option NativeSocket) := do
  let answer ← os (.socket address.family .dgram .udp)
  let candidate := nativeSocket answer
  if candidate = kInvalidSocket then
    pure none
  else do
    let nonBlocking ← setNonBlocking candidate
    if nonBlocking = false then do
      closeNativeSocket candidate
      pure none
    else do
      let bound ← bindLocal options candidate address.family
      if bound = false then do
        closeNativeSocket candidate
        pure none
      else do
        let connected ← if hasRemote then do
            let answer ← os (.connect candidate address.addr)
            pure answer.isOk
          else pure true
        if connected = false then do
          closeNativeSocket candidate
          pure none
        else
          pure (some candidate)

def keep (self : UdpTransport) (hasRemote : Bool) (candidate : NativeSocket) : UdpTransport :=
  { self with socket_ := candidate, open_ := true, remoteConfigured_ := hasRemote }

theorem tryAddresses_cons (self : UdpTransport) (hasRemote : Bool) (address : AddrInfo)
    (rest : List AddrInfo) :
    self.tryAddresses hasRemote (address :: rest) = (do
      let kept ← attempt self.options hasRemote address
      match kept with
      | none => self.tryAddresses hasRemote rest
      | some candidate => pure (.ok, self.keep hasRemote candidate)) := by
  rw [tryAddresses, attempt]
  simp only [bind_assoc]
  refine congrArg _ (funext fun answer => ?_)
  split
  · rfl
  · rw [bind_assoc]
    refine congrArg _ (funext fun nonBlocking => ?_)
    split
    · rfl
    · rw [bind_assoc]
      refine congrArg _ (funext fun bound => ?_)
      split
      · rfl
      · cases hasRemote with
        | false => rfl
        | true =>
            refine congrArg (Program.call _) (funext fun connected => ?_)
            cases connected <;> rfl

/-- The list that `Open` walks, and later frees. -/
def resolveWalked (options : UdpTransportOptions) : OsProgram (Option AddressList) :=
  if options.remoteHost.isEmpty then
    resolveUdpAddress options.localHost options.localPort .unspec true
  else
    resolveUdpAddress options.remoteHost options.remotePort .unspec false

section Calls

variable {allowed : OsCall → Prop}

theorem resolveUdpAddress_only (resolves : ∀ node service hints,
    allowed (.getaddrinfo node service hints)) (host : String) (port : UInt16) (family : Family)
    (passive : Bool) : (resolveUdpAddress host port family passive).Only allowed := by
  refine ⟨resolves _ _ _, fun answer => ?_⟩
  cases answer with
  | none => trivial
  | some addresses => trivial

theorem resolveWalked_only
    (resolves : ∀ node service hints, allowed (.getaddrinfo node service hints))
    (options : UdpTransportOptions) : (resolveWalked options).Only allowed := by
  unfold resolveWalked
  split <;> exact resolveUdpAddress_only resolves _ _ _ _

theorem bindFirst_only {candidate : NativeSocket} (binds : ∀ addr, allowed (.bind candidate addr))
    (addresses : List AddrInfo) : (bindFirst candidate addresses).Only allowed := by
  induction addresses with
  | nil => trivial
  | cons address rest ih =>
      rw [bindFirst, Program.ask_bind, Program.only_call_iff]
      refine ⟨binds _, fun (result : Int) => ?_⟩
      split
      · trivial
      · exact ih

theorem bindLocal_only {candidate : NativeSocket}
    (resolves : ∀ node service hints, allowed (.getaddrinfo node service hints))
    (binds : ∀ addr, allowed (.bind candidate addr)) (frees : ∀ list, allowed (.freeaddrinfo list))
    (options : UdpTransportOptions) (family : Family) :
    (bindLocal options candidate family).Only allowed := by
  apply (resolveUdpAddress_only resolves _ _ _ _).bind
  intro localAddresses
  cases localAddresses with
  | none => trivial
  | some addresses =>
      exact (bindFirst_only binds addresses.entries).bind fun _ => ⟨frees _, fun _ => trivial⟩

end Calls

/-- The calls that look up addresses and set up or give back a socket. -/
def Prepares : OsCall → Prop
  | .getaddrinfo _ _ _ | .freeaddrinfo _ | .socket _ _ _ | .fcntlGetFlags _
  | .fcntlSetNonBlock _ _ | .connect _ _ | .bind _ _ | .close _ => True
  | _ => False

private theorem attempt_only (options : UdpTransportOptions) (hasRemote : Bool)
    (address : AddrInfo) : (attempt options hasRemote address).Only Prepares := by
  have givenUp (candidate : NativeSocket) : (do
      closeNativeSocket candidate
      pure (none : Option NativeSocket)).Only Prepares := ⟨trivial, fun _ => trivial⟩
  rw [attempt, Program.ask_bind, Program.only_call_iff]
  refine ⟨trivial, fun answer => ?_⟩
  dsimp only
  split
  · trivial
  · apply (setNonBlocking_only trivial fun _ => trivial).bind
    intro nonBlocking
    split
    · exact givenUp _
    · apply (bindLocal_only (fun _ _ _ => trivial) (fun _ => trivial) (fun _ => trivial) _ _).bind
      intro bound
      split
      · exact givenUp _
      · cases hasRemote with
        | false => trivial
        | true =>
            refine ⟨trivial, fun connected => ?_⟩
            cases connected with
            | error => exact givenUp _
            | ok => trivial

theorem tryAddresses_only (self : UdpTransport) (hasRemote : Bool) (addresses : List AddrInfo) :
    (self.tryAddresses hasRemote addresses).Only Prepares := by
  induction addresses with
  | nil => trivial
  | cons address rest ih =>
      rw [tryAddresses_cons]
      apply (attempt_only _ _ _).bind
      intro kept
      cases kept with
      | none => exact ih
      | some candidate => trivial

def hasRemote (options : UdpTransportOptions) : Bool := !options.remoteHost.isEmpty

def walk (self : UdpTransport) :
    Option AddressList → OsProgram (TransportStatus × UdpTransport)
  | none => pure (.openFailed, self)
  | some addresses => do
      let outcome ← self.tryAddresses (hasRemote self.options) addresses.entries
      os (.freeaddrinfo addresses)
      pure outcome

/-- An `Open` is refused without a call, or walks one list of addresses. -/
inductive OpenForm (self : UdpTransport) : OsProgram (TransportStatus × UdpTransport) → Prop where
  | alreadyOpen : self.open_ = true → OpenForm self (.done (.alreadyOpen, self))
  | invalid : self.open_ = false → OpenForm self (.done (.invalidArgument, self))
  | walking : self.open_ = false → OpenForm self (resolveWalked self.options >>= self.walk)

theorem open_form (self : UdpTransport) : self.OpenForm self.open := by
  unfold UdpTransport.open
  split
  · next opened => exact .alreadyOpen opened
  · next closed =>
    rw [Bool.not_eq_true] at closed
    split
    · exact .invalid closed
    · refine cast (congrArg self.OpenForm ?_) (OpenForm.walking closed)
      unfold resolveWalked walk hasRemote
      cases remote : self.options.remoteHost.isEmpty with
      | true => exact congrArg _ (funext fun walked => by cases walked <;> rfl)
      | false => exact congrArg _ (funext fun walked => by cases walked <;> rfl)

theorem open_only (self : UdpTransport) : self.open.Only Prepares := by
  have form := self.open_form
  generalize self.open = program at form
  cases form with
  | alreadyOpen => trivial
  | invalid => trivial
  | walking =>
      refine Program.Only.bind ?_ fun walked => ?_
      · exact resolveWalked_only (fun _ _ _ => trivial) _
      · cases walked with
        | none => trivial
        | some addresses =>
            exact (tryAddresses_only _ _ _).bind fun _ => ⟨trivial, fun _ => trivial⟩

/-- What an `Open` returns, and the transport it leaves. -/
inductive Opened (self : UdpTransport) : TransportStatus × UdpTransport → Prop where
  | alreadyOpen : self.open_ = true → Opened self (.alreadyOpen, self)
  | refused {status} : self.open_ = false → status = .invalidArgument ∨ status = .openFailed →
      Opened self (status, self)
  | kept {candidate} : self.open_ = false →
      Opened self (.ok, self.keep (hasRemote self.options) candidate)

private theorem tryAddresses_opened {self : UdpTransport} (closed : self.open_ = false)
    (addresses : List AddrInfo) :
    (self.tryAddresses (hasRemote self.options) addresses).Ensures fun _ => self.Opened := by
  induction addresses with
  | nil => exact Program.ensures_done_iff.mpr (.refused closed (.inr rfl))
  | cons address rest ih =>
      rw [tryAddresses_cons, Program.ensures_bind_iff]
      intro _ kept _
      cases kept with
      | none => exact ih
      | some candidate => exact Program.ensures_done_iff.mpr (.kept closed)

theorem open_opened (self : UdpTransport) : self.open.Ensures fun _ => self.Opened := by
  have form := self.open_form
  generalize self.open = program at form
  cases form with
  | alreadyOpen opened => exact Program.ensures_done_iff.mpr (.alreadyOpen opened)
  | invalid closed => exact Program.ensures_done_iff.mpr (.refused closed (.inl rfl))
  | walking closed =>
      rw [Program.ensures_bind_iff]
      intro _ walked _
      cases walked with
      | none => exact Program.ensures_done_iff.mpr (.refused closed (.inr rfl))
      | some addresses =>
          rw [walk, Program.ensures_bind_iff]
          refine (tryAddresses_opened closed addresses.entries).mono fun _ outcome opened => ?_
          exact Program.ensures_call_iff.mpr fun _ => Program.ensures_done_iff.mpr opened

variable {World : Type} {environment : Environment OsCall OsCall.Answer World}
  {guarantee : Guarantee OsCall World}

/-- What every candidate that is given up leaves as it was holds while the loop
goes on. -/
theorem meets_tryAddresses {self : UdpTransport} {hasRemote : Bool} {addresses : List AddrInfo}
    (Searching : World → Prop) {post : World → TransportStatus × UdpTransport → Prop}
    (each : ∀ address ∈ addresses, ∀ world, Searching world →
      (attempt self.options hasRemote address).Meets environment guarantee
        (fun after kept => kept.elim (Searching after)
          fun candidate => post after (.ok, self.keep hasRemote candidate)) world)
    (exhausted : ∀ world, Searching world → post world (.openFailed, self))
    {world : World} (searching : Searching world) :
    (self.tryAddresses hasRemote addresses).Meets environment guarantee post world := by
  induction addresses generalizing world with
  | nil => exact exhausted world searching
  | cons address rest ih =>
      obtain ⟨first, others⟩ := List.forall_mem_cons.mp each
      rw [tryAddresses_cons, Program.meets_bind_iff]
      apply (first world searching).mono
      intro after kept held
      cases kept with
      | none => exact ih others held
      | some candidate => exact held

end DlmsTransport.Transport.UdpTransport
