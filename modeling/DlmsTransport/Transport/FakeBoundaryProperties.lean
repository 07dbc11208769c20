import DlmsTransport.Interaction.Session
import DlmsTransport.Transport.Fakes

/-! What a run of the scripted datagram transport does with the datagrams it was
given: each is delivered whole, once and in order. -/

set_option autoImplicit false

namespace DlmsTransport.Transport

open Interaction Posix

/-- The fake makes no OS call. -/
def FakeDatagramTransport.invoke (self : FakeDatagramTransport) (method : FakeDatagramMethod) :
    OsProgram (FakeDatagramReply × FakeDatagramTransport) :=
  pure (self.operate method)

abbrev FakeDatagramInvocation :=
  Invocation FakeDatagramTransport FakeDatagramMethod OsCall OsCall.Answer FakeDatagramReply

theorem FakeDatagramTransport.invoke_runs {self after : FakeDatagramTransport}
    {method : FakeDatagramMethod} {trace : OsTrace} {reply : FakeDatagramReply}
    (run : (self.invoke method).Runs trace (reply, after)) :
    self.operate method = (reply, after) :=
  (Program.runs_done_iff.mp run).2

namespace FakeDatagramTransport

/-- The datagram that a call scripts. -/
def scriptedBy (call : FakeDatagramInvocation) : Option (List UInt8) :=
  match call.method with
  | .scriptReceive bytes => some bytes
  | _ => none

/-- The datagram that a call delivers: that of a receive that returns `Ok`. -/
def deliveredBy (call : FakeDatagramInvocation) : Option (List UInt8) :=
  match call.reply with
  | .datagram (.read reply) => if reply.status = .ok then some reply.output else none
  | _ => none

/-- The datagram that a call sends: the input of a `Send` that returns `Ok`. -/
def sentBy (call : FakeDatagramInvocation) : Option (List UInt8) :=
  match call.method with
  | .datagram (.send input) =>
      if call.reply = .datagram (.status .ok) then some input.data else none
  | _ => none

def scripted (history : List FakeDatagramInvocation) : List (List UInt8) :=
  history.filterMap scriptedBy

def delivered (history : List FakeDatagramInvocation) : List (List UInt8) :=
  history.filterMap deliveredBy

def sent (history : List FakeDatagramInvocation) : List (List UInt8) :=
  history.filterMap sentBy

variable {self : FakeDatagramTransport}

/-- A receive makes nothing of the queue, or takes the whole of its head. -/
inductive ReceiveOutcome (self : FakeDatagramTransport) (output : OutputBuffer) :
    ReadReply → FakeDatagramTransport → Prop where
  | closed : self.open_ = false → ReceiveOutcome self output (.empty .notOpen) self
  | invalid : self.open_ = true → output.invalid = true →
      ReceiveOutcome self output (.empty .invalidArgument) self
  | failed : self.open_ = true → output.invalid = false → self.nextReceiveStatus_ ≠ .ok →
      ReceiveOutcome self output (.empty self.nextReceiveStatus_)
        { self with nextReceiveStatus_ := .ok }
  | starved : self.open_ = true → output.invalid = false → self.nextReceiveStatus_ = .ok →
      self.receiveDatagrams_ = [] → ReceiveOutcome self output (.empty .wouldBlock) self
  | tooSmall {datagram rest} : self.open_ = true → output.invalid = false →
      self.nextReceiveStatus_ = .ok → self.receiveDatagrams_ = datagram :: rest →
      output.size < datagram.length →
      ReceiveOutcome self output (.empty .outputBufferTooSmall) self
  | taken {datagram rest} : self.open_ = true → output.invalid = false →
      self.nextReceiveStatus_ = .ok → self.receiveDatagrams_ = datagram :: rest →
      datagram.length ≤ output.size →
      ReceiveOutcome self output ⟨.ok, datagram.length, datagram⟩
        { self with receiveDatagrams_ := rest }

theorem receive_outcome (self : FakeDatagramTransport) (output : OutputBuffer) :
    self.ReceiveOutcome output (self.receive output).1 (self.receive output).2 := by
  unfold receive
  split
  · next closed => exact .closed closed
  · next opened =>
    rw [Bool.not_eq_false] at opened
    split
    · next invalid => exact .invalid opened invalid
    · next valid =>
      rw [Bool.not_eq_true] at valid
      split
      · next failing => exact .failed opened valid failing
      · next unscripted =>
        rw [not_not] at unscripted
        split
        · next empty => exact .starved opened valid unscripted empty
        · next datagram rest queued =>
          split
          · next small => exact .tooSmall opened valid unscripted queued small
          · next large => exact .taken opened valid unscripted queued (Nat.not_lt.mp large)

/-- A send is refused, fails as scripted or is captured. -/
inductive SendOutcome (self : FakeDatagramTransport) (input : InputBuffer) :
    TransportStatus → FakeDatagramTransport → Prop where
  | closed : self.open_ = false → SendOutcome self input .notOpen self
  | invalid : self.open_ = true → input.invalid = true →
      SendOutcome self input .invalidArgument self
  | failed : self.open_ = true → input.invalid = false → self.nextSendStatus_ ≠ .ok →
      SendOutcome self input self.nextSendStatus_ { self with nextSendStatus_ := .ok }
  | captured : self.open_ = true → input.invalid = false → self.nextSendStatus_ = .ok →
      SendOutcome self input .ok { self with sentDatagrams_ := self.sentDatagrams_ ++ [input.data] }

theorem send_outcome (self : FakeDatagramTransport) (input : InputBuffer) :
    self.SendOutcome input (self.send input).1 (self.send input).2 := by
  unfold send
  split
  · next closed => exact .closed closed
  · next opened =>
    rw [Bool.not_eq_false] at opened
    split
    · next invalid => exact .invalid opened invalid
    · next valid =>
      rw [Bool.not_eq_true] at valid
      split
      · next failing => exact .failed opened valid failing
      · next unscripted =>
        rw [not_not] at unscripted
        rw [InputBuffer.copy_eq_data valid]
        exact .captured opened valid unscripted

/-- What a call does to the fake. -/
inductive Outcome (self : FakeDatagramTransport) :
    FakeDatagramMethod → FakeDatagramReply → FakeDatagramTransport → Prop where
  | received {output reply after} : self.ReceiveOutcome output reply after →
      Outcome self (.datagram (.receive output)) (.datagram (.read reply)) after
  | sent {input status after} : self.SendOutcome input status after →
      Outcome self (.datagram (.send input)) (.datagram (.status status)) after
  | opened {status open_} :
      Outcome self (.datagram .open) (.datagram (.status status)) { self with open_ }
  | closed : Outcome self (.datagram .close) (.datagram (.status .ok)) { self with open_ := false }
  | asked : Outcome self (.datagram .isOpen) (.datagram (.flag self.open_)) self
  | scriptReceive {bytes} : Outcome self (.scriptReceive bytes) .done
      { self with receiveDatagrams_ := self.receiveDatagrams_ ++ [bytes] }
  | scriptNextReceiveStatus {status} : Outcome self (.scriptNextReceiveStatus status) .done
      { self with nextReceiveStatus_ := status }
  | scriptNextSendStatus {status} : Outcome self (.scriptNextSendStatus status) .done
      { self with nextSendStatus_ := status }
  | sentDatagrams : Outcome self .sentDatagrams (.sentDatagrams self.sentDatagrams_) self
  | reset : Outcome self .reset .done .new

theorem operate_outcome (self : FakeDatagramTransport) (method : FakeDatagramMethod) :
    self.Outcome method (self.operate method).1 (self.operate method).2 := by
  cases method with
  | scriptReceive => exact .scriptReceive
  | scriptNextReceiveStatus => exact .scriptNextReceiveStatus
  | scriptNextSendStatus => exact .scriptNextSendStatus
  | sentDatagrams => exact .sentDatagrams
  | reset => exact .reset
  | datagram method =>
      cases method with
      | receive output => exact .received (self.receive_outcome output)
      | send input => exact .sent (self.send_outcome input)
      | close => exact .closed
      | isOpen => exact .asked
      | «open» =>
          rw [operate, perform, FakeDatagramTransport.open]
          split
          · exact .opened
          · exact .opened

/-- The call did what the fake does. -/
def Performed (call : FakeDatagramInvocation) : Prop :=
  call.before.Outcome call.method call.reply call.after

theorem performed_of_mem {start final : FakeDatagramTransport}
    {history : List FakeDatagramInvocation}
    (session : Session FakeDatagramTransport.invoke start history final)
    {call : FakeDatagramInvocation} (member : call ∈ history) : Performed call := by
  have same := invoke_runs (session.runs_of_mem member)
  have outcome := call.before.operate_outcome call.method
  rwa [same] at outcome

section Calls

variable {call : FakeDatagramInvocation}

/-- What a call other than `Reset` does to the queue. -/
theorem queue_step (performed : Performed call) (kept : call.method ≠ .reset) :
    (deliveredBy call).toList ++ call.after.receiveDatagrams_ =
      call.before.receiveDatagrams_ ++ (scriptedBy call).toList := by
  obtain ⟨before, method, trace, reply, after⟩ := call
  dsimp only [Performed] at performed kept ⊢
  cases performed with
  | opened | closed | asked | scriptReceive | scriptNextReceiveStatus | scriptNextSendStatus
  | sentDatagrams => simp [scriptedBy, deliveredBy]
  | sent outcome => cases outcome <;> simp [scriptedBy, deliveredBy]
  | reset => exact absurd rfl kept
  | received outcome =>
      cases outcome with
      | closed | invalid | starved | tooSmall => simp [scriptedBy, deliveredBy]
      | failed _ _ failing => simp [scriptedBy, deliveredBy, failing]
      | taken _ _ _ queued => simp [scriptedBy, deliveredBy, queued]

theorem sent_step (performed : Performed call) (kept : call.method ≠ .reset) :
    call.after.sentDatagrams_ = call.before.sentDatagrams_ ++ (sentBy call).toList := by
  obtain ⟨before, method, trace, reply, after⟩ := call
  dsimp only [Performed] at performed kept ⊢
  cases performed with
  | opened | closed | asked | scriptReceive | scriptNextReceiveStatus | scriptNextSendStatus
  | sentDatagrams => simp [sentBy]
  | reset => exact absurd rfl kept
  | received outcome => cases outcome <;> simp [sentBy]
  | sent outcome =>
      cases outcome with
      | closed | invalid | captured => simp [sentBy]
      | failed _ _ failing => simp [sentBy, failing]

end Calls

section Runs

variable {start final : FakeDatagramTransport} {history : List FakeDatagramInvocation}
  (session : Session FakeDatagramTransport.invoke start history final)
  (unreset : ∀ call ∈ history, call.method ≠ .reset)

include session unreset

private theorem performed_kept (call : FakeDatagramInvocation) (member : call ∈ history) :
    Performed call ∧ call.method ≠ .reset :=
  ⟨performed_of_mem session member, unreset call member⟩

theorem queue_of_session :
    delivered history ++ final.receiveDatagrams_ = start.receiveDatagrams_ ++ scripted history := by
  apply session.conserves deliveredBy scriptedBy receiveDatagrams_
  intro call member
  obtain ⟨performed, kept⟩ := performed_kept session unreset call member
  exact queue_step performed kept

theorem sent_of_session : final.sentDatagrams_ = start.sentDatagrams_ ++ sent history := by
  have conserved := session.conserves (fun _ => none) sentBy sentDatagrams_ ?_
  · simpa [sent] using conserved
  · intro call member
    obtain ⟨performed, kept⟩ := performed_kept session unreset call member
    exact sent_step performed kept

theorem head_of_session (nothing : ∀ call ∈ history, deliveredBy call = none)
    {head : List UInt8} (first : start.receiveDatagrams_.head? = some head) :
    final.receiveDatagrams_.head? = some head := by
  have conserved := queue_of_session session unreset
  rw [delivered, List.filterMap_eq_nil_iff.mpr nothing, List.nil_append] at conserved
  rw [conserved, List.head?_append, first]
  rfl

end Runs

/-- The checks of a receive that no scripted status answers. -/
def Unscripted (self : FakeDatagramTransport) (output : OutputBuffer) : Prop :=
  self.isOpen = true ∧ output.invalid = false ∧ self.nextReceiveStatus_ = .ok

/-- The head of the queue does not fit. -/
def TooSmall (self : FakeDatagramTransport) (output : OutputBuffer) : Prop :=
  self.Unscripted output ∧
    ∃ head, self.receiveDatagrams_.head? = some head ∧ output.size < head.length

section Calls

variable {call : FakeDatagramInvocation} {output : OutputBuffer}

/-- The call returned that the buffer is too small, and did nothing. -/
def Rejected (call : FakeDatagramInvocation) : Prop :=
  call.reply = .datagram (.read (.empty .outputBufferTooSmall)) ∧ call.after = call.before

theorem receive_performed (performed : Performed call)
    (receives : call.method = .datagram (.receive output)) :
    ∃ reply, call.reply = .datagram (.read reply) ∧
      call.before.ReceiveOutcome output reply call.after := by
  obtain ⟨before, method, trace, reply, after⟩ := call
  dsimp only [Performed] at performed receives ⊢
  subst receives
  cases performed with
  | received outcome => exact ⟨_, rfl, outcome⟩

theorem rejected_iff (performed : Performed call)
    (receives : call.method = .datagram (.receive output)) :
    Rejected call ↔ call.before.TooSmall output := by
  obtain ⟨reply, replied, outcome⟩ := receive_performed performed receives
  obtain ⟨before, method, trace, answer, after⟩ := call
  dsimp only at replied outcome
  subst replied
  rw [Rejected, TooSmall, Unscripted, isOpen]
  cases outcome with
  | closed closed => simp [closed, ReadReply.empty]
  | invalid _ invalid => simp [invalid, ReadReply.empty]
  | failed _ _ failing =>
      have consumed : { before with nextReceiveStatus_ := .ok } ≠ before := by
        intro same
        exact failing (congrArg nextReceiveStatus_ same).symm
      simp [consumed, failing]
  | starved _ _ _ empty => simp [empty, ReadReply.empty]
  | tooSmall opened valid unscripted queued small =>
      simp [opened, valid, unscripted, queued, small]
  | taken _ _ _ queued fits => simp [ReadReply.empty, queued, fits]

/-- A scripted status may be that of a buffer that is too small. -/
theorem outputBufferTooSmall_iff (performed : Performed call)
    (receives : call.method = .datagram (.receive output)) {reply : ReadReply}
    (replied : call.reply = .datagram (.read reply)) :
    reply.status = .outputBufferTooSmall ↔
      call.before.TooSmall output ∨ call.before.isOpen = true ∧ output.invalid = false ∧
        call.before.nextReceiveStatus_ = .outputBufferTooSmall := by
  obtain ⟨same, answered, outcome⟩ := receive_performed performed receives
  obtain ⟨before, method, trace, answer, after⟩ := call
  dsimp only at replied answered outcome ⊢
  subst replied
  cases answered
  rw [TooSmall, Unscripted, isOpen]
  cases outcome with
  | closed closed => simp [closed]
  | invalid _ invalid => simp [invalid]
  | failed opened valid failing => simp [opened, valid, failing]
  | starved _ _ unscripted empty => simp [unscripted, empty]
  | tooSmall opened valid unscripted queued small =>
      simp [opened, valid, unscripted, queued, small]
  | taken _ _ unscripted queued fits => simp [unscripted, queued, fits]

/-- A pending status is returned as it was scripted, and used up. -/
theorem scripted_consumed (performed : Performed call)
    (receives : call.method = .datagram (.receive output)) (opened : call.before.isOpen = true)
    (valid : output.invalid = false) (pending : call.before.nextReceiveStatus_ ≠ .ok) :
    call.reply = .datagram (.read (.empty call.before.nextReceiveStatus_)) ∧
      call.after = { call.before with nextReceiveStatus_ := .ok } := by
  obtain ⟨reply, replied, outcome⟩ := receive_performed performed receives
  rw [replied]
  obtain ⟨before, method, trace, answer, after⟩ := call
  dsimp only at opened pending outcome ⊢
  cases outcome with
  | closed closed => exact absurd (opened.symm.trans closed) (by decide)
  | invalid _ invalid => exact absurd (valid.symm.trans invalid) (by decide)
  | failed => exact ⟨rfl, rfl⟩
  | starved _ _ unscripted | tooSmall _ _ unscripted | taken _ _ unscripted =>
      exact absurd unscripted pending

theorem delivered_whole (performed : Performed call) {reply : ReadReply}
    (replied : call.reply = .datagram (.read reply)) (succeeded : reply.status = .ok) :
    reply.bytesRead = reply.output.length ∧
      call.before.receiveDatagrams_ = reply.output :: call.after.receiveDatagrams_ := by
  obtain ⟨before, method, trace, answer, after⟩ := call
  dsimp only [Performed] at performed replied ⊢
  subst replied
  cases performed with
  | received outcome =>
      cases outcome with
      | closed | invalid | starved | tooSmall => cases succeeded
      | failed _ _ failing => exact absurd succeeded failing
      | taken _ _ _ queued => exact ⟨rfl, queued⟩

/-- A receive with room for the head delivers it. -/
theorem delivers_head (performed : Performed call)
    (receives : call.method = .datagram (.receive output))
    (unscripted : call.before.Unscripted output) {head : List UInt8}
    (first : call.before.receiveDatagrams_.head? = some head) (fits : head.length ≤ output.size) :
    call.reply = .datagram (.read ⟨.ok, head.length, head⟩) := by
  obtain ⟨opened, valid, nothing⟩ := unscripted
  obtain ⟨reply, replied, outcome⟩ := receive_performed performed receives
  rw [replied]
  obtain ⟨before, method, trace, answer, after⟩ := call
  dsimp only at opened nothing first outcome
  cases outcome with
  | closed closed => exact absurd (opened.symm.trans closed) (by decide)
  | invalid _ invalid => exact absurd (valid.symm.trans invalid) (by decide)
  | failed _ _ failing => exact absurd nothing failing
  | starved _ _ _ empty => simp [empty] at first
  | tooSmall _ _ _ queued small =>
      obtain rfl : _ = head := by simpa [queued] using first
      exact absurd small fits.not_gt
  | taken _ _ _ queued =>
      obtain rfl : _ = head := by simpa [queued] using first
      rfl

end Calls

/-- What a run of the fake since construction or a `Reset` owes to its user. -/
structure KeepsBoundaries (history : List FakeDatagramInvocation)
    (final : FakeDatagramTransport) : Prop where
  conserved : delivered history ++ final.receiveDatagrams_ = scripted history
  whole : ∀ call ∈ history, ∀ reply, call.reply = .datagram (.read reply) → reply.status = .ok →
    reply.bytesRead = reply.output.length ∧
      call.before.receiveDatagrams_ = reply.output :: call.after.receiveDatagrams_
  rejected : ∀ call ∈ history, ∀ output, call.method = .datagram (.receive output) →
    (Rejected call ↔ call.before.TooSmall output)
  tooSmall : ∀ call ∈ history, ∀ output reply, call.method = .datagram (.receive output) →
    call.reply = .datagram (.read reply) →
    (reply.status = .outputBufferTooSmall ↔
      call.before.TooSmall output ∨ call.before.isOpen = true ∧ output.invalid = false ∧
        call.before.nextReceiveStatus_ = .outputBufferTooSmall)
  consumed : ∀ call ∈ history, ∀ output, call.method = .datagram (.receive output) →
    call.before.isOpen = true → output.invalid = false → call.before.nextReceiveStatus_ ≠ .ok →
    call.reply = .datagram (.read (.empty call.before.nextReceiveStatus_)) ∧
      call.after = { call.before with nextReceiveStatus_ := .ok }
  retried : ∀ earlier refusal middle retry later small large head,
    history = earlier ++ refusal :: middle ++ retry :: later →
    refusal.method = .datagram (.receive small) → Rejected refusal →
    refusal.before.receiveDatagrams_.head? = some head →
    (∀ between ∈ middle, deliveredBy between = none) →
    retry.method = .datagram (.receive large) → retry.before.Unscripted large →
    head.length ≤ large.size → retry.reply = .datagram (.read ⟨.ok, head.length, head⟩)
  retriedAtOnce : ∀ earlier refusal retry later small large,
    history = earlier ++ refusal :: retry :: later →
    refusal.method = .datagram (.receive small) → Rejected refusal →
    retry.method = .datagram (.receive large) → large.invalid = false →
    ∃ head, refusal.before.receiveDatagrams_.head? = some head ∧
      (head.length ≤ large.size → retry.reply = .datagram (.read ⟨.ok, head.length, head⟩))
  captured : final.sentDatagrams = sent history
  capturedSoFar : ∀ earlier call later, history = earlier ++ call :: later →
    call.method = .sentDatagrams → call.reply = .sentDatagrams (sent earlier)

section Boundaries

variable {final : FakeDatagramTransport} {history : List FakeDatagramInvocation}
  (session : Session FakeDatagramTransport.invoke .new history final)
  (unreset : ∀ call ∈ history, call.method ≠ .reset)

include session unreset

theorem retry_delivers {earlier middle later : List FakeDatagramInvocation}
    {refusal retry : FakeDatagramInvocation} {large : OutputBuffer}
    {head : List UInt8} (split : history = earlier ++ refusal :: middle ++ retry :: later)
    (rejected : Rejected refusal)
    (first : refusal.before.receiveDatagrams_.head? = some head)
    (nothing : ∀ between ∈ middle, deliveredBy between = none)
    (retries : retry.method = .datagram (.receive large))
    (unscripted : retry.before.Unscripted large) (fits : head.length ≤ large.size) :
    retry.reply = .datagram (.read ⟨.ok, head.length, head⟩) := by
  rw [List.append_assoc, List.cons_append] at split
  subst split
  have performed : Performed retry := performed_of_mem session (by simp)
  have between := session.through.2.2.through.1
  rw [rejected.2] at between
  refine delivers_head performed retries unscripted ?_ fits
  apply head_of_session between _ nothing first
  intro call member
  exact unreset call (by simp [member])

theorem keepsBoundaries_of_session : KeepsBoundaries history final where
  conserved := queue_of_session session unreset
  whole call member _ := delivered_whole (performed_of_mem session member)
  rejected call member _ := rejected_iff (performed_of_mem session member)
  tooSmall call member _ _ receives :=
    outputBufferTooSmall_iff (performed_of_mem session member) receives
  consumed call member _ := scripted_consumed (performed_of_mem session member)
  retried _ _ _ _ _ _ _ _ split _ := retry_delivers session unreset split
  retriedAtOnce := by
    intro earlier refusal retry later small large split receives rejected retries valid
    have member : refusal ∈ history := by simp [split]
    have tooSmall := (rejected_iff (performed_of_mem session member) receives).mp rejected
    obtain ⟨⟨opened, _, unscripted⟩, head, first, _⟩ := tooSmall
    have same : retry.before = refusal.before := by
      rw [split] at session
      cases session.through.2.2 with
      | cons => exact rejected.2
    have apart : history = earlier ++ refusal :: [] ++ retry :: later := by simp [split]
    refine ⟨head, first, ?_⟩
    apply retry_delivers session unreset apart rejected first (by simp) retries
    rw [same]
    exact ⟨opened, valid, unscripted⟩
  captured := sent_of_session session unreset
  capturedSoFar := by
    intro earlier call later split asks
    subst split
    have performed := performed_of_mem session (List.mem_append_right earlier List.mem_cons_self)
    have captured := sent_of_session session.through.1
      fun invocation member => unreset invocation (List.mem_append_left _ member)
    obtain ⟨before, method, trace, reply, after⟩ := call
    dsimp only [Performed] at asks performed captured
    subst asks
    cases performed with
    | sentDatagrams => exact congrArg FakeDatagramReply.sentDatagrams captured

end Boundaries

/-- `back` is what followed construction or the last `Reset`. -/
structure SinceReset (history back : List FakeDatagramInvocation) : Prop where
  begins : history = back ∨
    ∃ front reset, history = front ++ reset :: back ∧ reset.method = .reset
  unreset : ∀ call ∈ back, call.method ≠ .reset

theorem SinceReset.session {final : FakeDatagramTransport}
    {history back : List FakeDatagramInvocation} (since : SinceReset history back)
    (session : Session FakeDatagramTransport.invoke .new history final) :
    Session FakeDatagramTransport.invoke .new back final := by
  apply session.since_restart (· = .reset) _ since.begins
  intro before method trace reply after reset run
  subst reset
  exact (congrArg Prod.snd (invoke_runs run)).symm

/-- The scripted datagram transport delivers each datagram whole, once and in order, and
refuses one for its size without losing it. -/
theorem keepsBoundaries {final : FakeDatagramTransport} {history back : List FakeDatagramInvocation}
    (session : Session FakeDatagramTransport.invoke .new history final)
    (since : SinceReset history back) : KeepsBoundaries back final :=
  keepsBoundaries_of_session (since.session session) since.unreset

/-- The calls of a test, in order. -/
def record (self : FakeDatagramTransport) : List FakeDatagramMethod → List FakeDatagramInvocation
  | [] => []
  | method :: rest =>
      ⟨self, method, [], (self.operate method).1, (self.operate method).2⟩ ::
        (self.operate method).2.record rest

def operateAll (self : FakeDatagramTransport) (methods : List FakeDatagramMethod) :
    FakeDatagramTransport :=
  methods.foldl (fun fake method => (fake.operate method).2) self

theorem recorded (self : FakeDatagramTransport) (methods : List FakeDatagramMethod) :
    Session invoke self (self.record methods) (self.operateAll methods) := by
  induction methods generalizing self with
  | nil => exact .nil
  | cons method rest ih => exact .cons .refl (ih _)

/-- A datagram refused for its size and then read after a scripted timeout and a
reopening, an empty one, and one left in the queue; the second send fails as scripted. -/
def meterTest : List FakeDatagramMethod :=
  [.datagram .open, .scriptReceive [1, 2, 3], .scriptReceive [], .scriptReceive [4],
    .datagram (.receive ⟨false, 2⟩), .scriptNextReceiveStatus .timeout, .datagram .close,
    .datagram (.receive ⟨false, 3⟩), .datagram .open, .datagram (.receive ⟨false, 3⟩),
    .datagram (.receive ⟨false, 3⟩), .datagram (.receive ⟨true, 0⟩),
    .datagram (.send (.bytes [5])), .scriptNextSendStatus .writeFailed,
    .datagram (.send (.bytes [6])), .datagram (.send (.null 0)), .sentDatagrams]

theorem keepsBoundaries_meter :
    KeepsBoundaries (new.record meterTest)
      (new.operateAll (.scriptReceive [9] :: .reset :: meterTest)) :=
  keepsBoundaries (new.recorded (.scriptReceive [9] :: .reset :: meterTest))
    ⟨.inr ⟨[_], _, rfl, rfl⟩, by decide⟩

/-- A receive answers that the buffer is too small only where nothing is scripted. -/
def TooSmallOnlyForSize (history : List FakeDatagramInvocation) : Prop :=
  ∀ call ∈ history, ∀ output reply, call.method = .datagram (.receive output) →
    call.reply = .datagram (.read reply) →
    (reply.status = .outputBufferTooSmall ↔ call.before.TooSmall output)

/-- A test scripts the status itself, for a queue that is empty. -/
def scriptedTooSmall : List FakeDatagramMethod :=
  [.datagram .open, .scriptNextReceiveStatus .outputBufferTooSmall,
    .datagram (.receive ⟨false, 2⟩)]

theorem scriptedTooSmall_returned :
    Session invoke .new (new.record scriptedTooSmall) (new.operateAll scriptedTooSmall) ∧
      SinceReset (new.record scriptedTooSmall) (new.record scriptedTooSmall) ∧
      ¬ TooSmallOnlyForSize (new.record scriptedTooSmall) := by
  refine ⟨new.recorded scriptedTooSmall, ⟨.inl rfl, by decide⟩, ?_⟩
  intro only
  have last := only _ (.tail _ (.tail _ (.head _))) _ _ rfl rfl
  obtain ⟨⟨_, _, unscripted⟩, _⟩ := last.mp rfl
  cases unscripted

end FakeDatagramTransport

end DlmsTransport.Transport
