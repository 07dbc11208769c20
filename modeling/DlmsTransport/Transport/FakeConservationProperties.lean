import DlmsTransport.Interaction.ChunkQueue
import DlmsTransport.Interaction.Session
import DlmsTransport.Transport.Fakes

/-! What a run of the scripted byte stream does with the bytes and the statuses it
was given. -/

set_option autoImplicit false

namespace DlmsTransport.Transport

open Interaction Posix

/-- The fake makes no OS call. -/
def FakeByteStream.invoke (self : FakeByteStream) (method : FakeMethod) :
    OsProgram (FakeReply × FakeByteStream) :=
  pure (self.operate method)

abbrev FakeInvocation := Invocation FakeByteStream FakeMethod OsCall OsCall.Answer FakeReply

theorem FakeByteStream.invoke_runs {self after : FakeByteStream} {method : FakeMethod}
    {trace : OsTrace} {reply : FakeReply} (run : (self.invoke method).Runs trace (reply, after)) :
    self.operate method = (reply, after) :=
  (Program.runs_done_iff.mp run).2

/-- The chunk that a call scripts. -/
def scriptedBy (invocation : FakeInvocation) : Option (List UInt8) :=
  match invocation.method with
  | .scriptRead bytes => some bytes
  | _ => none

/-- The bytes that a call delivers: those of a read that returns `Ok`. -/
def deliveredBy (invocation : FakeInvocation) : List UInt8 :=
  match invocation.reply with
  | .stream (.read reply) => if reply.status = .ok then reply.output else []
  | _ => []

/-- The bytes that a call writes: the input of a `WriteAll` that returns `Ok`. -/
def writtenBy (invocation : FakeInvocation) : Option (List UInt8) :=
  match invocation.method with
  | .stream (.writeAll input _) =>
      if invocation.reply = .stream (.status .ok) then some input.data else none
  | _ => none

def scripted (history : List FakeInvocation) : List (List UInt8) :=
  history.filterMap scriptedBy

def delivered (history : List FakeInvocation) : List UInt8 :=
  history.flatMap deliveredBy

def written (history : List FakeInvocation) : List (List UInt8) :=
  history.filterMap writtenBy

namespace FakeByteStream

variable {self : FakeByteStream}

/-- A read makes nothing of the queue, or takes the front of its first chunk. -/
inductive ReadOutcome (self : FakeByteStream) (output : OutputBuffer) :
    ReadReply → FakeByteStream → Prop where
  | closed : self.open_ = false → ReadOutcome self output (.empty .notOpen) self
  | invalid : self.open_ = true → output.invalid = true →
      ReadOutcome self output (.empty .invalidArgument) self
  | failed : self.open_ = true → output.invalid = false → self.nextReadStatus_ ≠ .ok →
      ReadOutcome self output (.empty self.nextReadStatus_) { self with nextReadStatus_ := .ok }
  | starved : self.open_ = true → output.invalid = false → self.nextReadStatus_ = .ok →
      self.readChunks_ = [] → ReadOutcome self output (.empty .wouldBlock) self
  | served {chunk rest} : self.open_ = true → output.invalid = false →
      self.nextReadStatus_ = .ok → self.readChunks_ = chunk :: rest →
      ReadOutcome self output
        ⟨.ok, min output.size chunk.length, chunk.take (min output.size chunk.length)⟩
        { self with
          readChunks_ := ChunkQueue.leave (min output.size chunk.length) chunk rest }

theorem readSome_outcome (self : FakeByteStream) (output : OutputBuffer) :
    self.ReadOutcome output (self.readSome output).1 (self.readSome output).2 := by
  unfold readSome
  split
  · next closed => exact .closed closed
  · next opened =>
    rw [Bool.not_eq_false] at opened
    split
    · next invalid => exact .invalid opened invalid
    · next valid =>
      rw [Bool.not_eq_true] at valid
      split
      · next failing => exact .failed opened valid failing
      · next unscripted =>
        rw [not_not] at unscripted
        split
        · next empty => exact .starved opened valid unscripted empty
        · next chunk rest queued => exact .served opened valid unscripted queued

/-- A write is refused, fails as scripted or is captured. -/
inductive WriteOutcome (self : FakeByteStream) (input : InputBuffer) :
    TransportStatus → FakeByteStream → Prop where
  | closed : self.open_ = false → WriteOutcome self input .notOpen self
  | invalid : self.open_ = true → input.invalid = true →
      WriteOutcome self input .invalidArgument self
  | failed : self.open_ = true → input.invalid = false → self.nextWriteStatus_ ≠ .ok →
      WriteOutcome self input self.nextWriteStatus_ { self with nextWriteStatus_ := .ok }
  | captured : self.open_ = true → input.invalid = false → self.nextWriteStatus_ = .ok →
      WriteOutcome self input .ok { self with writes_ := self.writes_ ++ [input.data] }

theorem writeAll_outcome (self : FakeByteStream) (input : InputBuffer) :
    self.WriteOutcome input (self.writeAll input).1 (self.writeAll input).2 := by
  unfold writeAll
  split
  · next closed => exact .closed closed
  · next opened =>
    rw [Bool.not_eq_false] at opened
    split
    · next invalid => exact .invalid opened invalid
    · next valid =>
      rw [Bool.not_eq_true] at valid
      split
      · next failing => exact .failed opened valid failing
      · next unscripted =>
        rw [not_not] at unscripted
        rw [InputBuffer.copy_eq_data valid]
        exact .captured opened valid unscripted

/-- What a call does to the fake. -/
inductive Outcome (self : FakeByteStream) : FakeMethod → FakeReply → FakeByteStream → Prop where
  | read {output reply after} : self.ReadOutcome output reply after →
      Outcome self (.stream (.readSome output)) (.stream (.read reply)) after
  | write {input budget status after} : self.WriteOutcome input status after →
      Outcome self (.stream (.writeAll input budget)) (.stream (.status status)) after
  | lifecycle {method reply open_} : method.transfers = false →
      (∀ read, reply ≠ StreamReply.read read) →
      Outcome self (.stream method) (.stream reply) { self with open_ }
  | scriptRead {bytes} : Outcome self (.scriptRead bytes) .done
      { self with readChunks_ := self.readChunks_ ++ [bytes] }
  | scriptNextReadStatus {status} : Outcome self (.scriptNextReadStatus status) .done
      { self with nextReadStatus_ := status }
  | scriptNextWriteStatus {status} : Outcome self (.scriptNextWriteStatus status) .done
      { self with nextWriteStatus_ := status }
  | writes : Outcome self .writes (.writes self.writes_) self
  | reset : Outcome self .reset .done .new

theorem operate_outcome (self : FakeByteStream) (method : FakeMethod) :
    self.Outcome method (self.operate method).1 (self.operate method).2 := by
  cases method with
  | scriptRead => exact .scriptRead
  | scriptNextReadStatus => exact .scriptNextReadStatus
  | scriptNextWriteStatus => exact .scriptNextWriteStatus
  | writes => exact .writes
  | reset => exact .reset
  | stream method =>
      cases method with
      | readSome output => exact .read (self.readSome_outcome output)
      | writeAll input budget => exact .write (self.writeAll_outcome input)
      | close => exact .lifecycle rfl nofun
      | isOpen => exact .lifecycle rfl nofun
      | «open» =>
          rw [operate, perform, FakeByteStream.open]
          split
          · exact .lifecycle rfl nofun
          · exact .lifecycle rfl nofun

end FakeByteStream

/-- The call did what the fake does. -/
def Performed (invocation : FakeInvocation) : Prop :=
  invocation.before.Outcome invocation.method invocation.reply invocation.after

theorem FakeByteStream.performed_of_mem {start final : FakeByteStream}
    {history : List FakeInvocation}
    (session : Session FakeByteStream.invoke start history final) {invocation : FakeInvocation}
    (member : invocation ∈ history) : Performed invocation := by
  have same := invoke_runs (session.runs_of_mem member)
  have outcome := invocation.before.operate_outcome invocation.method
  rwa [same] at outcome

section Bytes

variable {invocation : FakeInvocation}

/-- What a call other than `Reset` does to the queue. -/
theorem serves_step (performed : Performed invocation) (kept : invocation.method ≠ .reset)
    {chunks : List (List UInt8)} {read : List UInt8}
    (serves : ChunkQueue.Serves chunks read invocation.before.readChunks_) :
    ChunkQueue.Serves (chunks ++ (scriptedBy invocation).toList)
      (read ++ deliveredBy invocation) invocation.after.readChunks_ := by
  obtain ⟨before, method, trace, reply, after⟩ := invocation
  dsimp only [Performed] at performed kept serves ⊢
  cases performed with
  | scriptRead => simpa [scriptedBy, deliveredBy] using serves.push _
  | scriptNextReadStatus | scriptNextWriteStatus | writes =>
      simpa [scriptedBy, deliveredBy] using serves
  | reset => exact absurd rfl kept
  | @lifecycle method reply _ _ noRead =>
      have nothing (after : FakeByteStream) :
          deliveredBy ⟨before, .stream method, trace, .stream reply, after⟩ = [] := by
        cases reply with
        | status | flag => rfl
        | read reply => exact absurd rfl (noRead reply)
      simpa [scriptedBy, nothing] using serves
  | write outcome => cases outcome <;> simpa [scriptedBy, deliveredBy] using serves
  | read outcome =>
      cases outcome with
      | closed | invalid | starved => simpa [scriptedBy, deliveredBy, ReadReply.empty] using serves
      | failed _ _ failing =>
          simpa [scriptedBy, deliveredBy, ReadReply.empty, failing] using serves
      | served _ _ _ queued =>
          rw [queued] at serves
          simpa [scriptedBy, deliveredBy] using serves.pop (Nat.min_le_right _ _)

theorem writes_step (performed : Performed invocation) (kept : invocation.method ≠ .reset) :
    invocation.after.writes_ = invocation.before.writes_ ++ (writtenBy invocation).toList := by
  obtain ⟨before, method, trace, reply, after⟩ := invocation
  dsimp only [Performed] at performed kept ⊢
  cases performed with
  | scriptRead | scriptNextReadStatus | scriptNextWriteStatus | writes => simp [writtenBy]
  | reset => exact absurd rfl kept
  | @lifecycle method _ _ transfers =>
      cases method with
      | «open» | close | isOpen => simp [writtenBy]
      | readSome | writeAll => cases transfers
  | read outcome => cases outcome <;> simp [writtenBy]
  | write outcome =>
      cases outcome with
      | closed | invalid | captured => simp [writtenBy]
      | failed _ _ failing => simp [writtenBy, failing]

end Bytes

section Runs

variable {start final : FakeByteStream} {history : List FakeInvocation}
  (session : Session FakeByteStream.invoke start history final)
  (unreset : ∀ invocation ∈ history, invocation.method ≠ .reset)

include session unreset

theorem serves_of_session {chunks : List (List UInt8)} {read : List UInt8}
    (serves : ChunkQueue.Serves chunks read start.readChunks_) :
    ChunkQueue.Serves (chunks ++ scripted history) (read ++ delivered history)
      final.readChunks_ := by
  induction session generalizing chunks read with
  | nil => simpa [scripted, delivered] using serves
  | @cons before method trace reply after history final run following ih =>
      obtain ⟨first, later⟩ := List.forall_mem_cons.mp unreset
      have performed := FakeByteStream.performed_of_mem (.cons run following) List.mem_cons_self
      have next := ih later (serves_step performed first serves)
      rw [List.append_assoc, List.append_assoc] at next
      cases chunk : scriptedBy ⟨before, method, trace, reply, after⟩ with
      | none => simpa [scripted, delivered, chunk] using next
      | some bytes => simpa [scripted, delivered, chunk] using next

theorem writes_of_session : final.writes_ = start.writes_ ++ written history := by
  have conserved := session.conserves (fun _ => none) writtenBy FakeByteStream.writes_ ?_
  · simpa [written] using conserved
  · intro call member
    exact writes_step (FakeByteStream.performed_of_mem session member) (unreset call member)

end Runs

def FakeReply.status? : FakeReply → Option TransportStatus
  | .stream reply => reply.status?
  | .writes _ | .done => none

/-- A status that the next call of a kind is to return: which calls script it, whether
the arguments of a call of the kind are valid, and how one answers when none is scripted. -/
structure StatusSlot where
  next : FakeByteStream → TransportStatus
  scripts : FakeMethod → Option TransportStatus
  valid? : FakeMethod → Option Bool
  Unscripted : FakeInvocation → Prop

def readSlot : StatusSlot where
  next := FakeByteStream.nextReadStatus_
  scripts
    | .scriptNextReadStatus status => some status
    | _ => none
  valid?
    | .stream (.readSome output) => some !output.invalid
    | _ => none
  Unscripted call := call.reply.status? = some .ok ∨
    (call.reply.status? = some .wouldBlock ∧ call.before.readChunks_ = [])

def writeSlot : StatusSlot where
  next := FakeByteStream.nextWriteStatus_
  scripts
    | .scriptNextWriteStatus status => some status
    | _ => none
  valid?
    | .stream (.writeAll input _) => some !input.invalid
    | _ => none
  Unscripted call := call.reply.status? = some .ok

namespace StatusSlot

/-- A call of the kind that passes the lifecycle and argument checks. -/
def Passes (slot : StatusSlot) (call : FakeInvocation) : Prop :=
  slot.valid? call.method = some true ∧ call.before.isOpen = true

def Refused (slot : StatusSlot) (call : FakeInvocation) : Prop :=
  (call.before.isOpen = false ∧ call.reply.status? = some .notOpen) ∨
    (call.before.isOpen = true ∧ slot.valid? call.method = some false ∧
      call.reply.status? = some .invalidArgument)

/-- What a call other than `Reset` does to the slot. -/
inductive Step (slot : StatusSlot) (call : FakeInvocation) : Prop where
  | scripts {status} : slot.scripts call.method = some status → slot.valid? call.method = none →
      slot.next call.after = status → Step slot call
  | unrelated : slot.scripts call.method = none → slot.valid? call.method = none →
      slot.next call.after = slot.next call.before → Step slot call
  | refused : slot.scripts call.method = none → slot.Refused call →
      slot.next call.after = slot.next call.before → Step slot call
  | unscripted : slot.scripts call.method = none → slot.Passes call →
      slot.next call.before = .ok → slot.next call.after = .ok → slot.Unscripted call →
      Step slot call
  | returned : slot.scripts call.method = none → slot.Passes call →
      slot.next call.before ≠ .ok → slot.next call.after = .ok →
      call.reply.status? = some (slot.next call.before) → Step slot call

def Lawful (slot : StatusSlot) : Prop :=
  ∀ call, Performed call → call.method ≠ .reset → slot.Step call

variable {slot : StatusSlot} {call : FakeInvocation}

theorem Refused.not_passes (refused : slot.Refused call) : ¬ slot.Passes call := by
  intro passes
  obtain ⟨valid, opened⟩ := passes
  rcases refused with ⟨closed, _⟩ | ⟨_, invalid, _⟩
  · exact absurd (opened.symm.trans closed) (by decide)
  · exact absurd (valid.symm.trans invalid) (by decide)

theorem not_passes_of_none (other : slot.valid? call.method = none) : ¬ slot.Passes call := by
  intro passes
  exact absurd (passes.1.symm.trans other) (by simp)

namespace Step

theorem scripted (step : slot.Step call) {status : TransportStatus}
    (scripts : slot.scripts call.method = some status) : slot.next call.after = status := by
  cases step with
  | scripts same _ next => exact next.trans (Option.some.inj (same.symm.trans scripts))
  | unrelated none | refused none | unscripted none | returned none =>
      exact absurd (scripts.symm.trans none) (by simp)

theorem kept (step : slot.Step call) (unscripted : slot.scripts call.method = none)
    (refused : ¬ slot.Passes call) : slot.next call.after = slot.next call.before := by
  cases step with
  | scripts scripts => exact absurd (scripts.symm.trans unscripted) (by simp)
  | unrelated _ _ kept | refused _ _ kept => exact kept
  | unscripted _ passes | returned _ passes => exact absurd passes refused

theorem refused_of_called (step : slot.Step call) (called : slot.valid? call.method ≠ none)
    (refused : ¬ slot.Passes call) : slot.Refused call := by
  cases step with
  | scripts _ other | unrelated _ other => exact absurd other called
  | refused _ refused => exact refused
  | unscripted _ passes | returned _ passes => exact absurd passes refused

theorem spent (step : slot.Step call) (passes : slot.Passes call) :
    slot.next call.after = .ok := by
  cases step with
  | scripts _ other | unrelated _ other => exact absurd passes (not_passes_of_none other)
  | refused _ refused => exact absurd passes refused.not_passes
  | unscripted _ _ _ next | returned _ _ _ next => exact next

theorem answered (step : slot.Step call) (passes : slot.Passes call)
    (pending : slot.next call.before ≠ .ok) :
    call.reply.status? = some (slot.next call.before) := by
  cases step with
  | scripts _ other | unrelated _ other => exact absurd passes (not_passes_of_none other)
  | refused _ refused => exact absurd passes refused.not_passes
  | unscripted _ _ nothing => exact absurd nothing pending
  | returned _ _ _ _ answered => exact answered

theorem unscripted_of_clear (step : slot.Step call) (passes : slot.Passes call)
    (nothing : slot.next call.before = .ok) : slot.Unscripted call := by
  cases step with
  | scripts _ other | unrelated _ other => exact absurd passes (not_passes_of_none other)
  | refused _ refused => exact absurd passes refused.not_passes
  | unscripted _ _ _ _ unscripted => exact unscripted
  | returned _ _ pending => exact absurd nothing pending

end Step

end StatusSlot

/-- What a call does to the two slots: a read or a write of the fake spends its own only. -/
theorem slots_step {call : FakeInvocation} (performed : Performed call)
    (unreset : call.method ≠ .reset) : readSlot.Step call ∧ writeSlot.Step call := by
  obtain ⟨before, method, trace, reply, after⟩ := call
  dsimp only [Performed] at performed unreset
  cases performed with
  | scriptNextReadStatus => exact ⟨.scripts rfl rfl rfl, .unrelated rfl rfl rfl⟩
  | scriptNextWriteStatus => exact ⟨.unrelated rfl rfl rfl, .scripts rfl rfl rfl⟩
  | scriptRead | writes => exact ⟨.unrelated rfl rfl rfl, .unrelated rfl rfl rfl⟩
  | reset => exact absurd rfl unreset
  | @lifecycle method _ _ transfers =>
      cases method with
      | «open» | close | isOpen => exact ⟨.unrelated rfl rfl rfl, .unrelated rfl rfl rfl⟩
      | readSome | writeAll => cases transfers
  | @read output _ _ outcome =>
      have checked {valid : Bool} (same : output.invalid = !valid) :
          readSlot.valid? (.stream (.readSome output)) = some valid := by
        simp [readSlot, same]
      cases outcome with
      | closed closed => exact ⟨.refused rfl (.inl ⟨closed, rfl⟩) rfl, .unrelated rfl rfl rfl⟩
      | invalid opened invalid =>
          exact ⟨.refused rfl (.inr ⟨opened, checked invalid, rfl⟩) rfl, .unrelated rfl rfl rfl⟩
      | failed opened valid pending =>
          exact ⟨.returned rfl ⟨checked valid, opened⟩ pending rfl rfl, .unrelated rfl rfl rfl⟩
      | starved opened valid nothing empty =>
          exact ⟨.unscripted rfl ⟨checked valid, opened⟩ nothing nothing (.inr ⟨rfl, empty⟩),
            .unrelated rfl rfl rfl⟩
      | served opened valid nothing =>
          exact ⟨.unscripted rfl ⟨checked valid, opened⟩ nothing nothing (.inl rfl),
            .unrelated rfl rfl rfl⟩
  | @write input budget _ _ outcome =>
      have checked {valid : Bool} (same : input.invalid = !valid) :
          writeSlot.valid? (.stream (.writeAll input budget)) = some valid := by
        simp [writeSlot, same]
      cases outcome with
      | closed closed => exact ⟨.unrelated rfl rfl rfl, .refused rfl (.inl ⟨closed, rfl⟩) rfl⟩
      | invalid opened invalid =>
          exact ⟨.unrelated rfl rfl rfl, .refused rfl (.inr ⟨opened, checked invalid, rfl⟩) rfl⟩
      | failed opened valid pending =>
          exact ⟨.unrelated rfl rfl rfl, .returned rfl ⟨checked valid, opened⟩ pending rfl rfl⟩
      | captured opened valid nothing =>
          exact ⟨.unrelated rfl rfl rfl,
            .unscripted rfl ⟨checked valid, opened⟩ nothing nothing rfl⟩

theorem readSlot_lawful : readSlot.Lawful :=
  fun _ performed unreset => (slots_step performed unreset).1

theorem writeSlot_lawful : writeSlot.Lawful :=
  fun _ performed unreset => (slots_step performed unreset).2

/-- A scripted status is returned by the next call that passes, and by no other. -/
structure ScriptedOnce (slot : StatusSlot) (history : List FakeInvocation) : Prop where
  returned : ∀ earlier scripting middle call later status,
    history = earlier ++ scripting :: middle ++ call :: later →
    slot.scripts scripting.method = some status → status ≠ .ok →
    (∀ between ∈ middle, slot.scripts between.method = none ∧ ¬ slot.Passes between) →
    slot.Passes call → call.reply.status? = some status
  refused : ∀ call ∈ history, slot.valid? call.method ≠ none → ¬ slot.Passes call →
    slot.Refused call
  /-- Scripting `Ok` leaves nothing pending. -/
  cancelled : ∀ earlier scripting middle call later,
    history = earlier ++ scripting :: middle ++ call :: later →
    slot.scripts scripting.method = some .ok →
    (∀ between ∈ middle, slot.scripts between.method = none) →
    slot.Passes call → slot.Unscripted call
  spent : ∀ earlier call middle next later, history = earlier ++ call :: middle ++ next :: later →
    slot.Passes call → (∀ between ∈ middle, slot.scripts between.method = none) →
    slot.Passes next → slot.Unscripted next
  unscripted : ∀ earlier call later, history = earlier ++ call :: later →
    (∀ before ∈ earlier, slot.scripts before.method = none) →
    slot.Passes call → slot.Unscripted call

namespace StatusSlot

variable {slot : StatusSlot} {start final : FakeByteStream} {history : List FakeInvocation}

theorem Lawful.held (lawful : slot.Lawful)
    (session : Session FakeByteStream.invoke start history final)
    (unreset : ∀ call ∈ history, call.method ≠ .reset)
    (quiet : ∀ call ∈ history, slot.scripts call.method = none ∧ ¬ slot.Passes call) :
    slot.next final = slot.next start := by
  induction session with
  | nil => rfl
  | cons run following ih =>
      obtain ⟨kept, later⟩ := List.forall_mem_cons.mp unreset
      obtain ⟨⟨unscripted, refused⟩, others⟩ := List.forall_mem_cons.mp quiet
      have performed := FakeByteStream.performed_of_mem (.cons run following) List.mem_cons_self
      rw [ih later others]
      exact (lawful _ performed kept).kept unscripted refused

theorem Lawful.clear (lawful : slot.Lawful)
    (session : Session FakeByteStream.invoke start history final)
    (unreset : ∀ call ∈ history, call.method ≠ .reset)
    (unscripted : ∀ call ∈ history, slot.scripts call.method = none)
    (nothing : slot.next start = .ok) : slot.next final = .ok := by
  induction session with
  | nil => exact nothing
  | @cons before method trace reply after history final run following ih =>
      obtain ⟨kept, later⟩ := List.forall_mem_cons.mp unreset
      obtain ⟨first, others⟩ := List.forall_mem_cons.mp unscripted
      have performed := FakeByteStream.performed_of_mem (.cons run following) List.mem_cons_self
      have step := lawful _ performed kept
      apply ih later others
      by_cases passes : slot.Passes ⟨before, method, trace, reply, after⟩
      · exact step.spent passes
      · exact (step.kept first passes).trans nothing

theorem Lawful.scriptedOnce (lawful : slot.Lawful) (fresh : slot.next .new = .ok)
    (session : Session FakeByteStream.invoke .new history final)
    (unreset : ∀ call ∈ history, call.method ≠ .reset) : ScriptedOnce slot history := by
  have steps (call : FakeInvocation) (member : call ∈ history) : slot.Step call :=
    lawful call (FakeByteStream.performed_of_mem session member) (unreset call member)
  have between {earlier first middle call later}
      (split : history = earlier ++ first :: middle ++ call :: later) :
      Session FakeByteStream.invoke first.after middle call.before ∧
        (∀ invocation ∈ middle, invocation.method ≠ .reset) ∧ slot.Step first ∧ slot.Step call := by
    have member (invocation : FakeInvocation) (inside : invocation ∈ first :: middle ++ [call]) :
        invocation ∈ history := by
      rw [split, List.append_assoc]
      apply List.mem_append_right
      simp only [List.mem_append, List.mem_cons, List.not_mem_nil, or_false] at inside ⊢
      tauto
    have following : Session FakeByteStream.invoke first.after (middle ++ call :: later) final := by
      rw [split, List.append_assoc, List.cons_append] at session
      exact session.through.2.2
    refine ⟨following.through.1, ?_, steps first (member first (by simp)),
      steps call (member call (by simp))⟩
    exact fun invocation inside => unreset invocation (member invocation (by simp [inside]))
  constructor
  · intro earlier scripting middle call later status split scripts pending quiet passes
    obtain ⟨session, unreset, scripted, step⟩ := between split
    have next : slot.next call.before = status :=
      (lawful.held session unreset quiet).trans (scripted.scripted scripts)
    rw [← next] at pending ⊢
    exact step.answered passes pending
  · intro call member called refused
    exact (steps call member).refused_of_called called refused
  · intro earlier scripting middle call later split scripts unscripted passes
    obtain ⟨session, unreset, scripted, step⟩ := between split
    apply step.unscripted_of_clear passes
    exact lawful.clear session unreset unscripted (scripted.scripted scripts)
  · intro earlier call middle next later split passed unscripted passes
    obtain ⟨session, unreset, first, step⟩ := between split
    apply step.unscripted_of_clear passes
    exact lawful.clear session unreset unscripted (first.spent passed)
  · intro earlier call later split unscripted passes
    have step := steps call (by simp [split])
    subst split
    apply step.unscripted_of_clear passes
    exact lawful.clear session.through.1
      (fun invocation member => unreset invocation (List.mem_append_left _ member)) unscripted
      fresh

end StatusSlot

/-- What a run of the fake since construction or a `Reset` owes to its user. -/
structure FakeConserves (history : List FakeInvocation) (final : FakeByteStream) : Prop where
  conserved : delivered history ++ final.readChunks_.flatten = (scripted history).flatten
  withinChunk : ∀ earlier call later output reply, history = earlier ++ call :: later →
    call.method = .stream (.readSome output) → call.reply = .stream (.read reply) →
    reply.status = .ok →
    reply.bytesRead ≤ output.size ∧ reply.output.length = reply.bytesRead ∧
      ChunkQueue.WithinChunk (scripted earlier) (delivered earlier).length reply.output
  refusedRead : ∀ call ∈ history, ∀ reply, call.reply = .stream (.read reply) →
    reply.status ≠ .ok →
    reply.bytesRead = 0 ∧ call.after.readChunks_ = call.before.readChunks_
  readStatus : ScriptedOnce readSlot history
  writeStatus : ScriptedOnce writeSlot history
  captured : final.writes = written history
  capturedSoFar : ∀ earlier call later, history = earlier ++ call :: later →
    call.method = .writes → call.reply = .writes (written earlier)

section Conservation

variable {final : FakeByteStream} {history : List FakeInvocation}
  (session : Session FakeByteStream.invoke .new history final)
  (unreset : ∀ invocation ∈ history, invocation.method ≠ .reset)

include session unreset

private theorem serves_since : ChunkQueue.Serves (scripted history) (delivered history)
    final.readChunks_ :=
  serves_of_session session unreset .empty

private theorem unreset_front {earlier later : List FakeInvocation} {call : FakeInvocation}
    (split : history = earlier ++ call :: later) :
    Session FakeByteStream.invoke .new earlier call.before ∧
      (∀ invocation ∈ earlier, invocation.method ≠ .reset) ∧ Performed call := by
  subst split
  exact ⟨session.through.1,
    fun invocation member => unreset invocation (List.mem_append_left _ member),
    FakeByteStream.performed_of_mem session (List.mem_append_right earlier List.mem_cons_self)⟩

theorem read_withinChunk {earlier later : List FakeInvocation} {call : FakeInvocation}
    {output : OutputBuffer} {reply : ReadReply} (split : history = earlier ++ call :: later)
    (reads : call.method = .stream (.readSome output))
    (replied : call.reply = .stream (.read reply)) (succeeded : reply.status = .ok) :
    reply.bytesRead ≤ output.size ∧ reply.output.length = reply.bytesRead ∧
      ChunkQueue.WithinChunk (scripted earlier) (delivered earlier).length reply.output := by
  obtain ⟨session, unreset, performed⟩ := unreset_front session unreset split
  have serves := serves_since session unreset
  obtain ⟨before, method, trace, answer, after⟩ := call
  dsimp only [Performed] at reads replied performed serves
  subst reads replied
  cases performed with
  | lifecycle transfers => cases transfers
  | read outcome =>
      cases outcome with
      | closed | invalid | starved => cases succeeded
      | failed _ _ failing => exact absurd succeeded failing
      | @served chunk rest _ _ _ queued =>
          rw [queued] at serves
          refine ⟨Nat.min_le_left _ _, ?_, serves.withinChunk (Nat.min_le_right _ _)⟩
          rw [List.length_take, Nat.min_assoc, Nat.min_self]

end Conservation

theorem refusedRead_of_performed {call : FakeInvocation} {reply : ReadReply}
    (performed : Performed call) (replied : call.reply = .stream (.read reply))
    (failed : reply.status ≠ .ok) :
    reply.bytesRead = 0 ∧ call.after.readChunks_ = call.before.readChunks_ := by
  obtain ⟨before, method, trace, answer, after⟩ := call
  dsimp only [Performed] at replied performed ⊢
  subst replied
  cases performed with
  | lifecycle _ noRead => exact absurd rfl (noRead reply)
  | read outcome =>
      cases outcome with
      | closed | invalid | failed | starved => exact ⟨rfl, rfl⟩
      | served => exact absurd rfl failed

theorem fakeConserves_of_session {final : FakeByteStream} {history : List FakeInvocation}
    (session : Session FakeByteStream.invoke .new history final)
    (unreset : ∀ invocation ∈ history, invocation.method ≠ .reset) :
    FakeConserves history final where
  conserved := (serves_since session unreset).conserves
  withinChunk _ _ _ _ _ := read_withinChunk session unreset
  refusedRead call member reply := refusedRead_of_performed
    (FakeByteStream.performed_of_mem session member)
  readStatus := readSlot_lawful.scriptedOnce rfl session unreset
  writeStatus := writeSlot_lawful.scriptedOnce rfl session unreset
  captured := writes_of_session session unreset
  capturedSoFar := by
    intro earlier call later split asks
    obtain ⟨session, unreset, performed⟩ := unreset_front session unreset split
    have captured := writes_of_session session unreset
    obtain ⟨before, method, trace, reply, after⟩ := call
    dsimp only [Performed] at asks performed captured
    subst asks
    cases performed with
    | writes => exact congrArg FakeReply.writes captured

/-- `back` is what followed construction or the last `Reset`. -/
structure SinceReset (history back : List FakeInvocation) : Prop where
  begins : history = back ∨
    ∃ front reset, history = front ++ reset :: back ∧ reset.method = .reset
  unreset : ∀ invocation ∈ back, invocation.method ≠ .reset

/-- The scripted byte stream neither loses, invents nor reorders bytes, and returns
each scripted status once. -/
theorem fakeByteStream_conserves {final : FakeByteStream} {history back : List FakeInvocation}
    (session : Session FakeByteStream.invoke .new history final)
    (since : SinceReset history back) : FakeConserves back final := by
  apply fakeConserves_of_session _ since.unreset
  apply session.since_restart (· = .reset) _ since.begins
  intro before method trace reply after reset run
  subst reset
  exact (congrArg Prod.snd (FakeByteStream.invoke_runs run)).symm

/-- The calls of a test, in order. -/
def FakeByteStream.record (self : FakeByteStream) : List FakeMethod → List FakeInvocation
  | [] => []
  | method :: rest =>
      ⟨self, method, [], (self.operate method).1, (self.operate method).2⟩ ::
        (self.operate method).2.record rest

def FakeByteStream.operateAll (self : FakeByteStream) (methods : List FakeMethod) :
    FakeByteStream :=
  methods.foldl (fun fake method => (fake.operate method).2) self

theorem FakeByteStream.recorded (self : FakeByteStream) (methods : List FakeMethod) :
    Session invoke self (self.record methods) (self.operateAll methods) := by
  induction methods generalizing self with
  | nil => exact .nil
  | cons method rest ih => exact .cons .refl (ih _)

/-- A chunk read in two parts around a scripted timeout and a reopening, then an empty
chunk; the second write fails as scripted. -/
def meterTest : List FakeMethod :=
  [.stream .open, .scriptRead [1, 2, 3], .scriptRead [], .stream (.readSome ⟨false, 2⟩),
    .scriptNextReadStatus .timeout, .stream .close, .stream (.readSome ⟨false, 4⟩),
    .stream .open, .stream (.readSome ⟨false, 4⟩), .stream (.writeAll (.bytes [5]) 1),
    .scriptNextWriteStatus .writeFailed, .stream (.writeAll (.bytes [6]) 1),
    .stream (.readSome ⟨false, 4⟩), .stream (.readSome ⟨false, 4⟩), .writes]

theorem fakeByteStream_conserves_meter :
    FakeConserves (FakeByteStream.new.record meterTest)
      (FakeByteStream.new.operateAll (.scriptRead [9] :: .reset :: meterTest)) :=
  fakeByteStream_conserves (FakeByteStream.new.recorded (.scriptRead [9] :: .reset :: meterTest))
    ⟨.inr ⟨[_], _, rfl, rfl⟩, by decide⟩

end DlmsTransport.Transport
