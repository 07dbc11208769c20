import DlmsTransport.Interaction.Session
import DlmsTransport.Transport.TcpServer
import DlmsTransport.Transport.TcpStream

/-! Reading a byte stream. The socket holds what the peer has sent and not yet
been asked for; over whole runs of reads that is delivered byte by byte. -/

set_option autoImplicit false

namespace DlmsTransport.Transport

open Interaction Posix

/-- The bytes the socket still holds, and whether the end of the stream follows
them. A run is finite, so it never needs more of an endless stream. -/
structure PeerStream where
  remaining : List UInt8
  ends : Bool
  deriving DecidableEq, Repr

/-- `recv` removes what it delivers, answers with no bytes only at the end of the
stream, and may fail at any time without removing anything. -/
def PeerStream.socket : Environment OsCall OsCall.Answer PeerStream where
  step before
    | .recv _ _, .ok bytes, after =>
        (bytes.val ≠ [] ∧ before.remaining = bytes.val ++ after.remaining ∧
          after.ends = before.ends) ∨
        (bytes.val = [] ∧ before.remaining = [] ∧ before.ends = true ∧ after = before)
    | _, _, after => after = before

/-- The bytes a read hands to its caller. -/
def ReadReply.delivered (reply : ReadReply) : List UInt8 :=
  if reply.status = .ok then reply.output.take reply.bytesRead else []

namespace StreamMembers

variable {σ : Type} (members : StreamMembers σ)

/-- The ways a read can end on a peer's stream. -/
inductive ReadOutcome (self : σ) (output : OutputBuffer) (before : PeerStream) :
    ReadReply → σ → PeerStream → Prop where
  | refused {status} : members.ReadRefused self output status →
      ReadOutcome self output before (.empty status) self before
  | kept {status} : members.isOpen self = true → output.size ≠ 0 →
      status = .timeout ∨ status = .wouldBlock ∨ status = .readFailed →
      ReadOutcome self output before (.empty status) self before
  | delivered {bytes rest} : members.isOpen self = true → bytes ≠ [] →
      bytes.length ≤ output.size → before.remaining = bytes ++ rest →
      ReadOutcome self output before ⟨.ok, bytes.length, bytes⟩ self ⟨rest, before.ends⟩
  | ended : members.isOpen self = true → output.size ≠ 0 → before.remaining = [] →
      before.ends = true →
      ReadOutcome self output before (.empty .connectionClosed) (members.release self) before

private theorem concludeRead_outcome {self : σ} {output : OutputBuffer}
    (opened : members.isOpen self = true) (asked : output.size ≠ 0) (fits : output.size ≤ intMax)
    {before after : PeerStream} {answer : Except Errno (Delivery (throughInt output.size))}
    (stepped : PeerStream.socket.step before
      (.recv (members.socket self) (throughInt output.size)) answer after) :
    Program.Meets PeerStream.socket (.always fun _ => True)
      (fun final outcome => members.ReadOutcome self output before outcome.1 outcome.2 final)
      (members.concludeRead self (.ofInt answer)) after := by
  cases answer with
  | error error =>
      obtain rfl := stepped
      have status : (if members.isWouldBlock error then .wouldBlock else .readFailed) =
          TransportStatus.timeout ∨
          (if members.isWouldBlock error then .wouldBlock else .readFailed) =
            TransportStatus.wouldBlock ∨
          (if members.isWouldBlock error then .wouldBlock else .readFailed) =
            TransportStatus.readFailed := by
        split <;> simp
      exact .kept opened asked status
  | ok bytes =>
      obtain ⟨bytes, bounded⟩ := bytes
      rw [throughInt_of_le fits] at bounded
      rw [Received.ofInt_of_le (bounded.trans fits)]
      have form := members.concludeRead_form self ⟨bytes.length, bytes, none⟩
      generalize members.concludeRead self ⟨bytes.length, bytes, none⟩ = program at form
      rcases stepped with ⟨nonempty, taken, ends⟩ | ⟨empty, drained, ended, rfl⟩
      · have counted : (0 : Int) < bytes.length :=
          Int.natCast_pos.mpr (List.length_pos_of_ne_nil nonempty)
        obtain ⟨rest, _⟩ := after
        obtain rfl := ends
        cases form with
        | delivered => exact .delivered opened nonempty bounded taken
        | ended none | endedUnowned none => exact absurd none counted.ne'
        | failed negative | unexplained negative => exact absurd negative counted.not_gt
      · obtain rfl := empty
        cases form with
        | ended =>
            refine ⟨trivial, fun _ final same => ?_⟩
            obtain rfl := same
            exact .ended opened asked drained ended
        | endedUnowned => exact .ended opened asked drained ended
        | delivered some | failed some | unexplained some => cases some

theorem readSome_outcome {self : σ} {output : OutputBuffer} (fits : output.size ≤ intMax)
    (before : PeerStream) :
    Program.Meets PeerStream.socket (.always fun _ => True)
      (fun after outcome => members.ReadOutcome self output before outcome.1 outcome.2 after)
      (members.readSome self output) before := by
  have form := members.readSome_form self output
  generalize members.readSome self output = program at form
  cases form with
  | refused refusal => exact .refused refusal
  | waiting opened _ asked =>
      refine ⟨trivial, fun (result : Int) after stepped => ?_⟩
      obtain rfl := stepped
      dsimp only
      split
      · refine ⟨trivial, fun answer after received => ?_⟩
        exact members.concludeRead_outcome opened asked fits received
      · next unready =>
        refine .kept opened asked ?_
        have failed : waitStatus true result = .timeout ∨ waitStatus true result = .readFailed := by
          rw [waitStatus_eq_timeout_iff, waitStatus_eq_readFailed_iff]
          omega
        rcases failed with timeout | failed
        · exact .inl timeout
        · exact .inr (.inr failed)

end StreamMembers

abbrev ReadEncounter (σ : Type) :=
  Encounter σ PeerStream OutputBuffer OsCall OsCall.Answer ReadReply

def deliveredBytes {σ : Type} (encounters : List (ReadEncounter σ)) : List UInt8 :=
  encounters.flatMap (·.reply.delivered)

/-- What a run of reads owes its caller, from the stream `start` on. -/
structure ReadsFaithful {σ : Type} (isOpen : σ → Bool) (start : PeerStream)
    (encounters : List (ReadEncounter σ)) : Prop where
  /-- The bytes delivered so far are the bytes removed so far, in order. -/
  removed : ∀ front encounter back, encounters = front ++ encounter :: back →
    start.remaining = deliveredBytes front ++ encounter.worldBefore.remaining ∧
      start.remaining =
        deliveredBytes (front ++ [encounter]) ++ encounter.worldAfter.remaining
  counted : ∀ encounter ∈ encounters,
    encounter.reply.bytesRead ≤ encounter.method.size ∧
      (encounter.reply.status ≠ .ok → encounter.reply.bytesRead = 0) ∧
      encounter.reply.delivered.length = encounter.reply.bytesRead
  /-- The connection is reported closed once, when everything has been delivered. -/
  closed : ∀ front encounter back, encounters = front ++ encounter :: back →
    encounter.reply.status = .connectionClosed →
    start.ends = true ∧ start.remaining = deliveredBytes front ∧
      isOpen encounter.after = false ∧
      (∀ other ∈ front ++ back, other.reply.status ≠ .connectionClosed) ∧
      ∀ other ∈ back, other.reply = .empty .notOpen
  kept : ∀ encounter ∈ encounters,
    encounter.reply.status ∈
      [TransportStatus.timeout, .wouldBlock, .readFailed, .invalidArgument] →
    encounter.worldAfter = encounter.worldBefore ∧
      (encounter.reply.status ≠ .readFailed → isOpen encounter.after = true)
  /-- A request for no bytes is no end of the stream. -/
  empty : ∀ encounter ∈ encounters, isOpen encounter.before = true →
    encounter.method.invalid = false → encounter.method.size = 0 →
    encounter.reply = .empty .ok ∧ encounter.after = encounter.before ∧
      encounter.worldAfter = encounter.worldBefore

namespace StreamMembers

variable {σ : Type} {members : StreamMembers σ}

section Outcomes

variable {self final : σ} {output : OutputBuffer} {before after : PeerStream} {reply : ReadReply}

theorem ReadOutcome.removed (outcome : members.ReadOutcome self output before reply final after) :
    before.remaining = reply.delivered ++ after.remaining ∧ after.ends = before.ends := by
  cases outcome with
  | refused refusal => cases refusal <;> simp [ReadReply.delivered, ReadReply.empty]
  | kept _ _ statuses =>
      rcases statuses with rfl | rfl | rfl <;> simp [ReadReply.delivered, ReadReply.empty]
  | delivered _ _ _ taken => simpa [ReadReply.delivered] using taken
  | ended => simp [ReadReply.delivered, ReadReply.empty]

theorem ReadOutcome.counted (outcome : members.ReadOutcome self output before reply final after) :
    reply.bytesRead ≤ output.size ∧ (reply.status ≠ .ok → reply.bytesRead = 0) ∧
      reply.delivered.length = reply.bytesRead := by
  cases outcome with
  | refused refusal => cases refusal <;> simp [ReadReply.delivered, ReadReply.empty]
  | kept _ _ statuses =>
      rcases statuses with rfl | rfl | rfl <;> simp [ReadReply.delivered, ReadReply.empty]
  | delivered _ _ bounded _ => simpa [ReadReply.delivered] using bounded
  | ended => simp [ReadReply.delivered, ReadReply.empty]

theorem ReadOutcome.kept_of_status
    (outcome : members.ReadOutcome self output before reply final after)
    (status : reply.status ∈
      [TransportStatus.timeout, .wouldBlock, .readFailed, .invalidArgument]) :
    after = before ∧ (reply.status ≠ .readFailed → members.isOpen final = true) := by
  cases outcome with
  | refused refusal =>
      cases refusal with
      | closed closed => simp at status
      | invalid opened => exact ⟨rfl, fun _ => opened⟩
      | empty opened => simp at status
  | kept opened => exact ⟨rfl, fun _ => opened⟩
  | delivered => simp at status
  | ended => simp at status

theorem ReadOutcome.ended_of_status
    (outcome : members.ReadOutcome self output before reply final after)
    (status : reply.status = .connectionClosed) :
    before.remaining = [] ∧ before.ends = true ∧ members.isOpen final = false := by
  cases outcome with
  | refused refusal => cases refusal <;> cases status
  | kept _ _ statuses => rcases statuses with rfl | rfl | rfl <;> cases status
  | delivered => cases status
  | ended _ _ drained ends => exact ⟨drained, ends, members.isOpen_release self⟩

theorem ReadOutcome.silent (outcome : members.ReadOutcome self output before reply final after)
    (closed : members.isOpen self = false) :
    reply = .empty .notOpen ∧ members.isOpen final = false := by
  cases outcome with
  | refused refusal =>
      cases refusal with
      | closed => exact ⟨rfl, closed⟩
      | invalid opened => simp [closed] at opened
      | empty opened => simp [closed] at opened
  | kept opened => simp [closed] at opened
  | delivered opened => simp [closed] at opened
  | ended opened => simp [closed] at opened

theorem ReadOutcome.empty_request
    (outcome : members.ReadOutcome self output before reply final after)
    (opened : members.isOpen self = true) (valid : output.invalid = false)
    (nothing : output.size = 0) : reply = .empty .ok ∧ final = self ∧ after = before := by
  cases outcome with
  | refused refusal =>
      cases refusal with
      | closed closed => simp [opened] at closed
      | invalid _ invalid => simp [valid] at invalid
      | empty => exact ⟨rfl, rfl, rfl⟩
  | kept _ asked => exact absurd nothing asked
  | delivered _ nonempty bounded => simp_all
  | ended _ asked => exact absurd nothing asked

end Outcomes

section Runs

variable {start final : σ} {peer peerFinal : PeerStream} {encounters : List (ReadEncounter σ)}

private theorem reads_outcome
    (course : Course members.readSome PeerStream.socket start peer encounters final peerFinal)
    (buffers : ∀ encounter ∈ encounters, encounter.method.size ≤ intMax) :
    ∀ encounter ∈ encounters,
      members.ReadOutcome encounter.before encounter.method encounter.worldBefore encounter.reply
        encounter.after encounter.worldAfter := by
  have each : ∀ encounter ∈ encounters, encounter.method.size ≤ intMax →
      members.ReadOutcome encounter.before encounter.method encounter.worldBefore encounter.reply
        encounter.after encounter.worldAfter := by
    refine course.forall_mem (fun _ _ => True) (fun encounter _ run followed => ?_) trivial
    exact ⟨fun fits => (members.readSome_outcome fits encounter.worldBefore).runs run followed,
      trivial⟩
  exact fun encounter member => each encounter member (buffers encounter member)

/-- The stream loses to a run of reads exactly the bytes they deliver. -/
private theorem reads_removed
    (course : Course members.readSome PeerStream.socket start peer encounters final peerFinal)
    (buffers : ∀ encounter ∈ encounters, encounter.method.size ≤ intMax) :
    peer.remaining = deliveredBytes encounters ++ peerFinal.remaining ∧
      peerFinal.ends = peer.ends := by
  induction course with
  | nil => exact ⟨rfl, rfl⟩
  | cons run followed _ ih =>
      obtain ⟨first, others⟩ := List.forall_mem_cons.mp buffers
      obtain ⟨taken, ends⟩ := ((members.readSome_outcome first _).runs run followed).removed
      obtain ⟨rest, same⟩ := ih others
      refine ⟨?_, same.trans ends⟩
      rw [taken, rest, ← List.append_assoc]
      rfl

private theorem reads_silent
    (course : Course members.readSome PeerStream.socket start peer encounters final peerFinal)
    (buffers : ∀ encounter ∈ encounters, encounter.method.size ≤ intMax)
    (closed : members.isOpen start = false) :
    ∀ encounter ∈ encounters, encounter.reply = .empty .notOpen := by
  induction course with
  | nil => simp
  | cons run followed _ ih =>
      obtain ⟨first, others⟩ := List.forall_mem_cons.mp buffers
      obtain ⟨refused, still⟩ :=
        ((members.readSome_outcome first _).runs run followed).silent closed
      exact List.forall_mem_cons.mpr ⟨refused, ih others still⟩

/-- Once the connection has been reported closed, every later read is refused. -/
private theorem reads_silent_after {front back : List (ReadEncounter σ)}
    {encounter : ReadEncounter σ}
    (course : Course members.readSome PeerStream.socket start peer (front ++ encounter :: back)
      final peerFinal)
    (buffers : ∀ other ∈ front ++ encounter :: back, other.method.size ≤ intMax)
    (status : encounter.reply.status = .connectionClosed) :
    ∀ other ∈ back, other.reply = .empty .notOpen := by
  have member : encounter ∈ front ++ encounter :: back :=
    List.mem_append_right front List.mem_cons_self
  have closed := ((reads_outcome course buffers encounter member).ended_of_status status).2.2
  refine reads_silent course.through.2.2 ?_ closed
  exact fun other later => buffers other (List.mem_append_right front (.tail _ later))

variable (members) in
theorem reads_faithful_of_course
    (course : Course members.readSome PeerStream.socket start peer encounters final peerFinal)
    (buffers : ∀ encounter ∈ encounters, encounter.method.size ≤ intMax) :
    ReadsFaithful members.isOpen peer encounters := by
  have outcomes := reads_outcome course buffers
  constructor
  · intro front encounter back split
    subst split
    obtain ⟨earlier, rest⟩ := List.forall_mem_append.mp buffers
    obtain ⟨now, _⟩ := List.forall_mem_cons.mp rest
    obtain ⟨head, upTo, _⟩ := course.through
    have within : ∀ other ∈ front ++ [encounter], other.method.size ≤ intMax :=
      List.forall_mem_append.mpr ⟨earlier, by simpa using now⟩
    exact ⟨(reads_removed head earlier).1, (reads_removed upTo within).1⟩
  · exact fun encounter member => (outcomes encounter member).counted
  · intro front encounter back split status
    subst split
    obtain ⟨earlier, _⟩ := List.forall_mem_append.mp buffers
    obtain ⟨taken, ends⟩ := reads_removed course.through.1 earlier
    obtain ⟨drained, ended, closed⟩ :=
      (outcomes encounter (List.mem_append_right front List.mem_cons_self)).ended_of_status status
    have silent := reads_silent_after course buffers status
    refine ⟨ends ▸ ended, by rw [taken, drained, List.append_nil], closed, ?_, silent⟩
    intro other member again
    rcases List.mem_append.mp member with before | later
    · obtain ⟨first, second, rfl⟩ := List.append_of_mem before
      rw [List.append_assoc, List.cons_append] at course buffers
      have refused := reads_silent_after course buffers again encounter
        (List.mem_append_right second List.mem_cons_self)
      rw [refused] at status
      cases status
    · rw [silent other later] at again
      cases again
  · exact fun encounter member => (outcomes encounter member).kept_of_status
  · exact fun encounter member => (outcomes encounter member).empty_request

end Runs

end StreamMembers

/-- Reading loses and invents nothing, on a client stream and on an accepted one,
over any run of reads. -/
theorem reads_faithful :
    (∀ (stream final : TcpStreamTransport) (peer peerFinal : PeerStream)
      (encounters : List (ReadEncounter TcpStreamTransport)),
      Course TcpStreamTransport.readSome PeerStream.socket stream peer encounters final peerFinal →
      (∀ encounter ∈ encounters, encounter.method.size ≤ intMax) →
      ReadsFaithful TcpStreamTransport.isOpen peer encounters) ∧
    (∀ (stream final : AcceptedTcpStream) (peer peerFinal : PeerStream)
      (encounters : List (ReadEncounter AcceptedTcpStream)),
      Course AcceptedTcpStream.readSome PeerStream.socket stream peer encounters final peerFinal →
      (∀ encounter ∈ encounters, encounter.method.size ≤ intMax) →
      ReadsFaithful AcceptedTcpStream.isOpen peer encounters) := by
  constructor
  · intro stream final peer peerFinal encounters course buffers
    exact TcpStreamTransport.members.reads_faithful_of_course course buffers
  · intro stream final peer peerFinal encounters course buffers
    exact AcceptedTcpStream.members.reads_faithful_of_course course buffers

/-- The peer sends three bytes and closes. -/
def greetingReads {σ : Type} (opened closed : σ) : List (ReadEncounter σ) :=
  [{ before := opened
     method := ⟨false, 4⟩
     trace := [⟨.select 3 true ⟨5, 0⟩, (1 : Int)⟩, ⟨.recv 3 4, .ok ⟨[1, 2, 3], by decide⟩⟩]
     reply := ⟨.ok, 3, [1, 2, 3]⟩
     after := opened
     worldBefore := ⟨[1, 2, 3], true⟩
     worldAfter := ⟨[], true⟩ },
   { before := opened
     method := ⟨false, 4⟩
     trace := [⟨.select 3 true ⟨5, 0⟩, (1 : Int)⟩, ⟨.recv 3 4, .ok Delivery.nothing⟩,
       ⟨.close 3, ()⟩]
     reply := .empty .connectionClosed
     after := closed
     worldBefore := ⟨[], true⟩
     worldAfter := ⟨[], true⟩ }]

private theorem greeting_followed :
    PeerStream.socket.Follows ⟨[1, 2, 3], true⟩
      [⟨.select 3 true ⟨5, 0⟩, (1 : Int)⟩, ⟨.recv 3 4, .ok ⟨[1, 2, 3], by decide⟩⟩]
      ⟨[], true⟩ :=
  ⟨_, rfl, ⟨[], true⟩, .inl ⟨List.cons_ne_nil 1 [2, 3], rfl, rfl⟩, rfl⟩

private theorem ending_followed :
    PeerStream.socket.Follows ⟨[], true⟩
      [⟨.select 3 true ⟨5, 0⟩, (1 : Int)⟩, ⟨.recv 3 4, .ok Delivery.nothing⟩, ⟨.close 3, ()⟩]
      ⟨[], true⟩ :=
  ⟨_, rfl, _, .inr ⟨rfl, rfl, rfl, rfl⟩, _, rfl, rfl⟩

def acceptedMeter : AcceptedTcpStream := .new 3 ⟨5000⟩ ⟨5000⟩

theorem reads_faithful_greeting :
    ReadsFaithful TcpStreamTransport.isOpen ⟨[1, 2, 3], true⟩
        (greetingReads meterStream (.new meterOptions)) ∧
      ReadsFaithful AcceptedTcpStream.isOpen ⟨[1, 2, 3], true⟩
        (greetingReads acceptedMeter (AcceptedTcpStream.members.release acceptedMeter)) := by
  constructor
  · refine reads_faithful.1 meterStream (.new meterOptions) _ ⟨[], true⟩ _ ?_ ?_
    · exact .cons (.call (.call .refl)) greeting_followed
        (.cons (.call (.call (.call .refl))) ending_followed .nil)
    · simp [greetingReads, intMax]
  · refine reads_faithful.2 acceptedMeter (AcceptedTcpStream.members.release acceptedMeter) _
      ⟨[], true⟩ _ ?_ ?_
    · exact .cons (.call (.call .refl)) greeting_followed
        (.cons (.call (.call (.call .refl))) ending_followed .nil)
    · simp [greetingReads, intMax]

end DlmsTransport.Transport
