import DlmsTransport.Interaction.Medium
import DlmsTransport.Interaction.Recording
import DlmsTransport.Transport.ReadProgressProperties
import DlmsTransport.Transport.WriteAllProperties

/-! One TCP connection between two ends. The operating systems deliver late and in any
portions, and the connection may break at any time; what has been received is still what
was accepted, in order. -/

set_option autoImplicit false

namespace DlmsTransport.Transport

open Interaction Posix

/-- The bytes one call took out of its descriptor. -/
def receivedBytes : (request : OsCall) → request.Answer → List UInt8
  | .recv _ _, .ok bytes => bytes.val
  | .read _ _, .ok bytes => bytes.val
  | _, _ => []

def received (trace : OsTrace) : List UInt8 :=
  trace.flatMap fun event => receivedBytes event.request event.answer

def isClose : OsCall → Bool
  | .close _ => true
  | _ => false

def Closes (trace : OsTrace) : Prop :=
  ∃ event ∈ trace, isClose event.request = true

@[simp] theorem received_nil : received [] = [] := rfl

@[simp] theorem received_cons (event : OsEvent) (rest : OsTrace) :
    received (event :: rest) = receivedBytes event.request event.answer ++ received rest := rfl

@[simp] theorem received_append (front back : OsTrace) :
    received (front ++ back) = received front ++ received back := by
  simp [received]

@[simp] theorem accepted_cons (event : OsEvent) (rest : OsTrace) :
    accepted (event :: rest) = acceptedBytes event.request event.answer ++ accepted rest := rfl

@[simp] theorem not_closes_nil : ¬ Closes [] := by simp [Closes]

@[simp] theorem closes_cons_iff {event : OsEvent} {rest : OsTrace} :
    Closes (event :: rest) ↔ isClose event.request = true ∨ Closes rest := by
  simp [Closes]

@[simp] theorem closes_append_iff {front back : OsTrace} :
    Closes (front ++ back) ↔ Closes front ∨ Closes back := by
  simp [Closes, or_and_right, exists_or]

@[simp] theorem endsInput_append_iff {front back : OsTrace} :
    EndsInput (front ++ back) ↔ EndsInput front ∨ EndsInput back := by
  simp [EndsInput, or_and_right, exists_or]

inductive End where
  | client
  | server
  deriving DecidableEq, Repr

def End.other : End → End
  | .client => .server
  | .server => .client

@[simp] theorem End.other_ne (party : End) : party.other ≠ party := by cases party <;> decide

@[simp] theorem End.other_other (party : End) : party.other.other = party := by
  cases party <;> rfl

theorem End.eq_other_of_ne {party caller : End} (different : party ≠ caller) :
    caller = party.other := by
  cases party <;> cases caller <;> simp_all [other]

/-- How one direction of a connection stands: its writer may still write, or has closed,
or the connection broke and nothing more arrives. -/
inductive Condition where
  | flowing
  | ended
  | broken
  deriving DecidableEq, Repr

structure Direction where
  inFlight : List UInt8
  condition : Condition
  deriving DecidableEq, Repr

namespace Direction

def fresh : Direction := ⟨[], .flowing⟩

/-- Bytes given to a broken direction are lost. -/
def accept (direction : Direction) (bytes : List UInt8) : Direction :=
  match direction.condition with
  | .broken => direction
  | .flowing | .ended => { direction with inFlight := direction.inFlight ++ bytes }

def finish (direction : Direction) : Direction :=
  match direction.condition with
  | .flowing => { direction with condition := .ended }
  | .ended | .broken => direction

end Direction

/-- The direction towards each end. -/
abbrev Connection := End → Direction

/-- What one call of one end does to the connection. Bytes arrive in order, and no bytes
are the answer to a non-empty request only where the writer closed and all has arrived. -/
structure Serves (before : Connection) (caller : End) (request : OsCall)
    (answer : request.Answer) (after : Connection) : Prop where
  taken : (before caller).inFlight = receivedBytes request answer ++ (after caller).inFlight
  standing : (after caller).condition = (before caller).condition
  ends : AnswersEnd request answer → before caller = ⟨[], .ended⟩
  given : after caller.other =
    if isClose request then
      ((before caller.other).accept (acceptedBytes request answer)).finish
    else
      (before caller.other).accept (acceptedBytes request answer)

/-- Any part of what is under way arrives before a direction breaks. -/
def Breaks (before after : Connection) : Prop :=
  ∃ party kept, kept <+: (before party).inFlight ∧
    after = Function.update before party ⟨kept, .broken⟩

def tcp : Medium End OsCall OsCall.Answer Connection where
  step := Serves
  drift := Breaks

/-- Nothing is done after the descriptor has been closed. -/
def ClosesLast (trace : OsTrace) : Prop :=
  recording.Respects (fun before _ => ¬ Closes before) [] trace

/-- One direction after its two ends have done what the traces record. -/
structure Conserves (reader writer : OsTrace) (direction : Direction) : Prop where
  leading : received reader ++ direction.inFlight <+: accepted writer
  whole : direction.condition ≠ .broken →
    received reader ++ direction.inFlight = accepted writer
  ended : direction.condition = .ended → Closes writer
  drained : EndsInput reader → received reader = accepted writer ∧ Closes writer

namespace Conserves

variable {reader writer : OsTrace} {before after : Direction} {request : OsCall}
  {answer : request.Answer}

theorem read (conserves : Conserves reader writer before)
    (taken : before.inFlight = receivedBytes request answer ++ after.inFlight)
    (standing : after.condition = before.condition)
    (ends : AnswersEnd request answer → before = ⟨[], .ended⟩) :
    Conserves (reader ++ [⟨request, answer⟩]) writer after := by
  have moved : received (reader ++ [⟨request, answer⟩]) ++ after.inFlight =
      received reader ++ before.inFlight := by
    simp [taken]
  have nothing (drained : before.inFlight = []) :
      received (reader ++ [⟨request, answer⟩]) = received reader := by
    rw [drained, List.nil_eq_append_iff] at taken
    simp [taken.1]
  constructor
  · rw [moved]
    exact conserves.leading
  · rw [moved, standing]
    exact conserves.whole
  · rw [standing]
    exact conserves.ended
  · intro ended
    rcases endsInput_append_iff.mp ended with already | now
    · obtain ⟨all, closed⟩ := conserves.drained already
      have within := conserves.leading
      rw [← all] at within
      have drained : before.inFlight = [] := by
        have short := within.length_le
        rw [List.length_append] at short
        exact List.eq_nil_of_length_eq_zero (by omega)
      exact ⟨(nothing drained).trans all, closed⟩
    · obtain rfl := ends (by simpa using now)
      rw [nothing rfl]
      have all := conserves.whole (by simp)
      rw [List.append_nil] at all
      exact ⟨all, conserves.ended rfl⟩

theorem write (conserves : Conserves reader writer before) (quiet : ¬ Closes writer)
    (given : after = if isClose request then (before.accept (acceptedBytes request answer)).finish
      else before.accept (acceptedBytes request answer)) :
    Conserves reader (writer ++ [⟨request, answer⟩]) after := by
  have goesOn : ¬ EndsInput reader := fun ended => quiet (conserves.drained ended).2
  have flowing : before.condition ≠ .ended := fun ended => quiet (conserves.ended ended)
  obtain ⟨inFlight, condition⟩ := before
  cases condition with
  | ended => exact absurd rfl flowing
  | broken =>
      obtain rfl : after = ⟨inFlight, .broken⟩ := by
        rw [given]
        split <;> rfl
      refine ⟨?_, by simp, by simp, fun ended => absurd ended goesOn⟩
      rw [accepted_append]
      exact conserves.leading.trans (List.prefix_append ..)
  | flowing =>
      obtain rfl : after = ⟨inFlight ++ acceptedBytes request answer,
          if isClose request then .ended else .flowing⟩ := by
        rw [given]
        split <;> rfl
      have all : received reader ++ (inFlight ++ acceptedBytes request answer) =
          accepted (writer ++ [⟨request, answer⟩]) := by
        rw [← List.append_assoc, conserves.whole (by simp)]
        simp
      refine ⟨all ▸ List.prefix_rfl, fun _ => all, ?_, fun ended => absurd ended goesOn⟩
      intro ended
      have closes : isClose request = true := by
        by_contra remains
        simp [remains] at ended
      simp [closes]

theorem breaks (conserves : Conserves reader writer before) {kept : List UInt8}
    (leading : kept <+: before.inFlight) : Conserves reader writer ⟨kept, .broken⟩ where
  leading := ((List.prefix_append_right_inj _).mpr leading).trans conserves.leading
  whole unbroken := absurd rfl unbroken
  ended contradiction := by cases contradiction
  drained := conserves.drained

end Conserves

theorem tcp_conserves {views : End → OsTrace} {connection : Connection}
    (carried : tcp.Carries (fun _ => .fresh) views connection)
    (quiet : ∀ party, ClosesLast (views party)) (party : End) :
    Conserves (views party) (views party.other) (connection party) := by
  refine carried.invariant (fun _ => ClosesLast)
    (fun views connection =>
      ∀ party, Conserves (views party) (views party.other) (connection party))
    ?_ ?_ ?_ ?_ quiet party
  · intro _ front back done
    exact (recording_respects_append_iff.mp done).1
  · intro party
    exact ⟨List.prefix_rfl, fun _ => rfl, by simp [Direction.fresh], by simp⟩
  · intro views before caller request answer after holds does served party
    by_cases same : party = caller
    · subst same
      rw [Medium.extend_self, Medium.extend_of_ne _ party.other_ne]
      exact (holds party).read served.taken served.standing fun ends => served.ends ends
    · obtain rfl := End.eq_other_of_ne same
      have quiet := does party.other
      rw [Medium.extend_self] at quiet ⊢
      rw [Medium.extend_of_ne _ same]
      have given := served.given
      rw [End.other_other] at given
      exact (holds party).write (recording_respects_concat_iff.mp quiet).2 given
  · intro views before after holds broken party
    obtain ⟨hit, kept, leading, rfl⟩ := broken
    by_cases same : party = hit
    · subst same
      rw [Function.update_self]
      exact (holds party).breaks leading
    · rw [Function.update_of_ne same]
      exact holds party

end DlmsTransport.Transport
