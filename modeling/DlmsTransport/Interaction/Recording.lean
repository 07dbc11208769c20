import DlmsTransport.Interaction.Environment

/-! Answers given one at a time: the environment that records a run, and oracles, which
answer each call from the calls before it. -/

set_option autoImplicit false

namespace DlmsTransport.Interaction

variable {Call : Type} {Answer : Call → Type} {α : Type}

/-- The observer that answers anything and remembers everything. -/
def recording : Environment Call Answer (Trace Call Answer) where
  step before request answer after := after = before ++ [⟨request, answer⟩]

@[simp] theorem recording_step_iff {before after : Trace Call Answer} {request : Call}
    {answer : Answer request} :
    recording.step before request answer after ↔ after = before ++ [⟨request, answer⟩] := Iff.rfl

theorem recording_follows_iff {before trace after : Trace Call Answer} :
    recording.Follows before trace after ↔ after = before ++ trace := by
  induction trace generalizing before with
  | nil => simp [eq_comm]
  | cons event rest ih => simp [ih]

/-- Every call of a trace is permitted after the calls before it. -/
theorem recording_respects_append_iff {permitted : Trace Call Answer → Call → Prop}
    {before front back : Trace Call Answer} :
    recording.Respects permitted before (front ++ back) ↔
      recording.Respects permitted before front ∧
        recording.Respects permitted (before ++ front) back := by
  induction front generalizing before with
  | nil => simp [Environment.Respects]
  | cons event rest ih => simp [Environment.Respects, ih, and_assoc]

theorem recording_respects_concat_iff {permitted : Trace Call Answer → Call → Prop}
    {front : Trace Call Answer} {event : Event Call Answer} :
    recording.Respects permitted [] (front ++ [event]) ↔
      recording.Respects permitted [] front ∧ permitted front event.request := by
  simp [recording_respects_append_iff, Environment.Respects]

/-- A way to answer every call, given the calls before it. -/
abbrev Oracle (Call : Type) (Answer : Call → Type) :=
  Trace Call Answer → (request : Call) → Answer request

/-- After the calls of `before`, the oracle gives the answers of the trace. -/
def Oracle.Answers (oracle : Oracle Call Answer) : Trace Call Answer → Trace Call Answer → Prop
  | _, [] => True
  | before, event :: rest =>
      event.answer = oracle before event.request ∧ oracle.Answers (before ++ [event]) rest

/-- Answered by an oracle, a program comes to its end or to the end of its budget. -/
theorem Program.answered (oracle : Oracle Call Answer) (program : Program Call Answer α)
    (before : Trace Call Answer) :
    ∃ trace residual, program.Leads trace residual ∧ oracle.Answers before trace ∧
      (residual = .pending ∨ ∃ result, residual = .done result) := by
  induction program generalizing before with
  | done result => exact ⟨[], _, .refl, trivial, .inr ⟨result, rfl⟩⟩
  | pending => exact ⟨[], _, .refl, trivial, .inl rfl⟩
  | call request next ih =>
      obtain ⟨trace, residual, leading, answers, ended⟩ :=
        ih (oracle before request) (before ++ [⟨request, oracle before request⟩])
      exact ⟨_ :: trace, residual, .call leading, ⟨rfl, answers⟩, ended⟩

end DlmsTransport.Interaction
