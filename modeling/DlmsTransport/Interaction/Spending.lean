import DlmsTransport.Interaction.Environment

/-! Calls that cost something, paid out of an allowance to which answers may add. What a program
within its allowance has spent is covered by the allowance and by what it has earned. -/

set_option autoImplicit false

namespace DlmsTransport.Interaction

structure Tariff (Call : Type) (Answer : Call → Type) where
  cost : Call → Nat
  earns : (request : Call) → Answer request → Nat

variable {Call : Type} {Answer : Call → Type} {α β : Type}

namespace Tariff

variable (tariff : Tariff Call Answer)

def spent : Trace Call Answer → Nat
  | [] => 0
  | event :: rest => tariff.cost event.request + spent rest

def earned : Trace Call Answer → Nat
  | [] => 0
  | event :: rest => tariff.earns event.request event.answer + earned rest

/-- The world is the balance. -/
def purse : Environment Call Answer Nat where
  step before request answer after :=
    after = before - tariff.cost request + tariff.earns request answer

def Affords (balance : Nat) (request : Call) : Prop := tariff.cost request ≤ balance

end Tariff

namespace Program

/-- With the allowance the program can pay for every call, and something is left at its end. -/
abbrev Within (tariff : Tariff Call Answer) (allowance : Nat) (left : α → Nat)
    (program : Program Call Answer α) : Prop :=
  program.Meets tariff.purse (.calls tariff.Affords) (fun balance result => left result ≤ balance)
    allowance

variable {tariff : Tariff Call Answer} {allowance : Nat} {left : α → Nat}

theorem Within.call {request : Call} {next : Answer request → Program Call Answer α}
    (affords : tariff.cost request ≤ allowance)
    (rest : ∀ answer, Within tariff
      (allowance - tariff.cost request + tariff.earns request answer) left (next answer)) :
    Within tariff allowance left (.call request next) :=
  ⟨affords, fun answer _ stepped => stepped ▸ rest answer⟩

theorem Within.mono {wider : Nat} {less : α → Nat} {program : Program Call Answer α}
    (within : Within tariff allowance left program) (more : allowance ≤ wider)
    (fewer : ∀ result, less result ≤ left result) : Within tariff wider less program := by
  induction program generalizing allowance wider with
  | done result =>
      have kept : left result ≤ allowance := within
      exact Nat.le_trans (fewer result) (Nat.le_trans kept more)
  | pending => trivial
  | call request next ih =>
      have affords : tariff.cost request ≤ allowance := within.1
      refine .call (Nat.le_trans affords more) fun answer => ih answer (within.2 answer _ rfl) ?_
      omega

theorem Within.bind {last : β → Nat} {program : Program Call Answer α}
    {continuation : α → Program Call Answer β} (first : Within tariff allowance left program)
    (rest : ∀ result, Within tariff (left result) last (continuation result)) :
    Within tariff allowance last (program >>= continuation) :=
  meets_bind_iff.mpr
    (Meets.mono first fun _ result enough => (rest result).mono enough fun _ => Nat.le_refl _)

/-- A call that costs nothing. -/
theorem Within.free {request : Call} {next : Answer request → Program Call Answer α}
    (nothing : tariff.cost request = 0)
    (rest : ∀ answer, Within tariff allowance left (next answer)) :
    Within tariff allowance left (.call request next) := by
  refine .call (nothing ▸ Nat.zero_le _) fun answer => ?_
  exact (rest answer).mono (by omega) fun _ => Nat.le_refl _

theorem Within.of_only {program : Program Call Answer α}
    (nothing : program.Only fun request => tariff.cost request = 0) :
    Within tariff allowance (fun _ => allowance) program := by
  induction program with
  | done => exact Nat.le_refl _
  | pending => trivial
  | call request next ih => exact .free nothing.1 fun answer => ih answer (nothing.2 answer)

private theorem Within.leads {program residual : Program Call Answer α}
    {trace : Trace Call Answer} (within : Within tariff allowance left program)
    (leading : Leads program trace residual) :
    ∃ balance, tariff.spent trace + balance = allowance + tariff.earned trace ∧
      Within tariff balance left residual := by
  induction leading generalizing allowance with
  | refl => exact ⟨allowance, by simp [Tariff.spent, Tariff.earned], within⟩
  | @call request _ answer _ _ _ ih =>
      have affords : tariff.cost request ≤ allowance := within.1
      obtain ⟨balance, balanced, following⟩ := ih (within.2 answer _ rfl)
      refine ⟨balance, ?_, following⟩
      simp only [Tariff.spent, Tariff.earned]
      omega

theorem Within.emits {program : Program Call Answer α} {trace : Trace Call Answer}
    (within : Within tariff allowance left program) (emitted : Emits program trace) :
    tariff.spent trace ≤ allowance + tariff.earned trace := by
  obtain ⟨residual, leading⟩ := emitted
  obtain ⟨balance, balanced, _⟩ := within.leads leading
  omega

end Program

end DlmsTransport.Interaction
