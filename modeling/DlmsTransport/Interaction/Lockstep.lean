import DlmsTransport.Interaction.Session

/-! An object in its environment beside a pure double of the two. The double is
told what the environment takes in between the calls and, before each call, what
the environment is about to do; it then has to give the same reply. -/

set_option autoImplicit false

namespace DlmsTransport.Interaction

/-- What happens next: the environment takes something in, or the object is called. -/
inductive Turn (Input State World Method Call : Type) (Answer : Call → Type) (Reply : Type) where
  | input (input : Input)
  | call (encounter : Encounter State World Method Call Answer Reply)

variable {Input State World Method Call Reply Twin : Type} {Answer : Call → Type}

/-- A session in an environment that also moves between the calls. -/
inductive Turns (invoke : State → Method → Program Call Answer (Reply × State))
    (environment : Environment Call Answer World)
    (takesIn : State → World → Input → World → Prop) :
    State → World → List (Turn Input State World Method Call Answer Reply) →
      State → World → Prop where
  | nil {state world} : Turns invoke environment takesIn state world [] state world
  | input {state world input worldNext rest final worldFinal} :
      takesIn state world input worldNext →
      Turns invoke environment takesIn state worldNext rest final worldFinal →
      Turns invoke environment takesIn state world (.input input :: rest) final worldFinal
  | call {before worldBefore method trace reply after worldAfter rest final worldFinal} :
      Program.Runs (invoke before method) trace (reply, after) →
      environment.Follows worldBefore trace worldAfter →
      Turns invoke environment takesIn after worldAfter rest final worldFinal →
      Turns invoke environment takesIn before worldBefore
        (.call ⟨⟨before, method, trace, reply, after⟩, worldBefore, worldAfter⟩ :: rest)
        final worldFinal

/-- `hear` is told what the environment takes in, `prepare` the trace of the call
that comes next. `Alike` is what a caller can tell apart besides the reply. -/
structure Double (Input State Method Call : Type) (Answer : Call → Type) (Reply Twin : Type) where
  hear : Twin → Input → Twin
  prepare : Twin → Method → Trace Call Answer → Twin
  perform : Twin → Method → Reply × Twin
  Alike : State → Twin → Prop

namespace Double

variable (double : Double Input State Method Call Answer Reply Twin)

def answer (twin : Twin) (invocation : Invocation State Method Call Answer Reply) : Reply × Twin :=
  double.perform (double.prepare twin invocation.method invocation.trace) invocation.method

def Matches (twin : Twin) (invocation : Invocation State Method Call Answer Reply) : Prop :=
  (double.answer twin invocation).1 = invocation.reply ∧
    double.Alike invocation.after (double.answer twin invocation).2

def turn (twin : Twin) : Turn Input State World Method Call Answer Reply → Twin
  | .input input => double.hear twin input
  | .call encounter => (double.answer twin encounter.toInvocation).2

def final (twin : Twin) (turns : List (Turn Input State World Method Call Answer Reply)) : Twin :=
  turns.foldl double.turn twin

/-- The double gives the reply of the object at every call. -/
def Agrees : Twin → List (Turn Input State World Method Call Answer Reply) → Prop
  | _, [] => True
  | twin, .input input :: rest => Agrees (double.hear twin input) rest
  | twin, .call encounter :: rest =>
      double.Matches twin encounter.toInvocation ∧
        Agrees (double.answer twin encounter.toInvocation).2 rest

theorem agrees_append_iff {twin : Twin}
    {front back : List (Turn Input State World Method Call Answer Reply)} :
    double.Agrees twin (front ++ back) ↔
      double.Agrees twin front ∧ double.Agrees (double.final twin front) back := by
  induction front generalizing twin with
  | nil => simp [Agrees, final]
  | cons turn rest ih =>
      cases turn with
      | input input => exact ih
      | call encounter =>
          simp only [List.cons_append, Agrees, ih, and_assoc]
          rfl

@[simp] theorem final_append (twin : Twin)
    (front back : List (Turn Input State World Method Call Answer Reply)) :
    double.final twin (front ++ back) = double.final (double.final twin front) back :=
  List.foldl_append

end Double

namespace Turns

variable {invoke : State → Method → Program Call Answer (Reply × State)}
  {environment : Environment Call Answer World} {takesIn : State → World → Input → World → Prop}
  (double : Double Input State Method Call Answer Reply Twin)
  (Related : State → World → Twin → Prop)
  (Good : Encounter State World Method Call Answer Reply → Prop)
  {start final : State} {world worldFinal : World} {twin : Twin}
  {turns : List (Turn Input State World Method Call Answer Reply)}

theorem append_iff {front back : List (Turn Input State World Method Call Answer Reply)} :
    Turns invoke environment takesIn start world (front ++ back) final worldFinal ↔
      ∃ middle worldMiddle, Turns invoke environment takesIn start world front middle worldMiddle ∧
        Turns invoke environment takesIn middle worldMiddle back final worldFinal := by
  induction front generalizing start world with
  | nil =>
      constructor
      · exact fun session => ⟨start, world, .nil, session⟩
      · intro joined
        obtain ⟨middle, worldMiddle, head, tail⟩ := joined
        cases head
        exact tail
  | cons turn rest ih =>
      constructor
      · intro session
        cases session with
        | input taken following =>
            obtain ⟨middle, worldMiddle, head, tail⟩ := ih.mp following
            exact ⟨middle, worldMiddle, .input taken head, tail⟩
        | call run followed following =>
            obtain ⟨middle, worldMiddle, head, tail⟩ := ih.mp following
            exact ⟨middle, worldMiddle, .call run followed head, tail⟩
      · intro joined
        obtain ⟨middle, worldMiddle, head, tail⟩ := joined
        cases head with
        | input taken following =>
            exact .input taken (ih.mpr ⟨middle, worldMiddle, following, tail⟩)
        | call run followed following =>
            exact .call run followed (ih.mpr ⟨middle, worldMiddle, following, tail⟩)

/-- A simulation that the inputs and the good calls keep: the double agrees on
every run of good calls and ends related to the object and its environment. -/
theorem simulates
    (inputs : ∀ state before input after twin, Related state before twin →
      takesIn state before input after → Related state after (double.hear twin input))
    (calls : ∀ encounter twin, Related encounter.before encounter.worldBefore twin →
      Good encounter →
      Program.Runs (invoke encounter.before encounter.method) encounter.trace
        (encounter.reply, encounter.after) →
      environment.Follows encounter.worldBefore encounter.trace encounter.worldAfter →
      double.Matches twin encounter.toInvocation ∧
        Related encounter.after encounter.worldAfter (double.answer twin encounter.toInvocation).2)
    (session : Turns invoke environment takesIn start world turns final worldFinal)
    (related : Related start world twin)
    (good : ∀ encounter, .call encounter ∈ turns → Good encounter) :
    double.Agrees twin turns ∧ Related final worldFinal (double.final twin turns) := by
  induction session generalizing twin with
  | nil => exact ⟨trivial, related⟩
  | input taken _ ih =>
      exact ih (inputs _ _ _ _ _ related taken) fun encounter later =>
        good encounter (.tail _ later)
  | call run followed _ ih =>
      obtain ⟨same, next⟩ :=
        calls ⟨⟨_, _, _, _, _⟩, _, _⟩ twin related (good _ (.head _)) run followed
      obtain ⟨agrees, last⟩ := ih next fun encounter later => good encounter (.tail _ later)
      exact ⟨⟨same, agrees⟩, last⟩

/-- Where one call is matched exactly when it is good, and matched calls keep the
relation, the double agrees on exactly the runs of good calls. -/
theorem agrees_iff
    (inputs : ∀ state before input after twin, Related state before twin →
      takesIn state before input after → Related state after (double.hear twin input))
    (calls : ∀ encounter twin, Related encounter.before encounter.worldBefore twin →
      Program.Runs (invoke encounter.before encounter.method) encounter.trace
        (encounter.reply, encounter.after) →
      environment.Follows encounter.worldBefore encounter.trace encounter.worldAfter →
      (double.Matches twin encounter.toInvocation ↔ Good encounter) ∧
        (Good encounter →
          Related encounter.after encounter.worldAfter
            (double.answer twin encounter.toInvocation).2))
    (session : Turns invoke environment takesIn start world turns final worldFinal)
    (related : Related start world twin) :
    double.Agrees twin turns ↔ ∀ encounter, .call encounter ∈ turns → Good encounter := by
  constructor
  · intro agrees
    induction session generalizing twin with
    | nil => simp
    | input taken _ ih => simpa using ih (inputs _ _ _ _ _ related taken) agrees
    | call run followed _ ih =>
        obtain ⟨exact, next⟩ := calls ⟨⟨_, _, _, _, _⟩, _, _⟩ twin related run followed
        have first := exact.mp agrees.1
        have rest := ih (next first) agrees.2
        intro encounter member
        rcases List.mem_cons.mp member with same | later
        · cases same
          exact first
        · exact rest encounter later
  · intro good
    refine (simulates double Related Good inputs ?_ session related good).1
    intro encounter twin related good run followed
    obtain ⟨exact, next⟩ := calls encounter twin related run followed
    exact ⟨exact.mpr good, next good⟩

end Turns

end DlmsTransport.Interaction
