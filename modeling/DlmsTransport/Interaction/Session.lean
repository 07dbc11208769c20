import DlmsTransport.Interaction.Environment

/-! Runs of an object: any sequence of its methods, each run to its end on the
state the one before it left. -/

set_option autoImplicit false

namespace DlmsTransport.Interaction

/-- One completed method call with everything it did. -/
structure Invocation (State Method Call : Type) (Answer : Call → Type) (Reply : Type) where
  before : State
  method : Method
  trace : Trace Call Answer
  reply : Reply
  after : State

variable {State Method Call Reply World : Type} {Answer : Call → Type}

/-- The same call as a part of the object sees it. -/
def Invocation.onPart {Part : Type} (part : State → Part)
    (invocation : Invocation State Method Call Answer Reply) :
    Invocation Part Method Call Answer Reply where
  before := part invocation.before
  method := invocation.method
  trace := invocation.trace
  reply := invocation.reply
  after := part invocation.after

/-- `Session invoke start history final`: the calls of `history` take the
object from `start` to `final`. -/
inductive Session (invoke : State → Method → Program Call Answer (Reply × State)) :
    State → List (Invocation State Method Call Answer Reply) → State → Prop where
  | nil {state} : Session invoke state [] state
  | cons {before method trace reply after history final} :
      Program.Runs (invoke before method) trace (reply, after) →
      Session invoke after history final →
      Session invoke before (⟨before, method, trace, reply, after⟩ :: history) final

def sessionTrace (history : List (Invocation State Method Call Answer Reply)) :
    Trace Call Answer :=
  history.flatMap (·.trace)

@[simp] theorem sessionTrace_nil :
    sessionTrace ([] : List (Invocation State Method Call Answer Reply)) = [] := rfl

@[simp] theorem sessionTrace_cons (invocation : Invocation State Method Call Answer Reply)
    (history : List (Invocation State Method Call Answer Reply)) :
    sessionTrace (invocation :: history) = invocation.trace ++ sessionTrace history := rfl

namespace Session

variable {invoke : State → Method → Program Call Answer (Reply × State)}

theorem append_iff {front back : List (Invocation State Method Call Answer Reply)}
    {start final : State} :
    Session invoke start (front ++ back) final ↔
      ∃ middle, Session invoke start front middle ∧ Session invoke middle back final := by
  induction front generalizing start with
  | nil =>
      constructor
      · exact fun session => ⟨start, .nil, session⟩
      · intro joined
        obtain ⟨middle, head, tail⟩ := joined
        cases head
        exact tail
  | cons invocation rest ih =>
      constructor
      · intro session
        cases session with
        | cons run following =>
            obtain ⟨middle, head, tail⟩ := ih.mp following
            exact ⟨middle, .cons run head, tail⟩
      · intro joined
        obtain ⟨middle, head, tail⟩ := joined
        cases head with
        | cons run following => exact .cons run (ih.mpr ⟨middle, following, tail⟩)

theorem through {start final : State}
    {front back : List (Invocation State Method Call Answer Reply)}
    {invocation : Invocation State Method Call Answer Reply}
    (session : Session invoke start (front ++ invocation :: back) final) :
    Session invoke start front invocation.before ∧
      Session invoke start (front ++ [invocation]) invocation.after ∧
      Session invoke invocation.after back final := by
  obtain ⟨middle, head, tail⟩ := append_iff.mp session
  cases tail with
  | cons run following =>
      exact ⟨head, append_iff.mpr ⟨_, head, .cons run .nil⟩, following⟩

theorem invariant {Holds : State → Prop}
    (preserved : ∀ before method trace reply after, Holds before →
      Program.Runs (invoke before method) trace (reply, after) → Holds after)
    {start final : State} {history : List (Invocation State Method Call Answer Reply)}
    (session : Session invoke start history final) (initial : Holds start) :
    Holds final ∧ ∀ invocation ∈ history, Holds invocation.before ∧ Holds invocation.after ∧
      Program.Runs (invoke invocation.before invocation.method) invocation.trace
        (invocation.reply, invocation.after) := by
  induction session with
  | nil => exact ⟨initial, by simp⟩
  | cons run _ ih =>
      have next := preserved _ _ _ _ _ initial run
      obtain ⟨last, rest⟩ := ih next
      refine ⟨last, ?_⟩
      intro invocation member
      rcases List.mem_cons.mp member with rfl | later
      · exact ⟨initial, next, run⟩
      · exact rest invocation later

theorem runs_of_mem {start final : State}
    {history : List (Invocation State Method Call Answer Reply)}
    (session : Session invoke start history final)
    {invocation : Invocation State Method Call Answer Reply} (member : invocation ∈ history) :
    Program.Runs (invoke invocation.before invocation.method) invocation.trace
      (invocation.reply, invocation.after) := by
  have always := session.invariant (fun _ _ _ _ _ (_ : True) _ => trivial) trivial
  exact (always.2 invocation member).2.2

/-- After the last call that puts the object back to where it started, the rest is a
session of its own. -/
theorem since_restart (Restarts : Method → Prop) {start final : State}
    (restarts : ∀ before method trace reply after, Restarts method →
      Program.Runs (invoke before method) trace (reply, after) → after = start)
    {history back : List (Invocation State Method Call Answer Reply)}
    (session : Session invoke start history final)
    (begins : history = back ∨ ∃ front restart, history = front ++ restart :: back ∧
      Restarts restart.method) : Session invoke start back final := by
  rcases begins with rfl | ⟨front, restart, rfl, restarted⟩
  · exact session
  · have run := session.runs_of_mem (List.mem_append_right front List.mem_cons_self)
    have following := session.through.2.2
    rwa [restarts _ _ _ _ _ restarted run] at following

/-- What enters a queue leaves it in order or is still there, over any session whose
every call is so. -/
theorem conserves {Item : Type}
    (taken given : Invocation State Method Call Answer Reply → Option Item)
    (queue : State → List Item) {start final : State}
    {history : List (Invocation State Method Call Answer Reply)}
    (session : Session invoke start history final)
    (steps : ∀ invocation ∈ history,
      (taken invocation).toList ++ queue invocation.after =
        queue invocation.before ++ (given invocation).toList) :
    history.filterMap taken ++ queue final = queue start ++ history.filterMap given := by
  induction session with
  | nil => simp
  | cons run following ih =>
      obtain ⟨first, later⟩ := List.forall_mem_cons.mp steps
      simp only [List.filterMap_eq_flatMap_toList, List.flatMap_cons, List.append_assoc] at ih ⊢
      rw [ih later, ← List.append_assoc, first, List.append_assoc]

/-- A guarantee that every method call re-establishes holds after the whole
session, and every call made on the way was permitted. -/
theorem meets {environment : Environment Call Answer World}
    {guarantee : Guarantee Call World} {Holds : World → State → Prop}
    (preserved : ∀ world before method, Holds world before →
      Program.Meets environment guarantee (fun after outcome => Holds after outcome.2)
        (invoke before method) world)
    {start final : State} {history : List (Invocation State Method Call Answer Reply)}
    (session : Session invoke start history final) {world : World}
    (initial : Holds world start) :
    environment.Respects guarantee.permitted world (sessionTrace history) ∧
      ∀ after, environment.Follows world (sessionTrace history) after → Holds after final := by
  induction session generalizing world with
  | nil => exact ⟨trivial, fun after followed => followed ▸ initial⟩
  | @cons before method _ _ _ _ _ run _ ih =>
      have met := preserved world before method initial
      constructor
      · apply Environment.respects_append (met.respects run.emits)
        intro middle followed
        exact (ih (met.runs run followed)).1
      · intro after followed
        obtain ⟨middle, head, tail⟩ := Environment.follows_append_iff.mp followed
        exact (ih (met.runs run head)).2 after tail

/-- The same for a guarantee that counts something the calls reply. -/
theorem meets_tallying {environment : Environment Call Answer World}
    {guarantee : Guarantee Call World} (tally : Reply → Bool) {Holds : Nat → World → State → Prop}
    (preserved : ∀ count world before method, Holds count world before →
      Program.Meets environment guarantee
        (fun after outcome => Holds (count + (tally outcome.1).toNat) after outcome.2)
        (invoke before method) world)
    {start final : State} {history : List (Invocation State Method Call Answer Reply)}
    (session : Session invoke start history final) {count : Nat} {world : World}
    (initial : Holds count world start) :
    environment.Respects guarantee.permitted world (sessionTrace history) ∧
      ∀ after, environment.Follows world (sessionTrace history) after →
        Holds (count + history.countP (tally ·.reply)) after final := by
  induction session generalizing count world with
  | nil => exact ⟨trivial, fun after followed => followed ▸ initial⟩
  | @cons before method _ reply _ _ _ run _ ih =>
      have met := preserved count world before method initial
      constructor
      · apply Environment.respects_append (met.respects run.emits)
        intro middle followed
        exact (ih (met.runs run followed)).1
      · intro after followed
        obtain ⟨middle, head, tail⟩ := Environment.follows_append_iff.mp followed
        have counted := (ih (met.runs run head)).2 after tail
        cases told : tally reply <;> simpa [List.countP_cons, told, Nat.add_assoc, Nat.add_comm 1]
          using counted

/-- The calls that concern one part of the object are a session of that part, if they see no
other part and the other calls leave it alone. -/
theorem project {Part : Type} {invokePart : Part → Method → Program Call Answer (Reply × Part)}
    (part : State → Part) (concerns : Method → Bool) (Holds : State → Prop)
    (preserved : ∀ before method trace reply after, Holds before →
      Program.Runs (invoke before method) trace (reply, after) → Holds after)
    (own : ∀ before method trace reply after, concerns method = true →
      Program.Runs (invoke before method) trace (reply, after) →
      Program.Runs (invokePart (part before) method) trace (reply, part after))
    (other : ∀ before method trace reply after, Holds before → concerns method = false →
      Program.Runs (invoke before method) trace (reply, after) → part after = part before)
    {start final : State} {history : List (Invocation State Method Call Answer Reply)}
    (session : Session invoke start history final) (initial : Holds start) :
    Session invokePart (part start)
      ((history.filter fun invocation => concerns invocation.method).map (·.onPart part))
      (part final) := by
  induction session with
  | nil => exact .nil
  | @cons before method _ _ _ _ _ run _ ih =>
      have following := ih (preserved _ _ _ _ _ initial run)
      cases concerned : concerns method with
      | true =>
          rw [List.filter_cons, if_pos concerned]
          exact .cons (own _ _ _ _ _ concerned run) following
      | false =>
          rw [List.filter_cons, if_neg (by simp [concerned])]
          rwa [other _ _ _ _ _ initial concerned run] at following

end Session

structure Encounter (State World Method Call : Type) (Answer : Call → Type) (Reply : Type)
    extends Invocation State Method Call Answer Reply where
  worldBefore : World
  worldAfter : World

/-- A session in an environment, with the world it moves through. -/
inductive Course (invoke : State → Method → Program Call Answer (Reply × State))
    (environment : Environment Call Answer World) :
    State → World → List (Encounter State World Method Call Answer Reply) →
      State → World → Prop where
  | nil {state world} : Course invoke environment state world [] state world
  | cons {before worldBefore method trace reply after worldAfter rest final worldFinal} :
      Program.Runs (invoke before method) trace (reply, after) →
      environment.Follows worldBefore trace worldAfter →
      Course invoke environment after worldAfter rest final worldFinal →
      Course invoke environment before worldBefore
        (⟨⟨before, method, trace, reply, after⟩, worldBefore, worldAfter⟩ :: rest)
        final worldFinal

theorem Course.forall_mem {invoke : State → Method → Program Call Answer (Reply × State)}
    {environment : Environment Call Answer World}
    (Good : State → World → Prop)
    {Fact : Encounter State World Method Call Answer Reply → Prop}
    (step : ∀ encounter : Encounter State World Method Call Answer Reply,
      Good encounter.before encounter.worldBefore →
      Program.Runs (invoke encounter.before encounter.method) encounter.trace
        (encounter.reply, encounter.after) →
      environment.Follows encounter.worldBefore encounter.trace encounter.worldAfter →
      Fact encounter ∧ Good encounter.after encounter.worldAfter)
    {start final : State} {world worldFinal : World}
    {encounters : List (Encounter State World Method Call Answer Reply)}
    (course : Course invoke environment start world encounters final worldFinal)
    (good : Good start world) : ∀ encounter ∈ encounters, Fact encounter := by
  induction course with
  | nil => simp
  | cons run followed _ ih =>
      obtain ⟨fact, next⟩ := step ⟨⟨_, _, _, _, _⟩, _, _⟩ good run followed
      exact List.forall_mem_cons.mpr ⟨fact, ih next⟩

theorem Course.append_iff {invoke : State → Method → Program Call Answer (Reply × State)}
    {environment : Environment Call Answer World}
    {front back : List (Encounter State World Method Call Answer Reply)} {start final : State}
    {world worldFinal : World} :
    Course invoke environment start world (front ++ back) final worldFinal ↔
      ∃ middle worldMiddle, Course invoke environment start world front middle worldMiddle ∧
        Course invoke environment middle worldMiddle back final worldFinal := by
  induction front generalizing start world with
  | nil =>
      constructor
      · exact fun course => ⟨start, world, .nil, course⟩
      · intro joined
        obtain ⟨middle, worldMiddle, head, tail⟩ := joined
        cases head
        exact tail
  | cons encounter rest ih =>
      constructor
      · intro course
        cases course with
        | cons run followed following =>
            obtain ⟨middle, worldMiddle, head, tail⟩ := ih.mp following
            exact ⟨middle, worldMiddle, .cons run followed head, tail⟩
      · intro joined
        obtain ⟨middle, worldMiddle, head, tail⟩ := joined
        cases head with
        | cons run followed following =>
            exact .cons run followed (ih.mpr ⟨middle, worldMiddle, following, tail⟩)

theorem Course.through {invoke : State → Method → Program Call Answer (Reply × State)}
    {environment : Environment Call Answer World}
    {front back : List (Encounter State World Method Call Answer Reply)}
    {encounter : Encounter State World Method Call Answer Reply} {start final : State}
    {world worldFinal : World}
    (course : Course invoke environment start world (front ++ encounter :: back) final worldFinal) :
    Course invoke environment start world front encounter.before encounter.worldBefore ∧
      Course invoke environment start world (front ++ [encounter]) encounter.after
        encounter.worldAfter ∧
      Course invoke environment encounter.after encounter.worldAfter back final worldFinal := by
  obtain ⟨middle, worldMiddle, head, tail⟩ := append_iff.mp course
  cases tail with
  | cons run followed following =>
      exact ⟨head, append_iff.mpr ⟨_, _, head, .cons run followed .nil⟩, following⟩

/-- An invariant that may speak of all the encounters so far. -/
theorem Course.invariant_history {invoke : State → Method → Program Call Answer (Reply × State)}
    {environment : Environment Call Answer World}
    (Holds : List (Encounter State World Method Call Answer Reply) → State → World → Prop)
    (preserved : ∀ earlier (encounter : Encounter State World Method Call Answer Reply),
      Holds earlier encounter.before encounter.worldBefore →
      Program.Runs (invoke encounter.before encounter.method) encounter.trace
        (encounter.reply, encounter.after) →
      environment.Follows encounter.worldBefore encounter.trace encounter.worldAfter →
      Holds (earlier ++ [encounter]) encounter.after encounter.worldAfter)
    {start final : State} {world worldFinal : World}
    {earlier encounters : List (Encounter State World Method Call Answer Reply)}
    (course : Course invoke environment start world encounters final worldFinal)
    (initial : Holds earlier start world) : Holds (earlier ++ encounters) final worldFinal := by
  induction course generalizing earlier with
  | nil => simpa using initial
  | @cons before worldBefore method trace reply after worldAfter rest _ _ run followed _ ih =>
      have next := ih (preserved earlier ⟨⟨before, method, trace, reply, after⟩, worldBefore,
        worldAfter⟩ initial run followed)
      rwa [List.append_assoc] at next

theorem Course.runs_of_split {invoke : State → Method → Program Call Answer (Reply × State)}
    {environment : Environment Call Answer World}
    {front back : List (Encounter State World Method Call Answer Reply)}
    {encounter : Encounter State World Method Call Answer Reply} {start final : State}
    {world worldFinal : World}
    (course : Course invoke environment start world (front ++ encounter :: back) final worldFinal) :
    Program.Runs (invoke encounter.before encounter.method) encounter.trace
      (encounter.reply, encounter.after) := by
  obtain ⟨middle, worldMiddle, _, tail⟩ := append_iff.mp course
  cases tail with
  | cons run _ _ => exact run

end DlmsTransport.Interaction
