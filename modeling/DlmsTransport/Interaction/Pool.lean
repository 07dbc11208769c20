import Mathlib.Data.List.Basic

/-! Objects that their users hold by handle. A handle names one object from the creation of
the object to its destruction, and is not handed out again afterwards. -/

set_option autoImplicit false

namespace DlmsTransport.Interaction

abbrev Handle := Nat

/-- The objects in the order of their creation. -/
structure Pool (Object : Type) where
  cells : List (Option Object)
  deriving DecidableEq, Repr

namespace Pool

variable {Object : Type}

def empty : Pool Object := ⟨[]⟩

/-- The object behind a handle, while it exists. -/
def object? (pool : Pool Object) (handle : Handle) : Option Object :=
  pool.cells[handle]?.join

/-- The handle of the next object. -/
def fresh (pool : Pool Object) : Handle := pool.cells.length

def insert (pool : Pool Object) (object : Object) : Pool Object :=
  ⟨pool.cells ++ [some object]⟩

def update (pool : Pool Object) (handle : Handle) (object : Option Object) : Pool Object :=
  ⟨pool.cells.set handle object⟩

/-- What happened to the pool concerns one handle only. -/
def SameExcept (before after : Pool Object) (handle : Handle) : Prop :=
  ∀ other ≠ handle, after.object? other = before.object? other

theorem object?_fresh (pool : Pool Object) : pool.object? pool.fresh = none := by
  simp [object?, fresh]

theorem object?_insert_fresh (pool : Pool Object) (object : Object) :
    (pool.insert object).object? pool.fresh = some object := by
  simp [object?, insert, fresh]

theorem insert_sameExcept (pool : Pool Object) (object : Object) :
    SameExcept pool (pool.insert object) pool.fresh := by
  intro other different
  rcases Nat.lt_or_gt_of_ne different with earlier | later
  · simp only [object?, insert, List.getElem?_append_left earlier]
  · have beyond : pool.cells.length < other := later
    simp only [object?, insert]
    rw [List.getElem?_eq_none (by simp; omega), List.getElem?_eq_none (by omega)]

theorem object?_update (pool : Pool Object) {handle : Handle} {earlier : Object}
    (alive : pool.object? handle = some earlier) (object : Option Object) :
    (pool.update handle object).object? handle = object := by
  have inside : handle < pool.cells.length := by
    rcases Nat.lt_or_ge handle pool.cells.length with inside | outside
    · exact inside
    · simp [object?, List.getElem?_eq_none outside] at alive
  simp [object?, update, inside]

theorem update_sameExcept (pool : Pool Object) (handle : Handle) (object : Option Object) :
    SameExcept pool (pool.update handle object) handle := by
  intro other different
  simp only [object?, update, List.getElem?_set_ne different.symm]

theorem update_same (pool : Pool Object) {handle : Handle} {object : Object}
    (alive : pool.object? handle = some object) : pool.update handle (some object) = pool := by
  have stored : pool.cells[handle]? = some (some object) := by
    simpa [object?, Option.join_eq_some_iff] using alive
  obtain ⟨inside, same⟩ := List.getElem?_eq_some_iff.mp stored
  rw [update, ← same, List.set_getElem_self]

theorem fresh_insert (pool : Pool Object) (object : Object) :
    (pool.insert object).fresh = pool.fresh + 1 := by
  simp [fresh, insert]

theorem fresh_update (pool : Pool Object) (handle : Handle) (object : Option Object) :
    (pool.update handle object).fresh = pool.fresh := by
  simp [fresh, update]

/-- A pool in which no other handle has an object. -/
def only (pool : Pool Object) (handle : Handle) : Pool Object :=
  ⟨List.replicate handle none ++ [pool.object? handle]⟩

theorem object?_only (pool : Pool Object) (handle : Handle) :
    (pool.only handle).object? handle = pool.object? handle := by
  simp [object?, only]

theorem only_congr {before after : Pool Object} {handle : Handle}
    (same : after.object? handle = before.object? handle) :
    after.only handle = before.only handle := by
  rw [only, only, same]

theorem update_only (pool : Pool Object) {handle : Handle} {earlier : Object}
    (alive : pool.object? handle = some earlier) (object : Option Object) :
    (pool.only handle).update handle object = (pool.update handle object).only handle := by
  rw [only, only, pool.object?_update alive, update]
  simp [List.set_append_right]

end Pool

end DlmsTransport.Interaction
