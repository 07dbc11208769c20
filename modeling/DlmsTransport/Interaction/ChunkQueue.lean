import Mathlib.Data.List.Basic

/-! A queue of chunks that is filled at the back and read from the front, at most one
chunk at a time. -/

set_option autoImplicit false

namespace DlmsTransport.Interaction.ChunkQueue

variable {α : Type}

/-- The queue after a read that took `count` items of its first chunk. -/
def leave (count : Nat) (front : List α) (rest : List (List α)) : List (List α) :=
  if count = front.length then rest else front.drop count :: rest

/-- `Serves chunks delivered queue`: of all the chunks that were put in, `delivered` has
been read and `queue` is left. -/
inductive Serves (chunks : List (List α)) (delivered : List α) : List (List α) → Prop where
  | exhausted : delivered = chunks.flatten → Serves chunks delivered []
  | within {finished chunk later offset} : chunks = finished ++ chunk :: later →
      delivered = finished.flatten ++ chunk.take offset → offset ≤ chunk.length →
      Serves chunks delivered (chunk.drop offset :: later)

/-- The items at the position, as many as the piece has, belong to one of the chunks
and are the piece. -/
def WithinChunk (chunks : List (List α)) (position : Nat) (piece : List α) : Prop :=
  ∃ finished chunk later offset, chunks = finished ++ chunk :: later ∧
    position = finished.flatten.length + offset ∧ offset + piece.length ≤ chunk.length ∧
    piece = (chunk.drop offset).take piece.length

theorem Serves.empty : Serves ([] : List (List α)) [] [] :=
  .exhausted rfl

variable {chunks : List (List α)} {delivered : List α} {queue : List (List α)}

theorem Serves.conserves (serves : Serves chunks delivered queue) :
    delivered ++ queue.flatten = chunks.flatten := by
  cases serves with
  | exhausted all => simpa using all
  | within split read =>
      rw [split, read]
      simp only [List.flatten_append, List.flatten_cons, List.append_assoc,
        List.append_cancel_left_eq]
      rw [← List.append_assoc, List.take_append_drop]

theorem Serves.push (serves : Serves chunks delivered queue) (chunk : List α) :
    Serves (chunks ++ [chunk]) delivered (queue ++ [chunk]) := by
  cases serves with
  | exhausted all =>
      have start : delivered = chunks.flatten ++ chunk.take 0 := by simpa using all
      exact .within rfl start (Nat.zero_le _)
  | within split read inside => exact .within (by rw [split]; simp) read inside

variable {front : List α} {rest : List (List α)} {count : Nat}

/-- A queue whose first chunk is untouched. -/
private theorem serves_boundary (finished : List (List α)) (split : chunks = finished ++ rest)
    (read : delivered = finished.flatten) : Serves chunks delivered rest := by
  cases rest with
  | nil => exact .exhausted (by simpa [split] using read)
  | cons chunk later =>
      have start : delivered = finished.flatten ++ chunk.take 0 := by simpa using read
      exact .within split start (Nat.zero_le _)

theorem Serves.pop (serves : Serves chunks delivered (front :: rest))
    (fits : count ≤ front.length) :
    Serves chunks (delivered ++ front.take count) (leave count front rest) := by
  cases serves with
  | @within finished chunk _ offset split read inside =>
      rw [List.length_drop] at fits
      have advanced : delivered ++ (chunk.drop offset).take count =
          finished.flatten ++ chunk.take (offset + count) := by
        rw [read, List.append_assoc, List.take_add]
      rw [advanced, leave]
      split
      · next whole =>
        rw [List.length_drop] at whole
        have all : offset + count = chunk.length := by omega
        apply serves_boundary (finished ++ [chunk]) (by rw [split]; simp)
        rw [all, List.take_length, List.flatten_append, List.flatten_singleton]
      · rw [List.drop_drop]
        exact .within split rfl (by omega)

theorem Serves.withinChunk (serves : Serves chunks delivered (front :: rest))
    (fits : count ≤ front.length) : WithinChunk chunks delivered.length (front.take count) := by
  cases serves with
  | @within finished chunk _ offset split read inside =>
      rw [List.length_drop] at fits
      refine ⟨finished, chunk, rest, offset, split, ?_, ?_, ?_⟩
      · rw [read, List.length_append, List.length_take, Nat.min_eq_left inside]
      · rw [List.length_take, List.length_drop]
        omega
      · rw [List.length_take, List.length_drop, Nat.min_eq_left fits]

end DlmsTransport.Interaction.ChunkQueue
