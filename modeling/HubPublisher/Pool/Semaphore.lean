/-!
Counting semaphores: a number of free slots and a queue of those who wait for one.

Whoever asks takes a free slot or joins the end of the queue. A slot that is given back goes to the
head of the queue and is free only if nobody waits. So nobody waits while a slot is free, which the
type keeps.
-/
namespace HubPublisher.Pool

structure Semaphore (α : Type) where
  free : Nat
  /-- Those who wait, in the order in which they came. -/
  queue : List α
  queue_eq_nil : 0 < free → queue = []

namespace Semaphore

variable {α : Type}

/-- A semaphore with all its slots free. -/
def start (slots : Nat) : Semaphore α := ⟨slots, [], fun _ => rfl⟩

/-- Takes a slot, or waits; the flag tells which. -/
def acquire (s : Semaphore α) (a : α) : Semaphore α × Bool :=
  if h : 0 < s.free then
    (⟨s.free - 1, s.queue, fun _ => s.queue_eq_nil h⟩, true)
  else (⟨s.free, s.queue ++ [a], fun pos => absurd pos h⟩, false)

/-- Gives a slot back; the head of the queue gets it. -/
def release (s : Semaphore α) : Semaphore α × Option α :=
  match h : s.queue with
  | [] => (⟨s.free + 1, [], fun _ => rfl⟩, none)
  | a :: rest =>
    (⟨s.free, rest, fun pos => by simp [s.queue_eq_nil pos] at h⟩, some a)

/-- Leaves the queue. -/
def withdraw [DecidableEq α] (s : Semaphore α) (a : α) : Semaphore α :=
  ⟨s.free, s.queue.erase a, fun pos => by simp [s.queue_eq_nil pos]⟩

/-! ## What each operation does -/

@[simp] theorem start_free (n : Nat) : (start n : Semaphore α).free = n := rfl

@[simp] theorem start_queue (n : Nat) : (start n : Semaphore α).queue = [] := rfl

@[simp] theorem acquire_free (s : Semaphore α) (a : α) : (s.acquire a).1.free = s.free - 1 := by
  unfold acquire
  split
  · rfl
  · simp only; omega

theorem acquire_queue (s : Semaphore α) (a : α) :
    (s.acquire a).1.queue = if 0 < s.free then s.queue else s.queue ++ [a] := by
  unfold acquire
  split <;> rfl

theorem acquire_flag (s : Semaphore α) (a : α) : (s.acquire a).2 = decide (0 < s.free) := by
  unfold acquire
  split <;> simp_all

theorem release_free (s : Semaphore α) :
    s.release.1.free = if s.queue = [] then s.free + 1 else s.free := by
  unfold release
  split <;> simp_all

@[simp] theorem release_queue (s : Semaphore α) : s.release.1.queue = s.queue.tail := by
  unfold release
  split <;> simp_all

@[simp] theorem release_next (s : Semaphore α) : s.release.2 = s.queue.head? := by
  unfold release
  split <;> simp_all

@[simp] theorem withdraw_free [DecidableEq α] (s : Semaphore α) (a : α) :
    (s.withdraw a).free = s.free := rfl

@[simp] theorem withdraw_queue [DecidableEq α] (s : Semaphore α) (a : α) :
    (s.withdraw a).queue = s.queue.erase a := rfl

theorem free_eq_zero {s : Semaphore α} {a : α} (h : a ∈ s.queue) : s.free = 0 := by
  rcases Nat.eq_zero_or_pos s.free with h0 | pos
  · exact h0
  · simp [s.queue_eq_nil pos] at h

end Semaphore

end HubPublisher.Pool
