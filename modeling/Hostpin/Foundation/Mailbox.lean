import Mathlib

/-!
# Mailboxes

A mailbox holds the messages that wait for a reader, and what the reader has taken out so far.
Messages are taken out in the order in which they were put in; the oldest one can also be discarded.

* `seen` lists the messages that the reader has or will have, in order.
* `push` puts a message behind them and `receive` leaves them as they are.
* `dropOldest` takes one of them out, the first that the reader does not have.
-/

/-- The messages that wait, and those that the reader has taken out. -/
structure Mailbox (α : Type) where
  queue : List α := []
  received : List α := []
deriving DecidableEq

namespace Mailbox

variable {α : Type} (b : Mailbox α)

/-- What the reader has or will have. -/
def seen : List α := b.received ++ b.queue

/-- Put a message in. -/
def push (a : α) : Mailbox α := { b with queue := b.queue ++ [a] }

/-- The reader takes the oldest message out, if there is one. -/
def receive : Mailbox α :=
  match b.queue with
  | [] => b
  | a :: rest => { queue := rest, received := b.received ++ [a] }

/-- The oldest message is discarded, if there is one. -/
def dropOldest : Mailbox α := { b with queue := b.queue.tail }

@[simp] lemma queue_push (a : α) : (b.push a).queue = b.queue ++ [a] := rfl

@[simp] lemma received_push (a : α) : (b.push a).received = b.received := rfl

@[simp] lemma queue_dropOldest : b.dropOldest.queue = b.queue.tail := rfl

@[simp] lemma received_dropOldest : b.dropOldest.received = b.received := rfl

@[simp] lemma queue_receive : b.receive.queue = b.queue.tail := by
  unfold receive
  cases h : b.queue <;> simp [h]

@[simp] lemma seen_push (a : α) : (b.push a).seen = b.seen ++ [a] := by
  simp [seen, push]

@[simp] lemma seen_receive : b.receive.seen = b.seen := by
  unfold receive
  cases h : b.queue <;> simp [seen, h]

variable {b} {a : α} {rest : List α}

/-- What the reader takes out is the oldest message. -/
lemma received_receive (h : b.queue = a :: rest) : b.receive.received = b.received ++ [a] := by
  simp [receive, h]

lemma seen_of_queue (h : b.queue = a :: rest) : b.seen = b.received ++ a :: rest := by
  rw [seen, h]

lemma seen_dropOldest (h : b.queue = a :: rest) : b.dropOldest.seen = b.received ++ rest := by
  simp [seen, h]

/-- Discarding a message keeps the order of the others. -/
lemma seen_dropOldest_sublist (b : Mailbox α) : b.dropOldest.seen.Sublist b.seen :=
  (List.tail_sublist _).append_left _

/-- What has been received stays so. -/
lemma received_subset_receive (b : Mailbox α) : b.received ⊆ b.receive.received := by
  unfold receive
  cases b.queue with
  | nil => exact List.Subset.refl _
  | cons a rest => exact List.subset_append_left _ _

/-- The last message that meets a condition is the last one still after the oldest message was
discarded, unless it is that one. -/
lemma getLast?_filter_dropOldest (p : α → Bool) (h : b.queue = a :: rest) {m : α}
    (last : (b.seen.filter p).getLast? = some m) (ne : m ≠ a) :
    (b.dropOldest.seen.filter p).getLast? = some m := by
  rw [seen_of_queue h, List.filter_append, List.filter_cons] at last
  rw [seen_dropOldest h, List.filter_append]
  by_cases hp : p a
  · rw [if_pos hp] at last
    cases hrest : rest.filter p with
    | nil =>
      rw [hrest, List.getLast?_append_of_ne_nil _ (by simp)] at last
      simp only [List.getLast?_singleton, Option.some.injEq] at last
      exact absurd last.symm ne
    | cons c cs =>
      rw [hrest, List.getLast?_append_of_ne_nil _ (by simp), List.getLast?_cons_cons] at last
      rwa [List.getLast?_append_of_ne_nil _ (by simp)]
  · rwa [if_neg hp] at last

end Mailbox
