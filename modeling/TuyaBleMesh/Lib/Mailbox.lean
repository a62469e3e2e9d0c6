import Mathlib.Data.List.Infix

/-!
# Mailboxes

What one party puts in and another takes out, in order. A system whose steps put one
item, take the oldest one or do neither hands over everything once and in order.
-/

/-- All that was ever put in and taken out, and what is waiting. -/
structure Mailbox (α : Type*) where
  put : List α
  taken : List α
  waiting : List α

namespace Mailbox

variable {α : Type*}

/-- Nothing is lost, doubled or overtaken. -/
def InOrder (box : Mailbox α) : Prop := box.put = box.taken ++ box.waiting

inductive Step : Mailbox α → Mailbox α → Prop
  | idle (box : Mailbox α) : Step box box
  | put (box : Mailbox α) (item : α) :
    Step box { box with put := box.put ++ [item], waiting := box.waiting ++ [item] }
  | take (box : Mailbox α) (item : α) (rest : List α) (oldest : box.waiting = item :: rest) :
    Step box { box with taken := box.taken ++ [item], waiting := rest }

section InOrder

variable {box box' : Mailbox α}

theorem InOrder.step (inOrder : box.InOrder) (step : Step box box') : box'.InOrder := by
  unfold InOrder at *
  cases step with
  | idle => exact inOrder
  | put item => rw [inOrder, List.append_assoc]
  | take item rest oldest => rw [inOrder, oldest, List.append_assoc, List.singleton_append]

theorem InOrder.taken_handedOver (inOrder : box.InOrder) : box.taken <+: box.put :=
  ⟨box.waiting, inOrder.symm⟩

/-- When nothing is waiting, everything has been taken. -/
theorem InOrder.taken_eq (inOrder : box.InOrder) (empty : box.waiting = []) :
    box.taken = box.put := by
  rw [inOrder, empty, List.append_nil]

end InOrder

end Mailbox
