/-!
# Totals

The numbers of a list added up: the size of a tree from its branches, of a text from its characters,
and of what a walk has left to do.
-/

set_option autoImplicit false

namespace AngularLint

def total : List Nat → Nat
  | [] => 0
  | n :: rest => n + total rest

@[simp] theorem total_nil : total [] = 0 := rfl

@[simp] theorem total_cons (n : Nat) (rest : List Nat) : total (n :: rest) = n + total rest := rfl

@[simp] theorem total_append (a b : List Nat) : total (a ++ b) = total a + total b := by
  induction a with
  | nil => rw [List.nil_append, total_nil, Nat.zero_add]
  | cons n rest ih => rw [List.cons_append, total_cons, total_cons, ih, Nat.add_assoc]

@[simp] theorem total_reverse (l : List Nat) : total l.reverse = total l := by
  induction l with
  | nil => rfl
  | cons n rest ih => rw [List.reverse_cons, total_append, total_cons, total_cons, total_nil, ih,
      Nat.add_zero, Nat.add_comm]

end AngularLint
