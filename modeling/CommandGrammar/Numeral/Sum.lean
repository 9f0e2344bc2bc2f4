/-!
# Sums of natural numbers

The sum of a list, with one law for each way in which lists are put together.
-/

namespace CommandGrammar

/-- The sum of a list of natural numbers. -/
def sumOf : List Nat → Nat
  | [] => 0
  | n :: rest => n + sumOf rest

/-- Nothing sums up to zero. -/
@[simp] theorem sumOf_nil : sumOf [] = 0 := rfl

/-- The first number counts once. -/
@[simp] theorem sumOf_cons (n : Nat) (rest : List Nat) : sumOf (n :: rest) = n + sumOf rest := rfl

/-- A sum can be taken in parts. -/
@[simp] theorem sumOf_append (front back : List Nat) :
    sumOf (front ++ back) = sumOf front + sumOf back := by
  induction front with
  | nil => simp
  | cons n rest ih => simp [ih, Nat.add_assoc]

end CommandGrammar
