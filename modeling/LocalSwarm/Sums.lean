/-! Sums of a measure over lists. -/
namespace LocalSwarm

variable {α : Type}

def sumOver (measure : α → Nat) (xs : List α) : Nat := xs.foldr (fun x sum => measure x + sum) 0

@[simp] theorem sumOver_nil (measure : α → Nat) : sumOver measure [] = 0 := rfl

@[simp] theorem sumOver_cons (measure : α → Nat) (x : α) (xs : List α) :
    sumOver measure (x :: xs) = measure x + sumOver measure xs := rfl

@[simp] theorem sumOver_append (measure : α → Nat) (xs ys : List α) :
    sumOver measure (xs ++ ys) = sumOver measure xs + sumOver measure ys := by
  induction xs with
  | nil => exact (Nat.zero_add _).symm
  | cons x xs ih => rw [List.cons_append, sumOver_cons, sumOver_cons, ih, Nat.add_assoc]

theorem sumOver_congr {f g : α → Nat} {xs : List α} (same : ∀ x ∈ xs, f x = g x) :
    sumOver f xs = sumOver g xs := by
  induction xs with
  | nil => rfl
  | cons x xs ih =>
    rw [sumOver_cons, sumOver_cons, same x List.mem_cons_self]
    rw [ih fun y member => same y (List.mem_cons_of_mem x member)]

end LocalSwarm
