import SqlSchema.Number.Power

/-! Integers of sixty-four bits with a sign. -/

namespace SqlSchema.Number

def int64? (n : Int) : Option Int64 :=
  if -(powerOfTwo 63 : Int) ≤ n ∧ n < powerOfTwo 63 then some (.ofInt n) else none

theorem int64?_toInt (n : Int64) : int64? n.toInt = some n := by
  have least := n.le_toInt
  have greatest := n.toInt_lt
  have h : -(powerOfTwo 63 : Int) ≤ n.toInt ∧ n.toInt < powerOfTwo 63 := by
    simp only [powerOfTwo, Nat.pow_eq]
    omega
  rw [int64?, if_pos h, Int64.ofInt_toInt]

end SqlSchema.Number
