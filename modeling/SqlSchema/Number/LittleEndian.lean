import SqlSchema.Number.Power

/-! Numbers in bytes, the least significant byte first. -/

namespace SqlSchema.Number

def littleEndian : List UInt8 → Nat
  | [] => 0
  | b :: rest => b.toNat + 256 * littleEndian rest

/-- The integer in some bytes, the highest bit being the sign. -/
def littleEndianSigned (bytes : List UInt8) : Int :=
  let n := littleEndian bytes
  let limit := powerOfTwo (8 * bytes.length)
  if 2 * n < limit then n else n - limit

/-- The bytes of a natural number, so many of them. -/
def toLittleEndian : (width n : Nat) → List UInt8
  | 0, _ => []
  | width + 1, n => UInt8.ofNat n :: toLittleEndian width (n / 256)

theorem length_toLittleEndian (width n : Nat) : (toLittleEndian width n).length = width := by
  induction width generalizing n with
  | zero => rfl
  | succ width ih => simp [toLittleEndian, ih]

end SqlSchema.Number
