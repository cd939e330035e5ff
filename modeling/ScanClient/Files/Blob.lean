/-!
# File contents

Contents are bytes. Those that are nothing but zeros are kept by their number, since they may be far
larger than what fits in memory.
-/

namespace ScanClient

inductive Blob where
  | bytes (data : List UInt8)
  | zeros (count : Nat)
  deriving DecidableEq, Repr, Inhabited

namespace Blob

def size : Blob → Nat
  | .bytes data => data.length
  | .zeros count => count

/-- The bytes one by one. -/
def toList : Blob → List UInt8
  | .bytes data => data
  | .zeros count => List.replicate count 0

/-- The first bytes, no more than a limit. -/
def take (limit : Nat) : Blob → Blob
  | .bytes data => .bytes (data.take limit)
  | .zeros count => .zeros (min limit count)

theorem length_toList (b : Blob) : b.toList.length = b.size := by
  cases b <;> simp [toList, size]

theorem size_take (limit : Nat) (b : Blob) : (b.take limit).size = min limit b.size := by
  cases b <;> simp [take, size]

theorem take_of_size_le {limit : Nat} {b : Blob} (h : b.size ≤ limit) : b.take limit = b := by
  cases b with
  | bytes data => exact congrArg bytes (List.take_of_length_le h)
  | zeros count => exact congrArg zeros (Nat.min_eq_right h)

end Blob

end ScanClient
