import VmSupport.Heap.Error

/-!
# Rounding requests to granules

Blocks begin and end on granules of four bytes. A size is rounded up by adding one less than the
granule and clearing the low bits, in machine words; the addition may wrap, and no size that a
request can have comes near that. A negative size is no request at all.
-/

namespace VmSupport.Heap

/-- The granule of a block, in bytes. -/
def granule : UInt64 := 4

/-- Rounds a word up to a multiple of `align`, which has to be a power of two. -/
def alignUp (v align : UInt64) : UInt64 :=
  (v + align - 1) &&& ~~~(align - 1)

/-- The number of bytes that a request of this size takes up. -/
def roundedSize (size : Int32) : Except HeapError Nat :=
  if size < 0 then
    .error (.invalidSize size)
  else
    .ok (alignUp (UInt64.ofNat size.toInt.toNat) granule).toNat

end VmSupport.Heap
