import VmSupport.Heap.Region

/-!
# The bytes of a region

Memory is a byte for each address. Writing through a handle changes the addresses from the handle's
on, as many as there are bytes to write, and no other.
-/

namespace VmSupport.Heap

/-- A byte for each address. -/
abbrev Contents := Nat → UInt8

namespace Contents

/-- Memory that holds zeros. -/
def zero : Contents := fun _ => 0

/-- The memory after bytes were written from an address on. -/
def write (m : Contents) (start : Nat) (bytes : Array UInt8) : Contents :=
  fun a => if start ≤ a then bytes[a - start]?.getD (m a) else m a

/-- So many bytes from an address on. -/
def read (m : Contents) (start len : Nat) : List UInt8 :=
  (List.range len).map fun i => m (start + i)

theorem write_below (m : Contents) {start a : Nat} (bytes : Array UInt8) (h : a < start) :
    m.write start bytes a = m a := by
  simp [write, Nat.not_le.mpr h]

theorem write_beyond (m : Contents) {start a : Nat} (bytes : Array UInt8)
    (h : start + bytes.size ≤ a) : m.write start bytes a = m a := by
  have : bytes[a - start]? = none := Array.getElem?_eq_none (by omega)
  simp [write, this]

end Contents

namespace Region

/-- Writes bytes through a handle, if the region contains it. -/
def write? (r : Region) (m : Contents) (h : Handle) (bytes : Array UInt8) : Option Contents :=
  (r.pointer? h).map fun a => m.write a bytes

/-- Reads so many bytes through a handle, if the region contains it. -/
def read? (r : Region) (m : Contents) (h : Handle) (len : Nat) : Option (List UInt8) :=
  (r.pointer? h).map fun a => m.read a len

end Region

end VmSupport.Heap
