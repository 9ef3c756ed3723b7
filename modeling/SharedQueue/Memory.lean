/-
SharedQueue.Memory — the bytes of a shared region.

* `Memory` — a number of bytes, all zero at first. Only the bytes that were
  written are kept, so a region may be as large as an address can tell.
* `Memory.byte` — the view of a memory: all its other operations are said
  in terms of the bytes that they give or change.
* `Memory.loadNat`, `Memory.storeNat` — words of some bytes, lowest byte
  first; `load64`, `load32` and their counterparts are the counters and the
  flag word.
-/
import Std.Data.TreeMap
import SharedQueue.Bytes

namespace SharedQueue

/-- The bytes of a region. -/
structure Memory where
  size : Nat
  /-- The bytes that were written. -/
  written : Std.TreeMap Nat UInt8

namespace Memory

/-- A new memory: all bytes are zero. -/
def blank (size : Nat) : Memory := ⟨size, {}⟩

instance : Inhabited Memory := ⟨blank 0⟩

/-- The byte at an address. -/
def byte (m : Memory) (a : Nat) : UInt8 := m.written.getD a 0

/-- Replaces the byte at an address. -/
def setByte (m : Memory) (a : Nat) (b : UInt8) : Memory :=
  { m with written := m.written.insert a b }

/-- The `count` bytes from `a` on. -/
def bytes (m : Memory) (a count : Nat) : List UInt8 :=
  (List.range count).map fun i => m.byte (a + i)

/-- Replaces the bytes from `a` on. -/
def setBytes (m : Memory) (a : Nat) : List UInt8 → Memory
  | [] => m
  | b :: rest => (m.setByte a b).setBytes (a + 1) rest

/-- The number in `count` bytes. -/
def loadNat (m : Memory) (a count : Nat) : Nat := Bytes.toNat (m.bytes a count)

/-- Writes a number into `count` bytes. -/
def storeNat (m : Memory) (a count n : Nat) : Memory := m.setBytes a (Bytes.ofNat count n)

/-- A counter word. -/
def load64 (m : Memory) (a : Nat) : UInt64 := UInt64.ofNat (m.loadNat a 8)

/-- Replaces a counter word. -/
def store64 (m : Memory) (a : Nat) (v : UInt64) : Memory := m.storeNat a 8 v.toNat

/-- A flag word. -/
def load32 (m : Memory) (a : Nat) : UInt32 := UInt32.ofNat (m.loadNat a 4)

/-- Replaces a flag word. -/
def store32 (m : Memory) (a : Nat) (v : UInt32) : Memory := m.storeNat a 4 v.toNat

/-! ## What the operations do to the view -/

@[simp] theorem byte_blank (size a : Nat) : (blank size).byte a = 0 := by
  simp [byte, blank]

theorem byte_setByte (m : Memory) (a x : Nat) (b : UInt8) :
    (m.setByte a b).byte x = if a = x then b else m.byte x := by
  simp [byte, setByte, Std.TreeMap.getD_insert]

@[simp] theorem size_setByte (m : Memory) (a : Nat) (b : UInt8) :
    (m.setByte a b).size = m.size := rfl

@[simp] theorem size_setBytes (m : Memory) (a : Nat) (bs : List UInt8) :
    (m.setBytes a bs).size = m.size := by
  induction bs generalizing m a with
  | nil => rfl
  | cons b rest ih => simp [setBytes, ih]

/-- The bytes that were replaced are the new ones, and all others stay. -/
theorem byte_setBytes (m : Memory) (a x : Nat) (bs : List UInt8) :
    (m.setBytes a bs).byte x = if a ≤ x then bs[x - a]?.getD (m.byte x) else m.byte x := by
  induction bs generalizing m a with
  | nil => simp [setBytes]
  | cons b rest ih =>
    rw [setBytes, ih, byte_setByte]
    by_cases hx : a = x
    · subst hx
      rw [if_neg (by omega), if_pos (Nat.le_refl a), if_pos rfl, Nat.sub_self]
      rfl
    · rw [if_neg hx]
      by_cases later : a + 1 ≤ x
      · have step : x - a = (x - (a + 1)) + 1 := by omega
        rw [if_pos later, if_pos (by omega), step, List.getElem?_cons_succ]
      · rw [if_neg later, if_neg (by omega)]

@[simp] theorem length_bytes (m : Memory) (a count : Nat) : (m.bytes a count).length = count := by
  simp [bytes]

/-- Bytes that were just written are read back. -/
theorem bytes_setBytes (m : Memory) (a : Nat) (bs : List UInt8) :
    (m.setBytes a bs).bytes a bs.length = bs := by
  apply List.ext_getElem (by simp)
  intro i hi _
  have hi' : i < bs.length := by simpa using hi
  simp [bytes, byte_setBytes, hi']

/-- Reading elsewhere is not affected. -/
theorem bytes_setBytes_disjoint (m : Memory) (a x count : Nat) (bs : List UInt8)
    (h : a + bs.length ≤ x ∨ x + count ≤ a) :
    (m.setBytes a bs).bytes x count = m.bytes x count := by
  apply List.map_congr_left
  intro i hi
  have hi' : i < count := List.mem_range.mp hi
  rw [byte_setBytes]
  by_cases after : a ≤ x + i
  · rw [if_pos after, List.getElem?_eq_none (by omega), Option.getD_none]
  · rw [if_neg after]

theorem load64_store64 (m : Memory) (a : Nat) (v : UInt64) : (m.store64 a v).load64 a = v := by
  have back := bytes_setBytes m a (Bytes.ofNat 8 v.toNat)
  rw [Bytes.length_ofNat] at back
  have fits : v.toNat < Bytes.limit 8 := v.toNat_lt
  simp [load64, store64, loadNat, storeNat, back, Bytes.toNat_ofNat, Nat.mod_eq_of_lt fits]

theorem load32_store32 (m : Memory) (a : Nat) (v : UInt32) : (m.store32 a v).load32 a = v := by
  have back := bytes_setBytes m a (Bytes.ofNat 4 v.toNat)
  rw [Bytes.length_ofNat] at back
  have fits : v.toNat < Bytes.limit 4 := v.toNat_lt
  simp [load32, store32, loadNat, storeNat, back, Bytes.toNat_ofNat, Nat.mod_eq_of_lt fits]

end Memory

end SharedQueue
