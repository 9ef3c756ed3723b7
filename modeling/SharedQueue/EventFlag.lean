/-
SharedQueue.EventFlag — a word of wake-up bits.

* `FlagWord` — where the word lies: a memory, and an offset in it.
* `EventFlag.bits`, `raise`, `clear` — the three atomic accesses. Each gives
  the word as it was before, so a caller knows what it changed.
* `EventFlag.signals` — must sleepers be woken after bits were raised? A
  sleeper sleeps only while all the bits it waits for are clear, so if the
  raised bits were all set before, none of them can be asleep.
* `EventFlag.binary` — the word in binary, as it is shown.
-/
import SharedQueue.Store

namespace SharedQueue

/-- The bit that a reader raises: there is room again. -/
def notFull : UInt32 := 1

/-- The bit that a writer raises: there is something to read. -/
def notEmpty : UInt32 := 2

/-- The place of a flag word. -/
structure FlagWord where
  memory : MemoryId
  offset : Nat
deriving DecidableEq, Repr

namespace EventFlag

/-- The word. -/
def bits (m : Memory) (offset : Nat) : UInt32 := m.load32 offset

/-- Sets the bits of `mask`. -/
def raise (m : Memory) (offset : Nat) (mask : UInt32) : Memory :=
  m.store32 offset (bits m offset ||| mask)

/-- Clears the bits of `mask`. -/
def clear (m : Memory) (offset : Nat) (mask : UInt32) : Memory :=
  m.store32 offset (bits m offset &&& ~~~mask)

/-- Raising `mask` over the word `before` must be followed by waking the
sleepers. -/
def signals (before mask : UInt32) : Bool := before &&& mask != mask

/-- The word in binary, all 32 digits. -/
def binary (w : UInt32) : String :=
  "0b" ++ String.ofList ((List.range 32).map fun i =>
    if w.toNat.testBit (31 - i) then '1' else '0')

/-- The flag as it is shown. -/
def describe (w : UInt32) : String := "EventFlag \x7b bits: " ++ binary w ++ " \x7d"

theorem bits_raise (m : Memory) (offset : Nat) (mask : UInt32) :
    bits (raise m offset mask) offset = bits m offset ||| mask :=
  Memory.load32_store32 ..

theorem bits_clear (m : Memory) (offset : Nat) (mask : UInt32) :
    bits (clear m offset mask) offset = bits m offset &&& ~~~mask :=
  Memory.load32_store32 ..

end EventFlag

theorem or_and_distrib (a b c : UInt32) : (a ||| b) &&& c = (a &&& c) ||| (b &&& c) :=
  UInt32.toBitVec_inj.mp BitVec.and_or_distrib_right

end SharedQueue
