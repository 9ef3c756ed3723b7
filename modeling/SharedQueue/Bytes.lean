/-
SharedQueue.Bytes — numbers as bytes, least significant byte first.

* `Bytes.ofNat` — the low bytes of a number, as many as asked for.
* `Bytes.toNat` — the number that some bytes spell.
* `Bytes.limit` — where the numbers of so many bytes end.
* `toNat_ofNat`, `ofNat_toNat` — the two are inverse to each other, for the
  numbers that fit and for all lists of bytes.

Every word and every element in shared memory is written in this order.
-/

namespace SharedQueue.Bytes

/-- The `count` low bytes of `n`. -/
def ofNat : (count n : Nat) → List UInt8
  | 0, _ => []
  | count + 1, n => UInt8.ofNat n :: ofNat count (n / 256)

/-- The number that the bytes spell. -/
def toNat : List UInt8 → Nat
  | [] => 0
  | b :: rest => b.toNat + 256 * toNat rest

@[simp] theorem length_ofNat (count n : Nat) : (ofNat count n).length = count := by
  induction count generalizing n with
  | zero => rfl
  | succ count ih => simp [ofNat, ih]

/-- One more than the largest number that `count` bytes spell. -/
def limit (count : Nat) : Nat := 1 <<< (8 * count)

theorem limit_succ (count : Nat) : limit (count + 1) = 256 * limit count := by
  rw [limit, limit, Nat.one_shiftLeft, Nat.one_shiftLeft, Nat.mul_succ, Nat.pow_add, Nat.mul_comm]

theorem toNat_ofNat (count n : Nat) : toNat (ofNat count n) = n % limit count := by
  induction count generalizing n with
  | zero => simp [ofNat, toNat, limit, Nat.mod_one]
  | succ count ih => simp [ofNat, toNat, ih, limit_succ, Nat.mod_mul]

theorem toNat_lt (bytes : List UInt8) : toNat bytes < limit bytes.length := by
  induction bytes with
  | nil => simp [toNat, limit]
  | cons b rest ih =>
    have hb : b.toNat < 256 := b.toNat_lt
    simp only [toNat, List.length_cons, limit_succ]
    omega

theorem ofNat_toNat (bytes : List UInt8) : ofNat bytes.length (toNat bytes) = bytes := by
  induction bytes with
  | nil => rfl
  | cons b rest ih =>
    have hb : b.toNat < 256 := b.toNat_lt
    have low : UInt8.ofNat (b.toNat + 256 * toNat rest) = b := by
      apply UInt8.toNat_inj.mp
      simp only [UInt8.toNat_ofNat']
      omega
    have high : (b.toNat + 256 * toNat rest) / 256 = toNat rest := by omega
    simp [ofNat, toNat, low, high, ih]

end SharedQueue.Bytes
