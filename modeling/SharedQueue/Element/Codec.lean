/-
SharedQueue.Element.Codec — an element as the bytes of its slot.

* `ElementType.encode` — the bytes of a value: a number's bytes from the
  lowest to the highest, an array's items one after the other.
* `ElementType.decode` — the value that some bytes spell.
* `decode_encode`, `encode_decode` — for lists of bytes as long as the
  element the two are inverse to each other, so every bit pattern is the
  image of exactly one value, whatever type it is read as.
-/
import SharedQueue.Bytes
import SharedQueue.Element

namespace SharedQueue

/-! ## Lists cut into pieces of one length -/

theorem length_flatMap_const {α β : Type} {f : α → List β} {n : Nat} (xs : List α)
    (h : ∀ x ∈ xs, (f x).length = n) : (xs.flatMap f).length = xs.length * n := by
  induction xs with
  | nil => simp
  | cons x rest ih =>
    have hx := h x (by simp)
    have hrest := ih fun y hy => h y (by simp [hy])
    simp only [List.flatMap_cons, List.length_append, List.length_cons, hx, hrest]
    rw [Nat.add_mul, Nat.one_mul, Nat.add_comm]

/-- The `i`-th piece of a list that was put together from pieces of length
`n` is found at `i * n`. -/
theorem take_drop_flatMap {α β : Type} {f : α → List β} {n : Nat} (xs : List α)
    (h : ∀ x ∈ xs, (f x).length = n) (i : Nat) (hi : i < xs.length) :
    ((xs.flatMap f).drop (i * n)).take n = f xs[i] := by
  induction xs generalizing i with
  | nil => simp at hi
  | cons x rest ih =>
    have hx := h x (by simp)
    cases i with
    | zero => simp [← hx]
    | succ i =>
      have hrest := ih (fun y hy => h y (by simp [hy])) i (by simpa using hi)
      have cut : (i + 1) * n = (f x).length + i * n := by rw [hx, Nat.succ_mul, Nat.add_comm]
      rw [List.flatMap_cons, cut, ← List.drop_drop, List.drop_left]
      simpa using hrest

/-- Pieces of length `n`, taken in order, give the list back. -/
theorem flatMap_take_drop {β : Type} (n count : Nat) (bytes : List β)
    (h : bytes.length = count * n) :
    (List.ofFn fun i : Fin count => (bytes.drop (i * n)).take n).flatten = bytes := by
  induction count generalizing bytes with
  | zero => simpa using h
  | succ count ih =>
    have tail := ih (bytes.drop n) (by rw [List.length_drop, h, Nat.succ_mul]; omega)
    rw [List.ofFn_succ]
    simp only [Fin.val_zero, Nat.zero_mul, List.drop_zero, List.flatten_cons, Fin.val_succ]
    have shift : (fun i : Fin count => (bytes.drop ((i.val + 1) * n)).take n)
        = fun i : Fin count => ((bytes.drop n).drop (i.val * n)).take n := by
      funext i
      rw [List.drop_drop, Nat.succ_mul, Nat.add_comm]
    rw [shift, tail, List.take_append_drop]

namespace ElementType

/-! ## The two directions -/

/-- The bytes of a value. -/
def encode : (t : ElementType) → t.Value → List UInt8
  | primitive p, v => Bytes.ofNat p.size (BitVec.toNat (w := 8 * p.size) v)
  | array item _, v => (Vector.toList v).flatMap item.encode

/-- The value that the bytes spell. An array's item `i` is spelled by the
bytes from `i * item.size` on. -/
def decode : (t : ElementType) → List UInt8 → t.Value
  | primitive p, bytes => BitVec.ofNat (8 * p.size) (Bytes.toNat (bytes.take p.size))
  | array item _, bytes =>
    Vector.ofFn fun i => item.decode ((bytes.drop (i * item.size)).take item.size)

@[simp] theorem length_encode (t : ElementType) (v : t.Value) :
    (t.encode v).length = t.size := by
  induction t with
  | primitive p => simp [encode, size]
  | array item length ih =>
    have hl : (Vector.toList (n := length) v).length = length := Vector.length_toList
    rw [encode, length_flatMap_const _ fun x _ => ih x, hl, size]

theorem decode_encode (t : ElementType) (v : t.Value) : t.decode (t.encode v) = v := by
  induction t with
  | primitive p =>
    apply BitVec.eq_of_toNat_eq
    have hv : BitVec.toNat (w := 8 * p.size) v < 2 ^ (8 * p.size) :=
      BitVec.isLt (w := 8 * p.size) v
    have whole : (Bytes.ofNat p.size (BitVec.toNat (w := 8 * p.size) v)).take p.size
        = Bytes.ofNat p.size (BitVec.toNat (w := 8 * p.size) v) :=
      List.take_of_length_le (by simp)
    simp only [decode, encode, whole, Bytes.toNat_ofNat, BitVec.toNat_ofNat, Bytes.limit,
      Nat.one_shiftLeft]
    rw [Nat.mod_mod, Nat.mod_eq_of_lt hv]
  | array item length ih =>
    apply Vector.ext
    intro i hi
    have hl : (Vector.toList (n := length) v).length = length := Vector.length_toList
    have piece := take_drop_flatMap (f := item.encode) (Vector.toList (n := length) v)
      (fun x _ => length_encode item x) i (by rw [hl]; exact hi)
    simp only [decode, encode, Vector.getElem_ofFn]
    rw [piece, ih]
    exact Vector.getElem_toList _

theorem encode_decode (t : ElementType) (bytes : List UInt8) (h : bytes.length = t.size) :
    t.encode (t.decode bytes) = bytes := by
  induction t generalizing bytes with
  | primitive p =>
    have whole : bytes.take p.size = bytes := List.take_of_length_le (by simp [h, size])
    have fits : Bytes.toNat bytes < 2 ^ (8 * p.size) := by
      have := Bytes.toNat_lt bytes
      rwa [h, size, Bytes.limit, Nat.one_shiftLeft] at this
    simp only [encode, decode, whole, BitVec.toNat_ofNat, Nat.mod_eq_of_lt fits]
    have hs : p.size = bytes.length := by rw [h, size]
    rw [hs, Bytes.ofNat_toNat]
  | array item length ih =>
    have pieces : ∀ i : Fin length,
        item.encode (item.decode ((bytes.drop (i * item.size)).take item.size))
          = (bytes.drop (i * item.size)).take item.size := by
      intro i
      apply ih
      have below : (i.val + 1) * item.size ≤ length * item.size :=
        Nat.mul_le_mul_right _ i.isLt
      rw [Nat.succ_mul] at below
      simp only [List.length_take, List.length_drop, h, size]
      omega
    simp only [encode, decode]
    have list : (Vector.ofFn fun i : Fin length =>
        item.decode ((bytes.drop (i * item.size)).take item.size)).toList
          = List.ofFn fun i : Fin length =>
            item.decode ((bytes.drop (i * item.size)).take item.size) :=
      Vector.toList_ofFn
    rw [list, List.flatMap_def, List.map_ofFn]
    have same : (item.encode ∘ fun i : Fin length =>
        item.decode ((bytes.drop (i * item.size)).take item.size))
          = fun i : Fin length => (bytes.drop (i * item.size)).take item.size :=
      funext pieces
    rw [same]
    exact flatMap_take_drop item.size length bytes h

end ElementType

end SharedQueue
