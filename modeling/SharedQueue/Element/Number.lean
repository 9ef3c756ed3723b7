/-
SharedQueue.Element.Number — values from plain numbers.

* `Binary` — a binary floating-point format; `Binary.ofNat` gives the bits
  of the float nearest to a natural number, ties going to the even
  neighbour.
* `ElementType.ofNumber` — a number as a value of a type: an integer is
  reduced to the type's width, a float takes the nearest value, and an
  array repeats the value in every place.
* `ElementType.ofLiteral` — a written value: integers by value, floats by
  their bit pattern, arrays item by item.
-/
import SharedQueue.Element

namespace SharedQueue

/-- A binary floating-point format: the bits of the fraction, and of the
exponent in front of it. -/
structure Binary where
  fraction : Nat
  exponent : Nat
deriving DecidableEq, Repr

namespace Binary

def single : Binary := ⟨23, 8⟩
def double : Binary := ⟨52, 11⟩

/-- `n / 2 ^ shift`, rounded to the nearest number, a tie to the even one. -/
def roundShift (n shift : Nat) : Nat :=
  let quotient := n >>> shift
  let twice := 2 * (n - (quotient <<< shift))
  let unit := 1 <<< shift
  if unit < twice ∨ (twice = unit ∧ quotient % 2 = 1) then quotient + 1 else quotient

/-- The bits of the float nearest to `n`. A fraction that rounds up to the
next power of two carries into the exponent, which is where it belongs, and
a number beyond the largest float becomes infinity. -/
def ofNat (f : Binary) (n : Nat) : Nat :=
  if n = 0 then 0
  else
    let top := Nat.log2 n
    let significand :=
      if top ≤ f.fraction then n <<< (f.fraction - top) else roundShift n (top - f.fraction)
    let bias := (1 <<< (f.exponent - 1)) - 1
    let bits := ((top + bias) <<< f.fraction) + (significand - (1 <<< f.fraction))
    min bits (((1 <<< f.exponent) - 1) <<< f.fraction)

/-- The bits of the float nearest to `n`: the sign stands in front. -/
def ofInt (f : Binary) (n : Int) : Nat :=
  ofNat f n.natAbs + if n < 0 then 1 <<< (f.fraction + f.exponent) else 0

example : single.ofNat 3 = 0x40400000 := by decide
example : double.ofNat 250 = 0x406F400000000000 := by decide
example : single.ofNat 16777217 = 0x4B800000 := by decide

end Binary

/-- The bits of a number in a primitive type. -/
def Primitive.bitsOfNumber (p : Primitive) (n : Int) : BitVec (8 * p.size) :=
  match p with
  | .f32 => BitVec.ofNat _ (Binary.single.ofInt n)
  | .f64 => BitVec.ofNat _ (Binary.double.ofInt n)
  | p => BitVec.ofInt (8 * p.size) n

namespace ElementType

/-- A number as a value of the type. -/
def ofNumber : (t : ElementType) → Int → t.Value
  | primitive p, n => p.bitsOfNumber n
  | array item length, n => Vector.replicate length (item.ofNumber n)

/-- A written value. A place that is missing, or has the wrong shape, has
all bits zero. -/
def ofLiteral : (t : ElementType) → Literal → t.Value
  | primitive p, .number n => BitVec.ofInt (8 * p.size) n
  | array item length, .list items =>
    Vector.ofFn fun i : Fin length =>
      match items[i.val]? with
      | some l => item.ofLiteral l
      | none => item.zero
  | t, _ => t.zero

end ElementType

end SharedQueue
