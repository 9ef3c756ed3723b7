/-
SharedQueue.Element — what a queue carries.

* `Primitive` — the fixed-width numbers. Pointer-sized ones have 64 bits.
* `ElementType` — a primitive, or an array of elements, nested at will.
* `ElementType.Value` — the values of an element type. A number is kept as
  its bits; its sign, or its being a float, only matters when it is written
  down, so that no bit pattern is lost or changed on the way.
* `Literal` — a value as a caller writes it, before its type is known.
-/

namespace SharedQueue

/-- A number of a fixed width. -/
inductive Primitive
  | u8 | u16 | u32 | u64 | u128 | usize
  | i8 | i16 | i32 | i64 | i128 | isize
  | f32 | f64
deriving DecidableEq, Repr, Inhabited

/-- How the bits of a number are read. -/
inductive Reading
  | unsigned
  | signed
  | float
deriving DecidableEq, Repr

namespace Primitive

/-- All primitives. -/
def all : List Primitive :=
  [u8, u16, u32, u64, u128, usize, i8, i16, i32, i64, i128, isize, f32, f64]

/-- The width in bytes, which is also the alignment. -/
def size : Primitive → Nat
  | u8 | i8 => 1
  | u16 | i16 => 2
  | u32 | i32 | f32 => 4
  | u64 | i64 | usize | isize | f64 => 8
  | u128 | i128 => 16

/-- How the bits are read. -/
def reading : Primitive → Reading
  | u8 | u16 | u32 | u64 | u128 | usize => .unsigned
  | i8 | i16 | i32 | i64 | i128 | isize => .signed
  | f32 | f64 => .float

/-- The name. -/
def title : Primitive → String
  | u8 => "u8"
  | u16 => "u16"
  | u32 => "u32"
  | u64 => "u64"
  | u128 => "u128"
  | usize => "usize"
  | i8 => "i8"
  | i16 => "i16"
  | i32 => "i32"
  | i64 => "i64"
  | i128 => "i128"
  | isize => "isize"
  | f32 => "f32"
  | f64 => "f64"

theorem size_pos (p : Primitive) : 0 < p.size := by cases p <;> decide

end Primitive

/-- The type of a queue's elements. -/
inductive ElementType
  | primitive (p : Primitive)
  | array (item : ElementType) (length : Nat)
deriving DecidableEq, Repr

namespace ElementType

/-- The bytes of an element. -/
def size : ElementType → Nat
  | primitive p => p.size
  | array item length => length * item.size

/-- An element's address is a multiple of this. -/
def alignment : ElementType → Nat
  | primitive p => p.size
  | array item _ => item.alignment

theorem alignment_pos (t : ElementType) : 0 < t.alignment := by
  induction t with
  | primitive p => exact p.size_pos
  | array item length ih => exact ih

/-- The name used in messages. -/
def title : ElementType → String
  | primitive p => p.title
  | array item length => "[" ++ item.title ++ s!"; {length}]"

/-- The values of an element type. -/
def Value : ElementType → Type
  | primitive p => BitVec (8 * p.size)
  | array item length => Vector item.Value length

/-- Values are compared bit for bit and place for place. -/
def Value.decEq : (t : ElementType) → DecidableEq t.Value
  | primitive p => inferInstanceAs (DecidableEq (BitVec (8 * p.size)))
  | array item length =>
    have := Value.decEq item
    inferInstanceAs (DecidableEq (Vector item.Value length))

instance (t : ElementType) : DecidableEq t.Value := Value.decEq t

/-- The value whose bits are all zero. -/
def zero : (t : ElementType) → t.Value
  | primitive p => (0 : BitVec (8 * p.size))
  | array item length => Vector.replicate length item.zero

instance (t : ElementType) : Inhabited t.Value := ⟨t.zero⟩

end ElementType

/-- A value before its type is known: a number, or a list of values. -/
inductive Literal
  | number (n : Int)
  | list (items : List Literal)
deriving Repr, Inhabited

end SharedQueue
