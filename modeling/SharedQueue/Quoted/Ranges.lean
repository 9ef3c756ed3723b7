/-
SharedQueue.Quoted.Ranges — sets of characters, given by ranges.

* `Quoted.within` — whether a character lies in one of some ranges.
-/

namespace SharedQueue.Quoted

/-- The character lies in one of the ranges, whose ends belong to them. -/
def within (ranges : List (Nat × Nat)) (c : Char) : Bool :=
  ranges.any fun (first, last) => first ≤ c.toNat && c.toNat ≤ last

end SharedQueue.Quoted
