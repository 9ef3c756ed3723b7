/-
SharedQueue.Toml.Value — what a TOML document says.

* `Value` — the tree of a document. Floats and moments in time are kept as
  they are written: nothing here computes with them.
-/

namespace SharedQueue.Toml

/-- A value of a document. -/
inductive Value
  | string (text : String)
  | integer (n : Int)
  | boolean (b : Bool)
  | float (written : String)
  | moment (written : String)
  | array (items : List Value)
  | table (members : List (String × Value))
deriving Repr, Inhabited

/-- The largest integer that a document can hold. -/
def integerMax : Nat := (1 <<< 63) - 1

end SharedQueue.Toml
