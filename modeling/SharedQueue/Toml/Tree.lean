/-
SharedQueue.Toml.Tree — the tables of a document while it is being read.

A document may come back to a table, but only in some ways, and these
depend on how the table came to be. `Origin` records it, and the three
additions obey it:

* `addKey?` — a key with its value, in the table that is being filled. The
  tables on a dotted key's way may not be ones that a header opened.
* `openTable?` — a header. A table that was opened before, or came from a
  dotted key, may not be opened again.
* `openItem?` — a header of a table in an array.

A way that leads through an array of tables goes through its latest table.
-/
import SharedQueue.Toml.Value

namespace SharedQueue.Toml

/-- How a table came to be. -/
inductive Origin
  /-- A header opened it. -/
  | opened
  /-- It stands on the way to a table that a header opened. -/
  | implied
  /-- A dotted key leads through it. -/
  | dotted
deriving DecidableEq, Repr

/-- A member of a table under construction. -/
inductive Node
  | value (v : Value)
  | table (origin : Origin) (members : List (String × Node))
  | tables (items : List (List (String × Node)))
deriving Inhabited

/-- The members of a table under construction. -/
abbrev Members := List (String × Node)

namespace Members

/-- Replaces the member of a name. -/
def replace (members : Members) (name : String) (node : Node) : Members :=
  members.map fun entry => if entry.1 = name then (name, node) else entry

/-- Changes the table at the end of a way. A table that is missing on the
way is made, with the given origin for new tables; `dotted` ways do not
lead through tables that a header opened. -/
def change? (dotted : Bool) (here : Origin) (members : Members) :
    List String → (Origin → Members → Option Members) → Option Members
  | [], f => f here members
  | name :: way, f =>
    let fresh : Origin := if dotted then .dotted else .implied
    match members.lookup name with
    | none => do
      let sub ← change? dotted fresh [] way f
      return members ++ [(name, .table fresh sub)]
    | some (.value _) => none
    | some (.tables items) =>
      match items.getLast? with
      | none => none
      | some latest => do
        let sub ← change? dotted .opened latest way f
        return replace members name (.tables (items.dropLast ++ [sub]))
    | some (.table origin sub) =>
      if dotted && origin = .opened then none
      else do
        let sub ← change? dotted origin sub way f
        return replace members name (.table origin sub)

/-- Adds a member whose name must be new. -/
def add? (members : Members) (name : String) (node : Node) : Option Members :=
  if (members.lookup name).isSome then none else some (members ++ [(name, node)])

/-- Splits a way into the way to the table and the name in it. -/
def split? (path : List String) : Option (List String × String) :=
  path.getLast?.map fun name => (path.dropLast, name)

/-- Adds a value under a key, dotted or not. -/
def addKey? (here : Origin) (members : Members) (path : List String) (v : Value) :
    Option Members := do
  let (way, name) ← split? path
  change? true here members way fun origin inner =>
    if !way.isEmpty && origin ≠ .dotted then none else add? inner name (.value v)

/-- Opens a table. -/
def openTable? (members : Members) (path : List String) : Option Members := do
  let (way, name) ← split? path
  change? false .opened members way fun _ inner =>
    match inner.lookup name with
    | none => add? inner name (.table .opened [])
    | some (.table .implied sub) => some (replace inner name (.table .opened sub))
    | some _ => none

/-- Opens the next table of an array of tables. -/
def openItem? (members : Members) (path : List String) : Option Members := do
  let (way, name) ← split? path
  change? false .opened members way fun _ inner =>
    match inner.lookup name with
    | none => add? inner name (.tables [[]])
    | some (.tables items) => some (replace inner name (.tables (items ++ [[]])))
    | some _ => none

/-- Adds a value under a key of the table at `place`. -/
def addAt? (members : Members) (place path : List String) (v : Value) : Option Members :=
  change? false .opened members place fun origin inner => addKey? origin inner path v

end Members

mutual

/-- The finished member. -/
def Node.finish : Node → Value
  | .value v => v
  | .table _ members => .table (finishMembers members)
  | .tables items => .array (finishTables items)

/-- The finished members of a table. -/
def finishMembers : List (String × Node) → List (String × Value)
  | [] => []
  | (name, node) :: rest => (name, node.finish) :: finishMembers rest

/-- The finished tables of an array. -/
def finishTables : List (List (String × Node)) → List Value
  | [] => []
  | members :: rest => .table (finishMembers members) :: finishTables rest

end

end SharedQueue.Toml
