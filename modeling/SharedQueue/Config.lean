/-
SharedQueue.Config — what a queue is created from.

* `QueueConfig` — the capacity, whether the queue gets an event flag, and a
  name for its region, if it is not to be made up.
* `QueueConfig.toText`, `QueueConfig.ofText` — the configuration as a TOML
  document.
-/
import SharedQueue.Layout
import SharedQueue.Toml.Record

namespace SharedQueue

/-- What a queue is created from. -/
structure QueueConfig where
  quantumCount : Nat := defaultQuantumCount
  eventFlag : Bool := true
  /-- A fixed name for the region. -/
  name : Option String := none
deriving DecidableEq, Repr, Inhabited

namespace QueueConfig

/-- A configuration without a fixed name. -/
def unnamed (quantumCount : Nat) (eventFlag : Bool) : QueueConfig :=
  { quantumCount, eventFlag }

/-- The fields of the configuration. -/
def fields (c : QueueConfig) : Toml.Fields :=
  [("quantum_count", .number c.quantumCount), ("event_flag", .truth c.eventFlag)]
    ++ match c.name with
      | some name => [("os_id", .text name)]
      | none => []

/-- The text of the configuration. -/
def toText (c : QueueConfig) : Except Error String :=
  (Toml.Sheet.write? ⟨c.fields, []⟩).mapError .encode

/-- A configuration, from a document. -/
def ofValue? (v : Toml.Value) : Option QueueConfig := do
  let quantumCount ← v.required? 0 "quantum_count" (·.natural?)
  let eventFlag ← v.required? 1 "event_flag" (·.truth?)
  let name ← v.optional? 2 "os_id" (·.text?)
  return { quantumCount, eventFlag, name }

/-- The configuration that a text spells. -/
def ofText (text : String) : Except Error QueueConfig :=
  match (Toml.parse? text).bind ofValue? with
  | some c => .ok c
  | none => .error .decode

end QueueConfig

end SharedQueue
