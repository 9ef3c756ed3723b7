/-
SharedQueue.Toml.Record — records as documents.

* `Sheet` — what is written for a record: its scalar fields, then one
  section for each of its parts. `Sheet.write?` is the text; it fails only
  on an integer that a document cannot hold.
* `Value.field?` and the readers of single fields — what is read back. A
  record may also be given as an array of its fields in their order, and
  members that the record does not know are skipped.
-/
import SharedQueue.Toml.Reader
import SharedQueue.Error

namespace SharedQueue.Toml

/-! ## Writing -/

/-- The value of a written field. -/
inductive Scalar
  | text (s : String)
  | number (n : Nat)
  | truth (b : Bool)
deriving DecidableEq, Repr

/-- Fields with their names. -/
abbrev Fields := List (String × Scalar)

/-- A record with its parts. -/
structure Sheet where
  fields : Fields
  sections : List (String × Fields)

/-- A number fits a document. -/
def Scalar.fits : Scalar → Bool
  | .number n => n ≤ integerMax
  | _ => true

/-- A written scalar. -/
def Scalar.write : Scalar → List Char
  | .text s => writeString s.toList
  | .number n => (toString n).toList
  | .truth b => if b then "true".toList else "false".toList

/-- One line for each field. -/
def writeFields (fields : Fields) : List Char :=
  fields.flatMap fun (name, v) => name.toList ++ " = ".toList ++ v.write ++ [lineFeed]

/-- A blank line, the name in brackets, and the fields. -/
def writeSection (name : String) (fields : Fields) : List Char :=
  [lineFeed] ++ "[".toList ++ name.toList ++ "]".toList ++ [lineFeed] ++ writeFields fields

/-- All scalars of a record. -/
def Sheet.scalars (s : Sheet) : List Scalar :=
  s.fields.map (·.2) ++ s.sections.flatMap fun (_, fields) => fields.map (·.2)

/-- The text of a record. -/
def Sheet.write (s : Sheet) : List Char :=
  writeFields s.fields ++ s.sections.flatMap fun (name, fields) => writeSection name fields

/-- The text of a record, if a document can hold its numbers. -/
def Sheet.write? (s : Sheet) : Except EncodeFault String :=
  if s.scalars.all Scalar.fits then .ok (String.ofList s.write) else .error .integerTooLarge

/-! ## Reading -/

namespace Value

/-- A field of a record: by its name in a table, by its place in an array. -/
def field? : Value → (place : Nat) → (name : String) → Option Value
  | .table members, _, name => members.lookup name
  | .array items, place, _ => items[place]?
  | _, _, _ => none

def text? : Value → Option String
  | .string s => some s
  | _ => none

def natural? : Value → Option Nat
  | .integer n => if 0 ≤ n then some n.toNat else none
  | _ => none

def truth? : Value → Option Bool
  | .boolean b => some b
  | _ => none

/-- A field that must be present. -/
def required? {α : Type} (v : Value) (place : Nat) (name : String) (read : Value → Option α) :
    Option α :=
  (v.field? place name).bind read

/-- A field that may be absent. -/
def optional? {α : Type} (v : Value) (place : Nat) (name : String) (read : Value → Option α) :
    Option (Option α) :=
  match v.field? place name with
  | none => some none
  | some inner => (read inner).map some

/-- A choice among names: the name as text, or a table with this name as its
only member and nothing in it. -/
def choice? {α : Type} (v : Value) (ofName? : String → Option α) : Option α :=
  match v with
  | .string s => ofName? s
  | .table [(name, .table [])] => ofName? name
  | .table [(name, .array [])] => ofName? name
  | _ => none

end Value

end SharedQueue.Toml
