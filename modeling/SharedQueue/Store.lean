/-
SharedQueue.Store — named regions of shared memory.

* `Store` — every memory ever created, and which of them have a name. A
  memory stays in use as long as someone holds a `Region` on it; a name only
  says which memory a newcomer gets.
* `Region` — one party's mapping of a memory. The party that created the
  memory owns its name, and the name goes when the owner lets go.
* `Store.create`, `Store.openNamed`, `Store.release` — the life of a region.
* `Region.check` — a range of a region as a place for a typed word.

A memory is never reused: a region created under a name that became free is
a new memory, all zero, and holders of the old one do not see it.
-/
import SharedQueue.Element
import SharedQueue.Error
import SharedQueue.Memory
import SharedQueue.Quoted

namespace SharedQueue

/-- Which memory of a store. -/
abbrev MemoryId := Nat

/-- A mapping of a memory. -/
structure Region where
  /-- The name, as it was given. -/
  name : String
  memory : MemoryId
  size : Nat
  /-- This party created the memory, and its name. -/
  owner : Bool
deriving DecidableEq, Repr

/-- All memories, and the names of those that can be opened. -/
structure Store where
  memories : Array Memory
  names : List (String × MemoryId)
  /-- The number of the latest name that was made up. -/
  madeUp : Nat

namespace Store

/-- A store without regions. -/
def empty : Store := ⟨#[], [], 0⟩

instance : Inhabited Store := ⟨empty⟩

/-- A memory of the store. -/
def memory (s : Store) (id : MemoryId) : Memory := s.memories.getD id default

/-- Replaces a memory. -/
def setMemory (s : Store) (id : MemoryId) (m : Memory) : Store :=
  { s with memories := s.memories.setIfInBounds id m }

/-! ## Names -/

/-- The part of a name that tells regions apart: slashes in front do not. -/
def key (name : String) : String := String.ofList (name.toList.dropWhile (· = '/'))

/-- A key has to be a plain file name. -/
def validKey (k : String) : Bool :=
  !k.isEmpty && !k.toList.contains '/' && !k.toList.contains (Char.ofNat 0)

/-- The memory that a name denotes. -/
def lookup? (s : Store) (name : String) : Option MemoryId := s.names.lookup (key name)

/-- A made-up name. -/
def madeUpName (n : Nat) : String := s!"/auto_{n}"

/-- The number of the next made-up name that is not in use. Among more
candidates than names one is free. -/
def nextMadeUp (s : Store) : Nat :=
  let candidates := (List.range (s.names.length + 1)).map (s.madeUp + 1 + ·)
  (candidates.find? fun n => (s.lookup? (madeUpName n)).isNone).getD (s.madeUp + 1)

/-! ## The life of a region -/

/-- The operating system's code for an invalid argument. -/
def invalidArgument : Nat := 22

/-- The operating system's code for a missing file. -/
def noSuchFile : Nat := 2

/-- The size from which on a region cannot be created. -/
def sizeLimit : Nat := 1 <<< 63

/-- Adds a blank memory under a name. -/
def add (s : Store) (name : String) (size : Nat) : Region × Store :=
  (⟨name, s.memories.size, size, true⟩,
   { s with
     memories := s.memories.push (.blank size)
     names := (key name, s.memories.size) :: s.names })

/-- Creates a region, under the given name or a made-up one. -/
def create (s : Store) (name : Option String) (size : Nat) :
    Except RegionFault (Region × Store) :=
  if size = 0 then
    .error .zeroSize
  else
    match name with
    | some name =>
      if !validKey (key name) then .error (.createRefused invalidArgument)
      else if (s.lookup? name).isSome then .error .nameInUse
      else if sizeLimit ≤ size then .error (.unexpected invalidArgument)
      else .ok (s.add name size)
    | none =>
      if sizeLimit ≤ size then .error (.unexpected invalidArgument)
      else
        let n := s.nextMadeUp
        .ok ({ s with madeUp := n }.add (madeUpName n) size)

/-- Maps an existing region. -/
def openNamed (s : Store) (name : String) : Except RegionFault Region :=
  if !validKey (key name) then .error (.openRefused invalidArgument)
  else
    match s.lookup? name with
    | none => .error (.openRefused noSuchFile)
    | some id => .ok ⟨name, id, (s.memory id).size, false⟩

/-- Lets go of a region. The owner takes the name along; the memory stays
for those who still map it. -/
def release (s : Store) (r : Region) : Store :=
  if r.owner then { s with names := s.names.filter fun entry => entry.1 != key r.name } else s

end Store

namespace Region

/-- A range of the region as the place of a value of type `t`. Regions
begin at a page boundary, so an offset is as aligned as its address. -/
def check (r : Region) (t : ElementType) (range : Grantor) : Except DescriptorFault Unit :=
  if r.size < range.stop then .error (.outsideMapping range r.size)
  else if range.offset % t.alignment ≠ 0 then .error (.misalignedFor range t.title)
  else .ok ()

/-- The region as it is shown. -/
def describe (r : Region) : String :=
  "Region \x7b os_id: " ++ Quoted.display r.name ++ s!", len: {r.size}, owner: {r.owner} \x7d"

end Region

end SharedQueue
