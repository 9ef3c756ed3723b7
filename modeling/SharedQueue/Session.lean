/-
SharedQueue.Session — named objects over one store.

* `Session` — the queue handles, event flags and regions that a script has
  given names to, the store that they live in, and the files that programs
  inside the session hand to each other.
* `Session.putHandle`, `putFlag`, `putRegion` — an object under a name. An
  object that had the name before is let go of, but only after the new one
  exists, so a queue cannot take over its predecessor's region.
* `Session.view?` — what a handle sees.
-/
import SharedQueue.Directory
import SharedQueue.Queue

namespace SharedQueue

/-- A queue handle together with its element type. -/
structure Handle where
  type : ElementType
  queue : Queue type

/-- Named objects over one store. -/
structure Session where
  store : Store := .empty
  handles : List (String × Handle) := []
  flags : List (String × Region) := []
  regions : List (String × Region) := []
  files : Directory := .empty []
  /-- The number of file names that were given out. -/
  filesNamed : Nat := 0

instance : Inhabited Session := ⟨{}⟩

/-- What a handle sees. -/
structure View where
  /-- The quanta that the next write can place. -/
  room : Nat
  /-- The quanta that can be read. -/
  ready : Nat
  valid : Bool
  /-- The queue's own flag word. -/
  bits : Option UInt32
deriving DecidableEq, Repr

/-- What a handle sees. -/
def Handle.view (h : Handle) (s : Store) : View :=
  let m := h.queue.memory s
  ⟨h.queue.availableToWrite m, h.queue.availableToRead m, h.queue.isValid m, h.queue.flagBits? m⟩

namespace Session

/-- A list of named objects with one of them replaced or added. -/
def replace {α : Type} (name : String) (a : α) (l : List (String × α)) : List (String × α) :=
  (name, a) :: l.filter fun entry => entry.1 != name

/-- A list of named objects without one of them. -/
def without {α : Type} (name : String) (l : List (String × α)) : List (String × α) :=
  l.filter fun entry => entry.1 != name

/-- Lets go of a region, if there is one. -/
def release (s : Session) (r : Option Region) : Session :=
  match r with
  | some r => { s with store := s.store.release r }
  | none => s

/-- A file name that nobody else uses. -/
def newFileName (s : Session) : String × Session :=
  (s!"queue_{s.filesNamed}.toml", { s with filesNamed := s.filesNamed + 1 })

/-! ## Handles -/

def handle? (s : Session) (name : String) : Option Handle := s.handles.lookup name

/-- The region of a handle. -/
def handleRegion? (s : Session) (name : String) : Option Region :=
  (s.handle? name).map (·.queue.region)

/-- Changes a handle that is there. -/
def setHandle (s : Session) (name : String) (h : Handle) : Session :=
  { s with handles := replace name h s.handles }

/-- Puts a new handle under a name. -/
def putHandle (s : Session) (name : String) (h : Handle) : Session :=
  (s.release (s.handleRegion? name)).setHandle name h

def dropHandle (s : Session) (name : String) : Session :=
  let s := s.release (s.handleRegion? name)
  { s with handles := without name s.handles }

/-- Changes the memory that a handle maps. -/
def setMemory (s : Session) (h : Handle) (m : Memory) : Session :=
  { s with store := s.store.setMemory h.queue.region.memory m }

/-- What a handle sees, if it is there. -/
def view? (s : Session) (name : String) : Option View := (s.handle? name).map (·.view s.store)

/-! ## Flags -/

def flag? (s : Session) (name : String) : Option Region := s.flags.lookup name

/-- Puts a new flag under a name. -/
def putFlag (s : Session) (name : String) (r : Region) : Session :=
  let s := s.release (s.flag? name)
  { s with flags := replace name r s.flags }

def dropFlag (s : Session) (name : String) : Session :=
  let s := s.release (s.flag? name)
  { s with flags := without name s.flags }

/-- The word of a flag that is a region of its own. -/
def regionWord (r : Region) : FlagWord := ⟨r.memory, 0⟩

/-! ## Regions -/

def region? (s : Session) (name : String) : Option Region := s.regions.lookup name

/-- Puts a new region under a name. -/
def putRegion (s : Session) (name : String) (r : Region) : Session :=
  let s := s.release (s.region? name)
  { s with regions := replace name r s.regions }

def dropRegion (s : Session) (name : String) : Session :=
  let s := s.release (s.region? name)
  { s with regions := without name s.regions }

end Session

end SharedQueue
