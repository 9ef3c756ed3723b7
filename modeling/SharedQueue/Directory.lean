/-
SharedQueue.Directory — folders and files, and the paths that name them.

* `Way` — the names from the root of all files to one of them; `Directory`
  — the folders and files that there are, and the place where a relative
  path starts.
* `Directory.resolve` — the way that a path names. A path is walked name by
  name: every name but the last has to lead to a folder, so a slash at the
  end asks for a folder too, and `..` leads back only from a folder.
* `Directory.read`, `write`, `remove`, `makeFolders` — what programs do with
  files, and the ways in which it can fail.
* `Directory.read_write` — what was written can be read.
* `Descriptor.save`, `Descriptor.load` — a descriptor handed over in a file.
-/
import SharedQueue.Descriptor

namespace SharedQueue

/-- The names from the root of all files to a folder or a file. -/
abbrev Way := List String

/-- Folders and files. -/
structure Directory where
  /-- Where a relative path starts. -/
  home : Way
  /-- Nothing new can be made outside of this folder. -/
  ground : Way
  folders : List Way
  files : List (Way × ByteArray)

namespace Directory

/-- A place without files: only the folders that lead there. -/
def empty (home : Way) : Directory :=
  ⟨home, [], (List.range (home.length + 1)).map home.take, []⟩

def isFolder (d : Directory) (way : Way) : Bool := d.folders.contains way

/-- The contents of a file. -/
def file? (d : Directory) (way : Way) : Option ByteArray := d.files.lookup way

/-- Something new can be made here. -/
def isOpen (d : Directory) (way : Way) : Bool := d.ground.isPrefixOf way

/-! ## Paths -/

/-- No name is longer than this, in bytes. -/
def nameLimit : Nat := 255

/-- Every path is shorter than this, in bytes. -/
def pathLimit : Nat := 4096

/-- Where a path starts: at the root if it begins with a slash. -/
def start (d : Directory) (path : String) : Way :=
  if path.toList.head? = some '/' then [] else d.home

/-- One name further. Between two slashes there is no name. -/
def walk (d : Directory) (here : Way) (name : String) : Except FileFault Way :=
  if d.isFolder here then
    if name = "" ∨ name = "." then .ok here
    else if name = ".." then .ok here.dropLast
    else if nameLimit < name.utf8ByteSize then .error .nameTooLong
    else .ok (here ++ [name])
  else if (d.file? here).isSome then .error .notDirectory
  else .error .notFound

/-- The way that a path names, whether or not something is there. -/
def resolve (d : Directory) (path : String) : Except FileFault Way :=
  if path.toList.contains (Char.ofNat 0) then .error .badName
  else if path.isEmpty then .error .notFound
  else if pathLimit ≤ path.utf8ByteSize then .error .nameTooLong
  else (path.splitOn "/").foldlM d.walk (d.start path)

/-- The names on the way to the last one of a path, leaving out those that
lead nowhere else. A path without names has none. -/
def parents? (path : String) : Option (List String) :=
  match (path.splitOn "/").filter fun name => name != "" && name != "." with
  | [] => none
  | names => some names.dropLast

/-! ## Files -/

/-- The contents of a file. -/
def read (d : Directory) (path : String) : Except FileFault ByteArray :=
  match d.resolve path with
  | .error fault => .error fault
  | .ok way =>
    if d.isFolder way then .error .isDirectory
    else
      match d.file? way with
      | some bytes => .ok bytes
      | none => .error .notFound

/-- The text in a file. -/
def readText (d : Directory) (path : String) : Except FileFault String := do
  match String.fromUTF8? (← d.read path) with
  | some text => .ok text
  | none => .error .notText

/-- Puts a file in its place. -/
def put (d : Directory) (way : Way) (bytes : ByteArray) : Directory :=
  { d with files := (way, bytes) :: d.files.filter fun file => file.1 != way }

/-- Replaces a file, or makes one. -/
def write (d : Directory) (path : String) (bytes : ByteArray) : Except FileFault Directory :=
  match d.resolve path with
  | .error fault => .error fault
  | .ok way =>
    if d.isFolder way then .error .isDirectory
    else if (d.file? way).isNone && !d.isOpen way then .error .refused
    else .ok (d.put way bytes)

/-- Replaces a file by a text, or makes one. -/
def writeText (d : Directory) (path : String) (text : String) : Except FileFault Directory :=
  d.write path text.toUTF8

/-- Removes a file, if it is there. -/
def remove (d : Directory) (path : String) : Directory :=
  match d.resolve path with
  | .ok way =>
    if d.isOpen way then { d with files := d.files.filter fun file => file.1 != way } else d
  | .error _ => d

/-- Makes the folders along some names, one after the other. Those made
before one that cannot be made stay. -/
def makeFolders (d : Directory) (here : Way) : List String → Directory × Except FileFault Unit
  | [] => (d, .ok ())
  | name :: rest =>
    match d.walk here name with
    | .error fault => (d, .error fault)
    | .ok next =>
      if d.isFolder next then d.makeFolders next rest
      else if (d.file? next).isSome then (d, .error .notDirectory)
      else if !d.isOpen next then (d, .error .refused)
      else { d with folders := next :: d.folders }.makeFolders next rest

/-! ## Looking around -/

/-- The files that are not, or not so, in another directory. -/
def changes (now before : Directory) : List (Way × ByteArray) :=
  now.files.filter fun (way, bytes) => (before.file? way).map (·.data) != some bytes.data

/-- The folders that are not in another directory. -/
def newFolders (now before : Directory) : List Way :=
  now.folders.filter fun way => !before.isFolder way

/-- The files of another directory that are gone. -/
def gone (now before : Directory) : List Way :=
  (before.files.map (·.1)).filter fun way => (now.file? way).isNone

/-- The names at the place where relative paths start. -/
def names (d : Directory) : List String :=
  let below := (d.files.map (·.1) ++ d.folders).filter d.home.isPrefixOf
  let names := below.filterMap fun way => (way.drop d.home.length).head?
  names.eraseDups.mergeSort fun a b => decide (a ≤ b)

/-! ## What was written can be read -/

theorem isFolder_put (d : Directory) (way : Way) (bytes : ByteArray) (other : Way) :
    (d.put way bytes).isFolder other = d.isFolder other := rfl

theorem file?_put (d : Directory) (way : Way) (bytes : ByteArray) :
    (d.put way bytes).file? way = some bytes := by
  simp [put, file?]

/-- A new file does not lead a walk astray. -/
theorem walk_put {d : Directory} {way : Way} {bytes : ByteArray} {here next : Way}
    {name : String} (h : d.walk here name = .ok next) :
    (d.put way bytes).walk here name = .ok next := by
  unfold walk at h ⊢
  rw [isFolder_put]
  by_cases folder : d.isFolder here
  · simpa [folder] using h
  · simp only [folder, Bool.false_eq_true, if_false] at h
    split at h <;> contradiction

theorem foldlM_walk_put {d : Directory} {way : Way} {bytes : ByteArray} {names : List String}
    {here there : Way} (h : names.foldlM d.walk here = .ok there) :
    names.foldlM (d.put way bytes).walk here = .ok there := by
  induction names generalizing here with
  | nil => exact h
  | cons name rest ih =>
    rw [List.foldlM_cons] at h ⊢
    match hw : d.walk here name with
    | .error fault => rw [hw] at h; contradiction
    | .ok next =>
      rw [hw] at h
      rw [walk_put hw]
      exact ih h

theorem resolve_put {d : Directory} {way : Way} {bytes : ByteArray} {path : String} {there : Way}
    (h : d.resolve path = .ok there) : (d.put way bytes).resolve path = .ok there := by
  unfold resolve at h ⊢
  repeat' split at h
  all_goals try contradiction
  simp only [*, Bool.false_eq_true, if_false]
  exact foldlM_walk_put h

/-- What was written can be read. -/
theorem read_write {d after : Directory} {path : String} {bytes : ByteArray}
    (h : d.write path bytes = .ok after) : after.read path = .ok bytes := by
  unfold write at h
  split at h
  · contradiction
  · next way resolved =>
    split at h
    · contradiction
    · next folder =>
      split at h
      · contradiction
      · cases h
        simp [read, resolve_put resolved, isFolder_put, folder, file?_put]

end Directory

namespace Descriptor

/-- Writes the descriptor into a file. -/
def save (d : Descriptor) (dir : Directory) (path : String) : Except Error Directory := do
  let text ← d.toText
  (dir.writeText path text).mapError .file

/-- Reads a descriptor from a file. -/
def load (dir : Directory) (path : String) : Except Error Descriptor := do
  let text ← (dir.readText path).mapError .file
  ofText text

end Descriptor

end SharedQueue
