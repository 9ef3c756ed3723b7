/-
SharedQueue.Bench.Config — what the two measuring programs are told.

* `WriterConfig`, `ReaderConfig` — the settings, with their defaults and
  their form as a document.
* `Settings` — how a program loads its settings: a missing file is made,
  with the defaults in it.
-/
import SharedQueue.Config
import SharedQueue.Directory

namespace SharedQueue.Bench

/-- What the writing program is told. -/
structure WriterConfig where
  flavor : Flavor := .synchronized
  queue : QueueConfig := {}
  /-- Where the descriptor is put for readers. -/
  descriptorPath : String := "fmq-queue.toml"
  messages : Nat := 10000000
  batch : Nat := 64
  timeoutMs : Nat := 1000
  /-- A pause between the descriptor and the first write. -/
  startupDelayMs : Nat := 0
  /-- How long the queue is kept for readers after the last write. -/
  lingerMs : Nat := 5000
deriving DecidableEq, Repr

/-- What the reading program is told. -/
structure ReaderConfig where
  flavor : Flavor := .synchronized
  descriptorPath : String := "fmq-queue.toml"
  /-- The quanta that the writer sends. -/
  messages : Nat := 10000000
  batch : Nat := 64
  /-- How long to go on without data. -/
  idleTimeoutMs : Nat := 2000
  /-- How long to wait for the descriptor. -/
  attachTimeoutMs : Nat := 10000
deriving DecidableEq, Repr

namespace WriterConfig

/-- The settings as a record: the queue comes last, as a part of its own. -/
def sheet (c : WriterConfig) : Toml.Sheet where
  fields := [
    ("flavor", .text c.flavor.key),
    ("descriptor_path", .text c.descriptorPath),
    ("messages", .number c.messages),
    ("batch", .number c.batch),
    ("timeout_ms", .number c.timeoutMs),
    ("startup_delay_ms", .number c.startupDelayMs),
    ("linger_ms", .number c.lingerMs)]
  sections := [("queue", c.queue.fields)]

/-- Settings, from a document. -/
def ofValue? (v : Toml.Value) : Option WriterConfig := do
  let flavor ← v.required? 0 "flavor" Descriptor.flavor?
  let queue ← v.required? 1 "queue" QueueConfig.ofValue?
  let descriptorPath ← v.required? 2 "descriptor_path" (·.text?)
  let messages ← v.required? 3 "messages" (·.natural?)
  let batch ← v.required? 4 "batch" (·.natural?)
  let timeoutMs ← v.required? 5 "timeout_ms" (·.natural?)
  let startupDelayMs ← v.required? 6 "startup_delay_ms" (·.natural?)
  let lingerMs ← v.required? 7 "linger_ms" (·.natural?)
  return { flavor, queue, descriptorPath, messages, batch, timeoutMs, startupDelayMs, lingerMs }

end WriterConfig

namespace ReaderConfig

/-- The settings as a record. -/
def sheet (c : ReaderConfig) : Toml.Sheet where
  fields := [
    ("flavor", .text c.flavor.key),
    ("descriptor_path", .text c.descriptorPath),
    ("messages", .number c.messages),
    ("batch", .number c.batch),
    ("idle_timeout_ms", .number c.idleTimeoutMs),
    ("attach_timeout_ms", .number c.attachTimeoutMs)]
  sections := []

/-- Settings, from a document. -/
def ofValue? (v : Toml.Value) : Option ReaderConfig := do
  let flavor ← v.required? 0 "flavor" Descriptor.flavor?
  let descriptorPath ← v.required? 1 "descriptor_path" (·.text?)
  let messages ← v.required? 2 "messages" (·.natural?)
  let batch ← v.required? 3 "batch" (·.natural?)
  let idleTimeoutMs ← v.required? 4 "idle_timeout_ms" (·.natural?)
  let attachTimeoutMs ← v.required? 5 "attach_timeout_ms" (·.natural?)
  return { flavor, descriptorPath, messages, batch, idleTimeoutMs, attachTimeoutMs }

end ReaderConfig

/-! ## Loading -/

/-- Why settings cannot be loaded. -/
inductive SettingsFault
  /-- The file does not hold these settings. -/
  | malformed
  /-- The file cannot be opened. -/
  | unopened
  /-- The file was opened and cannot be read. -/
  | unreadable
  /-- The path of the file to be made has no folder. -/
  | noFolder
  /-- The folder of the file to be made cannot be made. -/
  | folderRefused
  /-- The file to be made cannot be made. -/
  | fileRefused
deriving DecidableEq, Repr

/-- Settings that a program loads. -/
structure Settings (α : Type) where
  default : α
  sheet : α → Toml.Sheet
  ofValue? : Toml.Value → Option α

namespace Settings

variable {α : Type}

/-- What loading leads to. A file or folders may have been made even if it
fails. -/
abbrev Loaded (α : Type) := Directory × Except SettingsFault α

/-- Makes the file, with the defaults in it. -/
def make (s : Settings α) (dir : Directory) (path : String) : Loaded α :=
  match Directory.parents? path with
  | none => (dir, .error .noFolder)
  | some parents =>
    match dir.makeFolders (dir.start path) parents with
    | (dir, .error _) => (dir, .error .folderRefused)
    | (dir, .ok ()) =>
      match (s.sheet s.default).write? with
      | .error _ => (dir, .error .fileRefused)
      | .ok text =>
        match dir.writeText path text with
        | .error _ => (dir, .error .fileRefused)
        | .ok dir => (dir, .ok s.default)

/-- The settings in a text. -/
def ofText (s : Settings α) (text : String) : Except SettingsFault α :=
  match (Toml.parse? text).bind s.ofValue? with
  | some settings => .ok settings
  | none => .error .malformed

/-- The settings in a file. -/
def load (s : Settings α) (dir : Directory) (path : String) : Loaded α :=
  match dir.readText path with
  | .ok text => (dir, s.ofText text)
  | .error .notFound => s.make dir path
  | .error .isDirectory | .error .notText => (dir, .error .unreadable)
  | .error _ => (dir, .error .unopened)

end Settings

/-- The writing program's settings. -/
def writerSettings : Settings WriterConfig := ⟨{}, WriterConfig.sheet, WriterConfig.ofValue?⟩

/-- The reading program's settings. -/
def readerSettings : Settings ReaderConfig := ⟨{}, ReaderConfig.sheet, ReaderConfig.ofValue?⟩

end SharedQueue.Bench
