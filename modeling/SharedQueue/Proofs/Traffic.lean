/-
SharedQueue.Proofs.Traffic — any number of handles on one queue.

* `Traffic` — a store, the handles in use, and what the handles have
  published and consumed so far.
* `Traffic.Step` — a handle is attached or dropped, or serves one request.
  Steps come in any order, so those of one handle fall between any two steps
  of another one's transaction. `Traffic.Admits` holds the two promises of
  the callers: no two writes are open at a time, nor two reads of a
  synchronized queue, and no position reaches the end of the words.
* `Traffic.Reachable` — what comes of a queue that was just created.
* `Traffic.Orderly` — all handles are alike, whatever they are doing.
* `Traffic.Regular` — and the promises are kept.
* `serve_of_single` — a property that single operations keep is kept by
  every request.
-/
import Mathlib.Logic.Function.Basic
import SharedQueue.Proofs.Desk

namespace SharedQueue

/-! ## All handles -/

/-- A store, the handles in use, and what went through the queue. -/
structure Traffic (t : ElementType) where
  store : Store
  members : Nat → Option (Member t)
  ledger : Ledger t

namespace Traffic

variable {t : ElementType}

/-- The memory of the queue that `home` was created with. -/
def memory (w : Traffic t) (home : Queue t) : Memory := home.memory w.store

/-- What all handles see. -/
def view (w : Traffic t) (home : Queue t) : RingView t := home.view (w.memory home)

/-- A handle with all that it acts on. -/
def desk (w : Traffic t) (home : Queue t) (x : Member t) : Desk t := ⟨x, w.memory home, w.ledger⟩

/-- What a handle at its desk makes of the traffic. -/
def put (w : Traffic t) (home : Queue t) (k : Nat) (d : Desk t) : Traffic t :=
  ⟨w.store.setMemory home.region.memory d.memory, Function.update w.members k (some d.member),
    d.ledger⟩

/-- A handle serves a request. -/
def serve (w : Traffic t) (home : Queue t) (k : Nat) (x : Member t) (r : Client.Request t) :
    Traffic t :=
  w.put home k ((w.desk home x).serve r)

/-- A handle joins. -/
def join (w : Traffic t) (k : Nat) (q : Queue t) : Traffic t :=
  { w with members := Function.update w.members k (some (.new q w.ledger.published.length)) }

/-- A handle is dropped. -/
def leave (w : Traffic t) (k : Nat) (x : Member t) : Traffic t :=
  { w with
    store := w.store.release x.client.queue.region
    members := Function.update w.members k none }

/-- The handle that created the queue is alone with it. -/
def begin (home : Queue t) (s : Store) : Traffic t :=
  ⟨s, Function.update (fun _ => none) 0 (some (.new home 0)), ⟨[], []⟩⟩

/-- Nobody has a write open. -/
def NoWriter (w : Traffic t) : Prop :=
  ∀ {k x tx}, w.members k = some x → x.client.activity ≠ .writing tx

/-- Nobody has a read open. -/
def NoReader (w : Traffic t) : Prop :=
  ∀ {k x tx}, w.members k = some x → x.client.activity ≠ .reading tx

/-- What the callers promise: a write is opened only while no other one is
open, and it ends before the end of the words; a read of a synchronized
queue is opened only while no other one is open. -/
structure Admits (w : Traffic t) (home : Queue t) (x : Member t) (r : Client.Request t) :
    Prop where
  write : ∀ {count tx m}, r.writes? = some count →
    x.client.queue.beginWrite (w.memory home) count = .ok (tx, m) →
    w.NoWriter ∧ tx.pos.toNat + tx.count < wordLimit
  read : home.flavor = .synchronized → ∀ {count tx q}, r.reads? = some count →
    x.client.queue.beginRead (w.memory home) count = (.ok tx, q) → w.NoReader

/-- One step of one handle. -/
inductive Step (home : Queue t) (w : Traffic t) : Traffic t → Prop
  /-- A handle is attached from the descriptor. -/
  | attach (k : Nat) (q : Queue t) (free : w.members k = none)
    (ok : Queue.attach t home.flavor home.descriptor w.store = .ok q) : Step home w (w.join k q)
  /-- A handle without an open transaction is dropped. -/
  | drop (k : Nat) (x : Member t) (here : w.members k = some x)
    (idle : x.client.activity = .idle) : Step home w (w.leave k x)
  | serve (k : Nat) (x : Member t) (r : Client.Request t) (here : w.members k = some x)
    (admits : w.Admits home x r) : Step home w (w.serve home k x r)

/-- What comes of a queue that was just created. -/
inductive Reachable (home : Queue t) : Traffic t → Prop
  | start {flavor : Flavor} {c : QueueConfig} {s s' : Store}
    (ok : Queue.create t flavor c s = .ok (home, s')) : Reachable home (begin home s')
  | next {w w' : Traffic t} (before : Reachable home w) (step : Step home w w') :
    Reachable home w'

end Traffic

/-! ## Names and memories -/

namespace Store

theorem lookup_filter_ne {α : Type} (entries : List (String × α)) (k gone : String) :
    (entries.filter fun entry => entry.1 != gone).lookup k =
      if k = gone then none else entries.lookup k := by
  induction entries with
  | nil => simp
  | cons entry rest ih =>
    obtain ⟨other, a⟩ := entry
    by_cases taken : other = gone
    · subst taken
      rw [List.filter_cons_of_neg (by simp), ih]
      by_cases same : k = other
      · rw [if_pos same, if_pos same]
      · have miss : (k == other) = false := by simpa using same
        rw [if_neg same, if_neg same, List.lookup_cons, miss]
    · rw [List.filter_cons_of_pos (by simpa using taken), List.lookup_cons, ih]
      by_cases same : k = other
      · subst same
        rw [if_neg taken, List.lookup_cons]
        simp [taken]
      · have miss : (k == other) = false := by simpa using same
        rw [List.lookup_cons, miss]

/-- Dropping a mapping takes names away and gives none. -/
theorem lookup?_release {s : Store} {r : Region} {name : String} {id : MemoryId}
    (found : (s.release r).lookup? name = some id) : s.lookup? name = some id := by
  unfold release at found
  split at found
  · have left : (s.names.filter fun entry => entry.1 != key r.name).lookup (key name) = some id :=
      found
    rw [lookup_filter_ne] at left
    split at left
    · cases left
    · exact left
  · exact found

theorem memories_release (s : Store) (r : Region) : (s.release r).memories = s.memories := by
  unfold release
  split <;> rfl

/-- Putting a memory where it was changes nothing. -/
theorem setMemory_memory (s : Store) (id : MemoryId) : s.setMemory id (s.memory id) = s := by
  have same : s.memories.setIfInBounds id (s.memories.getD id default) = s.memories := by
    apply Array.ext_getElem?
    intro i
    rw [Array.getElem?_setIfInBounds]
    split
    · rename_i there
      subst there
      split
      · rename_i inside
        exact (Array.getElem?_eq_getElem inside).symm
      · rename_i outside
        exact (Array.getElem?_eq_none (Nat.le_of_not_lt outside)).symm
    · rfl
  rw [setMemory, memory, same]

theorem setMemory_setMemory (s : Store) (id : MemoryId) (m m' : Memory) :
    (s.setMemory id m).setMemory id m' = s.setMemory id m' := by
  simp [setMemory]

end Store

theorem Memory.load64_blank (size a : Nat) : (Memory.blank size).load64 a = 0 := by
  unfold Memory.load64 Memory.loadNat Memory.bytes
  simp only [Memory.byte_blank]
  rfl

/-! ## What handles have in common -/

namespace Traffic

variable {t : ElementType} {home : Queue t} {w w' : Traffic t}

/-- The memory is there under its name, and all handles are alike. -/
structure Orderly (home : Queue t) (w : Traffic t) : Prop where
  sound : home.Sound
  mapped : home.region.memory < w.store.memories.size
  named : ∀ {id}, w.store.lookup? home.descriptor.name = some id → id = home.region.memory
  ready : ∀ {k x}, w.members k = some x → x.client.Ready
  kin : ∀ {k x}, w.members k = some x → x.client.queue.descriptor = home.descriptor

/-- All handles are alike, and their transactions do not meet. -/
structure Regular (home : Queue t) (w : Traffic t) : Prop where
  sound : home.Sound
  mapped : home.region.memory < w.store.memories.size
  named : ∀ {id}, w.store.lookup? home.descriptor.name = some id → id = home.region.memory
  ready : ∀ {k x}, w.members k = some x → x.client.Ready
  kin : ∀ {k x}, w.members k = some x → x.client.queue.descriptor = home.descriptor
  oneWriter : ∀ {j k x y tx tx'}, w.members j = some x → w.members k = some y →
    x.client.activity = .writing tx → y.client.activity = .writing tx' → j = k
  oneReader : home.flavor = .synchronized →
    ∀ {j k x y tx tx'}, w.members j = some x → w.members k = some y →
      x.client.activity = .reading tx → y.client.activity = .reading tx' → j = k

/-- A member after a change of one entry is the new one or an old one. -/
theorem member_update {members : Nat → Option (Member t)} {k j : Nat} {new : Option (Member t)}
    {x : Member t} (there : Function.update members k new j = some x) :
    (j = k ∧ new = some x) ∨ (j ≠ k ∧ members j = some x) := by
  by_cases same : j = k
  · subst same
    rw [Function.update_self] at there
    exact .inl ⟨rfl, there⟩
  · rw [Function.update_of_ne same] at there
    exact .inr ⟨same, there⟩

theorem memory_put (mapped : home.region.memory < w.store.memories.size) (k : Nat) (d : Desk t) :
    (w.put home k d).memory home = d.memory :=
  Store.memory_setMemory mapped d.memory

/-- A member after a request is the one that served it, or an old one. -/
theorem member_serve {k j : Nat} {x y : Member t} {r : Client.Request t}
    (there : (w.serve home k x r).members j = some y) :
    (j = k ∧ y.client = (x.client.step (w.memory home) r).client) ∨
      (j ≠ k ∧ w.members j = some y) := by
  rcases member_update there with ⟨same, new⟩ | other
  · refine .inl ⟨same, ?_⟩
    rw [← Option.some.inj new]
    rfl
  · exact .inr other

theorem put_put (w : Traffic t) (home : Queue t) (k : Nat) (d d' : Desk t) :
    (w.put home k d).put home k d' = w.put home k d' := by
  unfold put
  dsimp only
  rw [Store.setMemory_setMemory, Function.update_idem]

/-- Serving again goes on at the same desk. -/
theorem serve_put (mapped : home.region.memory < w.store.memories.size) (k : Nat) (d : Desk t)
    (r : Client.Request t) :
    (w.put home k d).serve home k d.member r = w.put home k (d.serve r) := by
  unfold serve desk
  rw [memory_put mapped, put_put]
  rfl

theorem member_begin {s : Store} {k : Nat} {x : Member t}
    (there : (begin home s).members k = some x) :
    k = 0 ∧ x = .new home 0 := by
  unfold begin at there
  dsimp only at there
  rcases member_update there with ⟨rfl, same⟩ | ⟨-, absent⟩
  · exact ⟨rfl, (Option.some.inj same).symm⟩
  · cases absent

theorem orderly_begin {flavor : Flavor} {c : QueueConfig} {s s' : Store}
    (ok : Queue.create t flavor c s = .ok (home, s')) : Orderly home (begin home s') := by
  have sound := Queue.sound_of_create ok
  obtain ⟨layout, -, made, descriptor, -⟩ := Queue.create_eq_ok ok
  obtain ⟨memory, -, -, -, memories, names⟩ := Store.create_eq_ok made
  constructor
  · exact sound
  · show home.region.memory < s'.memories.size
    rw [memories, memory, Array.size_push]
    exact Nat.lt_succ_self _
  · intro id found
    have entry : s'.lookup? home.descriptor.name = some s.memories.size := by
      unfold Store.lookup?
      rw [names, descriptor]
      exact List.lookup_cons_self
    have found' : s'.lookup? home.descriptor.name = some id := found
    rw [entry] at found'
    rw [memory, Option.some.inj found']
  · intro k x there
    obtain ⟨-, rfl⟩ := member_begin there
    refine ⟨sound, ?_⟩
    intro tx held
    cases held
  · intro k x there
    obtain ⟨-, rfl⟩ := member_begin there
    rfl

theorem regular_begin {flavor : Flavor} {c : QueueConfig} {s s' : Store}
    (ok : Queue.create t flavor c s = .ok (home, s')) : Regular home (begin home s') := by
  obtain ⟨sound, mapped, named, ready, kin⟩ := orderly_begin ok
  refine ⟨sound, mapped, named, ready, kin, ?_, ?_⟩
  · intro j k x y tx tx' there there' _ _
    rw [(member_begin there).1, (member_begin there').1]
  · intro _ j k x y tx tx' there there' _ _
    rw [(member_begin there).1, (member_begin there').1]

/-- All words are zero when a queue was just created. -/
theorem view_begin {flavor : Flavor} {c : QueueConfig} {s s' : Store}
    (ok : Queue.create t flavor c s = .ok (home, s')) :
    ((begin home s').view home).written = 0 ∧ ((begin home s').view home).read = 0 ∧
      ((begin home s').view home).reserved = 0 := by
  obtain ⟨layout, -, made, -⟩ := Queue.create_eq_ok ok
  obtain ⟨memory, -, -, -, memories, -⟩ := Store.create_eq_ok made
  have blank : (begin home s').memory home = .blank layout.size := by
    unfold Traffic.memory Queue.memory Store.memory begin
    dsimp only
    rw [memories, memory]
    simp
  unfold view Queue.view
  rw [blank]
  refine ⟨?_, ?_, ?_⟩
  · exact congrArg UInt64.toNat (Memory.load64_blank ..)
  · dsimp only [Queue.sharedRead]
    split
    · exact congrArg UInt64.toNat (Memory.load64_blank ..)
    · rfl
  · dsimp only [Queue.reservation]
    split
    · exact congrArg UInt64.toNat (Memory.load64_blank ..)
    · rfl

theorem memory_leave (w : Traffic t) (home : Queue t) (k : Nat) (x : Member t) :
    (w.leave k x).memory home = w.memory home := by
  unfold Traffic.memory Queue.memory Store.memory leave
  dsimp only
  rw [Store.memories_release]

theorem view_leave (w : Traffic t) (home : Queue t) (k : Nat) (x : Member t) :
    (w.leave k x).view home = w.view home := by
  rw [view, memory_leave]
  rfl

theorem Regular.capacity_eq (regular : Regular home w) {k : Nat} {x : Member t}
    (here : w.members k = some x) : x.client.queue.capacity = home.capacity :=
  congrArg Descriptor.quantumCount (regular.kin here)

theorem Regular.flavor_eq (regular : Regular home w) {k : Nat} {x : Member t}
    (here : w.members k = some x) : x.client.queue.flavor = home.flavor :=
  congrArg Descriptor.flavor (regular.kin here)

theorem Regular.view_desk (regular : Regular home w) {k : Nat} {x : Member t}
    (here : w.members k = some x) : (w.desk home x).view = w.view home :=
  Queue.view_congr (regular.kin here) _

/-- The quanta at the places of an open transaction are those that all
handles see at its positions. -/
theorem Regular.take_eq (regular : Regular home w) {k : Nat} {x : Member t} {tx : Transaction}
    (here : w.members k = some x) (opened : x.client.activity.transaction? = some tx) :
    x.client.queue.take (w.memory home) tx.pos tx.count
      = (w.view home).stretch tx.pos.toNat tx.count := by
  have fits := (regular.ready here).fits opened
  rw [Queue.take_eq _ _ _ fits, Queue.quanta_eq, Queue.view_congr (regular.kin here)]
  rfl

/-- What all handles see after a request is what its handle sees. -/
theorem Regular.view_serve (regular : Regular home w) {k : Nat} {x : Member t}
    (here : w.members k = some x) (r : Client.Request t) :
    (w.serve home k x r).view home = ((w.desk home x).serve r).view := by
  have continues := Client.step_continues x.client (w.memory home) r
  have same := continues.descriptor_eq.trans (regular.kin here)
  unfold view serve
  rw [memory_put regular.mapped]
  exact (Queue.view_congr same _).symm

/-- Nobody is in the way of the first request. -/
theorem admits_begin {flavor : Flavor} {c : QueueConfig} {s s' : Store} {r : Client.Request t}
    (ok : Queue.create t flavor c s = .ok (home, s'))
    (small : ∀ {count}, r.writes? = some count → count < wordLimit) :
    (begin home s').Admits home (.new home 0) r := by
  obtain ⟨written, -, -⟩ := view_begin ok
  constructor
  · intro count tx m opens begun
    obtain ⟨rfl, -⟩ := Queue.beginWrite_eq_ok begun
    refine ⟨?_, ?_⟩
    · intro k x tx there writing
      obtain ⟨-, rfl⟩ := member_begin there
      cases writing
    · show ((begin home s').view home).written + count < wordLimit
      rw [written, Nat.zero_add]
      exact small opens
  · intro _ count tx q opens begun k x tx there reading
    obtain ⟨-, rfl⟩ := member_begin there
    cases reading

/-- Readers of an unsynchronized queue need not wait for anybody. -/
theorem admits_of_unsynchronized {x : Member t} {r : Client.Request t}
    (flavor : home.flavor = .unsynchronized) (opens : r.writes? = none) : w.Admits home x r := by
  constructor
  · intro count tx m some
    rw [opens] at some
    cases some
  · intro synchronized
    rw [flavor] at synchronized
    cases synchronized

theorem Orderly.join (orderly : Orderly home w) {k : Nat} {q : Queue t}
    (ok : Queue.attach t home.flavor home.descriptor w.store = .ok q) :
    Orderly home (w.join k q) := by
  obtain ⟨-, -, -, -, -, descriptor, -⟩ := Queue.attach_eq_ok ok
  refine ⟨orderly.sound, orderly.mapped, orderly.named, ?_, ?_⟩
  · intro j x there
    rcases member_update there with ⟨-, same⟩ | ⟨-, before⟩
    · obtain rfl := Option.some.inj same
      refine ⟨Queue.sound_of_attach ok, ?_⟩
      intro tx held
      cases held
    · exact orderly.ready before
  · intro j x there
    rcases member_update there with ⟨-, same⟩ | ⟨-, before⟩
    · obtain rfl := Option.some.inj same
      exact descriptor
    · exact orderly.kin before

/-- A member after one was dropped was one before. -/
theorem member_leave {k j : Nat} {x y : Member t} (there : (w.leave k x).members j = some y) :
    j ≠ k ∧ w.members j = some y := by
  rcases member_update there with ⟨-, gone⟩ | other
  · cases gone
  · exact other

theorem Orderly.leave (orderly : Orderly home w) (k : Nat) (x : Member t) :
    Orderly home (w.leave k x) := by
  refine ⟨orderly.sound, ?_, ?_, ?_, ?_⟩
  · show _ < (w.store.release _).memories.size
    rw [Store.memories_release]
    exact orderly.mapped
  · intro id found
    exact orderly.named (Store.lookup?_release found)
  · intro j y there
    exact orderly.ready (member_leave there).2
  · intro j y there
    exact orderly.kin (member_leave there).2

theorem Orderly.serve (orderly : Orderly home w) {k : Nat} {x : Member t}
    (here : w.members k = some x) (r : Client.Request t) : Orderly home (w.serve home k x r) := by
  refine ⟨orderly.sound, ?_, fun found => orderly.named found, ?_, ?_⟩
  · show _ < (w.store.setMemory _ _).memories.size
    rw [Store.setMemory, Array.size_setIfInBounds]
    exact orderly.mapped
  · intro j y there
    rcases member_serve there with ⟨-, client⟩ | ⟨-, before⟩
    · rw [client]
      exact (orderly.ready here).step (w.memory home) r
    · exact orderly.ready before
  · intro j y there
    rcases member_serve there with ⟨-, client⟩ | ⟨-, before⟩
    · rw [client, (Client.step_continues x.client (w.memory home) r).descriptor_eq]
      exact orderly.kin here
    · exact orderly.kin before

theorem Regular.orderly (regular : Regular home w) : Orderly home w :=
  ⟨regular.sound, regular.mapped, regular.named, regular.ready, regular.kin⟩

theorem Regular.join (regular : Regular home w) {k : Nat} {q : Queue t}
    (ok : Queue.attach t home.flavor home.descriptor w.store = .ok q) :
    Regular home (w.join k q) := by
  obtain ⟨sound, mapped, named, ready, kin⟩ := regular.orderly.join (k := k) ok
  refine ⟨sound, mapped, named, ready, kin, ?_, ?_⟩
  · intro i j x y tx tx' there there' writing writing'
    rcases member_update there with ⟨-, same⟩ | ⟨-, before⟩
    · obtain rfl := Option.some.inj same
      cases writing
    · rcases member_update there' with ⟨-, same⟩ | ⟨-, before'⟩
      · obtain rfl := Option.some.inj same
        cases writing'
      · exact regular.oneWriter before before' writing writing'
  · intro flavor i j x y tx tx' there there' reading reading'
    rcases member_update there with ⟨-, same⟩ | ⟨-, before⟩
    · obtain rfl := Option.some.inj same
      cases reading
    · rcases member_update there' with ⟨-, same⟩ | ⟨-, before'⟩
      · obtain rfl := Option.some.inj same
        cases reading'
      · exact regular.oneReader flavor before before' reading reading'

theorem Regular.leave (regular : Regular home w) (k : Nat) (x : Member t) :
    Regular home (w.leave k x) := by
  obtain ⟨sound, mapped, named, ready, kin⟩ := regular.orderly.leave k x
  refine ⟨sound, mapped, named, ready, kin, ?_, ?_⟩
  · intro i j y z tx tx' there there' writing writing'
    exact regular.oneWriter (member_leave there).2 (member_leave there').2 writing writing'
  · intro flavor i j y z tx tx' there there' reading reading'
    exact regular.oneReader flavor (member_leave there).2 (member_leave there').2 reading reading'

theorem Regular.serve (regular : Regular home w) {k : Nat} {x : Member t} {r : Client.Request t}
    (here : w.members k = some x) (admits : w.Admits home x r) :
    Regular home (w.serve home k x r) := by
  have writers : ∀ {j y tx}, (w.serve home k x r).members j = some y →
      y.client.activity = .writing tx →
      (∃ z, w.members j = some z ∧ z.client.activity = .writing tx) ∨ (j = k ∧ w.NoWriter) := by
    intro j y tx there writing
    rcases member_serve there with ⟨rfl, client⟩ | ⟨-, before⟩
    · rw [client] at writing
      rcases Client.step_writing writing with before | ⟨count, m, rfl, begun⟩
      · exact .inl ⟨x, here, before⟩
      · exact .inr ⟨rfl, (admits.write rfl begun).1⟩
    · exact .inl ⟨y, before, writing⟩
  have readers : home.flavor = .synchronized → ∀ {j y tx},
      (w.serve home k x r).members j = some y → y.client.activity = .reading tx →
      (∃ z, w.members j = some z ∧ z.client.activity = .reading tx) ∨ (j = k ∧ w.NoReader) := by
    intro flavor j y tx there reading
    rcases member_serve there with ⟨rfl, client⟩ | ⟨-, before⟩
    · rw [client] at reading
      rcases Client.step_reading reading with before | ⟨count, q, rfl, begun⟩
      · exact .inl ⟨x, here, before⟩
      · exact .inr ⟨rfl, admits.read flavor rfl begun⟩
    · exact .inl ⟨y, before, reading⟩
  obtain ⟨sound, mapped, named, ready, kin⟩ := regular.orderly.serve here r
  refine ⟨sound, mapped, named, ready, kin, ?_, ?_⟩
  · intro i j y z tx tx' there there' writing writing'
    rcases writers there writing with ⟨y', before, held⟩ | ⟨rfl, none⟩
    · rcases writers there' writing' with ⟨z', before', held'⟩ | ⟨rfl, none⟩
      · exact regular.oneWriter before before' held held'
      · exact absurd held (none before)
    · rcases writers there' writing' with ⟨z', before', held'⟩ | ⟨rfl, -⟩
      · exact absurd held' (none before')
      · rfl
  · intro flavor i j y z tx tx' there there' reading reading'
    rcases readers flavor there reading with ⟨y', before, held⟩ | ⟨rfl, none⟩
    · rcases readers flavor there' reading' with ⟨z', before', held'⟩ | ⟨rfl, none⟩
      · exact regular.oneReader flavor before before' held held'
      · exact absurd held (none before)
    · rcases readers flavor there' reading' with ⟨z', before', held'⟩ | ⟨rfl, -⟩
      · exact absurd held' (none before')
      · rfl

/-- Attaching finds the memory of the queue, and no other. -/
theorem Regular.attached (regular : Regular home w) {q : Queue t}
    (ok : Queue.attach t home.flavor home.descriptor w.store = .ok q) :
    q.region.memory = home.region.memory := by
  obtain ⟨-, -, -, opened, -⟩ := Queue.attach_eq_ok ok
  obtain ⟨found, -⟩ := Store.openNamed_eq_ok opened
  exact regular.named found

end Traffic

namespace Traffic

variable {t : ElementType} {home : Queue t} {w : Traffic t}

theorem put_desk (home : Queue t) {k : Nat} {x : Member t} (here : w.members k = some x) :
    w.put home k (w.desk home x) = w := by
  unfold put desk memory Queue.memory
  dsimp only
  rw [← here, Function.update_eq_self, Store.setMemory_memory]

/-- What every single operation of any handle keeps, a batch keeps. -/
theorem serve_of_single {P : Traffic t → Prop} (regular : ∀ {w}, P w → Regular home w)
    (single : ∀ {w k x r}, P w → w.members k = some x → w.Admits home x r → r.Single →
      P (w.serve home k x r)) {k : Nat} {x : Member t} {r : Client.Request t} (now : P w)
    (here : w.members k = some x) (admits : w.Admits home x r) : P (w.serve home k x r) := by
  have mapped := (regular now).mapped
  unfold serve
  apply Desk.serve_batch (P := fun d => P (w.put home k d))
  · rw [put_desk home here]
    exact now
  · intro d' r' before isSingle writes reads
    rw [← serve_put mapped]
    have there : (w.put home k d').members k = some d'.member := Function.update_self ..
    refine single before there ?_ isSingle
    constructor
    · intro count tx m opens begun
      obtain ⟨rfl, opens'⟩ := writes count opens
      rw [put_desk home here] at begun ⊢
      exact admits.write opens' begun
    · intro flavor count tx q opens begun
      obtain ⟨rfl, opens'⟩ := reads count opens
      rw [put_desk home here] at begun ⊢
      exact admits.read flavor opens' begun

/-! ## Runs -/

/-- All handles are alike, and the promise holds. -/
structure Holds (p : Promise t) (home : Queue t) (w : Traffic t) : Prop where
  regular : Regular home w
  ledger : p.ledger w.ledger (w.view home) home.capacity
  member : ∀ {k x}, w.members k = some x → p.member x w.ledger (w.view home) home.capacity

/-- What makes a promise one that every run of a queue keeps. -/
structure Kept (p : Promise t) (flavor : Flavor) : Prop where
  fresh : ∀ {v : RingView t} {capacity : Nat}, v.written = 0 → v.read = 0 → v.reserved = 0 →
    p.ledger ⟨[], []⟩ v capacity
  joins : ∀ {q : Queue t} {m : Memory} {l : Ledger t}, q.Sound → q.flavor = flavor →
    Queue.firstCursor q.descriptor m = .ok q.cursor → p.ledger l (q.view m) q.capacity →
    p.member (.new q l.published.length) l (q.view m) q.capacity
  step : ∀ {d d' : Desk t} {r : Client.Request t}, d.queue.flavor = flavor → d.Holds p →
    Desk.Effect d r d' →
    (∀ {count tx m}, r.writes? = some count →
      d.queue.beginWrite d.memory count = .ok (tx, m) → tx.pos.toNat + tx.count < wordLimit) →
    d.Keeps p d'

variable {p : Promise t} {flavor : Flavor}

theorem holds_begin (kept : Kept p flavor) {c : QueueConfig} {s s' : Store}
    (ok : Queue.create t flavor c s = .ok (home, s')) : Holds p home (begin home s') := by
  obtain ⟨layout, -, -, -, cursor⟩ := Queue.create_eq_ok ok
  obtain ⟨written, read, reserved⟩ := view_begin ok
  have same := Queue.flavor_of_create ok
  have ledger : p.ledger ⟨[], []⟩ _ home.capacity := kept.fresh written read reserved
  refine ⟨regular_begin ok, ledger, ?_⟩
  intro k x there
  obtain ⟨-, rfl⟩ := member_begin there
  exact kept.joins (Queue.sound_of_create ok) same cursor ledger

theorem Holds.join (holds : Holds p home w) (kept : Kept p flavor) (same : home.flavor = flavor)
    {k : Nat} {q : Queue t} (ok : Queue.attach t home.flavor home.descriptor w.store = .ok q) :
    Holds p home (w.join k q) := by
  obtain ⟨-, -, -, -, -, descriptor, cursor⟩ := Queue.attach_eq_ok ok
  refine ⟨holds.regular.join ok, holds.ledger, ?_⟩
  intro j x there
  rcases member_update there with ⟨-, new⟩ | ⟨-, before⟩
  · obtain rfl := Option.some.inj new
    have view : q.view (w.memory home) = w.view home := Queue.view_congr descriptor _
    have capacity : q.capacity = home.capacity := congrArg Descriptor.quantumCount descriptor
    have flavor' : q.flavor = flavor := (congrArg Descriptor.flavor descriptor).trans same
    have ledger := holds.ledger
    rw [← view, ← capacity] at ledger
    rw [holds.regular.attached ok, ← descriptor] at cursor
    show p.member (.new q w.ledger.published.length) w.ledger (w.view home) home.capacity
    rw [← view, ← capacity]
    exact kept.joins (Queue.sound_of_attach ok) flavor' cursor ledger
  · exact holds.member before

theorem Holds.leave (holds : Holds p home w) (k : Nat) (x : Member t) :
    Holds p home (w.leave k x) := by
  refine ⟨holds.regular.leave k x, ?_, ?_⟩
  · rw [view_leave]
    exact holds.ledger
  · intro j y there
    rw [view_leave]
    rcases member_update there with ⟨-, gone⟩ | ⟨-, before⟩
    · cases gone
    · exact holds.member before

/-- What holds for all handles holds for each at its desk. -/
theorem Holds.desk (holds : Holds p home w) {k : Nat} {x : Member t}
    (here : w.members k = some x) : (w.desk home x).Holds p := by
  have capacity : (w.desk home x).queue.capacity = home.capacity := holds.regular.capacity_eq here
  have view := holds.regular.view_desk here
  refine ⟨holds.regular.ready here, ?_, ?_⟩
  · rw [view, capacity]
    exact holds.ledger
  · rw [view, capacity]
    exact holds.member here

theorem Holds.serve (holds : Holds p home w) (kept : Kept p flavor)
    (same : home.flavor = flavor) {k : Nat} {x : Member t} {r : Client.Request t}
    (here : w.members k = some x) (admits : w.Admits home x r) (isSingle : r.Single) :
    Holds p home (w.serve home k x r) := by
  have regular := holds.regular
  have capacity : (w.desk home x).queue.capacity = home.capacity := regular.capacity_eq here
  have flavor' : (w.desk home x).queue.flavor = home.flavor := regular.flavor_eq here
  have view := regular.view_desk here
  have keeps := kept.step (flavor'.trans same) (holds.desk here)
    (Desk.serve_effect (regular.ready here) isSingle)
    (fun opens begun => (admits.write opens begun).2)
  refine ⟨regular.serve here admits, ?_, ?_⟩
  · rw [regular.view_serve here, ← capacity]
    exact keeps.ledger
  · intro j y there
    rw [regular.view_serve here, ← capacity]
    rcases member_update there with ⟨rfl, new⟩ | ⟨ne, other⟩
    · rw [← Option.some.inj new]
      exact keeps.member
    · apply keeps.others y
      · rw [view, capacity]
        exact holds.member other
      · intro tx tx' writing writing'
        exact ne (regular.oneWriter other here writing' writing)
      · intro synchronized tx tx' reading reading'
        exact ne (regular.oneReader (flavor'.symm.trans synchronized) other here reading' reading)

/-- A promise that every step keeps holds after every run. -/
theorem holds_reachable (kept : Kept p flavor) (reach : Reachable home w)
    (same : home.flavor = flavor) : Holds p home w := by
  induction reach with
  | start ok =>
    have created := Queue.flavor_of_create ok
    rw [same] at created
    subst created
    exact holds_begin kept ok
  | next before step ih =>
    cases step with
    | attach k q free ok => exact ih.join kept same ok
    | drop k x here idle => exact ih.leave k x
    | serve k x r here admits =>
      exact serve_of_single (fun holds => holds.regular)
        (fun holds here admits isSingle => holds.serve kept same here admits isSingle) ih here
        admits

end Traffic

/-! ## A small queue -/

/-- A queue of four bytes, as it is created in an empty store. -/
def fourBytes (flavor : Flavor) : Queue (.primitive .u8) where
  descriptor := {
    name := "four"
    flavor
    quantumSize := 1
    quantumCount := 4
    regionSize := 132
    writeCounter := ⟨if flavor.hasReadCounter then 64 else 0, counterSize⟩
    data := ⟨128, 4⟩
    readCounter := if flavor.hasReadCounter then some ⟨0, counterSize⟩ else none
    writeReserve := if flavor.hasReservation then some ⟨64, counterSize⟩ else none
    eventFlag := none }
  region := ⟨"four", 0, 132, true⟩
  cursor := if flavor.hasReadCounter then .shared 0 else .own 0

/-- The store with nothing in it but that queue. -/
def fourByteStore : Store := ⟨#[.blank 132], [("four", 0)], 0⟩

/-- A byte as a quantum. -/
def byteQuantum (n : Nat) : ElementType.Value (.primitive .u8) := BitVec.ofNat 8 n

theorem create_fourBytes (flavor : Flavor) :
    Queue.create (.primitive .u8) flavor
        { quantumCount := 4, eventFlag := false, name := some "four" } .empty =
      .ok (fourBytes flavor, fourByteStore) := by
  cases flavor with
  | synchronized => rfl
  | unsynchronized => rfl

/-- What comes of the first batch that its creator writes. -/
theorem reachable_fourBytes (flavor : Flavor) {values : List Nat} (few : values.length ≤ 4) :
    Traffic.Reachable (fourBytes flavor)
      ((Traffic.begin (fourBytes flavor) fourByteStore).serve (fourBytes flavor) 0
        (.new (fourBytes flavor) 0) (.write (values.map byteQuantum))) := by
  refine .next (.start (create_fourBytes flavor)) (.serve 0 _ _ rfl ?_)
  apply Traffic.admits_begin (create_fourBytes flavor)
  intro count opens
  have same : count = values.length := by
    cases values with
    | nil => cases opens
    | cons n rest =>
      rw [← Option.some.inj opens, ← List.map_cons, List.length_map]
  rw [same]
  exact Nat.lt_of_le_of_lt few (by decide)

end SharedQueue
