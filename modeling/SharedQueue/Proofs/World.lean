/-
SharedQueue.Proofs.World — everything that is held at a time, over one store.

* `Arrival` — the ways to get an object: making a queue, a flag or a region,
  and joining or opening one. `Arrival.outcome_cases` says that each of them
  makes a new memory or opens the one that a name denotes.
* `World` — the store, and who holds what in it; `World.Step` — something is
  done through an object, an object comes or is refused, or is let go of.
* `World.Orderly` — every name in the store belongs to exactly one object, the
  one that made its memory; every object has its memory. `orderly_step` keeps
  it so, and `Reachable.orderly` is the same for whole runs.
-/
import Mathlib.Data.List.Nodup
import Mathlib.Data.List.Perm.Subperm
import SharedQueue.Proofs.Locality
import SharedQueue.Proofs.Toml.Scalars
import SharedQueue.Proofs.Traffic
import SharedQueue.Session.Action

namespace SharedQueue

/-! ## Names -/

namespace Store

/-- Slashes in front do not make another name. -/
theorem key_slash (name : String) : key ("/" ++ name) = key name := by
  simp [key, String.toList_append]

theorem key_madeUpName (n : Nat) : (key (madeUpName n)).toList = "auto_".toList ++ Toml.decimals n := by
  have text : (madeUpName n).toList = '/' :: ("auto_".toList ++ Toml.decimals n) := by
    rw [← Toml.toList_toString]
    simp [madeUpName, String.toList_append, toString]
  have letter : ('a' = '/') = False := by decide
  simp [key, text, letter]

theorem key_madeUpName_inj {n n' : Nat} (same : key (madeUpName n) = key (madeUpName n')) :
    n = n' := by
  have digits := congrArg String.toList same
  rw [key_madeUpName, key_madeUpName, List.append_cancel_left_eq] at digits
  have spelled := Toml.natural?_decimals n
  rw [digits, Toml.natural?_decimals] at spelled
  exact (Option.some.inj spelled).symm

theorem validKey_madeUpName (n : Nat) : validKey (key (madeUpName n)) = true := by
  have letters : ∀ c ∈ "auto_".toList, c ≠ '/' ∧ c ≠ Char.ofNat 0 := by simp
  have plain : ∀ c ∈ "auto_".toList ++ Toml.decimals n, c ≠ '/' ∧ c ≠ Char.ofNat 0 := by
    intro c mem
    rcases List.mem_append.mp mem with mem | mem
    · exact letters c mem
    · have digit := Toml.isDigit_of_mem_decimals c mem
      constructor
      · rintro rfl
        exact absurd digit (by decide)
      · rintro rfl
        exact absurd digit (by decide)
  have filled : (key (madeUpName n)).isEmpty = false := by
    rw [Bool.eq_false_iff]
    intro empty
    have none := key_madeUpName n
    rw [String.isEmpty_iff.mp empty] at none
    simp at none
  simp only [validKey, filled, key_madeUpName, Bool.not_false, Bool.true_and, Bool.and_eq_true,
    Bool.not_eq_true', List.contains_eq_mem, decide_eq_false_iff_not]
  exact ⟨fun mem => (plain _ mem).1 rfl, fun mem => (plain _ mem).2 rfl⟩

theorem lookup_isSome_of_mem {entries : List (String × MemoryId)} {k : String}
    (mem : k ∈ entries.map (·.1)) : (entries.lookup k).isSome = true := by
  induction entries with
  | nil => cases mem
  | cons entry rest ih =>
    rw [List.lookup_cons]
    by_cases same : k = entry.1
    · simp [same]
    · have miss : (k == entry.1) = false := by simpa using same
      rw [miss]
      exact ih ((List.mem_cons.mp mem).resolve_left same)

theorem mem_of_lookup {entries : List (String × MemoryId)} {k : String} {id : MemoryId}
    (found : entries.lookup k = some id) : (k, id) ∈ entries := by
  induction entries with
  | nil => cases found
  | cons entry rest ih =>
    rw [List.lookup_cons] at found
    by_cases same : k = entry.1
    · have hit : (k == entry.1) = true := by simpa using same
      rw [hit] at found
      obtain rfl := Option.some.inj found
      rw [same]
      exact List.mem_cons_self
    · have miss : (k == entry.1) = false := by simpa using same
      rw [miss] at found
      exact List.mem_cons_of_mem _ (ih found)

theorem lookup_of_mem {entries : List (String × MemoryId)} {k : String} {id : MemoryId}
    (distinct : (entries.map (·.1)).Nodup) (mem : (k, id) ∈ entries) :
    entries.lookup k = some id := by
  induction entries with
  | nil => cases mem
  | cons entry rest ih =>
    obtain ⟨fresh, distinct⟩ := List.nodup_cons.mp distinct
    rw [List.lookup_cons]
    rcases List.mem_cons.mp mem with rfl | mem
    · simp
    · have other : k ≠ entry.1 := by
        rintro rfl
        exact fresh (List.mem_map.mpr ⟨_, mem, rfl⟩)
      have miss : (k == entry.1) = false := by simpa using other
      rw [miss]
      exact ih distinct mem

/-- A name that is made up is free: there are more candidates than names. -/
theorem lookup?_nextMadeUp (s : Store) : s.lookup? (madeUpName s.nextMadeUp) = none := by
  unfold nextMadeUp
  dsimp only
  cases found : ((List.range (s.names.length + 1)).map (s.madeUp + 1 + ·)).find?
      fun n => (s.lookup? (madeUpName n)).isNone with
  | some n => simpa using List.find?_some found
  | none =>
    exfalso
    rw [List.find?_eq_none] at found
    have used : ∀ k ∈ (List.range (s.names.length + 1)).map
        fun i => key (madeUpName (s.madeUp + 1 + i)), k ∈ s.names.map (·.1) := by
      intro k mem
      obtain ⟨i, inside, rfl⟩ := List.mem_map.mp mem
      have taken := found _ (List.mem_map_of_mem inside)
      obtain ⟨id, there⟩ := Option.ne_none_iff_exists'.mp (by simpa using taken)
      exact List.mem_map_of_mem (f := Prod.fst) (mem_of_lookup there)
    have distinct : ((List.range (s.names.length + 1)).map
        fun i => key (madeUpName (s.madeUp + 1 + i))).Nodup := by
      refine List.Nodup.map ?_ List.nodup_range
      intro i j same
      exact Nat.add_left_cancel (key_madeUpName_inj same)
    have few := (distinct.subperm used).length_le
    simp at few

/-- A region is made under a name that is free, can be opened, and is the one
that was asked for. -/
theorem create_name {s s' : Store} {name : Option String} {size : Nat} {r : Region}
    (ok : s.create name size = .ok (r, s')) :
    s.lookup? r.name = none ∧ validKey (key r.name) = true ∧ ∀ given ∈ name, r.name = given := by
  unfold create at ok
  split at ok
  · cases ok
  · cases name with
    | some name =>
      simp only at ok
      split at ok
      · cases ok
      · rename_i valid
        split at ok
        · cases ok
        · rename_i free
          split at ok
          · cases ok
          · cases ok
            refine ⟨by simpa using free, by simpa using valid, ?_⟩
            intro given mem
            exact (Option.mem_some.mp mem).symm ▸ rfl
    | none =>
      simp only at ok
      split at ok
      · cases ok
      · cases ok
        exact ⟨s.lookup?_nextMadeUp, validKey_madeUpName _, nofun⟩

/-- The memory that is made is blank, and the others stay. -/
theorem memory_create {s s' : Store} {name : Option String} {size : Nat} {r : Region}
    (ok : s.create name size = .ok (r, s')) :
    s'.memory r.memory = .blank size ∧ ∀ id, id ≠ r.memory → s'.memory id = s.memory id := by
  obtain ⟨new, -, -, -, memories, -⟩ := create_eq_ok ok
  unfold memory
  rw [memories, new]
  constructor
  · simp
  · intro id other
    simp [Array.getElem?_push, other]

/-- Under a name that is in use nothing is made. If it is not the name that is
in the way, no store would do. -/
theorem create_used {s : Store} {name : String} (used : (s.lookup? name).isSome = true)
    (size : Nat) :
    s.create (some name) size = .error .nameInUse ∨
      ∃ fault, ∀ s : Store, s.create (some name) size = .error fault := by
  by_cases zero : size = 0
  · exact .inr ⟨.zeroSize, fun s => if_pos zero⟩
  · by_cases valid : validKey (key name) = true
    · exact .inl (by simp [create, zero, valid, used])
    · exact .inr ⟨.createRefused invalidArgument, fun s => by simp [create, zero, valid]⟩

theorem memory_release (s : Store) (r : Region) (id : MemoryId) :
    (s.release r).memory id = s.memory id := by
  unfold memory
  rw [memories_release]

theorem lookup?_release_eq (s : Store) (r : Region) (name : String) :
    (s.release r).lookup? name =
      if r.owner = true ∧ key name = key r.name then none else s.lookup? name := by
  unfold release
  split
  · rename_i owner
    simp only [owner, true_and]
    exact lookup_filter_ne s.names (key name) (key r.name)
  · rename_i foreign
    rw [if_neg (fun both => foreign both.1)]

/-- A name can be opened while it denotes a memory. -/
theorem openNamed_of_lookup {s : Store} {name : String} {id : MemoryId}
    (valid : validKey (key name) = true) (there : s.lookup? name = some id) :
    s.openNamed name = .ok ⟨name, id, (s.memory id).size, false⟩ := by
  simp [openNamed, valid, there]

theorem openNamed_of_absent {s : Store} {name : String} (valid : validKey (key name) = true)
    (gone : s.lookup? name = none) : s.openNamed name = .error (.openRefused noSuchFile) := by
  simp [openNamed, valid, gone]

end Store

/-! ## How objects come -/

/-- An object of some kind. -/
abbrev Thing := Σ kind, Object kind

/-- The region of an object. -/
def Thing.region (x : Thing) : Region := x.2.region

/-- A way to get an object. -/
inductive Arrival
  | createQueue (type : ElementType) (flavor : Flavor) (config : QueueConfig)
  | attach (type : ElementType) (flavor : Flavor) (descriptor : Descriptor)
  | createFlag (name : Option String)
  | openFlag (name : String)
  | createRegion (name : Option String) (size : Nat)
  | openRegion (name : String)

namespace Arrival

/-- A flag in a region, which has to have room for the word. -/
def flagIn (r : Region) (s : Store) : Except Error (Thing × Store) := do
  (r.check Queue.flagType Session.ownWord).mapError .invalidDescriptor
  return (⟨.flag, .flag r⟩, s)

/-- The object, and the store with it; or why there is none, and then the store
stays as it is. -/
def outcome (a : Arrival) (s : Store) : Except Error (Thing × Store) :=
  match a with
  | createQueue t flavor c => do
    let (q, s) ← Queue.create t flavor c s
    return (⟨.queue t, .queue ⟨q, .idle⟩⟩, s)
  | attach t flavor d => do
    let q ← Queue.attach t flavor d s
    return (⟨.queue t, .queue ⟨q, .idle⟩⟩, s)
  | createFlag name => do
    let (r, s) ← (s.create name flagSize).mapError .sharedMemory
    flagIn r s
  | openFlag name => do
    let r ← (s.openNamed name).mapError .sharedMemory
    flagIn r s
  | createRegion name size => do
    let (r, s) ← (s.create name size).mapError .sharedMemory
    return (⟨.bare, .bare r⟩, s)
  | openRegion name => do
    let r ← (s.openNamed name).mapError .sharedMemory
    return (⟨.bare, .bare r⟩, s)

/-- Whether a new region is made, and under which name if it is given. -/
def makes? : Arrival → Option (Option String)
  | createQueue _ _ c => some c.name
  | createFlag name => some name
  | createRegion name _ => some name
  | attach .. | openFlag _ | openRegion _ => none

/-- The name of the region that is opened. -/
def opens? : Arrival → Option String
  | attach _ _ d => some d.name
  | openFlag name => some name
  | openRegion name => some name
  | createQueue .. | createFlag _ | createRegion .. => none

variable {a : Arrival} {s s' : Store} {x : Thing}

theorem opens?_of_makes {asked : Option String} (makes : a.makes? = some asked) :
    a.opens? = none := by
  cases a with
  | createQueue | createFlag | createRegion => rfl
  | attach | openFlag | openRegion => cases makes

theorem flagIn_eq_ok {r : Region} (ok : flagIn r s = .ok (x, s')) : x = ⟨.flag, .flag r⟩ ∧ s' = s := by
  obtain ⟨-, ok⟩ := check_bind_eq_ok_iff.mp ok
  cases ok
  exact ⟨rfl, rfl⟩

/-- Whoever gets an object has made its region, or opened the one of that name. -/
theorem outcome_cases (ok : a.outcome s = .ok (x, s')) :
    (∃ name size, a.makes? = some name ∧ s.create name size = .ok (x.region, s')) ∨
      ∃ name, a.opens? = some name ∧ s.openNamed name = .ok x.region ∧ s' = s := by
  cases a with
  | createQueue t flavor c =>
    obtain ⟨⟨q, store⟩, made, ok⟩ := bind_eq_ok_iff.mp ok
    cases ok
    obtain ⟨layout, -, region, -⟩ := Queue.create_eq_ok made
    exact .inl ⟨_, _, rfl, region⟩
  | attach t flavor d =>
    obtain ⟨q, joined, ok⟩ := bind_eq_ok_iff.mp ok
    cases ok
    obtain ⟨-, -, -, opened, -⟩ := Queue.attach_eq_ok joined
    exact .inr ⟨_, rfl, opened, rfl⟩
  | createFlag name =>
    obtain ⟨⟨r, store⟩, made, ok⟩ := bind_eq_ok_iff.mp ok
    obtain ⟨rfl, rfl⟩ := flagIn_eq_ok ok
    exact .inl ⟨_, _, rfl, mapError_eq_ok_iff.mp made⟩
  | openFlag name =>
    obtain ⟨r, opened, ok⟩ := bind_eq_ok_iff.mp ok
    obtain ⟨rfl, rfl⟩ := flagIn_eq_ok ok
    exact .inr ⟨_, rfl, mapError_eq_ok_iff.mp opened, rfl⟩
  | createRegion name size =>
    obtain ⟨⟨r, store⟩, made, ok⟩ := bind_eq_ok_iff.mp ok
    cases ok
    exact .inl ⟨_, _, rfl, mapError_eq_ok_iff.mp made⟩
  | openRegion name =>
    obtain ⟨r, opened, ok⟩ := bind_eq_ok_iff.mp ok
    cases ok
    exact .inr ⟨_, rfl, mapError_eq_ok_iff.mp opened, rfl⟩

theorem ready_of_sound {t : ElementType} {q : Queue t} (sound : q.Sound) :
    (⟨q, .idle⟩ : Client t).Ready :=
  ⟨sound, nofun⟩

theorem sane_of_outcome (ok : a.outcome s = .ok (x, s')) : x.2.Sane := by
  cases a with
  | createQueue t flavor c =>
    obtain ⟨⟨q, store⟩, made, ok⟩ := bind_eq_ok_iff.mp ok
    cases ok
    exact ready_of_sound (Queue.sound_of_create made)
  | attach t flavor d =>
    obtain ⟨q, joined, ok⟩ := bind_eq_ok_iff.mp ok
    cases ok
    exact ready_of_sound (Queue.sound_of_attach joined)
  | createFlag name =>
    obtain ⟨⟨r, store⟩, -, ok⟩ := bind_eq_ok_iff.mp ok
    obtain ⟨rfl, -⟩ := flagIn_eq_ok ok
    trivial
  | openFlag name =>
    obtain ⟨r, -, ok⟩ := bind_eq_ok_iff.mp ok
    obtain ⟨rfl, -⟩ := flagIn_eq_ok ok
    trivial
  | createRegion name size =>
    obtain ⟨⟨r, store⟩, -, ok⟩ := bind_eq_ok_iff.mp ok
    cases ok
    trivial
  | openRegion name =>
    obtain ⟨r, -, ok⟩ := bind_eq_ok_iff.mp ok
    cases ok
    trivial

/-- Nothing is made under a name that is in use. If it is not the name that is
in the way, no store would do. -/
theorem refused_of_used {name : String} (makes : a.makes? = some (some name))
    (used : (s.lookup? name).isSome = true) :
    a.outcome s = .error (.sharedMemory .nameInUse) ∨ ∃ e, ∀ s, a.outcome s = .error e := by
  cases a with
  | createQueue t flavor c =>
    have given : c.name = some name := Option.some.inj makes
    simp only [outcome, Queue.create, given]
    cases Layout.plan ⟨flavor, t.size, t.alignment, c.quantumCount, c.eventFlag⟩ with
    | error e => exact .inr ⟨_, fun s => rfl⟩
    | ok layout =>
      rcases Store.create_used used layout.size with refused | ⟨fault, refused⟩
      · exact .inl (by simp [refused, Except.mapError, bind, Except.bind])
      · exact .inr ⟨.sharedMemory fault,
          fun s => by simp [refused, Except.mapError, bind, Except.bind]⟩
  | createFlag given =>
    obtain rfl : given = some name := Option.some.inj makes
    rcases Store.create_used used flagSize with refused | ⟨fault, refused⟩
    · exact .inl (by simp [outcome, refused, Except.mapError, bind, Except.bind])
    · exact .inr ⟨.sharedMemory fault,
        fun s => by simp [outcome, refused, Except.mapError, bind, Except.bind]⟩
  | createRegion given size =>
    obtain rfl : given = some name := Option.some.inj makes
    rcases Store.create_used used size with refused | ⟨fault, refused⟩
    · exact .inl (by simp [outcome, refused, Except.mapError, bind, Except.bind])
    · exact .inr ⟨.sharedMemory fault,
        fun s => by simp [outcome, refused, Except.mapError, bind, Except.bind]⟩
  | attach | openFlag | openRegion => cases makes

end Arrival

namespace Session

variable (s : Session) (flag : String)

/-- A session with a flag that has come, or the answer why it has not. -/
def welcome (r : Except Error (Thing × Store)) : Session × Answer :=
  match r with
  | .error e => (s, .unit (.error e))
  | .ok (x, store) => ({ s with store }.putFlag flag x.region,
      .flag x.region.name (store.wordBits (regionWord x.region)))

/-- This is how flags come in a session. A flag that is made has room for its
word, and one that is opened has no name to take along. -/
theorem act_flagCreate (name : Option String) :
    s.act (.flagCreate flag name) = s.welcome flag ((Arrival.createFlag name).outcome s.store) := by
  cases made : s.store.create name flagSize with
  | error fault =>
    simp [act, Session.made, enrollFlag, welcome, Arrival.outcome, made, Except.mapError, bind,
      Except.bind]
  | ok r =>
    obtain ⟨r, store⟩ := r
    obtain ⟨-, size, -⟩ := Store.create_eq_ok made
    have room : r.check Queue.flagType ownWord = .ok () := by
      simp [Region.check, ownWord, Grantor.stop, size]
    simp [act, Session.made, enrollFlag, welcome, Arrival.outcome, Arrival.flagIn, made, room,
      Except.mapError, bind, Except.bind, pure, Except.pure, Thing.region, Object.region]

theorem act_flagOpen (name : String) :
    s.act (.flagOpen flag name) = s.welcome flag ((Arrival.openFlag name).outcome s.store) := by
  cases opened : s.store.openNamed name with
  | error fault =>
    simp [act, Session.opened, enrollFlag, welcome, Arrival.outcome, opened, Except.mapError,
      Except.map, bind, Except.bind]
  | ok r =>
    obtain ⟨-, -, -, foreign⟩ := Store.openNamed_eq_ok opened
    have stays : s.store.release r = s.store := by simp [Store.release, foreign]
    cases room : r.check Queue.flagType ownWord <;>
      simp [act, Session.opened, enrollFlag, welcome, Arrival.outcome, Arrival.flagIn, opened, room,
        stays, Except.mapError, Except.map, bind, Except.bind, pure, Except.pure, Thing.region,
        Object.region]

end Session

/-! ## Worlds -/

/-- A store, and all objects that someone holds in it. -/
structure World where
  store : Store
  objects : Nat → Option Thing

/-- Something that happens in a world. -/
inductive Deed
  | use {kind : Kind} (number : Nat) (object : Object kind) (use : Use kind)
  | arrive (number : Nat) (arrival : Arrival)
  | drop (number : Nat) (thing : Thing)

namespace World

/-- Nobody holds anything yet. -/
def start : World := ⟨.empty, fun _ => none⟩

/-- The world after something was done through an object. -/
def used {kind : Kind} (w : World) (i : Nat) (o : Object kind) (u : Use kind) : World :=
  ⟨(o.use u w.store).1, Function.update w.objects i (some ⟨kind, (o.use u w.store).2.1⟩)⟩

/-- The world after an object was let go of. -/
def dropped (w : World) (i : Nat) (x : Thing) : World :=
  ⟨w.store.release x.region, Function.update w.objects i none⟩

/-- What a call is handed to wait on is the flag of an object that is held. -/
def Lends {kind : Kind} (w : World) (u : Use kind) : Prop :=
  ∀ flag ∈ u.lent?, ∃ i x, w.objects i = some x ∧ x.2.word? = some flag

/-- Something happens. -/
inductive Step (w : World) : Deed → World → Prop
  | use {kind : Kind} (i : Nat) (o : Object kind) (u : Use kind)
    (here : w.objects i = some ⟨kind, o⟩) (lends : w.Lends u) : Step w (.use i o u) (w.used i o u)
  | arrive (i : Nat) (a : Arrival) {x : Thing} {s : Store} (free : w.objects i = none)
    (ok : a.outcome w.store = .ok (x, s)) :
    Step w (.arrive i a) ⟨s, Function.update w.objects i (some x)⟩
  | refuse (i : Nat) (a : Arrival) {e : Error} (free : w.objects i = none)
    (failed : a.outcome w.store = .error e) : Step w (.arrive i a) w
  | drop (i : Nat) (x : Thing) (here : w.objects i = some x) : Step w (.drop i x) (w.dropped i x)

/-- What comes of a world without objects. -/
inductive Reachable : World → Prop
  | start : Reachable start
  | step {w w' : World} {deed : Deed} (before : Reachable w) (step : Step w deed w') : Reachable w'

/-- The region owns the name, and the name denotes its memory. -/
def Owns (r : Region) (k : String) (id : MemoryId) : Prop :=
  r.owner = true ∧ Store.key r.name = k ∧ r.memory = id

/-- Names belong to objects one by one, and objects have their memories. -/
structure Orderly (w : World) : Prop where
  sane : ∀ {i x}, w.objects i = some x → x.2.Sane
  mapped : ∀ {i x}, w.objects i = some x → x.region.memory < w.store.memories.size
  room : ∀ {i x}, w.objects i = some x → (w.store.memory x.region.memory).size = x.region.size
  entry : ∀ {k id}, (k, id) ∈ w.store.names → ∃ i x, w.objects i = some x ∧ Owns x.region k id
  owned : ∀ {i x}, w.objects i = some x → x.region.owner = true →
    (Store.key x.region.name, x.region.memory) ∈ w.store.names ∧
      Store.validKey (Store.key x.region.name) = true
  sole : ∀ {i j x y}, w.objects i = some x → w.objects j = some y → x.region.owner = true →
    y.region.owner = true → x.region.memory = y.region.memory → i = j
  distinct : (w.store.names.map (·.1)).Nodup

variable {w w' : World} {i : Nat} {x : Thing}

/-- An object after a change of one place is the new one or was there before. -/
theorem object_update {objects : Nat → Option Thing} {j : Nat} {new : Option Thing}
    (there : Function.update objects i new j = some x) :
    (j = i ∧ new = some x) ∨ (j ≠ i ∧ objects j = some x) := by
  by_cases same : j = i
  · subst same
    rw [Function.update_self] at there
    exact .inl ⟨rfl, there⟩
  · rw [Function.update_of_ne same] at there
    exact .inr ⟨same, there⟩

theorem orderly_start : start.Orderly where
  sane := nofun
  mapped := nofun
  room := nofun
  entry := nofun
  owned := nofun
  sole := nofun
  distinct := List.nodup_nil

/-- Only the regions of the objects matter, and that memories are not resized. -/
theorem Orderly.of_regions (orderly : w.Orderly) {s : Store} {new : Thing}
    (here : w.objects i = some x) (same : new.region = x.region) (sane : new.2.Sane)
    (names : s.names = w.store.names) (count : s.memories.size = w.store.memories.size)
    (room : ∀ id, (s.memory id).size = (w.store.memory id).size) :
    (⟨s, Function.update w.objects i (some new)⟩ : World).Orderly := by
  -- every object of the new world stands for one of the old world with the same region
  have back : ∀ {j y}, Function.update w.objects i (some new) j = some y →
      y.2.Sane ∧ ∃ z, w.objects j = some z ∧ z.region = y.region := by
    intro j y there
    rcases object_update there with ⟨rfl, fresh⟩ | ⟨-, before⟩
    · obtain rfl := Option.some.inj fresh
      exact ⟨sane, x, here, same.symm⟩
    · exact ⟨orderly.sane before, y, before, rfl⟩
  constructor
  · exact fun there => (back there).1
  · intro j y there
    obtain ⟨-, z, before, region⟩ := back there
    exact region ▸ count ▸ orderly.mapped before
  · intro j y there
    obtain ⟨-, z, before, region⟩ := back there
    exact (room _).trans (region ▸ orderly.room before)
  · intro k id mem
    obtain ⟨j, y, before, owns⟩ := orderly.entry (names ▸ mem)
    by_cases one : j = i
    · subst one
      obtain rfl := Option.some.inj (here.symm.trans before)
      exact ⟨j, new, Function.update_self .., same ▸ owns⟩
    · exact ⟨j, y, (Function.update_of_ne one ..).trans before, owns⟩
  · intro j y there owner
    obtain ⟨-, z, before, region⟩ := back there
    show _ ∈ s.names ∧ _
    rw [names, ← region]
    exact orderly.owned before (region ▸ owner)
  · intro j k y z thereY thereZ ownerY ownerZ memory
    obtain ⟨-, y', beforeY, regionY⟩ := back thereY
    obtain ⟨-, z', beforeZ, regionZ⟩ := back thereZ
    rw [← regionY, ← regionZ] at memory
    exact orderly.sole beforeY beforeZ (regionY ▸ ownerY) (regionZ ▸ ownerZ) memory
  · show (s.names.map (·.1)).Nodup
    rw [names]
    exact orderly.distinct

theorem Orderly.used {kind : Kind} {o : Object kind} (orderly : w.Orderly)
    (here : w.objects i = some ⟨kind, o⟩) (u : Use kind) : (w.used i o u).Orderly := by
  have inside := o.local_use (orderly.sane here) u
  exact orderly.of_regions here (o.region_use u w.store) (o.sane_use (orderly.sane here) u w.store)
    (inside.names _) (inside.count _) (inside.room _)

/-- A new memory comes with a new name, and both belong to whoever made them. -/
theorem Orderly.made (orderly : w.Orderly) (free : w.objects i = none) {s : Store}
    {name : Option String} {size : Nat} (made : w.store.create name size = .ok (x.region, s))
    (sane : x.2.Sane) : (⟨s, Function.update w.objects i (some x)⟩ : World).Orderly := by
  obtain ⟨memory, room, -, owner, memories, names⟩ := Store.create_eq_ok made
  obtain ⟨unused, valid, -⟩ := Store.create_name made
  obtain ⟨blank, others⟩ := Store.memory_create made
  have grown : s.memories.size = w.store.memories.size + 1 := by simp [memories]
  have older : ∀ {j y}, w.objects j = some y → y.region.memory ≠ x.region.memory := by
    intro j y before
    rw [memory]
    exact Nat.ne_of_lt (orderly.mapped before)
  have other : ∀ {j y}, w.objects j = some y → j ≠ i := by
    rintro j y before rfl
    rw [free] at before
    cases before
  constructor
  · intro j y there
    rcases object_update there with ⟨-, fresh⟩ | ⟨-, before⟩
    · exact Option.some.inj fresh ▸ sane
    · exact orderly.sane before
  · intro j y there
    rcases object_update there with ⟨-, fresh⟩ | ⟨-, before⟩
    · obtain rfl := Option.some.inj fresh
      rw [memory, grown]
      exact Nat.lt_succ_self _
    · rw [grown]
      exact Nat.lt_succ_of_lt (orderly.mapped before)
  · intro j y there
    rcases object_update there with ⟨-, fresh⟩ | ⟨-, before⟩
    · obtain rfl := Option.some.inj fresh
      show (s.memory x.region.memory).size = x.region.size
      rw [blank, room]
      rfl
    · exact (congrArg Memory.size (others _ (older before))).trans (orderly.room before)
  · intro k id mem
    rw [names] at mem
    rcases List.mem_cons.mp mem with same | mem
    · obtain ⟨rfl, rfl⟩ := Prod.mk.inj same
      exact ⟨i, x, Function.update_self .., owner, rfl, memory⟩
    · obtain ⟨j, y, before, owns⟩ := orderly.entry mem
      exact ⟨j, y, (Function.update_of_ne (other before) ..).trans before, owns⟩
  · intro j y there own
    show _ ∈ s.names ∧ _
    rw [names]
    rcases object_update there with ⟨-, fresh⟩ | ⟨-, before⟩
    · obtain rfl := Option.some.inj fresh
      rw [memory]
      exact ⟨List.mem_cons_self, valid⟩
    · obtain ⟨mem, valid⟩ := orderly.owned before own
      exact ⟨List.mem_cons_of_mem _ mem, valid⟩
  · intro j k y z thereY thereZ ownY ownZ same
    rcases object_update thereY with ⟨rfl, freshY⟩ | ⟨-, beforeY⟩ <;>
      rcases object_update thereZ with ⟨rfl, freshZ⟩ | ⟨-, beforeZ⟩
    · rfl
    · obtain rfl := Option.some.inj freshY
      exact absurd same.symm (older beforeZ)
    · obtain rfl := Option.some.inj freshZ
      exact absurd same (older beforeY)
    · exact orderly.sole beforeY beforeZ ownY ownZ same
  · show (s.names.map (·.1)).Nodup
    rw [names]
    refine List.nodup_cons.mpr ⟨fun mem => ?_, orderly.distinct⟩
    have found := Store.lookup_isSome_of_mem mem
    have none : w.store.names.lookup (Store.key x.region.name) = none := unused
    rw [none] at found
    cases found

/-- Whoever opens a region joins an object that made it, and owns nothing. -/
theorem Orderly.opened (orderly : w.Orderly) (free : w.objects i = none) {name : String}
    (opened : w.store.openNamed name = .ok x.region) (sane : x.2.Sane) :
    (⟨w.store, Function.update w.objects i (some x)⟩ : World).Orderly := by
  obtain ⟨found, -, size, foreign⟩ := Store.openNamed_eq_ok opened
  obtain ⟨k, maker, there, -, -, memory⟩ := orderly.entry (Store.mem_of_lookup found)
  have other : ∀ {j y}, w.objects j = some y → j ≠ i := by
    rintro j y before rfl
    rw [free] at before
    cases before
  constructor
  · intro j y there
    rcases object_update there with ⟨-, fresh⟩ | ⟨-, before⟩
    · exact Option.some.inj fresh ▸ sane
    · exact orderly.sane before
  · intro j y there
    rcases object_update there with ⟨-, fresh⟩ | ⟨-, before⟩
    · obtain rfl := Option.some.inj fresh
      exact memory ▸ orderly.mapped ‹w.objects k = some maker›
    · exact orderly.mapped before
  · intro j y there
    rcases object_update there with ⟨-, fresh⟩ | ⟨-, before⟩
    · obtain rfl := Option.some.inj fresh
      exact size.symm
    · exact orderly.room before
  · intro k id mem
    obtain ⟨j, y, before, owns⟩ := orderly.entry mem
    exact ⟨j, y, (Function.update_of_ne (other before) ..).trans before, owns⟩
  · intro j y there own
    rcases object_update there with ⟨-, fresh⟩ | ⟨-, before⟩
    · obtain rfl := Option.some.inj fresh
      rw [foreign] at own
      cases own
    · exact orderly.owned before own
  · intro j k y z thereY thereZ ownY ownZ same
    rcases object_update thereY with ⟨-, fresh⟩ | ⟨-, beforeY⟩
    · obtain rfl := Option.some.inj fresh
      rw [foreign] at ownY
      cases ownY
    · rcases object_update thereZ with ⟨-, fresh⟩ | ⟨-, beforeZ⟩
      · obtain rfl := Option.some.inj fresh
        rw [foreign] at ownZ
        cases ownZ
      · exact orderly.sole beforeY beforeZ ownY ownZ same
  · exact orderly.distinct

/-- Two owners have two names. -/
theorem Orderly.key_ne (orderly : w.Orderly) {j : Nat} {y : Thing} (thereX : w.objects i = some x)
    (thereY : w.objects j = some y) (ownX : x.region.owner = true) (ownY : y.region.owner = true)
    (ne : j ≠ i) : Store.key y.region.name ≠ Store.key x.region.name := by
  intro same
  have foundX := Store.lookup_of_mem orderly.distinct (orderly.owned thereX ownX).1
  have foundY := Store.lookup_of_mem orderly.distinct (orderly.owned thereY ownY).1
  rw [same, foundX] at foundY
  exact ne (orderly.sole thereX thereY ownX ownY (Option.some.inj foundY)).symm

/-- The owner takes its name along; all others keep theirs. -/
theorem Orderly.dropped (orderly : w.Orderly) (here : w.objects i = some x) :
    (w.dropped i x).Orderly := by
  have left : ∀ {j y}, (w.dropped i x).objects j = some y → j ≠ i ∧ w.objects j = some y := by
    intro j y there
    rcases object_update there with ⟨-, gone⟩ | before
    · cases gone
    · exact before
  have fewer : (w.store.release x.region).names.Sublist w.store.names := by
    unfold Store.release
    split
    · exact List.filter_sublist
    · exact .refl _
  constructor
  · exact fun there => orderly.sane (left there).2
  · intro j y there
    show _ < (w.store.release x.region).memories.size
    rw [Store.memories_release]
    exact orderly.mapped (left there).2
  · intro j y there
    show ((w.store.release x.region).memory _).size = _
    rw [Store.memory_release]
    exact orderly.room (left there).2
  · intro k id mem
    obtain ⟨j, y, before, owns⟩ := orderly.entry (fewer.subset mem)
    refine ⟨j, y, (Function.update_of_ne ?_ ..).trans before, owns⟩
    rintro rfl
    obtain rfl := Option.some.inj (here.symm.trans before)
    obtain ⟨own, rfl, -⟩ := owns
    -- the name that is left is not the one that was taken along
    have kept : (Store.key x.region.name, id) ∈ (w.store.release x.region).names := mem
    rw [Store.release, if_pos own] at kept
    simp at kept
  · intro j y there own
    obtain ⟨ne, before⟩ := left there
    obtain ⟨mem, valid⟩ := orderly.owned before own
    refine ⟨?_, valid⟩
    show _ ∈ (w.store.release x.region).names
    unfold Store.release
    split
    · rename_i owner
      have differ := orderly.key_ne here before owner own ne
      exact List.mem_filter.mpr ⟨mem, by simpa using differ⟩
    · exact mem
  · intro j k y z thereY thereZ ownY ownZ same
    exact orderly.sole (left thereY).2 (left thereZ).2 ownY ownZ same
  · exact (fewer.map _).nodup orderly.distinct

/-- Whatever happens, names belong to objects one by one. -/
theorem orderly_step {deed : Deed} (orderly : w.Orderly) (step : Step w deed w') : w'.Orderly := by
  cases step with
  | use i o u here lends => exact orderly.used here u
  | arrive i a free ok =>
    rcases a.outcome_cases ok with ⟨name, size, -, made⟩ | ⟨name, -, opened, rfl⟩
    · exact orderly.made free made (a.sane_of_outcome ok)
    · exact orderly.opened free opened (a.sane_of_outcome ok)
  | refuse i a free failed => exact orderly
  | drop i x here => exact orderly.dropped here

theorem Reachable.orderly (reachable : Reachable w) : w.Orderly := by
  induction reachable with
  | start => exact orderly_start
  | step before step ih => exact orderly_step ih step

end World

end SharedQueue
