/-
SharedQueue.Proofs.Attaching — who is let in, and why not.

* `Layout.check_realign`, `Descriptor.check_ofLayout` — a plan suits every
  element type of its size: the slots begin at a cache line.
* `Queue.exists_map` — nothing is left to refuse once a descriptor has passed
  its check and the region has the room that it says.
* `Queue.Answers`, `Queue.Admits` — what attaching answers in each case, and
  when it lets a newcomer in.
* `Queue.Joinable` — what newcomers need of a handle's descriptor. A handle
  whose queue was just created has it, and keeps it while it is held.
* `Queue.Mirrors`, `Queue.Hosts` — what newcomers see.
* `attaching` — attaching answers so for every descriptor and every store, and
  all queues that are created can be joined.
-/
import SharedQueue.Proofs.HalfWritten
import SharedQueue.Proofs.Isolation

namespace SharedQueue

/-! ## Plans suit all types of a size -/

namespace Layout

/-- The alignment of the elements only matters where the slots begin. -/
theorem check_realign {l : Layout} {flavor : Flavor} {size align align' : Nat}
    (ok : l.check flavor size align = .ok ()) (dvd : align' ∣ l.data.offset) :
    l.check flavor size align' = .ok () := by
  obtain ⟨presence, pieces, apart⟩ := check_eq_ok_iff.mp ok
  refine check_eq_ok_iff.mpr ⟨presence, ?_, ?_⟩
  · simp only [Layout.pieces, List.forall_mem_append, List.forall_mem_singleton] at pieces ⊢
    obtain ⟨words, slots⟩ := pieces
    obtain ⟨inside, room, -⟩ := Piece.check_eq_ok_iff.mp slots
    exact ⟨words, Piece.check_eq_ok_iff.mpr ⟨inside, room, dvd⟩⟩
  · simp only [Layout.pieces, List.pairwise_append, List.mem_singleton, forall_eq,
      List.pairwise_singleton] at apart ⊢
    exact apart

/-- The slots of a plan begin at a cache line. -/
theorem cacheLine_dvd_data {r : Request} {l : Layout} (ok : plan r = .ok l)
    (agrees : r.quantumAlign ∣ cacheLine) : cacheLine ∣ l.data.offset := by
  have small : r.quantumAlign ≤ cacheLine := Nat.le_of_dvd (by decide) agrees
  obtain ⟨-, -, rfl⟩ := plan_eq_ok ok
  dsimp only
  rw [Nat.max_eq_right small]
  exact dvd_alignUp _ _

end Layout

namespace Descriptor

variable {d : Descriptor}

/-- The descriptor of a plan is valid for every type of the same size. -/
theorem check_ofLayout {name : String} {flavor : Flavor} {t t' : ElementType} {count : Nat}
    {eventFlag : Bool} {l : Layout} (named : name.isEmpty = false)
    (plan : Layout.plan ⟨flavor, t.size, t.alignment, count, eventFlag⟩ = .ok l) :
    (ofLayout name flavor t.size count l).check t'.alignment = .ok () := by
  obtain ⟨sizePos, countPos, extent⟩ := Layout.plan_shape plan
  have slots := Layout.cacheLine_dvd_data plan t.alignment_dvd_cacheLine
  refine check_eq_ok_iff.mpr ⟨checkShape_eq_ok_iff.mpr ⟨named, sizePos, countPos, extent⟩, ?_⟩
  exact Layout.check_realign (Layout.check_plan plan t.alignment_dvd_max)
    (Nat.dvd_trans t'.alignment_dvd_cacheLine slots)

end Descriptor

/-! ## Nothing is left to refuse -/

theorem Region.check_eq_ok_iff {r : Region} {t : ElementType} {range : Grantor} :
    r.check t range = .ok () ↔ range.stop ≤ r.size ∧ t.alignment ∣ range.offset := by
  rw [Nat.dvd_iff_mod_eq_zero, Region.check]
  split
  · simp only [reduceCtorEq, false_iff]
    omega
  · split
    · simp only [reduceCtorEq, false_iff]
      omega
    · simp only [true_iff]
      omega

namespace Queue

variable {t : ElementType} {d : Descriptor} {r : Region}

/-- A word that a layout's check has passed is a place for the word's type. -/
theorem checkPiece_of_word {part : Part} {size : Nat} {type : ElementType}
    {range : Option Grantor} (pieces : ∀ p ∈ Layout.word part size range, p.check d.regionSize = .ok ())
    (room : d.regionSize ≤ r.size) (align : type.alignment = size) :
    checkPiece r type range = .ok () := by
  cases range with
  | none => rfl
  | some g =>
    obtain ⟨inside, -, aligned⟩ :=
      Layout.Piece.check_eq_ok_iff.mp (pieces ⟨part, g, size, size⟩ List.mem_cons_self)
    exact Region.check_eq_ok_iff.mpr ⟨Nat.le_trans inside room, align ▸ aligned⟩

/-- A handle is mapped whenever the descriptor has passed its check and the
region has the room that it says. -/
theorem exists_map (checked : d.check t.alignment = .ok ()) (room : d.regionSize ≤ r.size)
    (m : Memory) :
    ∃ cursor, firstCursor d m = .ok cursor ∧ map (t := t) r m d = .ok ⟨d, r, cursor⟩ := by
  obtain ⟨-, layout⟩ := Descriptor.check_eq_ok_iff.mp checked
  obtain ⟨presence, pieces, -⟩ := Layout.check_eq_ok_iff.mp layout
  obtain ⟨counter, -⟩ := Layout.checkPresence_eq_ok_iff.mp presence
  simp only [Layout.pieces, List.forall_mem_append, List.forall_mem_singleton] at pieces
  obtain ⟨⟨⟨⟨write, read⟩, reserve⟩, flag⟩, slots⟩ := pieces
  obtain ⟨inside, -, aligned⟩ := Layout.Piece.check_eq_ok_iff.mp slots
  have counters : checkPiece r counterType (some d.writeCounter) = .ok () :=
    checkPiece_of_word write room rfl
  have write : r.check counterType d.writeCounter = .ok () := counters
  have read : checkPiece r counterType d.readCounter = .ok () := checkPiece_of_word read room rfl
  have reserve : checkPiece r counterType d.writeReserve = .ok () :=
    checkPiece_of_word reserve room rfl
  have flag : checkPiece r flagType d.eventFlag = .ok () := checkPiece_of_word flag room rfl
  have slots : r.check t d.data = .ok () :=
    Region.check_eq_ok_iff.mpr ⟨Nat.le_trans inside room, aligned⟩
  have mapped {cursor : Cursor} (first : firstCursor d m = .ok cursor) :
      ∃ cursor, firstCursor d m = .ok cursor ∧ map (t := t) r m d = .ok ⟨d, r, cursor⟩ := by
    refine ⟨cursor, first, ?_⟩
    simp [map, write, read, reserve, flag, slots, first, Except.mapError, bind, Except.bind, pure,
      Except.pure]
  have counter : d.readCounter.isSome = d.flavor.hasReadCounter := counter
  cases flavor : d.flavor with
  | synchronized =>
    rw [flavor] at counter
    obtain ⟨g, there⟩ := Option.isSome_iff_exists.mp counter
    exact mapped (firstCursor_synchronized flavor there m)
  | unsynchronized => exact mapped (firstCursor_unsynchronized flavor m)

/-! ## What attaching answers -/

/-- The answers of attaching. The first thing that is wrong is told. -/
structure Answers (t : ElementType) (flavor : Flavor) (d : Descriptor) (s : Store) : Prop where
  otherFlavor : d.flavor ≠ flavor → attach t flavor d s = .error (.flavorMismatch flavor d.flavor)
  otherSize : d.flavor = flavor → d.quantumSize ≠ t.size →
    attach t flavor d s = .error (.quantumSizeMismatch t.size d.quantumSize)
  invalid : d.flavor = flavor → d.quantumSize = t.size → ∀ {a}, d.validate t.alignment = .error a →
    ∃ fault, a = .error (.invalidDescriptor fault) ∧
      attach t flavor d s = .error (.invalidDescriptor fault)
  absent : d.flavor = flavor → d.quantumSize = t.size → d.validate t.alignment = .ok () →
    ∀ {fault}, s.openNamed d.name = .error fault → attach t flavor d s = .error (.sharedMemory fault)
  small : d.flavor = flavor → d.quantumSize = t.size → d.validate t.alignment = .ok () →
    ∀ {region}, s.openNamed d.name = .ok region → region.size < d.regionSize →
      attach t flavor d s =
        .error (.invalidDescriptor (.regionTooSmall d.name region.size d.regionSize))
  joined : d.flavor = flavor → d.quantumSize = t.size → d.validate t.alignment = .ok () →
    ∀ {region}, s.openNamed d.name = .ok region → d.regionSize ≤ region.size →
      ∃ cursor, firstCursor d (s.memory region.memory) = .ok cursor ∧
        attach t flavor d s = .ok ⟨d, region, cursor⟩

/-- What attaching asks for. -/
structure Admits (t : ElementType) (flavor : Flavor) (d : Descriptor) (s : Store) : Prop where
  sameFlavor : d.flavor = flavor
  sameSize : d.quantumSize = t.size
  valid : d.validate t.alignment = .ok ()
  region : ∃ region, s.openNamed d.name = .ok region ∧ d.regionSize ≤ region.size

theorem validate_eq_ok_iff : d.validate t.alignment = .ok () ↔ d.check t.alignment = .ok () := by
  rw [Descriptor.validate_eq t.alignment_pos, mapError_eq_ok_iff]

theorem answers (t : ElementType) (flavor : Flavor) (d : Descriptor) (s : Store) :
    Answers t flavor d s := by
  constructor
  · intro other
    simp [attach, other, throw, throwThe, MonadExceptOf.throw, bind, Except.bind]
  · intro same other
    simp [attach, same, other, throw, throwThe, MonadExceptOf.throw, bind, Except.bind]
  · intro flavor size a invalid
    rw [Descriptor.validate_eq t.alignment_pos] at invalid
    cases checked : d.check t.alignment with
    | ok _ =>
      rw [checked] at invalid
      cases invalid
    | error fault =>
      rw [checked] at invalid
      cases invalid
      exact ⟨fault, rfl, by simp [attach, flavor, size, checked, Except.mapError, bind, Except.bind]⟩
  · intro flavor size valid fault refused
    have checked := validate_eq_ok_iff.mp valid
    simp [attach, flavor, size, checked, refused, Except.mapError, bind, Except.bind]
  · intro flavor size valid region opened small
    have checked := validate_eq_ok_iff.mp valid
    simp [attach, flavor, size, checked, opened, small, Except.mapError, throw, throwThe,
      MonadExceptOf.throw, bind, Except.bind]
  · intro flavor size valid region opened room
    have checked := validate_eq_ok_iff.mp valid
    rw [attach_eq_map flavor size checked opened room]
    exact exists_map checked room _

/-- A newcomer is let in if and only if everything that is asked for is there. -/
theorem attach_isOk_iff {flavor : Flavor} {s : Store} :
    (∃ q, attach t flavor d s = .ok q) ↔ Admits t flavor d s := by
  constructor
  · rintro ⟨q, ok⟩
    obtain ⟨sameFlavor, size, checked, opened, room, -, -⟩ := attach_eq_ok ok
    exact ⟨sameFlavor, size, validate_eq_ok_iff.mpr checked, q.region, opened, room⟩
  · rintro ⟨sameFlavor, size, valid, region, opened, room⟩
    obtain ⟨cursor, -, ok⟩ := (answers t flavor d s).joined sameFlavor size valid opened room
    exact ⟨_, ok⟩

/-! ## Queues that are created -/

/-- The answers of creating a queue. Once there is a plan and a region for it,
nothing is refused. -/
structure Creates (t : ElementType) (flavor : Flavor) (c : QueueConfig) (s : Store) : Prop where
  unplanned : ∀ {fault},
    Layout.plan ⟨flavor, t.size, t.alignment, c.quantumCount, c.eventFlag⟩ = .error fault →
      create t flavor c s = .error (.config fault)
  refused : ∀ {layout fault},
    Layout.plan ⟨flavor, t.size, t.alignment, c.quantumCount, c.eventFlag⟩ = .ok layout →
      s.create c.name layout.size = .error fault →
        create t flavor c s = .error (.sharedMemory fault)
  created : ∀ {layout region s'},
    Layout.plan ⟨flavor, t.size, t.alignment, c.quantumCount, c.eventFlag⟩ = .ok layout →
      s.create c.name layout.size = .ok (region, s') →
        ∃ cursor, create t flavor c s =
          .ok (⟨.ofLayout region.name flavor t.size c.quantumCount layout, region, cursor⟩, s')

/-- A name that can be opened is not empty. -/
theorem isEmpty_of_validKey {name : String} (valid : Store.validKey (Store.key name) = true) :
    name.isEmpty = false := by
  rw [Bool.eq_false_iff]
  intro empty
  rw [String.isEmpty_iff.mp empty] at valid
  exact absurd valid (by decide)

theorem creates (t : ElementType) (flavor : Flavor) (c : QueueConfig) (s : Store) :
    Creates t flavor c s := by
  constructor
  · intro fault unplanned
    simp [create, unplanned, Except.mapError, bind, Except.bind]
  · intro layout fault plan refused
    simp [create, plan, refused, Except.mapError, bind, Except.bind]
  · intro layout region s' plan made
    obtain ⟨-, valid, -⟩ := Store.create_name made
    obtain ⟨-, size, -⟩ := Store.create_eq_ok made
    have checked : (Descriptor.ofLayout region.name flavor t.size c.quantumCount layout).check
        t.alignment = .ok () := Descriptor.check_ofLayout (isEmpty_of_validKey valid) plan
    have room : (Descriptor.ofLayout region.name flavor t.size c.quantumCount layout).regionSize
        ≤ region.size := Nat.le_of_eq size.symm
    obtain ⟨cursor, -, mapped⟩ := exists_map checked room (s'.memory region.memory)
    exact ⟨cursor, by
      simp [create, plan, made, mapped, Except.mapError, bind, Except.bind, pure, Except.pure]⟩

/-- What newcomers need of the descriptor of a handle: it suits every type of the
size, and it describes the handle's region. -/
structure Joinable (q : Queue t) : Prop where
  checked : ∀ t' : ElementType, q.descriptor.check t'.alignment = .ok ()
  sameSize : q.descriptor.quantumSize = t.size
  name : q.descriptor.name = q.region.name
  room : q.descriptor.regionSize = q.region.size
  encodable : q.descriptor.Encodable

variable {q q' : Queue t} {s s' : Store}

theorem joinable_of_create {flavor : Flavor} {c : QueueConfig}
    (ok : create t flavor c s = .ok (q, s')) : q.Joinable := by
  obtain ⟨layout, plan, made, descriptor, -⟩ := create_eq_ok ok
  obtain ⟨-, valid, -⟩ := Store.create_name made
  obtain ⟨-, size, -⟩ := Store.create_eq_ok made
  refine ⟨fun t' => ?_, ?_, ?_, ?_, encodable_of_create ok⟩
  · rw [descriptor]
    exact Descriptor.check_ofLayout (isEmpty_of_validKey valid) plan
  · rw [descriptor]
    rfl
  · rw [descriptor]
    rfl
  · rw [descriptor, size]
    rfl

theorem Joinable.continues (joinable : q.Joinable) (continues : q.Continues q') : q'.Joinable := by
  constructor
  · rw [continues.descriptor_eq]
    exact joinable.checked
  · rw [continues.descriptor_eq]
    exact joinable.sameSize
  · rw [continues.descriptor_eq, continues.region_eq]
    exact joinable.name
  · rw [continues.descriptor_eq, continues.region_eq]
    exact joinable.room
  · rw [continues.descriptor_eq]
    exact joinable.encodable

/-! ## What newcomers see -/

/-- The handles are on the same memory and see the same in it: the counters, the
flag, the room, the data, and the bytes of every slot. -/
structure Mirrors {t t' : ElementType} (q : Queue t) (q' : Queue t') (s : Store) : Prop where
  memory : q'.region.memory = q.region.memory
  writePos : q'.writePos (q'.memory s) = q.writePos (q.memory s)
  readPos : q'.readPos (q'.memory s) = q.readPos (q.memory s)
  view : Handle.view ⟨t', q'⟩ s = Handle.view ⟨t, q⟩ s
  slots : ∀ slot, (q'.memory s).bytes (q'.slotAddress slot) t'.size =
    (q.memory s).bytes (q.slotAddress slot) t.size

/-- Newcomers can join the queue that a handle is on, with the descriptor or with
its text. In a synchronized queue they see what the handle sees; in an
unsynchronized one they begin where the next quantum will be. -/
structure Hosts (q : Queue t) (s : Store) : Prop where
  written : ∃ text, q.descriptor.toText = .ok text ∧ Descriptor.ofText text = .ok q.descriptor
  joined : ∀ t' : ElementType, t'.size = t.size → ∃ q' : Queue t',
    attach t' q.flavor q.descriptor s = .ok q' ∧ q'.descriptor = q.descriptor ∧
      q'.region.memory = q.region.memory ∧
      (q.flavor = .synchronized → q.Mirrors q' s) ∧
      (q.flavor = .unsynchronized →
        q'.readPos (q'.memory s) = q.writePos (q.memory s) ∧ q'.availableToRead (q'.memory s) = 0)

/-- Sound handles on one memory with one descriptor see the same, if the
reader's position is a shared one. -/
theorem mirrors_of_synchronized {t' : ElementType} {q' : Queue t'} (sound : q.Sound)
    (sound' : q'.Sound) (flavor : q.flavor = .synchronized)
    (descriptor : q'.descriptor = q.descriptor) (memory : q'.region.memory = q.region.memory)
    (size : q'.region.size = q.region.size) (sameSize : t'.size = t.size) : q.Mirrors q' s := by
  have same : q'.memory s = q.memory s := congrArg s.memory memory
  have flavor' : q'.flavor = .synchronized := (congrArg Descriptor.flavor descriptor).trans flavor
  have written : ∀ m, q'.writePos m = q.writePos m := fun m => by simp [Queue.writePos, descriptor]
  have read : ∀ m, q'.readPos m = q.readPos m := by
    intro m
    rw [sound.readPos_eq flavor, sound'.readPos_eq flavor', sharedRead, sharedRead, descriptor]
  have valid : ∀ m, q'.isValid m = q.isValid m := by
    intro m
    unfold isValid Queue.flavor Queue.capacity
    rw [written, read, descriptor, size]
  constructor
  · exact memory
  · rw [same, written]
  · rw [same, read]
  · simp only [Handle.view, same, Queue.availableToWrite, Queue.availableToRead, valid, flagBits?,
      Queue.capacity, written, read, descriptor]
  · intro slot
    simp [same, slotAddress, descriptor, sameSize]

/-- Who opens the region of a joinable handle can join. -/
theorem Joinable.hosts (joinable : q.Joinable) (sound : q.Sound) {region : Region}
    (opened : s.openNamed q.region.name = .ok region) (memory : region.memory = q.region.memory)
    (size : region.size = q.region.size) : q.Hosts s := by
  constructor
  · have written := Descriptor.toText_eq joinable.encodable
    exact ⟨_, written, Descriptor.ofText_toText written⟩
  · intro t' sameSize
    have sized : q.descriptor.quantumSize = t'.size := joinable.sameSize.trans sameSize.symm
    have room : q.descriptor.regionSize ≤ region.size := by
      rw [joinable.room, size]
    rw [← joinable.name] at opened
    obtain ⟨cursor, first, ok⟩ := (answers t' q.flavor q.descriptor s).joined rfl sized
      (validate_eq_ok_iff.mpr (joinable.checked t')) opened room
    have sound' := sound_of_attach ok
    refine ⟨_, ok, rfl, memory, ?_, ?_⟩
    · intro flavor
      exact mirrors_of_synchronized sound sound' flavor rfl memory size sameSize
    · intro flavor
      have flavor' : q.descriptor.flavor = .unsynchronized := flavor
      rw [firstCursor_unsynchronized flavor'] at first
      cases first
      have same : s.memory region.memory = q.memory s := congrArg s.memory memory
      refine ⟨congrArg (Memory.load64 · q.descriptor.writeCounter.offset) same, ?_⟩
      exact distance_self _

end Queue

/-! ## In every world -/

/-- A queue that was created here can be joined. -/
def Thing.Open : Thing → Prop
  | ⟨_, .queue c⟩ => c.queue.region.owner = true → c.queue.Joinable
  | ⟨_, .flag _⟩ => True
  | ⟨_, .bare _⟩ => True

namespace World

variable {w w' : World}

theorem Arrival.open_of_outcome {a : Arrival} {s s' : Store} {x : Thing}
    (ok : a.outcome s = .ok (x, s')) : x.Open := by
  cases a with
  | createQueue t flavor c =>
    obtain ⟨⟨q, store⟩, made, ok⟩ := bind_eq_ok_iff.mp ok
    cases ok
    exact fun _ => Queue.joinable_of_create made
  | attach t flavor d =>
    obtain ⟨q, joined, ok⟩ := bind_eq_ok_iff.mp ok
    cases ok
    intro owner
    obtain ⟨-, -, -, opened, -⟩ := Queue.attach_eq_ok joined
    obtain ⟨-, -, -, foreign⟩ := Store.openNamed_eq_ok opened
    rw [foreign] at owner
    cases owner
  | createFlag name =>
    obtain ⟨⟨r, store⟩, -, ok⟩ := bind_eq_ok_iff.mp ok
    obtain ⟨rfl, -⟩ := Arrival.flagIn_eq_ok ok
    trivial
  | openFlag name =>
    obtain ⟨r, -, ok⟩ := bind_eq_ok_iff.mp ok
    obtain ⟨rfl, -⟩ := Arrival.flagIn_eq_ok ok
    trivial
  | createRegion name size =>
    obtain ⟨⟨r, store⟩, -, ok⟩ := bind_eq_ok_iff.mp ok
    cases ok
    trivial
  | openRegion name =>
    obtain ⟨r, -, ok⟩ := bind_eq_ok_iff.mp ok
    cases ok
    trivial

/-- Using a handle does not close its queue. -/
theorem open_use {kind : Kind} {o : Object kind} (before : Thing.Open ⟨kind, o⟩) (u : Use kind)
    (s : Store) : Thing.Open ⟨kind, (o.use u s).2.1⟩ := by
  cases o with
  | queue c =>
    obtain ⟨c', same, continues⟩ := Object.continues_use c u s
    rw [same]
    intro owner
    rw [continues.region_eq] at owner
    exact (before owner).continues continues
  | flag r =>
    cases u
    trivial
  | bare r => cases u <;> trivial

theorem Reachable.open (reachable : Reachable w) {i : Nat} {x : Thing}
    (here : w.objects i = some x) : x.Open := by
  induction reachable generalizing i x with
  | start => cases here
  | step before step ih =>
    cases step with
    | use j o u there lends =>
      rcases object_update here with ⟨-, fresh⟩ | ⟨-, old⟩
      · exact Option.some.inj fresh ▸ open_use (ih there) u _
      · exact ih old
    | arrive j a free ok =>
      rcases object_update here with ⟨-, fresh⟩ | ⟨-, old⟩
      · exact Option.some.inj fresh ▸ Arrival.open_of_outcome ok
      · exact ih old
    | refuse j a free failed => exact ih here
    | drop j y there =>
      rcases object_update here with ⟨-, gone⟩ | ⟨-, old⟩
      · cases gone
      · exact ih old

/-- As long as its creator holds a queue, newcomers can join it. -/
theorem hosts_of_owner (reachable : Reachable w) {i : Nat} {t : ElementType} {c : Client t}
    (here : w.objects i = some ⟨.queue t, .queue c⟩) (owner : c.queue.region.owner = true) :
    c.queue.Hosts w.store := by
  have orderly := reachable.orderly
  have sane : c.Ready := orderly.sane here
  obtain ⟨mem, valid⟩ := orderly.owned here owner
  have found := Store.openNamed_of_lookup valid (Store.lookup_of_mem orderly.distinct mem)
  exact (reachable.open here owner).hosts sane.sound found rfl (orderly.room here)

/-- A run in which one object is not let go of. -/
inductive Keeping (i : Nat) (w : World) : World → Prop
  | refl : Keeping i w w
  | step {w' w'' : World} {deed : Deed} (before : Keeping i w w') (step : Step w' deed w'')
    (held : ∀ x, deed ≠ .drop i x) : Keeping i w w''

/-- A handle that is held is the same one all the time, with its cursor elsewhere
at most. -/
theorem Keeping.continues {i : Nat} {t : ElementType} {c : Client t} (keeping : Keeping i w w')
    (reachable : Reachable w) (here : w.objects i = some ⟨.queue t, .queue c⟩) :
    Reachable w' ∧ ∃ c' : Client t,
      w'.objects i = some ⟨.queue t, .queue c'⟩ ∧ c.queue.Continues c'.queue := by
  induction keeping with
  | refl => exact ⟨reachable, c, here, .refl _⟩
  | step before step held ih =>
    obtain ⟨reachable', c', there, continues⟩ := ih
    refine ⟨reachable'.step step, ?_⟩
    cases step with
    | use j o u found lends =>
      by_cases same : j = i
      · subst same
        cases there.symm.trans found
        obtain ⟨c'', after, further⟩ := Object.continues_use c' u _
        refine ⟨c'', (Function.update_self ..).trans ?_, continues.trans further⟩
        rw [after]
      · exact ⟨c', (Function.update_of_ne (Ne.symm same) ..).trans there, continues⟩
    | arrive j a free ok =>
      have other : i ≠ j := by
        rintro rfl
        rw [free] at there
        cases there
      exact ⟨c', (Function.update_of_ne other ..).trans there, continues⟩
    | refuse j a free failed => exact ⟨c', there, continues⟩
    | drop j y found =>
      have other : i ≠ j := by
        rintro rfl
        exact held y rfl
      exact ⟨c', (Function.update_of_ne other ..).trans there, continues⟩

/-- Attaching admits a newcomer if and only if flavor, size, descriptor, region
and room are right, and tells the first that is not. A queue is created whenever
there is a plan and a region for it. From then on, as long as the creator keeps
its handle, everybody with a type of the same size can join, with the descriptor
or with its text. -/
theorem attaching :
    (∀ t flavor d s, Queue.Answers t flavor d s ∧
      ((∃ q, Queue.attach t flavor d s = .ok q) ↔ Queue.Admits t flavor d s)) ∧
    (∀ t flavor c s, Queue.Creates t flavor c s) ∧
    ∀ w, Reachable w → ∀ i t flavor config q s, w.objects i = none →
      Queue.create t flavor config w.store = .ok (q, s) →
        q.flavor = flavor ∧ ∀ w',
          Keeping i ⟨s, Function.update w.objects i (some ⟨.queue t, .queue ⟨q, .idle⟩⟩)⟩ w' →
            ∃ c : Client t, w'.objects i = some ⟨.queue t, .queue c⟩ ∧
              c.queue.descriptor = q.descriptor ∧ c.queue.Hosts w'.store := by
  refine ⟨fun t flavor d s => ⟨Queue.answers t flavor d s, Queue.attach_isOk_iff⟩, Queue.creates, ?_⟩
  intro w reachable i t flavor config q s free ok
  refine ⟨Queue.flavor_of_create ok, ?_⟩
  intro w' keeping
  have comes : (Arrival.createQueue t flavor config).outcome w.store =
      .ok (⟨.queue t, .queue ⟨q, .idle⟩⟩, s) := by
    simp [Arrival.outcome, ok, bind, Except.bind, pure, Except.pure]
  obtain ⟨layout, -, made, -⟩ := Queue.create_eq_ok ok
  obtain ⟨-, -, -, owner, -⟩ := Store.create_eq_ok made
  obtain ⟨reachable', c, here, continues⟩ :=
    keeping.continues (reachable.step (.arrive i _ free comes)) (Function.update_self ..)
  refine ⟨c, here, continues.descriptor_eq, hosts_of_owner reachable' here ?_⟩
  rw [continues.region_eq]
  exact owner

/-- A queue of four bytes can be joined by who takes its elements for arrays of
one byte. -/
theorem attaching_fourBytes :
    (∃ q, Queue.attach (.array (.primitive .u8) 1) .synchronized
      (fourBytes .synchronized).descriptor fourByteStore = .ok q) ∧
    Queue.attach (.primitive .u8) .unsynchronized (fourBytes .synchronized).descriptor
      fourByteStore = .error (.flavorMismatch .unsynchronized .synchronized) := by
  obtain ⟨attached, -, created⟩ := attaching
  obtain ⟨-, joined⟩ := created start .start 0 _ _ _ _ _ rfl (create_fourBytes .synchronized)
  obtain ⟨c, -, descriptor, hosts⟩ := joined _ .refl
  have flavor : c.queue.flavor = .synchronized := congrArg Descriptor.flavor descriptor
  obtain ⟨q, ok, -⟩ := hosts.joined (.array (.primitive .u8) 1) rfl
  rw [flavor, descriptor] at ok
  exact ⟨⟨q, ok⟩, (attached _ _ _ _).1.otherFlavor (by decide)⟩

end World

end SharedQueue
