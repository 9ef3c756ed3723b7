/-
SharedQueue.Proofs.Joining — what a handle has from the moment it exists.

* `Queue.Sound` — the pieces are placed in the mapped region, the element
  type is the one that the slots are made for, and the cursor is of the kind
  that the flavor asks for. No operation changes any of this.
* `create_eq_ok`, `attach_eq_ok` — the two ways to get a handle, each as
  what has to be the case when it succeeds.
* `sound_of_create`, `sound_of_attach` — both give a sound handle.
-/
import SharedQueue.Proofs.Placement

namespace SharedQueue

/-! ## Elements and cache lines -/

/-- The alignment of an element divides a cache line, and so agrees with it. -/
theorem ElementType.alignment_dvd_cacheLine (t : ElementType) : t.alignment ∣ cacheLine := by
  induction t with
  | primitive p => cases p <;> decide
  | array item length ih => exact ih

theorem ElementType.alignment_dvd_max (t : ElementType) :
    t.alignment ∣ max t.alignment cacheLine := by
  have small : t.alignment ≤ cacheLine := Nat.le_of_dvd (by decide) t.alignment_dvd_cacheLine
  rw [Nat.max_eq_right small]
  exact t.alignment_dvd_cacheLine

/-! ## Regions -/

namespace Store

/-- A region that is created is a new memory, all zero, under a name that
nobody used; its creator owns the name. -/
theorem create_eq_ok {s s' : Store} {name : Option String} {size : Nat} {r : Region}
    (ok : s.create name size = .ok (r, s')) :
    r.memory = s.memories.size ∧ r.size = size ∧ size < sizeLimit ∧ r.owner = true ∧
      s'.memories = s.memories.push (.blank size) ∧
      s'.names = (key r.name, s.memories.size) :: s.names := by
  unfold create at ok
  split at ok
  · cases ok
  · cases name with
    | some name =>
      simp only at ok
      split at ok
      · cases ok
      · split at ok
        · cases ok
        · split at ok
          · cases ok
          · rename_i small
            cases ok
            exact ⟨rfl, rfl, Nat.lt_of_not_le small, rfl, rfl, rfl⟩
    | none =>
      simp only at ok
      split at ok
      · cases ok
      · rename_i small
        cases ok
        exact ⟨rfl, rfl, Nat.lt_of_not_le small, rfl, rfl, rfl⟩

/-- A region that is opened is the memory that the name denotes. -/
theorem openNamed_eq_ok {s : Store} {name : String} {r : Region}
    (ok : s.openNamed name = .ok r) :
    s.lookup? name = some r.memory ∧ r.name = name ∧ r.size = (s.memory r.memory).size ∧
      r.owner = false := by
  unfold openNamed at ok
  split at ok
  · cases ok
  · split at ok
    · cases ok
    · rename_i id found
      cases ok
      exact ⟨found, rfl, rfl, rfl⟩

theorem memory_setMemory {s : Store} {id : MemoryId} (mapped : id < s.memories.size)
    (m : Memory) : (s.setMemory id m).memory id = m := by
  simp [memory, setMemory, mapped]

theorem memory_setMemory_ne {s : Store} {id id' : MemoryId} (ne : id' ≠ id) (m : Memory) :
    (s.setMemory id m).memory id' = s.memory id' := by
  unfold memory setMemory
  rw [Array.getD_eq_getD_getElem?, Array.getD_eq_getD_getElem?,
    Array.getElem?_setIfInBounds_ne ne.symm]

end Store

/-! ## Handles -/

namespace Queue

variable {t : ElementType}

/-- The cursor is of the kind that the flavor asks for. -/
def Suits (d : Descriptor) : Cursor → Prop
  | .shared offset => d.flavor = .synchronized ∧ ∃ g, d.readCounter = some g ∧ g.offset = offset
  | .own _ => d.flavor = .unsynchronized

/-- What every operation of a handle relies on. -/
structure Sound (q : Queue t) : Prop where
  placed : q.descriptor.Placed t.alignment q.region.size
  quantumSize : q.descriptor.quantumSize = t.size
  cursor : Suits q.descriptor q.cursor

theorem firstCursor_synchronized {d : Descriptor} {g : Grantor} (flavor : d.flavor = .synchronized)
    (there : d.readCounter = some g) (m : Memory) : firstCursor d m = .ok (.shared g.offset) := by
  rw [firstCursor, flavor, there]
  rfl

theorem firstCursor_unsynchronized {d : Descriptor} (flavor : d.flavor = .unsynchronized)
    (m : Memory) : firstCursor d m = .ok (.own (m.load64 d.writeCounter.offset)) := by
  rw [firstCursor, flavor]
  rfl

theorem suits_firstCursor {d : Descriptor} {m : Memory} {c : Cursor}
    (first : firstCursor d m = .ok c) : Suits d c := by
  cases flavor : d.flavor with
  | synchronized =>
    cases there : d.readCounter with
    | none =>
      rw [firstCursor, flavor, there] at first
      cases first
    | some g =>
      rw [firstCursor_synchronized flavor there] at first
      cases first
      exact ⟨flavor, g, there, rfl⟩
  | unsynchronized =>
    rw [firstCursor_unsynchronized flavor] at first
    cases first
    exact flavor

theorem map_eq_ok {r : Region} {m : Memory} {d : Descriptor} {q : Queue t}
    (ok : map r m d = .ok q) :
    q.descriptor = d ∧ q.region = r ∧ firstCursor d m = .ok q.cursor := by
  obtain ⟨-, ok⟩ := check_bind_eq_ok_iff.mp ok
  obtain ⟨cursor, first, ok⟩ := bind_eq_ok_iff.mp ok
  cases ok
  exact ⟨rfl, rfl, first⟩

/-- A queue that is created lies in a new memory of its own. -/
theorem create_eq_ok {flavor : Flavor} {c : QueueConfig} {s s' : Store} {q : Queue t}
    (ok : create t flavor c s = .ok (q, s')) :
    ∃ layout,
      Layout.plan ⟨flavor, t.size, t.alignment, c.quantumCount, c.eventFlag⟩ = .ok layout ∧
      s.create c.name layout.size = .ok (q.region, s') ∧
      q.descriptor = .ofLayout q.region.name flavor t.size c.quantumCount layout ∧
      firstCursor q.descriptor (s'.memory q.region.memory) = .ok q.cursor := by
  unfold create at ok
  obtain ⟨layout, plan, ok⟩ := bind_eq_ok_iff.mp ok
  obtain ⟨⟨region, store⟩, made, ok⟩ := bind_eq_ok_iff.mp ok
  obtain ⟨queue, mapped, ok⟩ := bind_eq_ok_iff.mp ok
  cases ok
  obtain ⟨descriptor, region, cursor⟩ := map_eq_ok mapped
  subst region
  rw [← descriptor] at cursor
  exact ⟨layout, mapError_eq_ok_iff.mp plan, mapError_eq_ok_iff.mp made, descriptor, cursor⟩

/-- A handle that is attached maps the region that the descriptor names. -/
theorem attach_eq_ok {flavor : Flavor} {d : Descriptor} {s : Store} {q : Queue t}
    (ok : attach t flavor d s = .ok q) :
    d.flavor = flavor ∧ d.quantumSize = t.size ∧ d.check t.alignment = .ok () ∧
      s.openNamed d.name = .ok q.region ∧ d.regionSize ≤ q.region.size ∧ q.descriptor = d ∧
      firstCursor d (s.memory q.region.memory) = .ok q.cursor := by
  unfold attach at ok
  dsimp only at ok
  split at ok
  · cases ok
  · rename_i sameFlavor
    split at ok
    · cases ok
    · rename_i sameSize
      obtain ⟨checked, ok⟩ := check_bind_eq_ok_iff.mp ok
      obtain ⟨region, opened, ok⟩ := bind_eq_ok_iff.mp ok
      split at ok
      · cases ok
      · rename_i room
        obtain ⟨rfl, rfl, cursor⟩ := map_eq_ok ok
        exact ⟨not_not.mp sameFlavor, not_not.mp sameSize, mapError_eq_ok_iff.mp checked,
          mapError_eq_ok_iff.mp opened, Nat.le_of_not_lt room, rfl, cursor⟩

theorem flavor_of_create {flavor : Flavor} {c : QueueConfig} {s s' : Store} {q : Queue t}
    (ok : create t flavor c s = .ok (q, s')) : q.flavor = flavor := by
  obtain ⟨layout, -, -, descriptor, -⟩ := create_eq_ok ok
  rw [Queue.flavor, descriptor]
  rfl

/-! ## Soundness -/

theorem sound_of_create {flavor : Flavor} {c : QueueConfig} {s s' : Store} {q : Queue t}
    (ok : create t flavor c s = .ok (q, s')) : q.Sound := by
  obtain ⟨layout, plan, made, descriptor, cursor⟩ := create_eq_ok ok
  obtain ⟨-, size, -⟩ := Store.create_eq_ok made
  obtain ⟨size_pos, count_pos, extent⟩ := Layout.plan_shape plan
  have checked := Layout.check_plan plan t.alignment_dvd_max
  have placed : q.descriptor.Placed t.alignment q.descriptor.regionSize := by
    rw [descriptor]
    exact Descriptor.placed_of_layout size_pos count_pos extent checked
  refine ⟨placed.mono ?_, ?_, suits_firstCursor cursor⟩
  · rw [descriptor, size]
    exact Nat.le_refl _
  · rw [descriptor]
    rfl

theorem sound_of_attach {flavor : Flavor} {d : Descriptor} {s : Store} {q : Queue t}
    (ok : attach t flavor d s = .ok q) : q.Sound := by
  obtain ⟨-, size, checked, -, room, rfl, cursor⟩ := attach_eq_ok ok
  exact ⟨(Descriptor.placed_of_check checked).mono room, size, suits_firstCursor cursor⟩

end Queue

end SharedQueue
