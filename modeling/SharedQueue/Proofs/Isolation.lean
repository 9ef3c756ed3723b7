/-
SharedQueue.Proofs.Isolation — objects on different memories do not notice each
other.

* `World.Aside` — a run in which nobody does anything through, or lets go of,
  an object on some memories; `Aside.kept` says that it leaves them alone, and
  `Aside.told` that nobody on them can tell.
* `World.Isolated` — what a name denotes, what a use changes, who gets a new
  memory and what is left when an object is let go of.
* `isolated_of_reachable` — all of it, in every world that comes about.
-/
import SharedQueue.Proofs.World

namespace SharedQueue

/-- Nothing is done through an object on the memories, and none is let go of. -/
def Deed.Spares (ids : MemoryId → Prop) : Deed → Prop
  | use _ o u => ∀ id, ids id → ¬ o.Reaches u id
  | arrive .. => True
  | drop _ x => ¬ ids x.region.memory

namespace World

/-- A run that spares the memories. -/
inductive Aside (ids : MemoryId → Prop) (w : World) : World → Prop
  | refl : Aside ids w w
  | step {w' w'' : World} {deed : Deed} (before : Aside ids w w') (step : Step w' deed w'')
    (spares : deed.Spares ids) : Aside ids w w''

/-- What keeps the objects of a world apart. -/
structure Isolated (w : World) : Prop where
  /-- Slashes in front make no other name. -/
  slashes : ∀ name, w.store.lookup? ("/" ++ name) = w.store.lookup? name
  /-- A name denotes one memory at most: that of the object that made it. -/
  denotes : ∀ name id, w.store.lookup? name = some id ↔
    ∃ i x, w.objects i = some x ∧ Owns x.region (Store.key name) id
  /-- Nobody else made it, under this or another name. -/
  sole : ∀ {i j x y k k' id id'}, w.objects i = some x → w.objects j = some y →
    Owns x.region k id → Owns y.region k' id' → k = k' ∨ id = id' → i = j
  /-- A use changes the memory of its object's region and that of the flag that
  it was handed, and the object's own state. The object keeps its region. -/
  used : ∀ {kind : Kind} {i} {o : Object kind}, w.objects i = some ⟨kind, o⟩ → ∀ u,
    (w.used i o u).store.names = w.store.names ∧
      (∀ id, ¬ o.Reaches u id → (w.used i o u).store.memory id = w.store.memory id) ∧
      (∀ j, j ≠ i → (w.used i o u).objects j = w.objects j) ∧
      ∃ o' : Object kind, (w.used i o u).objects i = some ⟨kind, o'⟩ ∧ o'.region = o.region
  /-- Nothing is made under a name in use, and the attempt changes nothing. -/
  refused : ∀ {a name}, Arrival.makes? a = some (some name) → (w.store.lookup? name).isSome →
    (a.outcome w.store = .error (.sharedMemory .nameInUse) ∨ ∃ e, ∀ s, a.outcome s = .error e) ∧
      ∀ i w', Step w (.arrive i a) w' → w' = w
  /-- What is made is a new memory, all zero, that nobody holds. Its name was
  free and denotes it now. -/
  made : ∀ {a asked x s}, Arrival.makes? a = some asked → a.outcome w.store = .ok (x, s) →
    (∃ size, s.memory x.region.memory = .blank size) ∧
      (∀ i y, w.objects i = some y → y.region.memory ≠ x.region.memory) ∧
      (∀ id, id ≠ x.region.memory → s.memory id = w.store.memory id) ∧
      (∀ name ∈ asked, x.region.name = name) ∧ w.store.lookup? x.region.name = none ∧
      ∀ name, s.lookup? name =
        if Store.key name = Store.key x.region.name then some x.region.memory
        else w.store.lookup? name
  /-- What is opened is the memory that the name denotes. -/
  opened : ∀ {a name x s}, Arrival.opens? a = some name → a.outcome w.store = .ok (x, s) →
    s = w.store ∧ w.store.lookup? name = some x.region.memory ∧ x.region.owner = false
  /-- Letting go takes the name of an owner away and nothing else: memories stay
  as they are, and so do the other objects on them. -/
  dropped : ∀ {i x}, w.objects i = some x →
    (∀ id, (w.dropped i x).store.memory id = w.store.memory id) ∧
      (∀ j, j ≠ i → (w.dropped i x).objects j = w.objects j) ∧
      (∀ name, (w.dropped i x).store.lookup? name =
        if x.region.owner = true ∧ Store.key name = Store.key x.region.name then none
        else w.store.lookup? name) ∧
      (x.region.owner = true →
        (w.dropped i x).store.openNamed x.region.name = .error (.openRefused Store.noSuchFile))
  /-- What is done elsewhere cannot be noticed: memory and objects are as they
  were, and every use answers and does what it would have done before. -/
  unseen : ∀ {ids w'}, Aside ids w w' → ∀ {kind : Kind} {i} {o : Object kind},
    w.objects i = some ⟨kind, o⟩ → ids o.region.memory →
      w'.objects i = some ⟨kind, o⟩ ∧
        w'.store.memory o.region.memory = w.store.memory o.region.memory ∧
        ∀ u, w.Lends u → (∀ id, o.Reaches u id → ids id) →
          (o.use u w'.store).2 = (o.use u w.store).2 ∧
            ∀ id, o.Reaches u id →
              (o.use u w'.store).1.memory id = (o.use u w.store).1.memory id

variable {w w' : World} {ids : MemoryId → Prop} {i : Nat} {x : Thing} {kind : Kind}
  {o : Object kind}

/-! ## Names -/

theorem lookup_eq_iff (orderly : w.Orderly) {name : String} {id : MemoryId} :
    w.store.lookup? name = some id ↔
      ∃ i x, w.objects i = some x ∧ Owns x.region (Store.key name) id := by
  constructor
  · exact fun found => orderly.entry (Store.mem_of_lookup found)
  · rintro ⟨i, x, there, owner, key, rfl⟩
    have mem := (orderly.owned there owner).1
    rw [key] at mem
    exact Store.lookup_of_mem orderly.distinct mem

theorem eq_of_owns (orderly : w.Orderly) {j : Nat} {y : Thing} {k k' : String} {id id' : MemoryId}
    (thereX : w.objects i = some x) (thereY : w.objects j = some y) (ownX : Owns x.region k id)
    (ownY : Owns y.region k' id') (shared : k = k' ∨ id = id') : i = j := by
  obtain ⟨ownerX, rfl, rfl⟩ := ownX
  obtain ⟨ownerY, rfl, rfl⟩ := ownY
  rcases shared with key | memory
  · by_contra ne
    exact orderly.key_ne thereY thereX ownerY ownerX ne key
  · exact orderly.sole thereX thereY ownerX ownerY memory

/-! ## Objects come and go -/

theorem used_spares (orderly : w.Orderly) (here : w.objects i = some ⟨kind, o⟩) (u : Use kind) :
    (w.used i o u).store.names = w.store.names ∧
      (∀ id, ¬ o.Reaches u id → (w.used i o u).store.memory id = w.store.memory id) ∧
      (∀ j, j ≠ i → (w.used i o u).objects j = w.objects j) ∧
      ∃ o' : Object kind, (w.used i o u).objects i = some ⟨kind, o'⟩ ∧ o'.region = o.region := by
  have inside := o.local_use (orderly.sane here) u
  exact ⟨inside.names _, inside.others _, fun j ne => Function.update_of_ne ne ..,
    _, Function.update_self .., o.region_use u w.store⟩

theorem made_fresh (orderly : w.Orderly) {a : Arrival} {asked : Option String} {s : Store}
    (makes : a.makes? = some asked) (ok : a.outcome w.store = .ok (x, s)) :
    (∃ size, s.memory x.region.memory = .blank size) ∧
      (∀ i y, w.objects i = some y → y.region.memory ≠ x.region.memory) ∧
      (∀ id, id ≠ x.region.memory → s.memory id = w.store.memory id) ∧
      (∀ name ∈ asked, x.region.name = name) ∧ w.store.lookup? x.region.name = none ∧
      ∀ name, s.lookup? name =
        if Store.key name = Store.key x.region.name then some x.region.memory
        else w.store.lookup? name := by
  rcases a.outcome_cases ok with ⟨name, size, same, made⟩ | ⟨name, opens, -⟩
  · rw [makes] at same
    obtain rfl := Option.some.inj same
    obtain ⟨memory, -, -, -, -, names⟩ := Store.create_eq_ok made
    obtain ⟨free, -, given⟩ := Store.create_name made
    obtain ⟨blank, others⟩ := Store.memory_create made
    refine ⟨⟨size, blank⟩, ?_, others, given, free, ?_⟩
    · intro j y there
      rw [memory]
      exact Nat.ne_of_lt (orderly.mapped there)
    · intro name
      unfold Store.lookup?
      rw [names, ← memory, List.lookup_cons]
      by_cases same : Store.key name = Store.key x.region.name
      · simp [same]
      · have miss : (Store.key name == Store.key x.region.name) = false := by simpa using same
        rw [miss, if_neg same]
  · rw [a.opens?_of_makes makes] at opens
    cases opens

theorem opened_found {a : Arrival} {name : String} {s : Store} (opens : a.opens? = some name)
    (ok : a.outcome w.store = .ok (x, s)) :
    s = w.store ∧ w.store.lookup? name = some x.region.memory ∧ x.region.owner = false := by
  rcases a.outcome_cases ok with ⟨asked, size, makes, -⟩ | ⟨name', same, opened, rfl⟩
  · rw [a.opens?_of_makes makes] at opens
    cases opens
  · rw [opens] at same
    obtain rfl := Option.some.inj same
    obtain ⟨found, -, -, foreign⟩ := Store.openNamed_eq_ok opened
    exact ⟨rfl, found, foreign⟩

theorem dropped_spares (orderly : w.Orderly) (here : w.objects i = some x) :
    (∀ id, (w.dropped i x).store.memory id = w.store.memory id) ∧
      (∀ j, j ≠ i → (w.dropped i x).objects j = w.objects j) ∧
      (∀ name, (w.dropped i x).store.lookup? name =
        if x.region.owner = true ∧ Store.key name = Store.key x.region.name then none
        else w.store.lookup? name) ∧
      (x.region.owner = true →
        (w.dropped i x).store.openNamed x.region.name = .error (.openRefused Store.noSuchFile)) := by
  have names := w.store.lookup?_release_eq x.region
  refine ⟨w.store.memory_release x.region, fun j ne => Function.update_of_ne ne .., names, ?_⟩
  intro owner
  refine Store.openNamed_of_absent (orderly.owned here owner).2 ?_
  exact (names x.region.name).trans (if_pos ⟨owner, rfl⟩)

/-! ## What is done elsewhere -/

/-- A step that spares memories leaves them, and the objects on them, alone. -/
theorem kept_step {deed : Deed} (orderly : w.Orderly) (step : Step w deed w')
    (spares : deed.Spares ids) :
    (∀ id, ids id → id < w.store.memories.size →
      id < w'.store.memories.size ∧ w'.store.memory id = w.store.memory id) ∧
      ∀ {i x}, w.objects i = some x → ids x.region.memory → w'.objects i = some x := by
  cases step with
  | @use kind j o u here lends =>
    have inside := o.local_use (orderly.sane here) u
    constructor
    · intro id mem mapped
      exact ⟨(inside.count w.store).symm ▸ mapped, inside.others _ id (spares id mem)⟩
    · intro i x there mem
      refine (Function.update_of_ne ?_ ..).trans there
      rintro rfl
      obtain rfl := Option.some.inj (here.symm.trans there)
      exact spares _ mem (.inl rfl)
  | arrive j a free ok =>
    constructor
    · intro id mem mapped
      rcases a.outcome_cases ok with ⟨name, size, -, made⟩ | ⟨name, -, -, rfl⟩
      · obtain ⟨memory, -, -, -, memories, -⟩ := Store.create_eq_ok made
        refine ⟨?_, (Store.memory_create made).2 id (memory ▸ Nat.ne_of_lt mapped)⟩
        rw [memories, Array.size_push]
        exact Nat.lt_succ_of_lt mapped
      · exact ⟨mapped, rfl⟩
    · intro i x there mem
      refine (Function.update_of_ne ?_ ..).trans there
      rintro rfl
      rw [free] at there
      cases there
  | refuse j a free failed => exact ⟨fun id _ mapped => ⟨mapped, rfl⟩, fun there _ => there⟩
  | drop j y here =>
    constructor
    · intro id mem mapped
      refine ⟨?_, w.store.memory_release y.region id⟩
      show id < (w.store.release y.region).memories.size
      rw [Store.memories_release]
      exact mapped
    · intro i x there mem
      refine (Function.update_of_ne ?_ ..).trans there
      rintro rfl
      obtain rfl := Option.some.inj (here.symm.trans there)
      exact spares mem

theorem Aside.kept (orderly : w.Orderly) (aside : Aside ids w w') :
    w'.Orderly ∧
      (∀ id, ids id → id < w.store.memories.size →
        id < w'.store.memories.size ∧ w'.store.memory id = w.store.memory id) ∧
      ∀ {i x}, w.objects i = some x → ids x.region.memory → w'.objects i = some x := by
  induction aside with
  | refl => exact ⟨orderly, fun id _ mapped => ⟨mapped, rfl⟩, fun there _ => there⟩
  | step before step spares ih =>
    obtain ⟨orderly', memories, objects⟩ := ih
    obtain ⟨memories', objects'⟩ := kept_step orderly' step spares
    refine ⟨orderly_step orderly' step, ?_, fun there mem => objects' (objects there mem) mem⟩
    intro id mem mapped
    obtain ⟨mapped', same⟩ := memories id mem mapped
    obtain ⟨mapped'', same'⟩ := memories' id mem mapped'
    exact ⟨mapped'', same'.trans same⟩

/-- The memories that a use reaches are there. -/
theorem mapped_of_reaches (orderly : w.Orderly) (here : w.objects i = some ⟨kind, o⟩) {u : Use kind}
    (lends : w.Lends u) {id : MemoryId} (reaches : o.Reaches u id) :
    id < w.store.memories.size := by
  rcases reaches with rfl | ⟨flag, lent, rfl⟩
  · exact orderly.mapped here
  · obtain ⟨j, y, there, word⟩ := lends flag lent
    rw [Object.memory_word word]
    exact orderly.mapped there

/-- Nobody can tell from the spared memories what was done elsewhere. -/
theorem Aside.told (orderly : w.Orderly) (aside : Aside ids w w')
    (here : w.objects i = some ⟨kind, o⟩) {u : Use kind} (lends : w.Lends u)
    (within : ∀ id, o.Reaches u id → ids id) :
    (o.use u w'.store).2 = (o.use u w.store).2 ∧
      ∀ id, o.Reaches u id → (o.use u w'.store).1.memory id = (o.use u w.store).1.memory id := by
  obtain ⟨-, memories, -⟩ := aside.kept orderly
  have alike : Store.Alike (o.Reaches u) w.store w'.store := by
    intro id reaches
    have mapped := mapped_of_reaches orderly here lends reaches
    exact ⟨mapped, memories id (within id reaches) mapped⟩
  obtain ⟨told, after⟩ := (o.local_use (orderly.sane here) u).looks alike
  exact ⟨told, fun id reaches => (after id reaches).2.2⟩

/-! ## All worlds -/

/-- Whatever was made, joined, used and let go of before, the objects of a world
are isolated. -/
theorem isolated_of_reachable (reachable : Reachable w) : w.Isolated := by
  have orderly := reachable.orderly
  constructor
  · intro name
    unfold Store.lookup?
    rw [Store.key_slash]
  · exact fun name id => lookup_eq_iff orderly
  · exact fun thereX thereY ownX ownY shared => eq_of_owns orderly thereX thereY ownX ownY shared
  · exact fun here u => used_spares orderly here u
  · intro a name makes used
    have refused := a.refused_of_used makes used
    refine ⟨refused, ?_⟩
    intro i w' step
    cases step with
    | arrive _ _ free ok =>
      rcases refused with taken | ⟨e, never⟩
      · rw [taken] at ok
        cases ok
      · rw [never] at ok
        cases ok
    | refuse => rfl
  · exact fun makes ok => made_fresh orderly makes ok
  · exact fun opens ok => opened_found opens ok
  · exact fun here => dropped_spares orderly here
  · intro ids w' aside kind i o here mem
    obtain ⟨-, memories, objects⟩ := aside.kept orderly
    exact ⟨objects here mem, (memories _ mem (orderly.mapped here)).2,
      fun u lends within => aside.told orderly here lends within⟩

/-- The store after the flag was made for the `n`-th time, under the same name. -/
def flagStore (n : Nat) : Store := ⟨Array.replicate n (.blank flagSize), [("bits", n - 1)], 0⟩

/-- A flag in the `n`-th memory. -/
def flagThing (name : String) (n : MemoryId) (owner : Bool) : Thing :=
  ⟨.flag, .flag ⟨name, n, flagSize, owner⟩⟩

/-- A flag was made and joined, and its maker has let go of it. Its name is in
use again. -/
def reborn : World where
  store := flagStore 2
  objects := Function.update (Function.update (Function.update (Function.update (fun _ => none)
    0 (some (flagThing "/bits" 0 true))) 1 (some (flagThing "//bits" 0 false))) 0 none)
    2 (some (flagThing "bits" 1 true))

theorem reachable_reborn : Reachable reborn := by
  have made : (Arrival.createFlag (some "/bits")).outcome .empty =
      .ok (flagThing "/bits" 0 true, flagStore 1) := rfl
  have joined : (Arrival.openFlag "//bits").outcome (flagStore 1) =
      .ok (flagThing "//bits" 0 false, flagStore 1) := rfl
  have again : (Arrival.createFlag (some "bits")).outcome ⟨(flagStore 1).memories, [], 0⟩ =
      .ok (flagThing "bits" 1 true, flagStore 2) := rfl
  have first := Reachable.start.step (.arrive 0 _ rfl made)
  have second := first.step (.arrive 1 _ rfl joined)
  have third := second.step (.drop 0 (flagThing "/bits" 0 true) rfl)
  exact third.step (.arrive 2 _ rfl again)

/-- What is done through the new flag is not seen through the old one. -/
theorem isolated_reborn : Reachable reborn ∧ reborn.Isolated ∧
    ∀ u : Use .flag, (reborn.used 2 (.flag ⟨"bits", 1, flagSize, true⟩) u).store.memory 0 =
      reborn.store.memory 0 := by
  have isolated := isolated_of_reachable reachable_reborn
  refine ⟨reachable_reborn, isolated, ?_⟩
  intro u
  obtain ⟨-, others, -⟩ := isolated.used (i := 2) (o := .flag ⟨"bits", 1, flagSize, true⟩) rfl u
  refine others 0 ?_
  rintro (same | ⟨flag, lent, -⟩)
  · cases same
  · cases u
    cases lent

end World

end SharedQueue
