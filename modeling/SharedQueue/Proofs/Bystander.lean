/-
SharedQueue.Proofs.Bystander — nobody notices a private reader.

* `Traffic.Event`, `Traffic.perform`, `Traffic.run` — what may happen to the
  handles, one event after the other, with all that they are told.
* `Beside` — two runs of which one has a reader more: all cells hold the same
  but for the bit of the flag that readers raise, and all other handles are
  the same.
* `Beside.perform` — an event of another handle has the same outcome in both.
* `Beside.skip` — an event of the reader can be left out.
* `reader_unnoticed` — what this comes to for a whole run.

Nothing is asked of the callers here: any number of handles may write, and
the words may overflow.
-/
import SharedQueue.Proofs.Confinement
import SharedQueue.Proofs.Traffic

namespace SharedQueue

variable {t : ElementType}

/-! ## Runs -/

/-- A request that never opens a write, nor touches the flag otherwise than a
reader does. -/
def Client.Request.Reads : Client.Request t → Prop
  | .read _ | .beginRead _ | .get _ | .copyOut _ | .commitRead | .abandon | .bits => True
  | _ => False

namespace Traffic

/-- What may happen to a handle. -/
inductive Event (t : ElementType)
  /-- It is attached from the descriptor. -/
  | attach
  | drop
  | serve (r : Client.Request t)

/-- What comes of an event for the one that is concerned. -/
inductive Answer (t : ElementType)
  /-- There is no such handle, or there is one already, or it is borrowed by
  its transaction. -/
  | refused
  | attached (result : Except Error Unit)
  | dropped
  | reply (said : Client.Reply t)

/-- An answer with the bits of the flag that are shown. -/
def Answer.showing (shown : UInt32) : Answer t → Answer t
  | .reply said => .reply (said.showing shown)
  | answer => answer

/-- All that a reader may be asked for. -/
def Event.Reads : Event t → Prop
  | .attach | .drop => True
  | .serve r => r.Reads

/-- What comes of an event. -/
def perform (home : Queue t) (w : Traffic t) (k : Nat) (e : Event t) : Traffic t × Answer t :=
  match e, w.members k with
  | .attach, none =>
    match Queue.attach t home.flavor home.descriptor w.store with
    | .error e => (w, .attached (.error e))
    | .ok q => (w.join k q, .attached (.ok ()))
  | .drop, some x => if x.client.activity = .idle then (w.leave k x, .dropped) else (w, .refused)
  | .serve r, some x =>
    (w.serve home k x r, .reply (x.client.step (w.memory home) r).reply)
  | _, _ => (w, .refused)

/-- What comes of events one after the other, and what the handles are told. -/
def run (home : Queue t) (w : Traffic t) : List (Nat × Event t) → Traffic t × List (Nat × Answer t)
  | [] => (w, [])
  | (k, e) :: rest =>
    let (w, answer) := w.perform home k e
    let (w, answers) := run home w rest
    (w, (k, answer) :: answers)

/-- What does not concern the handle. -/
def without {α : Type} (k : Nat) (entries : List (Nat × α)) : List (Nat × α) :=
  entries.filter (·.1 ≠ k)

variable {home : Queue t} {w w' w₁ : Traffic t} {r : Nat}

@[simp] theorem without_cons_self {α : Type} (k : Nat) (a : α) (rest : List (Nat × α)) :
    without k ((k, a) :: rest) = without k rest := by
  simp [without]

@[simp] theorem without_cons_of_ne {α : Type} {k : Nat} (other : k ≠ r) (a : α)
    (rest : List (Nat × α)) : without r ((k, a) :: rest) = (k, a) :: without r rest := by
  simp [without, other]

theorem run_cons (home : Queue t) (w : Traffic t) (k : Nat) (e : Event t)
    (rest : List (Nat × Event t)) :
    run home w ((k, e) :: rest) = ((run home (w.perform home k e).1 rest).1,
      (k, (w.perform home k e).2) :: (run home (w.perform home k e).1 rest).2) :=
  rfl

end Traffic

/-! ## A reader at work -/

namespace Queue

variable {q : Queue t} {m : Memory}

/-- Saying that there is room changes the bit for it, and nothing else. -/
theorem agree_notify_notFull (sound : q.Sound) (m : Memory) :
    q.descriptor.AgreeUpTo (~~~notFull) m (q.notify m notFull) := by
  apply agree_of_only_eventFlag sound (.refl _ _ m) (.refl _ _ m) (notify_only q m notFull)
  intro g flag
  have none : notFull &&& ~~~notFull = 0 := by decide
  simp only [notify, flag, EventFlag.raise, EventFlag.bits, Memory.load32_store32, or_and_distrib,
    none, UInt32.or_zero]

/-- A private reader's commit says that there is room, if it does anything. -/
theorem agree_commitRead_own (sound : q.Sound) (flavor : q.flavor = .unsynchronized) (m : Memory)
    (tx : Transaction) :
    q.descriptor.AgreeUpTo (~~~notFull) m (q.commitRead m tx).2.2 := by
  by_cases none : tx.count = 0
  · rw [commitRead, if_pos none]
    exact .refl _ _ m
  · rw [commitRead_unsynchronized sound flavor none]
    split
    · exact .refl _ _ m
    · exact agree_notify_notFull sound m

theorem agree_read_own (sound : q.Sound) (flavor : q.flavor = .unsynchronized) (m : Memory)
    (buffer : List t.Value) :
    q.descriptor.AgreeUpTo (~~~notFull) m (q.read m buffer).memory := by
  unfold read
  split
  · exact .refl _ _ m
  · split
    · exact .refl _ _ m
    · rename_i tx q' begun
      obtain ⟨rfl, -⟩ := beginRead_eq_ok begun
      exact agree_commitRead_own sound flavor m tx

end Queue

namespace Client

variable {c : Client t} {r : Request t}

/-- A private reader leaves nothing behind but the bit that says that there is
room. -/
theorem agree_step_reads (ready : c.Ready) (flavor : c.queue.flavor = .unsynchronized)
    (reads : r.Reads) (idle : ∀ tx, c.activity ≠ .writing tx) (m : Memory) :
    c.queue.descriptor.AgreeUpTo (~~~notFull) m (c.step m r).memory := by
  have sound := ready.sound
  obtain ⟨q, activity⟩ := c
  cases activity with
  | idle =>
    cases r with
    | read buffer => exact Queue.agree_read_own sound flavor m buffer
    | beginRead count =>
      show q.descriptor.AgreeUpTo _ m (step ⟨q, .idle⟩ m (.beginRead count)).memory
      unfold step
      dsimp only
      split <;> exact .refl _ _ m
    | get | copyOut | commitRead | abandon | bits => exact .refl _ _ m
    | write | beginWrite | set | copyIn | commitWrite | raise | clear => cases reads
  | writing tx => exact absurd rfl (idle tx)
  | reading tx =>
    cases r with
    | commitRead => exact Queue.agree_commitRead_own sound flavor m tx
    | read | beginRead | get | copyOut | abandon | bits => exact .refl _ _ m
    | write | beginWrite | set | copyIn | commitWrite | raise | clear => cases reads

theorem Reads.not_writing (reads : r.Reads) (idle : ∀ tx, c.activity ≠ .writing tx) (m : Memory)
    (tx : Transaction) : (c.step m r).client.activity ≠ .writing tx := by
  intro writing
  rcases step_writing writing with before | ⟨count, m', rfl, -⟩
  · exact idle tx before
  · cases reads

end Client

/-! ## Two runs side by side -/

/-- Attaching looks at the names, and at the memory that is named. -/
theorem Queue.attach_congr {home : Queue t} {s s' : Store} (names : s'.names = s.names)
    (named : ∀ {id}, s.lookup? home.descriptor.name = some id → id = home.region.memory)
    (size : (home.memory s').size = (home.memory s).size)
    (written : home.writePos (home.memory s') = home.writePos (home.memory s)) :
    Queue.attach t home.flavor home.descriptor s' = Queue.attach t home.flavor home.descriptor s := by
  have lookup : s'.lookup? home.descriptor.name = s.lookup? home.descriptor.name := by
    unfold Store.lookup?
    rw [names]
  have opened : s'.openNamed home.descriptor.name = s.openNamed home.descriptor.name := by
    unfold Store.openNamed
    rw [lookup]
    cases found : s.lookup? home.descriptor.name with
    | none => rfl
    | some id =>
      rw [named found]
      dsimp only
      rw [show (s'.memory home.region.memory).size = (s.memory home.region.memory).size from size]
  have mapped : ∀ region, s.openNamed home.descriptor.name = .ok region →
      map (t := t) region (s'.memory region.memory) home.descriptor
        = map region (s.memory region.memory) home.descriptor := by
    intro region ok
    obtain ⟨found, -⟩ := Store.openNamed_eq_ok ok
    rw [named found]
    unfold map firstCursor
    rw [show (s'.memory home.region.memory).load64 home.descriptor.writeCounter.offset
      = (s.memory home.region.memory).load64 home.descriptor.writeCounter.offset from written]
  unfold attach
  rw [opened]
  dsimp only
  split
  · exact bind_congr_ok fun _ thrown => nomatch thrown
  · split
    · exact bind_congr_ok fun _ thrown => nomatch thrown
    · refine bind_congr_ok fun _ _ => bind_congr_ok fun region ok => ?_
      rw [mapped region (mapError_eq_ok_iff.mp ok)]

namespace Traffic

variable {home : Queue t} {w w' : Traffic t} {r : Nat}

/-- Two states of which the first has a reader more, which neither writes nor
owns the name of the region. -/
structure Beside (home : Queue t) (r : Nat) (w w' : Traffic t) : Prop where
  orderly : Orderly home w
  mapped : home.region.memory < w'.store.memories.size
  names : w'.store.names = w.store.names
  size : (w'.memory home).size = (w.memory home).size
  agree : home.descriptor.AgreeUpTo (~~~notFull) (w'.memory home) (w.memory home)
  others : ∀ {k}, k ≠ r → (w.members k).map Member.client = (w'.members k).map Member.client
  gone : w'.members r = none
  reader : ∀ {x}, w.members r = some x →
    x.client.queue.region.owner = false ∧ ∀ tx, x.client.activity ≠ .writing tx

theorem client_update (members : Nat → Option (Member t)) (k j : Nat) (x : Option (Member t)) :
    (Function.update members k x j).map Member.client
      = if j = k then x.map Member.client else (members j).map Member.client := by
  by_cases same : j = k
  · subst same
    rw [Function.update_self, if_pos rfl]
  · rw [Function.update_of_ne same, if_neg same]

theorem Beside.attach_eq (beside : Beside home r w w') :
    Queue.attach t home.flavor home.descriptor w'.store
      = Queue.attach t home.flavor home.descriptor w.store :=
  Queue.attach_congr beside.names beside.orderly.named beside.size
    (Queue.writePos_of_agree beside.agree).symm

/-- A request of a handle that both have. -/
theorem Beside.step_agree (beside : Beside home r w w') {k : Nat} {x : Member t}
    (here : w.members k = some x) (request : Client.Request t) :
    (x.client.step (w.memory home) request).client
        = (x.client.step (w'.memory home) request).client ∧
      (x.client.step (w.memory home) request).reply.showing (~~~notFull)
        = (x.client.step (w'.memory home) request).reply.showing (~~~notFull) ∧
      home.descriptor.AgreeUpTo (~~~notFull) (x.client.step (w'.memory home) request).memory
        (x.client.step (w.memory home) request).memory := by
  have kin : x.client.queue.descriptor = home.descriptor := beside.orderly.kin here
  have agree := beside.agree
  rw [← kin] at agree ⊢
  exact Client.step_agree (beside.orderly.ready here) agree request

theorem memory_serve (mapped : home.region.memory < w.store.memories.size) (k : Nat)
    (x : Member t) (request : Client.Request t) :
    (w.serve home k x request).memory home = (x.client.step (w.memory home) request).memory :=
  memory_put mapped ..

/-! ### Events of other handles -/

section Other

variable {k : Nat} (other : k ≠ r)

include other

theorem Beside.join (beside : Beside home r w w') {q : Queue t}
    (ok : Queue.attach t home.flavor home.descriptor w.store = .ok q) :
    Beside home r (w.join k q) (w'.join k q) where
  orderly := beside.orderly.join ok
  mapped := beside.mapped
  names := beside.names
  size := beside.size
  agree := beside.agree
  others := by
    intro j ne
    unfold Traffic.join
    rw [client_update, client_update, beside.others ne]
    rfl
  gone := (Function.update_of_ne other.symm ..).trans beside.gone
  reader := by
    intro x here
    exact beside.reader ((Function.update_of_ne other.symm ..).symm.trans here)

theorem Beside.leave (beside : Beside home r w w') {x x' : Member t} (same : x.client = x'.client) :
    Beside home r (w.leave k x) (w'.leave k x') where
  orderly := beside.orderly.leave k x
  mapped := by
    show _ < (w'.store.release _).memories.size
    rw [Store.memories_release]
    exact beside.mapped
  names := by
    show (w'.store.release _).names = (w.store.release _).names
    rw [same]
    unfold Store.release
    split
    · rw [beside.names]
    · exact beside.names
  size := by
    rw [memory_leave, memory_leave]
    exact beside.size
  agree := by
    rw [memory_leave, memory_leave]
    exact beside.agree
  others := by
    intro j ne
    unfold Traffic.leave
    rw [client_update, client_update, beside.others ne]
  gone := (Function.update_of_ne other.symm ..).trans beside.gone
  reader := by
    intro y here
    exact beside.reader (member_leave here).2

/-- A request does the same to both. -/
theorem Beside.serve (beside : Beside home r w w') {x x' : Member t} (here : w.members k = some x)
    (same : x.client = x'.client) (request : Client.Request t) :
    Beside home r (w.serve home k x request) (w'.serve home k x' request) where
  orderly := beside.orderly.serve here request
  mapped := by
    show _ < (w'.store.setMemory _ _).memories.size
    rw [Store.setMemory, Array.size_setIfInBounds]
    exact beside.mapped
  names := beside.names
  size := by
    have ready := beside.orderly.ready here
    rw [memory_serve beside.orderly.mapped, memory_serve beside.mapped, ← same,
      (Client.step_changes ready _ request).size_eq, (Client.step_changes ready _ request).size_eq]
    exact beside.size
  agree := by
    rw [memory_serve beside.orderly.mapped, memory_serve beside.mapped, ← same]
    exact (beside.step_agree here request).2.2
  others := by
    intro j ne
    have served : ((w.desk home x).serve request).member.client
        = ((w'.desk home x').serve request).member.client := by
      show (x.client.step _ request).client = (x'.client.step _ request).client
      rw [← same]
      exact (beside.step_agree here request).1
    unfold Traffic.serve Traffic.put
    rw [client_update, client_update, beside.others ne, Option.map_some, Option.map_some, served]
  gone := (Function.update_of_ne other.symm ..).trans beside.gone
  reader := by
    intro y there
    exact beside.reader ((Function.update_of_ne other.symm ..).symm.trans there)

/-- An event of another handle has the same outcome in both. -/
theorem Beside.perform (beside : Beside home r w w') (e : Event t) :
    Beside home r (w.perform home k e).1 (w'.perform home k e).1 ∧
      (w.perform home k e).2.showing (~~~notFull)
        = (w'.perform home k e).2.showing (~~~notFull) := by
  have others := beside.others other
  cases here : w.members k with
  | none =>
    rw [here, Option.map_none] at others
    have here' : w'.members k = none := Option.map_eq_none_iff.mp others.symm
    cases e with
    | attach =>
      have alike := beside.attach_eq
      cases ok : Queue.attach t home.flavor home.descriptor w.store with
      | error e =>
        rw [ok] at alike
        simp only [Traffic.perform, here, here', ok, alike]
        exact ⟨beside, trivial⟩
      | ok q =>
        rw [ok] at alike
        simp only [Traffic.perform, here, here', ok, alike]
        exact ⟨beside.join other ok, trivial⟩
    | drop | serve =>
      simp only [Traffic.perform, here, here']
      exact ⟨beside, trivial⟩
  | some x =>
    rw [here, Option.map_some] at others
    obtain ⟨x', here', same⟩ := Option.map_eq_some_iff.mp others.symm
    cases e with
    | attach =>
      simp only [Traffic.perform, here, here']
      exact ⟨beside, trivial⟩
    | drop =>
      simp only [Traffic.perform, here, here', same]
      split
      · exact ⟨beside.leave other same.symm, rfl⟩
      · exact ⟨beside, rfl⟩
    | serve request =>
      obtain ⟨-, reply, -⟩ := beside.step_agree here request
      simp only [Traffic.perform, here, here', same]
      exact ⟨beside.serve other here same.symm request, congrArg Answer.reply reply⟩

end Other

/-! ### Events of the reader -/

theorem Beside.skip_join (beside : Beside home r w w') {q : Queue t}
    (ok : Queue.attach t home.flavor home.descriptor w.store = .ok q) :
    Beside home r (w.join r q) w' where
  orderly := beside.orderly.join ok
  mapped := beside.mapped
  names := beside.names
  size := beside.size
  agree := beside.agree
  others := by
    intro j ne
    unfold Traffic.join
    rw [client_update, if_neg ne]
    exact beside.others ne
  gone := beside.gone
  reader := by
    intro x there
    rcases member_update there with ⟨-, new⟩ | ⟨ne, -⟩
    · obtain rfl := Option.some.inj new
      obtain ⟨-, -, -, opened, -⟩ := Queue.attach_eq_ok ok
      obtain ⟨-, -, -, owner⟩ := Store.openNamed_eq_ok opened
      exact ⟨owner, nofun⟩
    · exact absurd rfl ne

/-- The reader does not take the name of the region with it. -/
theorem Beside.skip_leave (beside : Beside home r w w') {x : Member t}
    (here : w.members r = some x) : Beside home r (w.leave r x) w' where
  orderly := beside.orderly.leave r x
  mapped := beside.mapped
  names := by
    obtain ⟨owner, -⟩ := beside.reader here
    have kept : (w.store.release x.client.queue.region).names = w.store.names := by
      rw [Store.release, owner]
      rfl
    exact beside.names.trans kept.symm
  size := by
    rw [memory_leave]
    exact beside.size
  agree := by
    rw [memory_leave]
    exact beside.agree
  others := by
    intro j ne
    unfold Traffic.leave
    rw [client_update, if_neg ne]
    exact beside.others ne
  gone := beside.gone
  reader := by
    intro y there
    exact absurd rfl (member_leave there).1

/-- A request of the reader changes a bit of the flag at most, and its own
handle. -/
theorem Beside.skip_serve (beside : Beside home r w w') (flavor : home.flavor = .unsynchronized)
    {x : Member t} (here : w.members r = some x) {request : Client.Request t}
    (reads : request.Reads) : Beside home r (w.serve home r x request) w' where
  orderly := beside.orderly.serve here request
  mapped := beside.mapped
  names := beside.names
  size := by
    rw [memory_serve beside.orderly.mapped]
    exact beside.size.trans
      (Client.step_changes (beside.orderly.ready here) _ request).size_eq.symm
  agree := by
    have kin : x.client.queue.descriptor = home.descriptor := beside.orderly.kin here
    have flavor' : x.client.queue.flavor = .unsynchronized :=
      (congrArg Descriptor.flavor kin).trans flavor
    have step := Client.agree_step_reads (beside.orderly.ready here) flavor' reads
      (beside.reader here).2 (w.memory home)
    rw [kin] at step
    rw [memory_serve beside.orderly.mapped]
    exact beside.agree.trans step
  others := by
    intro j ne
    unfold Traffic.serve Traffic.put
    rw [client_update, if_neg ne]
    exact beside.others ne
  gone := beside.gone
  reader := by
    obtain ⟨owner, idle⟩ := beside.reader here
    intro y there
    rcases member_serve there with ⟨-, client⟩ | ⟨ne, -⟩
    · rw [client, (Client.step_continues x.client (w.memory home) request).region_eq]
      exact ⟨owner, Client.Reads.not_writing reads idle _⟩
    · exact absurd rfl ne

/-- An event of the reader can be left out. -/
theorem Beside.skip (beside : Beside home r w w') (flavor : home.flavor = .unsynchronized)
    {e : Event t} (reads : e.Reads) : Beside home r (w.perform home r e).1 w' := by
  cases here : w.members r with
  | none =>
    cases e with
    | attach =>
      cases ok : Queue.attach t home.flavor home.descriptor w.store with
      | error e =>
        simp only [Traffic.perform, here, ok]
        exact beside
      | ok q =>
        simp only [Traffic.perform, here, ok]
        exact beside.skip_join ok
    | drop | serve =>
      simp only [Traffic.perform, here]
      exact beside
  | some x =>
    cases e with
    | attach =>
      simp only [Traffic.perform, here]
      exact beside
    | drop =>
      simp only [Traffic.perform, here]
      split
      · exact beside.skip_leave here
      · exact beside
    | serve request =>
      simp only [Traffic.perform, here]
      exact beside.skip_serve flavor here reads

/-! ### Whole runs -/

/-- Answers with the bits of the flag that are shown. -/
def showing (shown : UInt32) (answers : List (Nat × Answer t)) : List (Nat × Answer t) :=
  answers.map fun (k, answer) => (k, answer.showing shown)

theorem showing_cons (shown : UInt32) (k : Nat) (answer : Answer t)
    (rest : List (Nat × Answer t)) :
    showing shown ((k, answer) :: rest) = (k, answer.showing shown) :: showing shown rest :=
  rfl

theorem Beside.run (beside : Beside home r w w') (flavor : home.flavor = .unsynchronized)
    {es : List (Nat × Event t)} (reads : ∀ e, (r, e) ∈ es → e.Reads) :
    Beside home r (run home w es).1 (run home w' (without r es)).1 ∧
      showing (~~~notFull) (without r (run home w es).2)
        = showing (~~~notFull) (run home w' (without r es)).2 := by
  induction es generalizing w w' with
  | nil => exact ⟨beside, rfl⟩
  | cons entry rest ih =>
    obtain ⟨k, e⟩ := entry
    have later : ∀ e, (r, e) ∈ rest → e.Reads := fun e mem => reads e (List.mem_cons_of_mem _ mem)
    by_cases own : k = r
    · subst own
      obtain ⟨after, answers⟩ := ih (beside.skip flavor (reads e List.mem_cons_self)) later
      rw [run_cons, without_cons_self, without_cons_self]
      exact ⟨after, answers⟩
    · obtain ⟨together, answer⟩ := beside.perform own e
      obtain ⟨after, answers⟩ := ih together later
      rw [without_cons_of_ne own, run_cons, run_cons, without_cons_of_ne own, showing_cons,
        showing_cons, answer, answers]
      exact ⟨after, rfl⟩

theorem beside_begin {flavor : Flavor} {c : QueueConfig} {s s' : Store}
    (ok : Queue.create t flavor c s = .ok (home, s')) (attached : r ≠ 0) :
    Beside home r (begin home s') (begin home s') := by
  have orderly := orderly_begin ok
  have absent : (begin home s').members r = none := by
    unfold begin
    dsimp only
    rw [Function.update_of_ne attached]
  refine ⟨orderly, orderly.mapped, rfl, rfl, .refl _ _ _, fun _ => rfl, absent, ?_⟩
  intro x here
  rw [absent] at here
  cases here

/-! ## What it comes to -/

/-- The handles other than `r` are the same and see the same, but for the bit
of the flag that readers raise. -/
structure SameBut (home : Queue t) (r : Nat) (w w' : Traffic t) : Prop where
  /-- The counters, the reservation and the quanta in all slots. -/
  view : w.view home = w'.view home
  flag : (home.flagBits? (w.memory home)).map (· &&& ~~~notFull)
    = (home.flagBits? (w'.memory home)).map (· &&& ~~~notFull)
  clients : ∀ {k}, k ≠ r → (w.members k).map Member.client = (w'.members k).map Member.client

theorem Beside.sameBut (beside : Beside home r w w') : SameBut home r w w' :=
  ⟨Queue.view_of_agree beside.orderly.sound beside.agree, Queue.flagBits_of_agree beside.agree,
    beside.others⟩

/-- A handle that was attached to an unsynchronized queue and only reads is
noticed by nobody: without its events all other handles are told the same, and
at every moment of the run they are the same and see the same. Only the bit of
the flag that readers raise may differ. -/
theorem reader_unnoticed {c : QueueConfig} {s s' : Store} {es : List (Nat × Event t)}
    (ok : Queue.create t .unsynchronized c s = .ok (home, s')) (attached : r ≠ 0)
    (reads : ∀ e, (r, e) ∈ es → e.Reads) :
    showing (~~~notFull) (without r (Traffic.run home (begin home s') es).2)
        = showing (~~~notFull) (Traffic.run home (begin home s') (without r es)).2 ∧
      ∀ {before}, before <+: es →
        SameBut home r (Traffic.run home (begin home s') before).1
          (Traffic.run home (begin home s') (without r before)).1 := by
  have flavor : home.flavor = .unsynchronized := Queue.flavor_of_create ok
  have beside := beside_begin ok attached
  refine ⟨(beside.run flavor reads).2, ?_⟩
  intro before front
  have sooner : ∀ e, (r, e) ∈ before → e.Reads := fun e mem => reads e (front.subset mem)
  exact (beside.run flavor sooner).1.sameBut

/-- A run with a reader that is overrun and goes on afterwards. -/
def overrunReader : List (Nat × Event (.primitive .u8)) :=
  [(1, .attach), (0, .serve (.write ([7, 8].map byteQuantum))), (1, .serve (.beginRead 1)),
    (0, .serve (.write ([1, 2, 3, 4].map byteQuantum))), (1, .serve .commitRead),
    (0, .serve (.write ([5].map byteQuantum))), (1, .serve (.read ([0].map byteQuantum))),
    (1, .drop)]

theorem reader_unnoticed_fourBytes :
    (Traffic.run (fourBytes .unsynchronized) (begin (fourBytes .unsynchronized) fourByteStore)
        overrunReader).2[4]? = some (1, .reply (.unit (.error (.overflow 6 6)))) ∧
      SameBut (fourBytes .unsynchronized) 1
        (Traffic.run (fourBytes .unsynchronized) (begin (fourBytes .unsynchronized) fourByteStore)
          overrunReader).1
        (Traffic.run (fourBytes .unsynchronized) (begin (fourBytes .unsynchronized) fourByteStore)
          (without 1 overrunReader)).1 := by
  have reads : ∀ e, (1, e) ∈ overrunReader → e.Reads := by
    intro e mem
    simp only [overrunReader, List.mem_cons, List.not_mem_nil, Prod.mk.injEq, or_false] at mem
    rcases mem with ⟨-, rfl⟩ | ⟨other, -⟩ | ⟨-, rfl⟩ | ⟨other, -⟩ | ⟨-, rfl⟩ | ⟨other, -⟩ |
      ⟨-, rfl⟩ | ⟨-, rfl⟩
    all_goals trivial
  obtain ⟨-, same⟩ := reader_unnoticed (create_fourBytes .unsynchronized) (by decide : 1 ≠ 0) reads
  exact ⟨rfl, same (List.prefix_refl _)⟩

end Traffic

end SharedQueue
