/-
SharedQueue.Proofs.Locality — what is done through one object, and where.

* `Store.Alike` — two stores that cannot be told apart in some of their
  memories.
* `Local` — an action on the store that stays inside some memories: it changes
  no others, no name and no memory's size, and neither what it leaves there nor
  its result depends on anything else.
* `Kind`, `Object` — what parties hold: queue handles, flags with a region of
  their own, and bare regions.
* `Use`, `Object.use` — all that can be done through an object: requests of a
  handle, single steps of blocking calls, and looking.
* `Object.local_use` — every use is local to the memory of the object and that
  of the flag it was handed.
-/
import SharedQueue.Proofs.Confinement
import SharedQueue.Proofs.Crowd
import SharedQueue.Session

namespace SharedQueue

/-! ## Actions inside some memories -/

/-- The stores have these memories, with the same bytes. -/
def Store.Alike (ids : MemoryId → Prop) (s s' : Store) : Prop :=
  ∀ id, ids id → id < s.memories.size ∧ id < s'.memories.size ∧ s'.memory id = s.memory id

/-- The action stays inside the memories: it changes only them and looks only
at them. -/
structure Local {α : Type} (ids : MemoryId → Prop) (f : Store → Store × α) : Prop where
  names : ∀ s, (f s).1.names = s.names
  madeUp : ∀ s, (f s).1.madeUp = s.madeUp
  count : ∀ s, (f s).1.memories.size = s.memories.size
  room : ∀ s id, ((f s).1.memory id).size = (s.memory id).size
  others : ∀ s id, ¬ ids id → (f s).1.memory id = s.memory id
  looks : ∀ {s s'}, Store.Alike ids s s' → (f s').2 = (f s).2 ∧ Store.Alike ids (f s).1 (f s').1

namespace Store

theorem memory_setMemory_size {s : Store} {id : MemoryId} {m : Memory}
    (room : m.size = (s.memory id).size) (id' : MemoryId) :
    ((s.setMemory id m).memory id').size = (s.memory id').size := by
  by_cases same : id' = id
  · subst same
    by_cases mapped : id' < s.memories.size
    · rw [memory_setMemory mapped, room]
    · unfold memory setMemory
      rw [Array.setIfInBounds_eq_of_size_le (Nat.le_of_not_lt mapped)]
  · rw [memory_setMemory_ne same]

theorem Alike.wordBits_eq {ids : MemoryId → Prop} {s s' : Store} (alike : Alike ids s s')
    {w : FlagWord} (mem : ids w.memory) : s'.wordBits w = s.wordBits w := by
  unfold wordBits
  rw [(alike w.memory mem).2.2]

end Store

namespace Local

variable {α β : Type} {ids ids' : MemoryId → Prop} {f : Store → Store × α}

theorem of_look (same : ∀ s, (f s).1 = s)
    (looks : ∀ {s s'}, Store.Alike ids s s' → (f s').2 = (f s).2) : Local ids f := by
  constructor
  · exact fun s => by rw [same]
  · exact fun s => by rw [same]
  · exact fun s => by rw [same]
  · exact fun s id => by rw [same]
  · exact fun s id _ => by rw [same]
  · intro s s' alike
    rw [same, same]
    exact ⟨looks alike, alike⟩

/-- Changing one of the memories, by a change that depends on that memory only,
is local. -/
theorem of_update {id : MemoryId} (mem : ids id) {change : Memory → Memory}
    (changed : ∀ s, (f s).1 = s.update id change) (room : ∀ m, (change m).size = m.size)
    (looks : ∀ {s s'}, Store.Alike ids s s' → (f s').2 = (f s).2) : Local ids f := by
  constructor
  · exact fun s => by rw [changed]; rfl
  · exact fun s => by rw [changed]; rfl
  · exact fun s => by rw [changed, Store.size_update]
  · intro s id'
    rw [changed]
    exact Store.memory_setMemory_size (room _) id'
  · intro s id' outside
    rw [changed]
    refine Store.memory_setMemory_ne ?_ _
    rintro rfl
    exact outside mem
  · intro s s' alike
    refine ⟨looks alike, ?_⟩
    intro id' mem'
    obtain ⟨here, there, same⟩ := alike id' mem'
    rw [changed, changed, Store.size_update, Store.size_update]
    refine ⟨here, there, ?_⟩
    by_cases one : id' = id
    · subst one
      rw [Store.update, Store.update, Store.memory_setMemory here, Store.memory_setMemory there,
        same]
    · rw [Store.update, Store.update, Store.memory_setMemory_ne one,
        Store.memory_setMemory_ne one, same]

/-- What is made of the result is local too. -/
theorem map (inside : Local ids f) (g : α → β) : Local ids fun s => ((f s).1, g (f s).2) where
  names := inside.names
  madeUp := inside.madeUp
  count := inside.count
  room := inside.room
  others := inside.others
  looks alike := ⟨congrArg g (inside.looks alike).1, (inside.looks alike).2⟩

end Local

/-! ## Words and slots do not resize a memory -/

namespace Queue

variable {t : ElementType} (q : Queue t) (m : Memory)

theorem size_storeSlots (slot : Nat) (values : List t.Value) :
    (q.storeSlots m slot values).size = m.size := by
  induction values generalizing m slot with
  | nil => rfl
  | cons v rest ih => exact (ih ..).trans (Memory.size_setBytes ..)

theorem size_fill (pos : UInt64) (data : List t.Value) : (q.fill m pos data).size = m.size := by
  simp only [fill, size_storeSlots]

theorem size_reserve (stop : UInt64) : (q.reserve m stop).size = m.size :=
  (reserve_only q m stop).size_eq

theorem size_publish (pos : UInt64) : (q.publish m pos).size = m.size :=
  (publish_only q m pos).size_eq

theorem size_release (pos : UInt64) : (q.release m pos).2.size = m.size := by
  unfold release Cursor.store
  cases q.cursor with
  | own own => rfl
  | shared offset => exact Memory.size_setBytes ..

end Queue

theorem EventFlag.size_raise (m : Memory) (offset : Nat) (mask : UInt32) :
    (raise m offset mask).size = m.size :=
  Memory.size_setBytes ..

theorem EventFlag.size_clear (m : Memory) (offset : Nat) (mask : UInt32) :
    (clear m offset mask).size = m.size :=
  Memory.size_setBytes ..

/-! ## Steps of blocking calls -/

namespace Queue

variable {t : ElementType} {q : Queue t} {s s' : Store} {w : FlagWord} {ids : MemoryId → Prop}

theorem memory_flagWord (own : q.flagWord? = some w) : w.memory = q.region.memory := by
  obtain ⟨g, -, rfl⟩ := Option.map_eq_some_iff.mp own
  rfl

end Queue

namespace WriteCall

variable {t : ElementType} {c : WriteCall t} {ids : MemoryId → Prop} {s s' : Store}

/-- How a write goes on depends on the queue's memory and on the word that it
waits on. -/
theorem step_alike (own : ids c.queue.region.memory)
    (lent : ∀ {wait}, c.waiting = some wait → ids wait.flag.memory)
    (alike : Store.Alike ids s s') (now : Instant) (p : WritePoint) :
    (c.step now s' p).2 = (c.step now s p).2 := by
  have memory : c.queue.memory s' = c.queue.memory s := (alike _ own).2.2
  have flag : ∀ {w}, c.queue.flagWord? = some w → s'.wordBits w = s.wordBits w :=
    fun found => alike.wordBits_eq (Queue.memory_flagWord found ▸ own)
  have wait : ∀ {wait}, c.waiting = some wait → s'.wordBits wait.flag = s.wordBits wait.flag :=
    fun found => alike.wordBits_eq (lent found)
  unfold step
  dsimp only
  rw [memory]
  cases p with
  | raiseOwn =>
    dsimp only
    split
    · rfl
    · rename_i found
      rw [flag found]
  | raiseNotify | observe | park =>
    dsimp only
    split
    · rfl
    · rename_i found
      simp only [wait found]
  | judge | signalOwn | signalNotify | expire | clear | recount | recheck =>
    dsimp only
    split <;> rfl
  | begin | reserve | fill | publish | done => rfl

/-- Every step of a write stays in the queue's memory and that of the word that
it waits on. -/
theorem local_step (c : WriteCall t) (own : ids c.queue.region.memory)
    (lent : ∀ {wait}, c.waiting = some wait → ids wait.flag.memory) (now : Instant)
    (p : WritePoint) : Local ids fun s => c.step now s p := by
  have looks : ∀ {s s'}, Store.Alike ids s s' → (c.step now s' p).2 = (c.step now s p).2 :=
    fun alike => step_alike own lent alike now p
  cases p with
  | reserve pos => exact .of_update own (fun s => rfl) (fun m => c.queue.size_reserve m _) looks
  | fill pos => exact .of_update own (fun s => rfl) (fun m => c.queue.size_fill m _ _) looks
  | publish pos => exact .of_update own (fun s => rfl) (fun m => c.queue.size_publish m _) looks
  | raiseOwn =>
    cases flag : c.queue.flagWord? with
    | none => exact .of_look (fun s => by unfold step; dsimp only; rw [flag]) looks
    | some w =>
      have mem : ids w.memory := Queue.memory_flagWord flag ▸ own
      exact .of_update mem (fun s => by unfold step; dsimp only; rw [flag]; rfl)
        (fun m => EventFlag.size_raise m _ _) looks
  | raiseNotify =>
    cases waiting : c.waiting with
    | none => exact .of_look (fun s => by unfold step; dsimp only; rw [waiting]) looks
    | some wait =>
      exact .of_update (lent waiting) (fun s => by unfold step; dsimp only; rw [waiting]; rfl)
        (fun m => EventFlag.size_raise m _ _) looks
  | clear =>
    cases waiting : c.waiting with
    | none => exact .of_look (fun s => by unfold step; dsimp only; rw [waiting]) looks
    | some wait =>
      exact .of_update (lent waiting) (fun s => by unfold step; dsimp only; rw [waiting]; rfl)
        (fun m => EventFlag.size_clear m _ _) looks
  | begin | done => exact .of_look (fun s => rfl) looks
  | judge | signalOwn | signalNotify | expire | observe | recount | recheck | park =>
    exact .of_look (fun s => by unfold step; dsimp only; split <;> rfl) looks

end WriteCall

/-- The handle that goes on with a read. -/
def ReadState.Next.queue {t : ElementType} : ReadState.Next t → Queue t
  | .go st | .signal _ _ st | .park _ _ _ st | .pause _ st => st.queue
  | .finish r => r.queue

namespace ReadCall

variable {t : ElementType} {c : ReadCall} {st : ReadState t} {ids : MemoryId → Prop}
  {s s' : Store}

theorem step_alike (own : ids st.queue.region.memory)
    (lent : ∀ {wait}, c.waiting = some wait → ids wait.flag.memory)
    (alike : Store.Alike ids s s') (now : Instant) :
    (c.step now s' st).2 = (c.step now s st).2 := by
  have memory : st.queue.memory s' = st.queue.memory s := (alike _ own).2.2
  have flag : ∀ {w}, st.queue.flagWord? = some w → s'.wordBits w = s.wordBits w :=
    fun found => alike.wordBits_eq (Queue.memory_flagWord found ▸ own)
  have wait : ∀ {wait}, c.waiting = some wait → s'.wordBits wait.flag = s.wordBits wait.flag :=
    fun found => alike.wordBits_eq (lent found)
  obtain ⟨q, buffer, p⟩ := st
  unfold step
  dsimp only at memory ⊢
  rw [memory]
  cases p with
  | raiseOwn =>
    dsimp only
    split
    · rfl
    · rename_i found
      rw [flag found]
  | raiseNotify | observe | park =>
    dsimp only
    split
    · rfl
    · rename_i found
      simp only [wait found]
  | judge | verify | signalOwn | signalNotify | expire | clear | recount | recheck =>
    dsimp only
    split <;> rfl
  | begin | take | confirm | release | done => rfl

theorem local_step (c : ReadCall) (st : ReadState t) (own : ids st.queue.region.memory)
    (lent : ∀ {wait}, c.waiting = some wait → ids wait.flag.memory) (now : Instant) :
    Local ids fun s => c.step now s st := by
  have looks : ∀ {s s'}, Store.Alike ids s s' → (c.step now s' st).2 = (c.step now s st).2 :=
    fun alike => step_alike own lent alike now
  obtain ⟨q, buffer, p⟩ := st
  cases p with
  | release pos => exact .of_update own (fun s => rfl) (fun m => q.size_release m _) looks
  | raiseOwn =>
    cases flag : q.flagWord? with
    | none => exact .of_look (fun s => by unfold step; dsimp only; rw [flag]) looks
    | some w =>
      have mem : ids w.memory := Queue.memory_flagWord flag ▸ own
      exact .of_update mem (fun s => by unfold step; dsimp only; rw [flag]; rfl)
        (fun m => EventFlag.size_raise m _ _) looks
  | raiseNotify =>
    cases waiting : c.waiting with
    | none => exact .of_look (fun s => by unfold step; dsimp only; rw [waiting]) looks
    | some wait =>
      exact .of_update (lent waiting) (fun s => by unfold step; dsimp only; rw [waiting]; rfl)
        (fun m => EventFlag.size_raise m _ _) looks
  | clear =>
    cases waiting : c.waiting with
    | none => exact .of_look (fun s => by unfold step; dsimp only; rw [waiting]) looks
    | some wait =>
      exact .of_update (lent waiting) (fun s => by unfold step; dsimp only; rw [waiting]; rfl)
        (fun m => EventFlag.size_clear m _ _) looks
  | begin | take | confirm | done => exact .of_look (fun s => rfl) looks
  | judge | verify | signalOwn | signalNotify | expire | observe | recount | recheck | park =>
    exact .of_look (fun s => by unfold step; dsimp only; split <;> rfl) looks

theorem continues_refuse (c : ReadCall) (st : ReadState t) (e : Error) :
    st.queue.Continues (c.refuse st e).queue := by
  unfold refuse
  split
  · split <;> exact .refl _
  · exact .refl _

/-- A read goes on with the handle that it began with, with its cursor elsewhere
at most. -/
theorem continues_step (c : ReadCall) (now : Instant) (s : Store) (st : ReadState t) :
    st.queue.Continues (c.step now s st).2.queue := by
  obtain ⟨q, buffer, p⟩ := st
  cases p with
  | judge writePos =>
    simp only [step]
    split
    · exact (Queue.continues_follow q _).trans
        (continues_refuse c (ReadState.follow ⟨q, buffer, _⟩ _) _)
    · exact Queue.continues_follow q _
  | verify pos writePos =>
    simp only [step]
    split
    · exact (Queue.continues_follow q _).trans
        (continues_refuse c (ReadState.follow ⟨q, buffer, _⟩ _) _)
    · exact Queue.continues_follow q _
  | release pos => exact Queue.continues_release q _ _
  | _ => simp only [step]; (repeat' split) <;> exact .refl q

end ReadCall

namespace FlagCall

variable {ids : MemoryId → Prop} {s s' : Store}

theorem local_step (call : FlagCall) {w : FlagWord} (mem : ids w.memory) (now : Instant)
    (p : FlagPoint) : Local ids fun s => call.step w now s p := by
  have looks {s s' : Store} (alike : Store.Alike ids s s') :
      (call.step w now s' p).2 = (call.step w now s p).2 :=
    call.step_congr now p (alike.wordBits_eq mem)
  cases call with
  | wake mask =>
    cases p with
    | begin => exact .of_update mem (fun s => rfl) (fun m => EventFlag.size_raise m _ _) looks
    | _ => exact .of_look (fun s => rfl) looks
  | clear mask =>
    exact .of_update mem (fun s => by cases p <;> rfl) (fun m => EventFlag.size_clear m _ _) looks
  | wait mask deadline consume =>
    cases p with
    | consume seen =>
      exact .of_update mem (fun s => rfl) (fun m => EventFlag.size_clear m _ _) looks
    | _ => exact .of_look (fun s => rfl) looks

end FlagCall

/-! ## Objects and their uses -/

/-- A kind of objects. -/
inductive Kind
  | queue (type : ElementType)
  | flag
  | bare

/-- What a party can hold. -/
inductive Object : Kind → Type
  | queue {t : ElementType} (client : Client t) : Object (.queue t)
  /-- A flag with a region of its own. -/
  | flag (region : Region) : Object .flag
  | bare (region : Region) : Object .bare

/-- What can be done through an object. Steps of blocking calls are uses of
their own, wherever the call stands, so that anything can happen in between. -/
inductive Use : Kind → Type
  | ask {t : ElementType} (request : Client.Request t) : Use (.queue t)
  /-- Looking at the counters, and at the handle as it is shown. -/
  | look {t : ElementType} : Use (.queue t)
  | write {t : ElementType} (data : List t.Value) (waiting : Option Waiting) (now : Instant)
    (point : WritePoint) : Use (.queue t)
  | read {t : ElementType} (buffer : List t.Value) (waiting : Option Waiting) (now : Instant)
    (point : ReadPoint) : Use (.queue t)
  /-- A step of a call on the object's own flag word, if it has one. -/
  | signal {kind : Kind} (call : FlagCall) (now : Instant) (point : FlagPoint) : Use kind
  /-- Asking whether a range is a place for a value. -/
  | check (type : ElementType) (range : Grantor) : Use .bare

/-- What is told in return. -/
inductive Told : Kind → Type
  | reply {t : ElementType} (reply : Client.Reply t) : Told (.queue t)
  | view {t : ElementType} (seen : View) (shown : String) : Told (.queue t)
  | write {t : ElementType} (next : WriteCall.Next) : Told (.queue t)
  | read {t : ElementType} (next : ReadState.Next t) : Told (.queue t)
  | signal {kind : Kind} (next : Option (Move FlagPoint FlagCall.Answer)) : Told kind
  | checked (answer : Except DescriptorFault Unit) : Told .bare

/-- The flag word that a call is handed to wait on. -/
def Use.lent? {kind : Kind} : Use kind → Option FlagWord
  | write _ waiting .. => waiting.map (·.flag)
  | read _ waiting .. => waiting.map (·.flag)
  | _ => none

namespace Object

/-- The region that an object was made or opened with. -/
def region {kind : Kind} : Object kind → Region
  | .queue client => client.queue.region
  | .flag r => r
  | .bare r => r

/-- The flag word that belongs to an object. -/
def word? {kind : Kind} : Object kind → Option FlagWord
  | .queue client => client.queue.flagWord?
  | .flag r => some (Session.regionWord r)
  | .bare _ => none

/-- What becomes of the store, and what is left of the object together with what
is told. -/
def use {kind : Kind} (o : Object kind) (u : Use kind) (s : Store) :
    Store × Object kind × Told kind :=
  match o, u with
  | .queue c, .ask request =>
    let outcome := c.step (c.queue.memory s) request
    (s.setMemory c.queue.region.memory outcome.memory, .queue outcome.client, .reply outcome.reply)
  | .queue c, .look =>
    (s, .queue c, .view (Handle.view ⟨_, c.queue⟩ s) (c.queue.describe (c.queue.memory s)))
  | .queue c, .write data waiting now point =>
    let r := WriteCall.step ⟨c.queue, data, waiting⟩ now s point
    (r.1, .queue c, .write r.2)
  | .queue c, .read buffer waiting now point =>
    let r := ReadCall.step ⟨waiting⟩ now s ⟨c.queue, buffer, point⟩
    (r.1, .queue ⟨r.2.queue, c.activity⟩, .read r.2)
  | .bare r, .check type range => (s, .bare r, .checked (r.check type range))
  | o, .signal call now point =>
    match o.word? with
    | some w =>
      let r := call.step w now s point
      (r.1, o, .signal (some r.2))
    | none => (s, o, .signal none)

variable {kind : Kind}

/-- The memories that a use goes through: that of the object, and that of the
flag that the call was handed. -/
def Reaches (o : Object kind) (u : Use kind) (id : MemoryId) : Prop :=
  id = o.region.memory ∨ ∃ w, u.lent? = some w ∧ id = w.memory

/-- A handle that every request can rely on; other objects need nothing. -/
def Sane : {kind : Kind} → Object kind → Prop
  | _, .queue client => client.Ready
  | _, .flag _ => True
  | _, .bare _ => True

theorem memory_word {o : Object kind} {w : FlagWord} (own : o.word? = some w) :
    w.memory = o.region.memory := by
  cases o with
  | queue c => exact Queue.memory_flagWord own
  | flag r =>
    cases own
    rfl
  | bare r => cases own

/-- Everything that is done through an object stays in the memory of its region
and that of the flag that it was handed. -/
theorem local_use (o : Object kind) (sane : o.Sane) (u : Use kind) :
    Local (o.Reaches u) (o.use u) := by
  have own : o.Reaches u o.region.memory := .inl rfl
  cases u with
  | ask request =>
    cases o with
    | queue c =>
      have looks : ∀ {s s'}, Store.Alike ((Object.queue c).Reaches (.ask request)) s s' →
          ((Object.queue c).use (.ask request) s').2 = ((Object.queue c).use (.ask request) s).2 := by
        intro s s' alike
        have memory : c.queue.memory s' = c.queue.memory s := (alike _ own).2.2
        simp only [use, memory]
      have changed : ∀ s, ((Object.queue c).use (.ask request) s).1 =
          s.update c.queue.region.memory fun m => (c.step m request).memory := fun s => rfl
      exact .of_update own changed (fun m => (Client.step_changes sane m request).size_eq) looks
  | look =>
    cases o with
    | queue c =>
      refine .of_look (fun s => rfl) ?_
      intro s s' alike
      have memory : c.queue.memory s' = c.queue.memory s := (alike _ own).2.2
      simp only [use, Handle.view, memory]
  | write data waiting now point =>
    cases o with
    | queue c =>
      have lent : ∀ {wait}, waiting = some wait →
          (Object.queue c).Reaches (.write data waiting now point) wait.flag.memory := by
        rintro wait rfl
        exact .inr ⟨wait.flag, rfl, rfl⟩
      exact (WriteCall.local_step ⟨c.queue, data, waiting⟩ own lent now point).map
        fun next => (Object.queue c, Told.write next)
  | read buffer waiting now point =>
    cases o with
    | queue c =>
      have lent : ∀ {wait}, waiting = some wait →
          (Object.queue c).Reaches (.read buffer waiting now point) wait.flag.memory := by
        rintro wait rfl
        exact .inr ⟨wait.flag, rfl, rfl⟩
      exact (ReadCall.local_step ⟨waiting⟩ ⟨c.queue, buffer, point⟩ own lent now).map
        fun next => (Object.queue ⟨next.queue, c.activity⟩, Told.read next)
  | signal call now point =>
    cases found : o.word? with
    | none =>
      have idle : o.use (.signal call now point) = fun s => (s, o, .signal none) := by
        funext s
        cases o <;> simp [use, found]
      rw [idle]
      exact .of_look (fun s => rfl) (fun _ => rfl)
    | some w =>
      have acts : o.use (.signal call now point) = fun s =>
          ((call.step w now s point).1, o, .signal (some (call.step w now s point).2)) := by
        funext s
        cases o <;> simp [use, found]
      rw [acts]
      exact (FlagCall.local_step call (memory_word found ▸ own) now point).map
        fun next => (o, Told.signal (some next))
  | check type range =>
    cases o with
    | bare r => exact .of_look (fun s => rfl) (fun _ => rfl)

/-- A queue handle is the same one afterwards, with its cursor elsewhere at most. -/
theorem continues_use {t : ElementType} (c : Client t) (u : Use (.queue t)) (s : Store) :
    ∃ c' : Client t, ((Object.queue c).use u s).2.1 = .queue c' ∧ c.queue.Continues c'.queue := by
  cases u with
  | ask request => exact ⟨_, rfl, Client.step_continues c _ request⟩
  | look | write => exact ⟨c, rfl, .refl _⟩
  | read buffer waiting now point =>
    exact ⟨_, rfl, ReadCall.continues_step _ now s ⟨c.queue, buffer, point⟩⟩
  | signal call now point =>
    refine ⟨c, ?_, .refl _⟩
    simp only [use]
    split <;> rfl

/-- Whatever is done through an object, its region stays. -/
theorem region_use (o : Object kind) (u : Use kind) (s : Store) :
    (o.use u s).2.1.region = o.region := by
  cases o with
  | queue c =>
    obtain ⟨c', same, continues⟩ := continues_use c u s
    rw [same]
    exact continues.region_eq
  | flag r => cases u; rfl
  | bare r => cases u <;> rfl

theorem sane_use (o : Object kind) (sane : o.Sane) (u : Use kind) (s : Store) :
    (o.use u s).2.1.Sane := by
  cases u with
  | ask request =>
    cases o with
    | queue c => exact Client.Ready.step sane _ request
  | look | write =>
    cases o with
    | queue c => exact sane
  | read buffer waiting now point =>
    cases o with
    | queue c =>
      have continues := ReadCall.continues_step ⟨waiting⟩ now s ⟨c.queue, buffer, point⟩
      refine ⟨continues.sound sane.sound, fun opened => Nat.le_trans (sane.fits opened) ?_⟩
      exact Nat.le_of_eq (congrArg Descriptor.quantumCount continues.descriptor_eq).symm
  | signal call now point => cases o <;> (simp only [use]; split <;> exact sane)
  | check type range =>
    cases o with
    | bare r => exact sane

end Object

end SharedQueue
