/-
SharedQueue.Proofs.FlagHistory — the flag word of a queue is what its history says.

* `Work`, `Hand` — what a party does with its handle: nothing, or a call that it is in
  the middle of; and what it has told the word in that call.
* `Company` — a store, any number of hands in it, and the history of a flag word.
  `Company.Step` is one step of one of them, and every event of the step comes into
  the account of the call and into the history at once.
* `Company.Holds` — the invariant: the word is the history replayed, every account is
  in order, and every store of a write counter is followed by its announcement.
* `Queue.flag_history` — what that means for single bits, for the calls, and for
  readers that find the word clear.

A sleep may end at any time, for whatever reason. What others do in memories other
than the queue's does not matter, so they may do anything there.
-/
import SharedQueue.Proofs.FlagAccounts
import SharedQueue.Proofs.World

namespace SharedQueue

/-! ## Parties at work -/

/-- What a party does. -/
inductive Work (t : ElementType)
  /-- It is between two calls, and may hold a transaction open. -/
  | holding (client : Client t)
  | writing (call : WriteCall t) (move : WriteCall.Next)
  | reading (call : ReadCall) (move : ReadState.Next t)
  /-- It calls on a flag word, and keeps its handle meanwhile. -/
  | flagging (client : Client t) (call : FlagCall) (w : FlagWord)
    (move : Move FlagPoint FlagCall.Answer)

namespace Work

variable {t t₀ : ElementType} {home : Queue t₀} {flag : FlagWord} {s s' : Store}
  {work work' : Work t} {told events : List FlagEvent}

/-- The calls that a party can begin. -/
inductive Begins (flag : FlagWord) (s : Store) : Work t → Work t → Prop
  | write (q : Queue t) (data : List t.Value) :
    Begins flag s (.holding ⟨q, .idle⟩) (.writing ⟨q, data, none⟩ (WriteCall.once data))
  | writeBlocking (q : Queue t) (data : List t.Value) (a : Manner)
    (lent : ∀ {w}, a.external = some w → flag.SameOrApart w) :
    Begins flag s (.holding ⟨q, .idle⟩)
      (.writing (.inManner q data a) (WriteCall.first q data a))
  | commitWrite (q : Queue t) (tx : Transaction) :
    Begins flag s (.holding ⟨q, .writing tx⟩)
      (.writing (.committing q (q.memory s) tx) (WriteCall.commit tx))
  | read (q : Queue t) (buffer : List t.Value) :
    Begins flag s (.holding ⟨q, .idle⟩) (.reading ⟨none⟩ (ReadCall.once q buffer))
  | readBlocking (q : Queue t) (buffer : List t.Value) (a : Manner)
    (lent : ∀ {w}, a.external = some w → flag.SameOrApart w) :
    Begins flag s (.holding ⟨q, .idle⟩)
      (.reading (.inManner q a) (ReadCall.first q buffer a))
  | commitRead (q : Queue t) (tx : Transaction) :
    Begins flag s (.holding ⟨q, .reading tx⟩)
      (.reading ⟨none⟩ (ReadCall.commit q (q.memory s) tx))
  | flag (client : Client t) (call : FlagCall) {w : FlagWord} (lent : flag.SameOrApart w) :
    Begins flag s (.holding client) (.flagging client call w call.start)

/-- One step of a call: the store and the party after it, and what it tells the
word. -/
inductive Acts (flag : FlagWord) (s : Store) :
    Work t → Store → Work t → List FlagEvent → Prop
  | write {call : WriteCall t} {move : WriteCall.Next} {p : WritePoint}
    (next : move.next? = some p) (now : Instant) :
    Acts flag s (.writing call move) (call.step now s p).1 (.writing call (call.step now s p).2)
      (call.events flag p)
  | read {call : ReadCall} {move : ReadState.Next t} {st : ReadState t}
    (next : move.next? = some st) (now : Instant) :
    Acts flag s (.reading call move) (call.step now s st).1
      (.reading call (call.step now s st).2) (call.events flag st)
  | flag {client : Client t} {call : FlagCall} {w : FlagWord}
    {move : Move FlagPoint FlagCall.Answer} {p : FlagPoint} (next : move.next? = some p)
    (now : Instant) :
    Acts flag s (.flagging client call w move) (call.step w now s p).1
      (.flagging client call w (call.step w now s p).2) (call.events w flag p)

/-- A call that has ended, and the handle after it. -/
inductive Returns : Work t → Client t → Prop
  | write (call : WriteCall t) (answer : Except Error Unit) :
    Returns (.writing call (.finish answer)) ⟨call.queue, .idle⟩
  | read (call : ReadCall) (r : ReadResult t) :
    Returns (.reading call (.finish r)) ⟨r.queue, .idle⟩
  | flag (client : Client t) (call : FlagCall) (w : FlagWord) (answer : FlagCall.Answer) :
    Returns (.flagging client call w (.finish answer)) client

/-- The account of a party: what the call tells that it is in the middle of, or has just
ended. Between two calls there is nothing to tell. -/
def Tells (flag : FlagWord) (told : List FlagEvent) : Work t → Prop
  | .holding _ => told = []
  | .writing call move => call.Told flag told move
  | .reading call move => call.Told flag told move
  | .flagging _ call w move => call.Told w flag told move

/-- The handle is a fellow of the queue, and no other word in its memory is called on. -/
def Sane (home : Queue t₀) (flag : FlagWord) : Work t → Prop
  | .holding client => home.Fellow client.queue ∧ client.Ready
  | .writing call _ => home.Fellow call.queue ∧
    ∀ {wait}, call.waiting = some wait → flag.SameOrApart wait.flag
  | .reading call move => home.Fellow move.queue ∧
    ∀ {wait}, call.waiting = some wait → flag.SameOrApart wait.flag
  | .flagging client _ w _ => home.Fellow client.queue ∧ client.Ready ∧ flag.SameOrApart w

/-- A call that waits as it was asked to waits on the flag of its handle, or on the one
that it was lent. -/
theorem sameOrApart_of_manner {q : Queue t} (fellow : home.Fellow q)
    (own : home.flagWord? = some flag) {a : Manner}
    (lent : ∀ {w}, a.external = some w → flag.SameOrApart w) {wait : Waiting}
    (waits : a.waiting? q = some wait) : flag.SameOrApart wait.flag := by
  obtain ⟨w, there, rfl⟩ := Option.map_eq_some_iff.mp waits
  unfold Manner.flag? at there
  cases named : a.external with
  | some w' =>
    rw [named] at there
    cases there
    exact lent named
  | none =>
    rw [named] at there
    exact fellow.sameOrApart own there

theorem Begins.kept (begins : work.Begins flag s work') (own : home.flagWord? = some flag)
    (sane : work.Sane home flag) : work'.Sane home flag ∧ work'.Tells flag [] := by
  cases begins with
  | write q data => exact ⟨⟨sane.1, nofun⟩, WriteCall.told_once ..⟩
  | writeBlocking q data a lent =>
    exact ⟨⟨sane.1, sameOrApart_of_manner sane.1 own lent⟩, WriteCall.told_first ..⟩
  | commitWrite q tx => exact ⟨⟨sane.1, nofun⟩, WriteCall.told_commit ..⟩
  | read q buffer =>
    refine ⟨⟨?_, nofun⟩, ReadCall.told_once ..⟩
    unfold ReadCall.once
    split <;> exact sane.1
  | readBlocking q buffer a lent =>
    refine ⟨⟨?_, sameOrApart_of_manner sane.1 own lent⟩, ReadCall.told_first ..⟩
    rw [ReadCall.first_eq]
    split
    · exact sane.1
    · split
      · exact sane.1
      · split <;> exact sane.1
  | commitRead q tx =>
    refine ⟨⟨?_, nofun⟩, ReadCall.told_commit ..⟩
    unfold ReadCall.commit
    split <;> exact sane.1
  | flag client call lent => exact ⟨⟨sane.1, sane.2, lent⟩, FlagCall.told_start ..⟩

theorem queue_of_next {move : ReadState.Next t} {st : ReadState t} (next : move.next? = some st) :
    move.queue = st.queue := by
  cases move <;> cases next <;> rfl

/-- One step does to the word what it tells, and its account stays in order. -/
theorem Acts.kept (acts : work.Acts flag s s' work' events) (own : home.flagWord? = some flag)
    (mapped : flag.memory < s.memories.size) (sane : work.Sane home flag)
    (tells : work.Tells flag told) :
    s'.memories.size = s.memories.size ∧
      s'.wordBits flag = FlagEvent.replay (s.wordBits flag) events ∧
      work'.Sane home flag ∧ work'.Tells flag (events ++ told) := by
  cases acts with
  | write next now =>
    obtain ⟨fellow, lent⟩ := sane
    have standing := WriteCall.standing_of_told tells next
    exact ⟨WriteCall.size_step .., WriteCall.word_step fellow own mapped lent now standing.fits,
      ⟨fellow, lent⟩, WriteCall.told_step standing now s⟩
  | @read call move st next now =>
    obtain ⟨fellow, lent⟩ := sane
    rw [queue_of_next next] at fellow
    have standing := ReadCall.standing_of_told tells next
    exact ⟨ReadCall.size_step .., ReadCall.word_step fellow own mapped lent now,
      ⟨fellow.continues (ReadCall.continues_step call now s st), lent⟩,
      ReadCall.told_step standing now s⟩
  | flag next now =>
    obtain ⟨fellow, ready, apart⟩ := sane
    have standing := FlagCall.standing_of_told tells next
    exact ⟨FlagCall.size_step .., FlagCall.word_step _ mapped apart now _,
      ⟨fellow, ready, apart⟩, FlagCall.told_step standing now s⟩

theorem Returns.kept {client : Client t} (returns : work.Returns client)
    (sane : work.Sane home flag) : (holding client).Sane home flag := by
  cases returns with
  | write call answer => exact ⟨sane.1, sane.1.sound, nofun⟩
  | read call r => exact ⟨sane.1, sane.1.sound, nofun⟩
  | flag client call w answer => exact ⟨sane.1, sane.2.1⟩

/-- The party has moved the write counter of the queue, and its next step is to announce
it. -/
def Announcing (flag : FlagWord) (work : Work t) : Prop :=
  ∃ call, work = .writing call (.go .raiseOwn) ∧ call.queue.flagWord? = some flag

/-- Whoever moves the write counter announces it with its next step, -/
theorem Acts.announces (acts : work.Acts flag s s' work' events) (stored : .stored ∈ events) :
    events = [.stored] ∧ work'.Announcing flag := by
  cases acts with
  | @write call move p next now =>
    cases p with
    | publish pos =>
      have own : call.queue.flagWord? = some flag := (Queue.mem_tells.mp stored).1
      refine ⟨if_pos own, call, ?_, own⟩
      unfold WriteCall.step
      simp only [own]
      rfl
    | raiseOwn =>
      have other := (Queue.mem_tells.mp stored).2
      cases other
    | raiseNotify => exact absurd stored (Waiting.stored_notMem_serves _ _)
    | clear => exact absurd stored (Waiting.stored_notMem_begins _ _)
    | _ => cases stored
  | @read call move st next now =>
    obtain ⟨q, buffer, p⟩ := st
    cases p with
    | raiseOwn =>
      have other := (Queue.mem_tells.mp stored).2
      cases other
    | raiseNotify => exact absurd stored (Waiting.stored_notMem_serves _ _)
    | clear => exact absurd stored (Waiting.stored_notMem_begins _ _)
    | _ => cases stored
  | @flag client call w move p next now =>
    unfold FlagCall.events at stored
    split at stored
    · cases (FlagWord.mem_told.mp stored).2
    · cases (FlagWord.mem_told.mp stored).2
    · cases (FlagWord.mem_told.mp stored).2
    · cases stored

/-- and that is what this step does. -/
theorem Acts.published (acts : work.Acts flag s s' work' events)
    (announcing : work.Announcing flag) : .published ∈ events := by
  obtain ⟨call, rfl, own⟩ := announcing
  cases acts with
  | write next now =>
    cases next
    exact Queue.mem_tells.mpr ⟨own, rfl⟩

end Work

/-! ## Companies -/

/-- A call that a party is in the middle of or has ended, or the time between two calls;
and what was told the word in it. -/
structure Hand where
  type : ElementType
  work : Work type
  told : List FlagEvent

/-- What was told in a call is what the call has to tell, and the history has it in the
same order. -/
structure Hand.Accounted (flag : FlagWord) (history : List FlagEvent) (h : Hand) : Prop where
  tells : h.work.Tells flag h.told
  order : h.told.Sublist history

/-- A store and parties at work in it. Their calls that have ended and everything that was
told the word are kept, the latest first. -/
structure Company where
  store : Store
  hands : List Hand
  ended : List Hand
  history : List FlagEvent

namespace Company

variable {t₀ t : ElementType} {home : Queue t₀} {flag : FlagWord} {s : Store} {c c' : Company}
  {i : Nat} {work work' : Work t} {told events : List FlagEvent}

/-- All calls that have ended, and the work of all parties. -/
def all (c : Company) : List Hand := c.ended ++ c.hands

/-- A party turns to something else without telling anything. -/
def turn (c : Company) (i : Nat) (work : Work t) : Company :=
  { c with hands := c.hands.set i ⟨t, work, []⟩ }

/-- A party joins. -/
def join (c : Company) (client : Client t) : Company :=
  { c with hands := c.hands ++ [⟨t, .holding client, []⟩] }

/-- A quiet request is made of a handle. -/
def ask (c : Company) (i : Nat) (client : Client t) (r : Client.Request t) : Company :=
  let outcome := client.step (client.queue.memory c.store) r
  { c.turn i (.holding outcome.client) with
    store := c.store.setMemory client.queue.region.memory outcome.memory }

/-- A party has taken a step of its call. -/
def record (c : Company) (i : Nat) (s : Store) (work : Work t) (events told : List FlagEvent) :
    Company where
  store := s
  hands := c.hands.set i ⟨t, work, events ++ told⟩
  ended := c.ended
  history := events ++ c.history

/-- A party comes back from a call. -/
def close (c : Company) (i : Nat) (work : Work t) (told : List FlagEvent) (client : Client t) :
    Company :=
  { c.turn i (.holding client) with ended := ⟨t, work, told⟩ :: c.ended }

/-- One step. -/
inductive Step (home : Queue t₀) (flag : FlagWord) (c : Company) : Company → Prop
  /-- Anything may happen in other memories, and memories may be added. -/
  | elsewhere {s : Store} (grows : c.store.memories.size ≤ s.memories.size)
    (kept : s.memory flag.memory = c.store.memory flag.memory) :
    Step home flag c { c with store := s }
  /-- Somebody has got a handle. -/
  | join {t : ElementType} {q : Queue t} (fellow : home.Fellow q) :
    Step home flag c (c.join ⟨q, .idle⟩)
  | ask {i : Nat} {t : ElementType} {client : Client t} {told : List FlagEvent}
    (here : c.hands[i]? = some ⟨t, .holding client, told⟩) {r : Client.Request t}
    (quiet : r.quiet = true) : Step home flag c (c.ask i client r)
  | begin {i : Nat} {t : ElementType} {work work' : Work t} {told : List FlagEvent}
    (here : c.hands[i]? = some ⟨t, work, told⟩) (begins : work.Begins flag c.store work') :
    Step home flag c (c.turn i work')
  | act {i : Nat} {t : ElementType} {work work' : Work t} {told events : List FlagEvent}
    {s : Store} (here : c.hands[i]? = some ⟨t, work, told⟩)
    (acts : work.Acts flag c.store s work' events) :
    Step home flag c (c.record i s work' events told)
  | close {i : Nat} {t : ElementType} {work : Work t} {told : List FlagEvent} {client : Client t}
    (here : c.hands[i]? = some ⟨t, work, told⟩) (returns : work.Returns client) :
    Step home flag c (c.close i work told client)

/-- Nobody has a handle yet, and nothing was told. -/
def start (s : Store) : Company := ⟨s, [], [], []⟩

/-- What comes of it. -/
inductive Reachable (home : Queue t₀) (flag : FlagWord) (s : Store) : Company → Prop
  | start : Reachable home flag s (start s)
  | next {c c' : Company} (before : Reachable home flag s c) (step : Step home flag c c') :
    Reachable home flag s c'

/-- Somebody has moved the write counter of the queue, and is about to announce it. -/
def Announcing (flag : FlagWord) (c : Company) : Prop :=
  ∃ (i : Nat) (h : Hand), c.hands[i]? = some h ∧ h.work.Announcing flag

/-- What the calls have told, taken together. -/
def accounts (c : Company) : List FlagEvent := c.all.flatMap (·.told)

/-- The word is what its history says, and its history is what the calls have told. Every
account is in order, and every store of the write counter is announced. -/
structure Holds (home : Queue t₀) (flag : FlagWord) (c : Company) : Prop where
  mapped : flag.memory < c.store.memories.size
  word : c.store.wordBits flag = FlagEvent.replay 0 c.history
  told : c.history.Perm c.accounts
  accounted : ∀ h ∈ c.all, h.Accounted flag c.history
  ended : ∀ h ∈ c.ended, ∃ client, h.work.Returns client
  sane : ∀ h ∈ c.hands, h.work.Sane home flag
  announced : ∀ {later earlier}, c.history = later ++ .stored :: earlier →
    .published ∈ later ∨ c.Announcing flag

/-! ## One party goes on -/

section Hands

variable {hands : List Hand} {h : Hand}

/-- One account takes the place of another. -/
theorem perm_told_set (here : hands[i]? = some h) (new : Hand) :
    (new.told ++ hands.flatMap (·.told)).Perm (h.told ++ (hands.set i new).flatMap (·.told)) := by
  induction hands generalizing i with
  | nil => cases here
  | cons first rest ih =>
    cases i with
    | zero =>
      obtain rfl := Option.some.inj here
      exact List.perm_append_comm_assoc ..
    | succ i =>
      have inner := (ih here).append_left first.told
      have left := List.perm_append_comm_assoc new.told first.told (rest.flatMap (·.told))
      have right := List.perm_append_comm_assoc first.told h.told
        ((rest.set i new).flatMap (·.told))
      exact (left.trans inner).trans right

theorem forall_mem_set {P : Hand → Prop} (before : ∀ h ∈ hands, P h) {new : Hand} (now : P new)
    (i : Nat) : ∀ h ∈ hands.set i new, P h := by
  intro h mem
  rcases List.mem_or_eq_of_mem_set mem with old | rfl
  · exact before h old
  · exact now

end Hands

/-- Whoever is about to announce something still is when another party goes on. -/
theorem Announcing.set (announcing : c.Announcing flag) {h new : Hand}
    (here : c.hands[i]? = some h) (other : ¬ h.work.Announcing flag)
    (goes : c'.hands = c.hands.set i new) : c'.Announcing flag := by
  obtain ⟨j, h', there, so⟩ := announcing
  refine ⟨j, h', ?_, so⟩
  have ne : i ≠ j := by
    rintro rfl
    cases here.symm.trans there
    exact other so
  rw [goes, List.getElem?_set_ne ne]
  exact there

/-- The store may change, if the word stays. -/
theorem Holds.withStore (holds : c.Holds home flag)
    (grows : c.store.memories.size ≤ s.memories.size)
    (kept : s.wordBits flag = c.store.wordBits flag) :
    ({ c with store := s } : Company).Holds home flag :=
  { holds with
    mapped := Nat.lt_of_lt_of_le holds.mapped grows
    word := kept.trans holds.word }

theorem Holds.join (holds : c.Holds home flag) {q : Queue t} (fellow : home.Fellow q) :
    (c.join ⟨q, .idle⟩).Holds home flag where
  mapped := holds.mapped
  word := holds.word
  told := by simpa [accounts, all, Company.join] using holds.told
  accounted := by
    rw [all, Company.join, ← List.append_assoc]
    exact List.forall_mem_append.mpr
      ⟨holds.accounted, List.forall_mem_singleton.mpr ⟨rfl, List.nil_sublist _⟩⟩
  ended := holds.ended
  sane := List.forall_mem_append.mpr
    ⟨holds.sane, List.forall_mem_singleton.mpr ⟨fellow, fellow.sound, nofun⟩⟩
  announced split := (holds.announced split).imp_right fun ⟨i, h, there, so⟩ =>
    ⟨i, h, (List.getElem?_append_left (List.getElem?_eq_some_iff.mp there).1).trans there, so⟩

/-- A party turns to something else, after it has told nothing. -/
theorem Holds.turn (holds : c.Holds home flag) (here : c.hands[i]? = some ⟨t, work, []⟩)
    (other : ¬ work.Announcing flag) (sane : work'.Sane home flag) (tells : work'.Tells flag []) :
    (c.turn i work').Holds home flag where
  mapped := holds.mapped
  word := holds.word
  told := by
    have same := (perm_told_set here ⟨t, work', []⟩).append_left (c.ended.flatMap (·.told))
    refine holds.told.trans ?_
    rw [accounts, accounts, all, all, List.flatMap_append, List.flatMap_append]
    exact same
  accounted := by
    obtain ⟨ended, hands⟩ := List.forall_mem_append.mp holds.accounted
    exact List.forall_mem_append.mpr
      ⟨ended, forall_mem_set hands ⟨tells, List.nil_sublist _⟩ i⟩
  ended := holds.ended
  sane := forall_mem_set holds.sane sane i
  announced split := (holds.announced split).imp_right fun some => some.set here other rfl

/-- A call has ended: its account is kept. -/
theorem Holds.close (holds : c.Holds home flag) (here : c.hands[i]? = some ⟨t, work, told⟩)
    {client : Client t} (returns : work.Returns client) :
    (c.close i work told client).Holds home flag where
  mapped := holds.mapped
  word := holds.word
  told := by
    have same := (perm_told_set here ⟨t, .holding client, []⟩).append_left
      (c.ended.flatMap (·.told))
    refine holds.told.trans ?_
    rw [accounts, accounts, all, all, List.flatMap_append, List.flatMap_append,
      Company.close, List.flatMap_cons, List.append_assoc]
    exact same.trans (List.perm_append_comm_assoc ..)
  accounted := by
    obtain ⟨ended, hands⟩ := List.forall_mem_append.mp holds.accounted
    have now := hands _ (List.mem_of_getElem? here)
    have idle : Hand.Accounted flag c.history ⟨t, .holding client, []⟩ :=
      ⟨rfl, List.nil_sublist _⟩
    exact List.forall_mem_append.mpr
      ⟨List.forall_mem_cons.mpr ⟨now, ended⟩, forall_mem_set hands idle i⟩
  ended := List.forall_mem_cons.mpr ⟨⟨client, returns⟩, holds.ended⟩
  sane := forall_mem_set holds.sane
    (returns.kept (holds.sane _ (List.mem_of_getElem? here))) i
  announced split := by
    have other : ¬ work.Announcing flag := by
      rintro ⟨call, rfl, -⟩
      cases returns
    exact (holds.announced split).imp_right fun some => some.set here other rfl

/-- A party has taken a step of its call. -/
theorem Holds.act (holds : c.Holds home flag) (own : home.flagWord? = some flag)
    (here : c.hands[i]? = some ⟨t, work, told⟩) (acts : work.Acts flag c.store s work' events) :
    (c.record i s work' events told).Holds home flag := by
  have mem := List.mem_of_getElem? here
  obtain ⟨ended, hands⟩ := List.forall_mem_append.mp holds.accounted
  have before := hands _ mem
  obtain ⟨size, word, sane, tells⟩ := acts.kept own holds.mapped (holds.sane _ mem) before.tells
  constructor
  · exact size ▸ holds.mapped
  · show s.wordBits flag = FlagEvent.replay 0 (events ++ c.history)
    rw [word, holds.word, FlagEvent.replay_append]
  · have same := perm_told_set here ⟨t, work', events ++ told⟩
    have more : (events ++ c.hands.flatMap (·.told)).Perm
        ((c.hands.set i ⟨t, work', events ++ told⟩).flatMap (·.told)) := by
      refine (List.perm_append_left_iff told).mp (.trans ?_ same)
      rw [List.append_assoc]
      exact List.perm_append_comm_assoc ..
    refine (holds.told.append_left events).trans ?_
    rw [accounts, accounts, all, all, List.flatMap_append, List.flatMap_append]
    exact (List.perm_append_comm_assoc ..).trans (more.append_left _)
  · have longer {h : Hand} (so : h.Accounted flag c.history) :
        h.Accounted flag (events ++ c.history) :=
      ⟨so.tells, so.order.trans (List.sublist_append_right ..)⟩
    exact List.forall_mem_append.mpr ⟨fun h mem => longer (ended h mem),
      forall_mem_set (fun h mem => longer (hands h mem))
        ⟨tells, (List.Sublist.refl events).append before.order⟩ i⟩
  · exact holds.ended
  · exact forall_mem_set holds.sane sane i
  · intro later earlier split
    -- a store of before was announced before, or is announced now, or will be
    have old (mid : List FlagEvent) (before : c.history = mid ++ .stored :: earlier) :
        .published ∈ events ++ mid ∨ (c.record i s work' events told).Announcing flag := by
      rcases holds.announced before with announced | announcing
      · exact .inl (List.mem_append_right _ announced)
      · by_cases now : work.Announcing flag
        · exact .inl (List.mem_append_left _ (acts.published now))
        · exact .inr (announcing.set here now rfl)
    have parted : events ++ c.history = later ++ .stored :: earlier := split
    rcases List.append_eq_append_iff.mp parted with ⟨mid, rfl, before⟩ | ⟨mid, rfl, after⟩
    · exact old mid before
    · cases mid with
      | nil => simpa using old [] after.symm
      | cons e rest =>
        obtain ⟨rfl, -⟩ := List.cons.inj after
        have announcing := (acts.announces (by simp)).2
        have inside := (List.getElem?_eq_some_iff.mp here).1
        exact .inr ⟨i, _, List.getElem?_set_self inside, announcing⟩

theorem Holds.step (holds : c.Holds home flag) (own : home.flagWord? = some flag)
    (step : Step home flag c c') : c'.Holds home flag := by
  cases step with
  | elsewhere grows kept =>
    refine holds.withStore grows ?_
    unfold Store.wordBits
    rw [kept]
  | join fellow => exact holds.join fellow
  | @ask i t client told here r quiet =>
    have mem := List.mem_of_getElem? here
    obtain ⟨fellow, ready⟩ := holds.sane _ mem
    obtain rfl : told = [] := (holds.accounted _ (List.mem_append_right _ mem)).tells
    have continues := client.step_continues (client.queue.memory c.store) r
    have kept := fellow.word_update own holds.mapped (f := fun m => (client.step m r).memory)
      (Client.flagBits_step_quiet ready _ quiet)
    have asked := holds.withStore (s := c.store.update client.queue.region.memory
      fun m => (client.step m r).memory) (by simp) kept
    refine asked.turn here ?_ ⟨fellow.continues continues, ready.step _ r⟩ rfl
    rintro ⟨call, ⟨⟩, -⟩
  | begin here begins =>
    have mem := List.mem_of_getElem? here
    obtain ⟨sane, tells⟩ := begins.kept own (holds.sane _ mem)
    have nothing := (holds.accounted _ (List.mem_append_right _ mem)).tells
    cases begins <;> cases nothing <;> exact holds.turn here (by rintro ⟨call, ⟨⟩, -⟩) sane tells
  | act here acts => exact holds.act own here acts
  | close here returns => exact holds.close here returns

theorem holds_reachable (own : home.flagWord? = some flag)
    (mapped : flag.memory < s.memories.size) (blank : s.wordBits flag = 0)
    (reachable : Reachable home flag s c) : c.Holds home flag := by
  induction reachable with
  | start =>
    exact ⟨mapped, blank, .refl _, List.forall_mem_nil _, List.forall_mem_nil _,
      List.forall_mem_nil _, fun split => by cases List.append_eq_nil_iff.mp split.symm |>.2⟩
  | next before step ih => exact ih.step own step

end Company

/-! ## The result -/

theorem Memory.load32_blank (size a : Nat) : (Memory.blank size).load32 a = 0 := by
  unfold Memory.load32 Memory.loadNat Memory.bytes
  simp only [Memory.byte_blank]
  rfl

namespace Queue

variable {t t₀ : ElementType} {home : Queue t₀} {flag : FlagWord}

/-- The handle that a queue was created with is one of its handles. -/
theorem fellow_of_create {flavor : Flavor} {config : QueueConfig} {s s' : Store}
    (ok : create t₀ flavor config s = .ok (home, s')) : home.Fellow home :=
  ⟨sound_of_create ok, fun _ => rfl⟩

/-- So is every handle that joins with its descriptor, for elements of whatever type, -/
theorem fellow_of_attach {flavor : Flavor} {s : Store} {q : Queue t}
    (ok : attach t flavor home.descriptor s = .ok q) : home.Fellow q := by
  obtain ⟨-, -, -, -, -, same, -⟩ := attach_eq_ok ok
  exact ⟨sound_of_attach ok, fun _ => same⟩

/-- and every handle on a queue in another memory does no harm. -/
theorem fellow_of_apart {q : Queue t} (sound : q.Sound)
    (apart : q.region.memory ≠ home.region.memory) : home.Fellow q :=
  ⟨sound, fun same => absurd same apart⟩

/-- The flag word of a queue, told by its history. -/
structure FlagHistory (flag : FlagWord) (c : Company) : Prop where
  /-- A bit is set if and only if the latest event on it was a setting one. -/
  bits : ∀ b, bitOf (c.store.wordBits flag) b = (FlagEvent.latest? b c.history).any (·.sets b)
  /-- The events are what the calls have told, those that have ended and those that have
  not, -/
  told : c.history.Perm c.accounts
  /-- and every call has told what it has to tell, no more and no less. -/
  accounted : ∀ h ∈ c.all, h.Accounted flag c.history
  ended : ∀ h ∈ c.ended, ∃ client, h.work.Returns client
  /-- If a bit is clear, it was cleared after it was set. -/
  cleared : ∀ {b e later earlier}, bitOf (c.store.wordBits flag) b = false → e.sets b = true →
    c.history = later ++ e :: earlier → ∃ e' ∈ later, e'.clears b = true
  /-- If the bit for readers is clear, it was cleared after the write counter was
  moved, unless whoever moved it is just about to set the bit. -/
  stored : ∀ {b later earlier}, bitOf (c.store.wordBits flag) b = false →
    bitOf notEmpty b = true → c.history = later ++ .stored :: earlier →
    (∃ e ∈ later, e.clears b = true) ∨ c.Announcing flag

/-- Whatever any number of parties do with a queue that has a flag, the flag word is
what its history says, and its history is what the calls tell. -/
theorem flag_history {flavor : Flavor} {config : QueueConfig}
    {s s' : Store} (ok : create t₀ flavor config s = .ok (home, s'))
    (own : home.flagWord? = some flag) {c : Company}
    (reachable : Company.Reachable home flag s' c) : FlagHistory flag c := by
  obtain ⟨layout, -, region, -⟩ := create_eq_ok ok
  obtain ⟨new, -, -, -, memories, -⟩ := Store.create_eq_ok region
  have mapped : flag.memory < s'.memories.size := by
    rw [memory_flagWord own, new, memories]
    simp
  have blank : s'.wordBits flag = 0 := by
    unfold Store.wordBits EventFlag.bits
    rw [memory_flagWord own, (Store.memory_create region).1, Memory.load32_blank]
  have holds := Company.holds_reachable own mapped blank reachable
  constructor
  · intro b
    rw [holds.word, FlagEvent.bit_replay]
  · exact holds.told
  · exact holds.accounted
  · exact holds.ended
  · intro b e later earlier clear sets split
    rw [holds.word, split] at clear
    exact FlagEvent.cleared_since clear sets
  · intro b later earlier clear bit split
    refine (holds.announced split).imp_left fun announced => ?_
    obtain ⟨newer, older, rfl⟩ := List.append_of_mem announced
    rw [holds.word, split, List.append_assoc] at clear
    obtain ⟨e, mem, clears⟩ := FlagEvent.cleared_since clear bit
    exact ⟨e, List.mem_append_left _ mem, clears⟩

/-- A write of one byte. -/
def oneWrite : WriteCall (.primitive .u8) := ⟨Duo.flaggedBytes, [byteQuantum 7], none⟩

/-- The first party takes a step of it. -/
def oneStep (c : Company) (p : WritePoint) (told : List FlagEvent) : Company :=
  c.record 0 (oneWrite.step 0 c.store p).1 (.writing oneWrite (oneWrite.step 0 c.store p).2)
    (oneWrite.events ⟨0, 128⟩ p) told

/-- A party has published a byte and announced it. -/
def oneAnnounced : Company :=
  let begun := ((Company.start Duo.flaggedStore).join ⟨Duo.flaggedBytes, .idle⟩).turn 0
    (.writing oneWrite (.go .begin))
  let filled := oneStep (oneStep (oneStep begun .begin []) (.judge 0) []) (.fill 0) []
  oneStep (oneStep filled (.publish 0) []) .raiseOwn [.stored]

/-- The bit for readers is set by then. -/
theorem flag_history_flaggedBytes :
    Company.Reachable Duo.flaggedBytes ⟨0, 128⟩ Duo.flaggedStore oneAnnounced ∧
      oneAnnounced.history = [.published, .stored] ∧
      bitOf (oneAnnounced.store.wordBits ⟨0, 128⟩) 1 = true := by
  have ok : create (.primitive .u8) .synchronized
      { quantumCount := 4, eventFlag := true, name := some "four" } .empty =
        .ok (Duo.flaggedBytes, Duo.flaggedStore) := rfl
  have own : Duo.flaggedBytes.flagWord? = some ⟨0, 128⟩ := rfl
  have reachable : Company.Reachable Duo.flaggedBytes ⟨0, 128⟩ Duo.flaggedStore oneAnnounced := by
    unfold oneAnnounced
    iterate 5 refine .next ?_ (.act rfl (.write rfl 0))
    exact .next (.next .start (.join (fellow_of_create ok))) (.begin rfl (.write _ _))
  have history : oneAnnounced.history = [.published, .stored] := rfl
  refine ⟨reachable, history, ?_⟩
  rw [(flag_history ok own reachable).bits, history]
  decide

end Queue

end SharedQueue
