/-
SharedQueue.Proofs.Fifo — a synchronized queue gives back what it was given,
in order.

* `Ledger.Balanced` — the counters count what was published and consumed,
  what was consumed is the beginning of what was published, and the slots
  between the counters hold the rest.
* `Member.Orderly` — an open write begins at the write counter and stays
  clear of the unread quanta, whatever was set in its slots; an open read
  begins at the read counter and stays among the published ones.
* `fifo`, `fifo_kept` — both together, and that every step keeps them.
* `consumed_prefix` — what this comes to.

The two positions of a transaction are tied to the counters for as long as it
is open, because only its own commit moves the counter that it began at. What
other handles do meanwhile moves the other counter, and only away from it.
-/
import SharedQueue.Proofs.Traffic

namespace SharedQueue

/-! ## Counters and quanta -/

/-- The slots between the counters hold what was published and not yet
consumed. -/
structure Ledger.Balanced {t : ElementType} (l : Ledger t) (v : RingView t) (capacity : Nat) :
    Prop where
  published : l.published.length = v.written
  consumed : l.consumed = l.published.take v.read
  read_le : v.read ≤ v.written
  room : v.written ≤ v.read + capacity
  stored : ∀ p, v.read ≤ p → p < v.written → l.published[p]? = some (v.quantum p)

/-- An open transaction keeps to its side of the counters. -/
structure Member.Orderly {t : ElementType} (x : Member t) (v : RingView t) (capacity : Nat) :
    Prop where
  writing : ∀ {tx}, x.client.activity = .writing tx →
    tx.pos.toNat = v.written ∧ v.written + tx.count ≤ v.read + capacity ∧
      v.written + tx.count < wordLimit ∧ x.draft = v.stretch v.written tx.count
  reading : ∀ {tx}, x.client.activity = .reading tx →
    tx.pos.toNat = v.read ∧ v.read + tx.count ≤ v.written

namespace Ledger.Balanced

variable {t : ElementType} {l : Ledger t} {v : RingView t} {capacity count : Nat}

/-- The quanta that come next are those in the slots from the read counter
on. -/
theorem unread (balanced : l.Balanced v capacity) (enough : v.read + count ≤ v.written) :
    (l.published.drop v.read).take count = v.stretch v.read count := by
  have published := balanced.published
  apply List.ext_getElem
  · rw [List.length_take, List.length_drop, RingView.length_stretch]
    omega
  · intro i hi hi'
    rw [RingView.length_stretch] at hi'
    have stored := balanced.stored (v.read + i) (by omega) (by omega)
    rw [List.getElem_take, List.getElem_drop, RingView.getElem_stretch]
    exact (List.getElem_eq_iff _).mpr stored

theorem publish (balanced : l.Balanced v capacity)
    (room : v.written + count ≤ v.read + capacity) :
    Balanced { l with published := l.published ++ v.stretch v.written count }
      { v with written := v.written + count } capacity := by
  have published := balanced.published
  have read_le := balanced.read_le
  constructor
  · show (l.published ++ v.stretch v.written count).length = v.written + count
    rw [List.length_append, RingView.length_stretch, published]
  · show l.consumed = (l.published ++ v.stretch v.written count).take v.read
    rw [List.take_append_of_le_length (by omega)]
    exact balanced.consumed
  · exact Nat.le_trans read_le (Nat.le_add_right _ _)
  · exact room
  · intro p low high
    show (l.published ++ v.stretch v.written count)[p]? = some (v.quantum p)
    by_cases old : p < v.written
    · rw [List.getElem?_append_left (by omega)]
      exact balanced.stored p low old
    · have high : p < v.written + count := high
      have place : v.written + (p - v.written) = p := by omega
      have inside : p - v.written < (v.stretch v.written count).length := by
        rw [RingView.length_stretch]
        omega
      rw [List.getElem?_append_right (by omega), published, List.getElem?_eq_getElem inside,
        RingView.getElem_stretch, place]

theorem consume (balanced : l.Balanced v capacity) (enough : v.read + count ≤ v.written) :
    Balanced { l with consumed := l.consumed ++ v.stretch v.read count }
      { v with read := v.read + count } capacity := by
  have room := balanced.room
  constructor
  · exact balanced.published
  · show l.consumed ++ v.stretch v.read count = l.published.take (v.read + count)
    rw [List.take_add, balanced.consumed, balanced.unread enough]
  · exact enough
  · show v.written ≤ v.read + count + capacity
    omega
  · intro p low high
    exact balanced.stored p (Nat.le_trans (Nat.le_add_right _ _) low) high

/-- Slots that hold no unread quantum may hold anything. -/
theorem scribble (balanced : l.Balanced v capacity) {quantum : Nat → t.Value}
    (kept : ∀ p, v.read ≤ p → p < v.written → quantum p = v.quantum p) :
    Balanced l { v with quantum := quantum } capacity := by
  refine ⟨balanced.published, balanced.consumed, balanced.read_le, balanced.room, ?_⟩
  intro p low high
  show l.published[p]? = some (quantum p)
  rw [kept p low high]
  exact balanced.stored p low high

end Ledger.Balanced

/-- What every run of a synchronized queue keeps. -/
def fifo {t : ElementType} : Promise t where
  ledger l v capacity := l.Balanced v capacity
  member x _ v capacity := x.Orderly v capacity

/-- A handle without an open transaction is orderly. -/
theorem Member.orderly_of_idle {t : ElementType} {x : Member t} {v : RingView t} {capacity : Nat}
    (idle : x.client.activity = .idle) : x.Orderly v capacity := by
  constructor
  · intro tx writing
    rw [idle] at writing
    cases writing
  · intro tx reading
    rw [idle] at reading
    cases reading

/-! ## What one operation keeps -/

namespace Desk

section Synchronized

variable {t : ElementType} {d : Desk t} {tx : Transaction}
  (flavor : d.queue.flavor = .synchronized) (holds : d.Holds fifo)

include holds

/-- What fills slots of an open write keeps clear of the unread quanta, and
while a write is open nobody else looks at slots. -/
theorem fifo_fillIn {draft : List t.Value} {m : Memory} {quantum : Nat → t.Value}
    (writing : d.member.client.activity = .writing tx)
    (view : d.queue.view m = { d.view with quantum := quantum })
    (kept : ∀ p, (∀ i < tx.count, p % d.queue.capacity ≠ (tx.pos.toNat + i) % d.queue.capacity) →
      quantum p = d.view.quantum p)
    (whole : d.member.draft = d.view.stretch tx.pos.toNat tx.count →
      draft = (d.queue.view m).stretch tx.pos.toNat tx.count) :
    d.Keeps fifo ⟨{ d.member with draft := draft }, m, d.ledger⟩ := by
  have balanced : d.ledger.Balanced d.view d.queue.capacity := holds.ledger
  have orderly : d.member.Orderly d.view d.queue.capacity := holds.member
  obtain ⟨pos, room, below, before⟩ := orderly.writing writing
  constructor
  · show d.ledger.Balanced (d.queue.view m) d.queue.capacity
    rw [view]
    apply balanced.scribble
    intro p low high
    apply kept
    intro i hi
    exact mod_ne_of_near (by omega) (by omega)
  · show Member.Orderly _ (d.queue.view m) d.queue.capacity
    constructor
    · intro tx' writing'
      have both : d.member.client.activity = .writing tx' := writing'
      obtain rfl := Activity.writing.inj (writing.symm.trans both)
      have filled := whole (by rw [before, pos])
      rw [view, pos] at *
      exact ⟨rfl, room, below, filled⟩
    · intro tx' reading
      have both : d.member.client.activity = .reading tx' := reading
      rw [writing] at both
      cases both
  · intro y before notWriting _
    show y.Orderly (d.queue.view m) d.queue.capacity
    have before : y.Orderly d.view d.queue.capacity := before
    rw [view]
    constructor
    · intro tx' writing'
      exact absurd writing' (notWriting tx tx' writing)
    · intro tx' reading
      exact before.reading reading

theorem fifo_commitWrite (writing : d.member.client.activity = .writing tx) :
    d.Keeps fifo ⟨{ d.member.turn d.queue .idle with draft := [] },
      d.queue.commitWrite d.memory tx,
      { d.ledger with published := d.ledger.published ++ d.member.draft }⟩ := by
  have sound : d.queue.Sound := holds.ready.sound
  have balanced : d.ledger.Balanced d.view d.queue.capacity := holds.ledger
  have orderly : d.member.Orderly d.view d.queue.capacity := holds.member
  obtain ⟨pos, room, below, draft⟩ := orderly.writing writing
  by_cases none : tx.count = 0
  · refine Keeps.of_view holds ?_ ?_ (Member.orderly_of_idle rfl)
    · show d.queue.view (d.queue.commitWrite d.memory tx) = d.view
      rw [Queue.commitWrite, if_pos none]
      rfl
    · show { d.ledger with published := d.ledger.published ++ d.member.draft } = d.ledger
      rw [draft, none]
      show { d.ledger with published := d.ledger.published ++ [] } = d.ledger
      rw [List.append_nil]
  · have moved : d.queue.view (d.queue.commitWrite d.memory tx)
        = { d.view with written := d.view.written + tx.count } := by
      rw [Queue.view_commitWrite sound d.memory none,
        Transaction.toNat_stop (by rw [pos]; exact below), pos]
      rfl
    constructor
    · show Ledger.Balanced { d.ledger with published := d.ledger.published ++ d.member.draft }
        (d.queue.view (d.queue.commitWrite d.memory tx)) d.queue.capacity
      rw [moved, draft]
      exact balanced.publish room
    · exact Member.orderly_of_idle rfl
    · intro y before notWriting _
      show y.Orderly (d.queue.view (d.queue.commitWrite d.memory tx)) d.queue.capacity
      have before : y.Orderly d.view d.queue.capacity := before
      rw [moved]
      constructor
      · intro tx' writing'
        exact absurd writing' (notWriting tx tx' writing)
      · intro tx' reading
        obtain ⟨pos', enough⟩ := before.reading reading
        exact ⟨pos', Nat.le_trans enough (Nat.le_add_right _ _)⟩

include flavor

theorem fifo_commitRead {q : Queue t} {m : Memory}
    (reading : d.member.client.activity = .reading tx)
    (committed : d.queue.commitRead d.memory tx = (.ok (), q, m)) :
    d.Keeps fifo ⟨(d.member.served tx.pos tx.count d.member.seen).turn q .idle, m,
      { d.ledger with
        consumed := d.ledger.consumed ++ d.queue.quanta d.memory tx.pos.toNat tx.count }⟩ := by
  have sound : d.queue.Sound := holds.ready.sound
  have balanced : d.ledger.Balanced d.view d.queue.capacity := holds.ledger
  have orderly : d.member.Orderly d.view d.queue.capacity := holds.member
  obtain ⟨pos, enough⟩ := orderly.reading reading
  have taken : d.queue.quanta d.memory tx.pos.toNat tx.count
      = d.view.stretch d.view.read tx.count := by
    rw [pos]
    rfl
  rw [taken]
  by_cases none : tx.count = 0
  · rw [Queue.commitRead, if_pos none] at committed
    obtain ⟨-, rest⟩ := Prod.mk.inj committed
    obtain ⟨rfl, rfl⟩ := Prod.mk.inj rest
    refine Keeps.of_view holds ?_ ?_ (Member.orderly_of_idle rfl)
    · rfl
    · rw [none]
      show { d.ledger with consumed := d.ledger.consumed ++ [] } = d.ledger
      rw [List.append_nil]
  · rw [Queue.commitRead_synchronized sound flavor none] at committed
    obtain ⟨-, rest⟩ := Prod.mk.inj committed
    obtain ⟨rfl, rfl⟩ := Prod.mk.inj rest
    have below : d.view.written < wordLimit := (d.queue.writePos d.memory).toNat_lt
    have moved : d.queue.view (d.queue.notify (d.queue.release d.memory tx.stop).2 notFull)
        = { d.view with read := d.view.read + tx.count } := by
      rw [Queue.view_notify sound, Queue.view_release sound flavor,
        Transaction.toNat_stop (by omega), pos]
      rfl
    constructor
    · show Ledger.Balanced
        { d.ledger with consumed := d.ledger.consumed ++ d.view.stretch d.view.read tx.count }
        (d.queue.view (d.queue.notify (d.queue.release d.memory tx.stop).2 notFull))
        d.queue.capacity
      rw [moved]
      exact balanced.consume enough
    · exact Member.orderly_of_idle rfl
    · intro y before _ notReading
      show y.Orderly (d.queue.view (d.queue.notify (d.queue.release d.memory tx.stop).2 notFull))
        d.queue.capacity
      have before : y.Orderly d.view d.queue.capacity := before
      rw [moved]
      constructor
      · intro tx' writing
        obtain ⟨pos', room, below', draft⟩ := before.writing writing
        refine ⟨pos', ?_, below', draft⟩
        show d.view.written + tx'.count ≤ d.view.read + tx.count + d.queue.capacity
        omega
      · intro tx' reading'
        exact absurd reading' (notReading flavor tx tx' reading)

theorem fifo_openWrite {m : Memory}
    (begun : d.queue.beginWrite d.memory tx.count = .ok (tx, m))
    (below : tx.pos.toNat + tx.count < wordLimit) :
    d.Keeps fifo ⟨{ d.member.turn d.queue (.writing tx) with
      draft := d.queue.quanta d.memory tx.pos.toNat tx.count }, m, d.ledger⟩ := by
  have sound : d.queue.Sound := holds.ready.sound
  have balanced : d.ledger.Balanced d.view d.queue.capacity := holds.ledger
  obtain ⟨shape, -, room, changed⟩ := Queue.beginWrite_eq_ok begun
  have same : m = d.memory := by
    rw [changed, Queue.reserve_of_synchronized sound flavor, ite_self]
  subst same
  have pos : tx.pos.toNat = d.view.written := by
    rw [shape]
    rfl
  have room : tx.count ≤ d.queue.capacity - (d.view.written - d.view.read) := by
    have distance := distance_of_le balanced.read_le
    have room := room flavor
    unfold Queue.availableToWrite Flavor.availableToWrite at room
    rw [sound.readPos_eq flavor, distance] at room
    exact room
  have behind := balanced.room
  refine Keeps.of_view holds ?_ ?_ ⟨?_, ?_⟩
  · rfl
  · rfl
  · intro tx' writing
    obtain rfl := Activity.writing.inj writing
    refine ⟨pos, by omega, by rw [← pos]; exact below, ?_⟩
    rw [← pos]
    rfl
  · intro tx' reading
    cases reading

theorem fifo_openRead (begun : d.queue.beginRead d.memory tx.count = (.ok tx, d.queue)) :
    d.Keeps fifo { d with member := { d.member.turn d.queue (.reading tx) with seen := [] } } := by
  have sound : d.queue.Sound := holds.ready.sound
  have balanced : d.ledger.Balanced d.view d.queue.capacity := holds.ledger
  obtain ⟨-, shape, -, enough, -⟩ := Queue.beginRead_eq_ok begun
  have pos : tx.pos.toNat = d.view.read := by
    rw [shape, sound.readPos_eq flavor]
    rfl
  have enough : tx.count ≤ d.view.written - d.view.read := by
    have distance := distance_of_le balanced.read_le
    unfold Queue.availableToRead Flavor.availableToRead at enough
    rw [sound.readPos_eq flavor, distance] at enough
    exact enough
  have read_le := balanced.read_le
  refine Keeps.of_view holds ?_ ?_ ⟨?_, ?_⟩
  · rfl
  · rfl
  · intro tx' writing
    cases writing
  · intro tx' reading
    obtain rfl := Activity.reading.inj reading
    exact ⟨pos, by omega⟩

end Synchronized

end Desk

/-! ## What every run keeps -/

theorem fifo_kept {t : ElementType} : Traffic.Kept (t := t) fifo .synchronized := by
  constructor
  · intro v capacity written read _
    constructor
    · rw [written]
      rfl
    · rw [read]
      rfl
    · rw [read]
      exact Nat.zero_le _
    · rw [written]
      exact Nat.zero_le _
    · intro p _ high
      rw [written] at high
      cases high
  · intro q m l _ _ _ _
    exact Member.orderly_of_idle rfl
  · intro d d' r flavor holds effect below
    have sound : d.queue.Sound := holds.ready.sound
    have orderly : d.member.Orderly d.view d.queue.capacity := holds.member
    cases effect with
    | quiet m same => exact .of_view holds same rfl holds.member
    | openWrite tx m idle asked begun =>
      exact Desk.fifo_openWrite flavor holds begun (below asked begun)
    | fillIn tx draft m quantum writing view kept whole =>
      exact Desk.fifo_fillIn holds writing view kept whole
    | commitWrite tx writing => exact Desk.fifo_commitWrite holds writing
    | abandonWrite tx writing => exact .of_view holds rfl rfl (Member.orderly_of_idle rfl)
    | openRead tx idle asked begun => exact Desk.fifo_openRead flavor holds begun
    | refuseRead count e q idle refused =>
      rcases Queue.beginRead_eq_error refused with ⟨rfl, -⟩ | ⟨flavor', -⟩
      · refine .of_view holds ?_ ?_ (Member.orderly_of_idle rfl)
        · rfl
        · rfl
      · rw [flavor] at flavor'
        cases flavor'
    | handOut tx taken reading there =>
      refine .of_view holds ?_ ?_ ⟨?_, ?_⟩
      · rfl
      · rfl
      · exact orderly.writing
      · exact orderly.reading
    | commitRead tx q m reading committed =>
      exact Desk.fifo_commitRead flavor holds reading committed
    | refuseCommit tx e q m reading refused =>
      -- the commit of a synchronized read never fails
      by_cases none : tx.count = 0
      · rw [Queue.commitRead, if_pos none] at refused
        cases (Prod.mk.inj refused).1
      · rw [Queue.commitRead_synchronized sound flavor none] at refused
        cases (Prod.mk.inj refused).1
    | abandonRead tx reading => exact .of_view holds rfl rfl (Member.orderly_of_idle rfl)

namespace Traffic

variable {t : ElementType} {home : Queue t} {w : Traffic t}

/-- In a synchronized queue the quanta that were consumed are the first of
those that were published. The counters count both, and an open transaction
sees the quanta that come next on its side. -/
theorem consumed_prefix (reach : Reachable home w) (flavor : home.flavor = .synchronized) :
    w.ledger.consumed <+: w.ledger.published ∧
      w.ledger.published.length = (home.writePos (w.memory home)).toNat ∧
      w.ledger.consumed.length = (home.readPos (w.memory home)).toNat ∧
      (∀ {k x tx}, w.members k = some x → x.client.activity = .writing tx →
        x.draft = x.client.queue.take (w.memory home) tx.pos tx.count) ∧
      ∀ {k x tx}, w.members k = some x → x.client.activity = .reading tx →
        x.client.queue.copyOut (w.memory home) tx tx.count =
            .ok ((w.ledger.published.drop w.ledger.consumed.length).take tx.count) ∧
          ∀ i < tx.count, ∃ v, w.ledger.published[w.ledger.consumed.length + i]? = some v ∧
            x.client.queue.get (w.memory home) tx i = .ok v := by
  have holds := holds_reachable fifo_kept reach flavor
  have regular := holds.regular
  have balanced : w.ledger.Balanced (w.view home) home.capacity := holds.ledger
  have orderly : ∀ {k x}, w.members k = some x → x.Orderly (w.view home) home.capacity :=
    fun here => holds.member here
  have counted : w.ledger.consumed.length = (w.view home).read := by
    rw [balanced.consumed, List.length_take, balanced.published]
    exact Nat.min_eq_left balanced.read_le
  refine ⟨?_, balanced.published, ?_, ?_, ?_⟩
  · rw [balanced.consumed]
    exact List.take_prefix _ _
  · rw [counted, regular.sound.readPos_eq flavor]
    rfl
  · intro k x tx here writing
    obtain ⟨pos, -, -, draft⟩ := (orderly here).writing writing
    have opened : x.client.activity.transaction? = some tx := by rw [writing]; rfl
    rw [draft, ← pos, regular.take_eq here opened]
  · intro k x tx here reading
    obtain ⟨pos, enough⟩ := (orderly here).reading reading
    have opened : x.client.activity.transaction? = some tx := by rw [reading]; rfl
    have fits : tx.count ≤ x.client.queue.capacity := (regular.ready here).fits opened
    constructor
    · rw [Queue.copyOut, if_pos rfl, regular.take_eq here opened, counted,
        balanced.unread enough, pos]
    · intro i hi
      have stored := balanced.stored ((w.view home).read + i) (by omega) (by omega)
      refine ⟨_, by rw [counted]; exact stored, ?_⟩
      rw [Queue.get, if_pos hi, Queue.runs, Runs.slot_of tx.pos fits hi, pos]
      exact congrArg (fun v : RingView t => Except.ok (v.quantum _))
        (Queue.view_congr (regular.kin here) _)

theorem consumed_prefix_fourBytes :
    ∃ w : Traffic (.primitive .u8), Reachable (fourBytes .synchronized) w ∧
      w.ledger.published = [byteQuantum 7, byteQuantum 8] ∧
      w.ledger.consumed <+: w.ledger.published ∧
      w.ledger.published.length
        = ((fourBytes .synchronized).writePos (w.memory (fourBytes .synchronized))).toNat := by
  have reach := reachable_fourBytes .synchronized (by decide : [7, 8].length ≤ 4)
  obtain ⟨before, published, -⟩ := consumed_prefix reach rfl
  exact ⟨_, reach, rfl, before, published⟩

end Traffic

end SharedQueue
