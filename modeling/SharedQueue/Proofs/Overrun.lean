/-
SharedQueue.Proofs.Overrun — what a private reader is given was published.

A writer of an unsynchronized queue waits for nobody: it may overwrite the
slots of an open read at any moment, even by a write that is given up later.
The reservation is what makes up for it: it is raised before a slot is
touched, and never goes back.

* `Ledger.Announced` — a position whose slot can only have been touched by a
  write beyond the reservation still holds what was published there.
* `Delivery.Intact`, `Follows` — all that a successful read handed out was
  published at its positions, and each read begins where the one before ended
  or where an overrun was made good.
* `Member.Tracked` — both for what a handle was given, and what an open read
  has handed out so far is right as long as the reservation stays within a
  ring of it. That is what its commit asks.
* `tracked`, `tracked_kept` — every step keeps all this.
* `reads_intact` — what this comes to.
-/
import SharedQueue.Proofs.Traffic

namespace SharedQueue

variable {t : ElementType}

/-! ## What readers are given -/

/-- The deliveries follow on each other, from position `pos` to position
`next`. -/
def Follows (pos : Nat) : List (Delivery t) → Nat → Prop
  | [], next => next = pos
  | .batch first count _ :: rest, next => first = pos ∧ Follows (pos + count) rest next
  | .lost told published :: rest, next =>
    told = published ∧ pos ≤ published ∧ Follows published rest next

/-- What was handed out is what was published. -/
def Delivery.Intact (published : List t.Value) : Delivery t → Prop
  | .batch pos count seen => pos + count ≤ published.length ∧
    ∀ p v, (p, v) ∈ seen → pos ≤ p ∧ p < pos + count ∧ published[p]? = some v
  | .lost _ total => total ≤ published.length

theorem follows_append {pos mid next : Nat} {log rest : List (Delivery t)}
    (first : Follows pos log mid) (second : Follows mid rest next) :
    Follows pos (log ++ rest) next := by
  induction log generalizing pos with
  | nil =>
    obtain rfl : mid = pos := first
    exact second
  | cons e log ih =>
    cases e with
    | batch start count seen =>
      obtain ⟨here, later⟩ := first
      exact ⟨here, ih later⟩
    | lost told total =>
      obtain ⟨here, ahead, later⟩ := first
      exact ⟨here, ahead, ih later⟩

theorem getElem?_of_prefix {α : Type} {l l' : List α} {p : Nat} {a : α} (grows : l <+: l')
    (there : l[p]? = some a) : l'[p]? = some a := by
  obtain ⟨rest, rfl⟩ := grows
  obtain ⟨inside, -⟩ := List.getElem?_eq_some_iff.mp there
  rw [List.getElem?_append_left inside]
  exact there

theorem Delivery.Intact.mono {published published' : List t.Value} {e : Delivery t}
    (intact : e.Intact published) (grows : published <+: published') : e.Intact published' := by
  have longer := grows.length_le
  cases e with
  | batch pos count seen =>
    obtain ⟨inside, given⟩ := intact
    refine ⟨Nat.le_trans inside longer, ?_⟩
    intro p v mem
    obtain ⟨low, high, there⟩ := given p v mem
    exact ⟨low, high, getElem?_of_prefix grows there⟩
  | lost told total => exact Nat.le_trans intact longer

/-! ## Reservations -/

/-- A position holds what was published there, if no write beyond the
reservation can have touched its slot. -/
structure Ledger.Announced (l : Ledger t) (v : RingView t) (capacity : Nat) : Prop where
  published : l.published.length = v.written
  announced : v.written ≤ v.reserved
  stored : ∀ p, p < v.written → v.reserved ≤ p + capacity →
    l.published[p]? = some (v.quantum p)

/-- The position of a private reader. -/
def Queue.ownPos (q : Queue t) : Nat :=
  match q.cursor with
  | .own pos => pos.toNat
  | .shared _ => 0

theorem Queue.Sound.ownPos_eq {q : Queue t} (sound : q.Sound)
    (flavor : q.flavor = .unsynchronized) (m : Memory) : (q.readPos m).toNat = q.ownPos := by
  obtain ⟨own, cursor⟩ := sound.cursor_own flavor
  simp only [Queue.readPos, Queue.ownPos, cursor, Cursor.load]

theorem Queue.ownPos_follow {q : Queue t} (sound : q.Sound) (flavor : q.flavor = .unsynchronized)
    (pos : UInt64) : (q.follow pos).ownPos = pos.toNat := by
  obtain ⟨own, cursor⟩ := sound.cursor_own flavor
  rw [follow_of_own cursor]
  rfl

/-- What a handle was given is right, and what it is being given will be if
its commit succeeds. -/
structure Member.Tracked (x : Member t) (l : Ledger t) (v : RingView t) (capacity : Nat) :
    Prop where
  follows : Follows x.start x.log x.client.queue.ownPos
  behind : x.client.queue.ownPos ≤ v.written
  intact : ∀ e ∈ x.log, e.Intact l.published
  writing : ∀ {tx}, x.client.activity = .writing tx →
    tx.pos.toNat = v.written ∧ v.written + tx.count ≤ v.reserved ∧
      v.written + tx.count < wordLimit ∧ x.draft = v.stretch v.written tx.count
  reading : ∀ {tx}, x.client.activity = .reading tx →
    tx.pos.toNat = x.client.queue.ownPos ∧ tx.pos.toNat + tx.count ≤ v.written ∧
      ∀ p value, (p, value) ∈ x.seen →
        tx.pos.toNat ≤ p ∧ p < tx.pos.toNat + tx.count ∧
          (v.reserved ≤ tx.pos.toNat + capacity → l.published[p]? = some value)

/-- What every run of an unsynchronized queue keeps. -/
def tracked : Promise t where
  ledger l v capacity := l.Announced v capacity
  member x l v capacity := x.Tracked l v capacity

namespace Ledger.Announced

variable {l : Ledger t} {v : RingView t} {capacity count : Nat}

theorem publish (announced : l.Announced v capacity)
    (room : v.written + count ≤ v.reserved) :
    Announced { l with published := l.published ++ v.stretch v.written count }
      { v with written := v.written + count } capacity := by
  have published := announced.published
  constructor
  · show (l.published ++ v.stretch v.written count).length = v.written + count
    rw [List.length_append, RingView.length_stretch, published]
  · exact room
  · intro p below near
    show (l.published ++ v.stretch v.written count)[p]? = some (v.quantum p)
    by_cases old : p < v.written
    · rw [List.getElem?_append_left (by omega)]
      exact announced.stored p old near
    · have below : p < v.written + count := below
      have place : v.written + (p - v.written) = p := by omega
      have inside : p - v.written < (v.stretch v.written count).length := by
        rw [RingView.length_stretch]
        omega
      rw [List.getElem?_append_right (by omega), published, List.getElem?_eq_getElem inside,
        RingView.getElem_stretch, place]

theorem reserve (announced : l.Announced v capacity) {reserved : Nat}
    (more : v.reserved ≤ reserved) : l.Announced { v with reserved := reserved } capacity := by
  refine ⟨announced.published, Nat.le_trans announced.announced more, ?_⟩
  intro p below near
  exact announced.stored p below (Nat.le_trans more near)

/-- Slots that the reservation covers may hold anything. -/
theorem scribble (announced : l.Announced v capacity) {quantum : Nat → t.Value}
    (kept : ∀ p, p < v.written → v.reserved ≤ p + capacity → quantum p = v.quantum p) :
    l.Announced { v with quantum := quantum } capacity := by
  refine ⟨announced.published, announced.announced, ?_⟩
  intro p below near
  show l.published[p]? = some (quantum p)
  rw [kept p below near]
  exact announced.stored p below near

end Ledger.Announced

namespace Member.Tracked

variable {x : Member t} {l l' : Ledger t} {v v' : RingView t} {capacity : Nat}

/-- More quanta and a higher reservation take nothing away from what is
known of a handle. -/
theorem mono (before : x.Tracked l v capacity) (grows : l.published <+: l'.published)
    (written : v.written ≤ v'.written) (reserved : v.reserved ≤ v'.reserved)
    (writing : (∀ tx, x.client.activity ≠ .writing tx) ∨
      (v'.written = v.written ∧ v'.quantum = v.quantum)) : x.Tracked l' v' capacity := by
  constructor
  · exact before.follows
  · exact Nat.le_trans before.behind written
  · intro e mem
    exact (before.intact e mem).mono grows
  · intro tx held
    rcases writing with none | ⟨same, same'⟩
    · exact absurd held (none tx)
    · obtain ⟨pos, room, below, draft⟩ := before.writing held
      refine ⟨?_, ?_, ?_, ?_⟩
      · rw [same]
        exact pos
      · rw [same]
        exact Nat.le_trans room reserved
      · rw [same]
        exact below
      · rw [same, draft]
        unfold RingView.stretch
        rw [same']
  · intro tx held
    obtain ⟨pos, inside, given⟩ := before.reading held
    refine ⟨pos, Nat.le_trans inside written, ?_⟩
    intro p value mem
    obtain ⟨low, high, there⟩ := given p value mem
    refine ⟨low, high, ?_⟩
    intro near
    exact getElem?_of_prefix grows (there (Nat.le_trans reserved near))

/-- A transaction that ends without a delivery leaves what was known. -/
theorem rest {x' : Member t} (before : x.Tracked l v capacity) (start : x'.start = x.start)
    (log : x'.log = x.log) (queue : x'.client.queue = x.client.queue)
    (idle : x'.client.activity = .idle) : x'.Tracked l v capacity := by
  constructor
  · rw [start, log, queue]
    exact before.follows
  · rw [queue]
    exact before.behind
  · rw [log]
    exact before.intact
  · intro tx held
    rw [idle] at held
    cases held
  · intro tx held
    rw [idle] at held
    cases held

/-- A transaction that ends with a delivery adds it to what is known. -/
theorem deliver {x' : Member t} {e : Delivery t} (before : x.Tracked l v capacity)
    (start : x'.start = x.start) (log : x'.log = x.log ++ [e])
    (idle : x'.client.activity = .idle)
    (follows : Follows x.client.queue.ownPos [e] x'.client.queue.ownPos)
    (behind : x'.client.queue.ownPos ≤ v.written) (intact : e.Intact l.published) :
    x'.Tracked l v capacity := by
  constructor
  · rw [start, log]
    exact follows_append before.follows follows
  · exact behind
  · intro e' mem
    rw [log] at mem
    rcases List.mem_append.mp mem with old | new
    · exact before.intact e' old
    · rw [List.mem_singleton.mp new]
      exact intact
  · intro tx held
    rw [idle] at held
    cases held
  · intro tx held
    rw [idle] at held
    cases held

end Member.Tracked

theorem Member.refused_of_ne {x : Member t} {total : Nat} {e : Error}
    (other : ∀ lag pos, e ≠ .overflow lag pos) : x.refused total e = { x with seen := [] } := by
  cases e with
  | overflow lag pos => exact absurd rfl (other lag pos)
  | _ => rfl

/-! ## What one operation keeps -/

namespace Desk

section Unsynchronized

variable {d : Desk t} {tx : Transaction} (flavor : d.queue.flavor = .unsynchronized)
  (holds : d.Holds tracked)

include holds

/-- What fills slots of an open write stays within its reservation. -/
theorem tracked_fillIn {draft : List t.Value} {m : Memory} {quantum : Nat → t.Value}
    (writing : d.member.client.activity = .writing tx)
    (view : d.queue.view m = { d.view with quantum := quantum })
    (kept : ∀ p, (∀ i < tx.count, p % d.queue.capacity ≠ (tx.pos.toNat + i) % d.queue.capacity) →
      quantum p = d.view.quantum p)
    (whole : d.member.draft = d.view.stretch tx.pos.toNat tx.count →
      draft = (d.queue.view m).stretch tx.pos.toNat tx.count) :
    d.Keeps tracked ⟨{ d.member with draft := draft }, m, d.ledger⟩ := by
  have announced : d.ledger.Announced d.view d.queue.capacity := holds.ledger
  have known : d.member.Tracked d.ledger d.view d.queue.capacity := holds.member
  obtain ⟨pos, room, below, before⟩ := known.writing writing
  constructor
  · show d.ledger.Announced (d.queue.view m) d.queue.capacity
    rw [view]
    apply announced.scribble
    intro p low near
    apply kept
    intro i hi
    exact mod_ne_of_near (by omega) (by omega)
  · show Member.Tracked _ _ (d.queue.view m) d.queue.capacity
    refine ⟨known.follows, ?_, known.intact, ?_, ?_⟩
    · rw [view]
      exact known.behind
    · intro tx' writing'
      have both : d.member.client.activity = .writing tx' := writing'
      obtain rfl := Activity.writing.inj (writing.symm.trans both)
      have filled := whole (by rw [before, pos])
      rw [view, pos] at *
      exact ⟨rfl, room, below, filled⟩
    · intro tx' reading
      have both : d.member.client.activity = .reading tx' := reading
      rw [writing] at both
      cases both
  · intro y before notWriting _
    show y.Tracked d.ledger (d.queue.view m) d.queue.capacity
    rw [view]
    exact Member.Tracked.mono before (List.prefix_refl _) (Nat.le_refl _) (Nat.le_refl _)
      (.inl fun tx' => notWriting tx tx' writing)

theorem tracked_commitWrite (writing : d.member.client.activity = .writing tx) :
    d.Keeps tracked ⟨{ d.member.turn d.queue .idle with draft := [] },
      d.queue.commitWrite d.memory tx,
      { d.ledger with published := d.ledger.published ++ d.member.draft }⟩ := by
  have sound : d.queue.Sound := holds.ready.sound
  have announced : d.ledger.Announced d.view d.queue.capacity := holds.ledger
  have known : d.member.Tracked d.ledger d.view d.queue.capacity := holds.member
  obtain ⟨pos, room, below, draft⟩ := known.writing writing
  by_cases none : tx.count = 0
  · refine Keeps.of_view holds ?_ ?_ (known.rest rfl rfl rfl rfl)
    · show d.queue.view (d.queue.commitWrite d.memory tx) = d.view
      rw [Queue.commitWrite, if_pos none]
      rfl
    · show { d.ledger with published := d.ledger.published ++ d.member.draft } = d.ledger
      rw [draft, none]
      show { d.ledger with published := d.ledger.published ++ [] } = d.ledger
      rw [List.append_nil]
  · have moved : d.queue.view (d.queue.commitWrite d.memory tx)
        = { d.view with written := d.view.written + tx.count } := by
      rw [Queue.view_commitWrite sound d.memory none,
        Transaction.toNat_stop (by rw [pos]; exact below), pos]
      rfl
    have grows : d.ledger.published <+: d.ledger.published ++ d.member.draft :=
      List.prefix_append _ _
    constructor
    · show Ledger.Announced { d.ledger with published := d.ledger.published ++ d.member.draft }
        (d.queue.view (d.queue.commitWrite d.memory tx)) d.queue.capacity
      rw [moved, draft]
      exact announced.publish room
    · show Member.Tracked _ _ (d.queue.view (d.queue.commitWrite d.memory tx)) d.queue.capacity
      rw [moved]
      have after : Member.Tracked { d.member.turn d.queue .idle with draft := [] } d.ledger d.view
          d.queue.capacity := known.rest rfl rfl rfl rfl
      refine after.mono grows (Nat.le_add_right _ _) (Nat.le_refl _) (.inl ?_)
      intro tx' held
      cases held
    · intro y before notWriting _
      show y.Tracked _ (d.queue.view (d.queue.commitWrite d.memory tx)) d.queue.capacity
      rw [moved]
      exact Member.Tracked.mono before grows (Nat.le_add_right _ _) (Nat.le_refl _)
        (.inl fun tx' => notWriting tx tx' writing)

include flavor

/-- A write that is opened reserves its slots before it touches them. -/
theorem tracked_openWrite {m : Memory}
    (begun : d.queue.beginWrite d.memory tx.count = .ok (tx, m))
    (below : tx.pos.toNat + tx.count < wordLimit) :
    d.Keeps tracked ⟨{ d.member.turn d.queue (.writing tx) with
      draft := d.queue.quanta d.memory tx.pos.toNat tx.count }, m, d.ledger⟩ := by
  have sound : d.queue.Sound := holds.ready.sound
  have announced : d.ledger.Announced d.view d.queue.capacity := holds.ledger
  have known : d.member.Tracked d.ledger d.view d.queue.capacity := holds.member
  obtain ⟨shape, -⟩ := Queue.beginWrite_eq_ok begun
  have pos : tx.pos.toNat = d.view.written := by
    rw [shape]
    rfl
  have view : d.queue.view m
      = { d.view with reserved := max d.view.reserved (d.view.written + tx.count) } :=
    Queue.view_beginWrite sound flavor announced.announced begun below
  have more : d.view.reserved ≤ max d.view.reserved (d.view.written + tx.count) :=
    Nat.le_max_left _ _
  constructor
  · show d.ledger.Announced (d.queue.view m) d.queue.capacity
    rw [view]
    exact announced.reserve more
  · show Member.Tracked _ _ (d.queue.view m) d.queue.capacity
    rw [view]
    refine ⟨known.follows, known.behind, known.intact, ?_, ?_⟩
    · intro tx' writing
      obtain rfl := Activity.writing.inj writing
      refine ⟨pos, Nat.le_max_right _ _, by rw [← pos]; exact below, ?_⟩
      show d.queue.quanta d.memory tx.pos.toNat tx.count = _
      rw [pos]
      rfl
    · intro tx' reading
      cases reading
  · intro y before _ _
    show y.Tracked d.ledger (d.queue.view m) d.queue.capacity
    rw [view]
    exact Member.Tracked.mono before (List.prefix_refl _) (Nat.le_refl _) more (.inr ⟨rfl, rfl⟩)

theorem tracked_openRead (begun : d.queue.beginRead d.memory tx.count = (.ok tx, d.queue)) :
    d.Keeps tracked
      { d with member := { d.member.turn d.queue (.reading tx) with seen := [] } } := by
  have sound : d.queue.Sound := holds.ready.sound
  have known : d.member.Tracked d.ledger d.view d.queue.capacity := holds.member
  obtain ⟨-, shape, -, enough, -⟩ := Queue.beginRead_eq_ok begun
  have own := sound.ownPos_eq flavor d.memory
  have behind : d.queue.ownPos ≤ (d.queue.writePos d.memory).toNat := known.behind
  have pos : tx.pos.toNat = d.queue.ownPos := by
    rw [shape]
    exact own
  have enough : tx.count ≤ (d.queue.writePos d.memory).toNat - d.queue.ownPos := by
    rw [← own] at behind ⊢
    rw [← distance_of_le behind]
    exact enough
  refine Keeps.of_view holds ?_ ?_ ⟨known.follows, known.behind, known.intact, ?_, ?_⟩
  · rfl
  · rfl
  · intro tx' writing
    cases writing
  · intro tx' reading
    obtain rfl := Activity.reading.inj reading
    refine ⟨pos, ?_, ?_⟩
    · show tx.pos.toNat + tx.count ≤ (d.queue.writePos d.memory).toNat
      omega
    · intro p value mem
      cases mem

/-- A read that is refused goes on where it was, or at the write position. -/
theorem tracked_refuse {e : Error} {q : Queue t} {m : Memory} (view : d.queue.view m = d.view)
    (descriptor : q.descriptor = d.queue.descriptor)
    (refused : (q = d.queue ∧ ∀ lag pos, e ≠ .overflow lag pos) ∨
      (q = d.queue.follow (d.queue.writePos d.memory) ∧
        ∃ lag, e = .overflow lag (d.queue.writePos d.memory))) :
    d.Keeps tracked ⟨(d.member.refused d.ledger.published.length e).turn q .idle, m, d.ledger⟩ := by
  have sound : d.queue.Sound := holds.ready.sound
  have announced : d.ledger.Announced d.view d.queue.capacity := holds.ledger
  have known : d.member.Tracked d.ledger d.view d.queue.capacity := holds.member
  refine Keeps.of_view holds ((Queue.view_congr descriptor m).trans view) rfl ?_
  rcases refused with ⟨rfl, other⟩ | ⟨rfl, lag, rfl⟩
  · rw [Member.refused_of_ne other]
    exact known.rest rfl rfl rfl rfl
  · have own := Queue.ownPos_follow sound flavor (d.queue.writePos d.memory)
    have total : d.ledger.published.length = (d.queue.writePos d.memory).toNat :=
      announced.published
    refine known.deliver (e := .lost (d.queue.writePos d.memory).toNat d.ledger.published.length)
      rfl rfl rfl ?_ ?_ ?_
    · refine ⟨total.symm, ?_, ?_⟩
      · rw [total]
        exact known.behind
      · rw [total]
        exact own
    · exact Nat.le_of_eq own
    · exact Nat.le_refl _

omit flavor in
/-- What is handed out is right, unless a write was opened that reaches
around the ring. -/
theorem tracked_handOut {taken : List (Nat × t.Value)}
    (reading : d.member.client.activity = .reading tx)
    (there : ∀ p v, (p, v) ∈ taken →
      tx.pos.toNat ≤ p ∧ p < tx.pos.toNat + tx.count ∧ v = d.queue.quantumAt d.memory p) :
    d.Keeps tracked { d with member := { d.member with seen := d.member.seen ++ taken } } := by
  have announced : d.ledger.Announced d.view d.queue.capacity := holds.ledger
  have known : d.member.Tracked d.ledger d.view d.queue.capacity := holds.member
  obtain ⟨pos, inside, given⟩ := known.reading reading
  refine Keeps.of_view holds ?_ ?_ ⟨known.follows, known.behind, known.intact, ?_, ?_⟩
  · rfl
  · rfl
  · exact known.writing
  · intro tx' reading'
    have both : d.member.client.activity = .reading tx' := reading'
    obtain rfl := Activity.reading.inj (reading.symm.trans both)
    refine ⟨pos, inside, ?_⟩
    intro p value mem
    rcases List.mem_append.mp mem with old | new
    · exact given p value old
    · obtain ⟨low, high, rfl⟩ := there p value new
      refine ⟨low, high, ?_⟩
      intro near
      exact announced.stored p (by omega) (by omega)

/-- A commit that succeeds moves the cursor behind the read, and has made sure
that the reservation is within a ring of it. -/
theorem commitRead_near {q : Queue t} {m : Memory}
    (reading : d.member.client.activity = .reading tx)
    (committed : d.queue.commitRead d.memory tx = (.ok (), q, m)) :
    d.queue.view m = d.view ∧ q.descriptor = d.queue.descriptor ∧
      q.ownPos = tx.pos.toNat + tx.count ∧
      (tx.count ≠ 0 → d.view.reserved ≤ tx.pos.toNat + d.queue.capacity) := by
  have sound : d.queue.Sound := holds.ready.sound
  have announced : d.ledger.Announced d.view d.queue.capacity := holds.ledger
  have known : d.member.Tracked d.ledger d.view d.queue.capacity := holds.member
  obtain ⟨pos, inside, -⟩ := known.reading reading
  by_cases none : tx.count = 0
  · rw [Queue.commitRead, if_pos none] at committed
    obtain ⟨-, rest⟩ := Prod.mk.inj committed
    obtain ⟨rfl, rfl⟩ := Prod.mk.inj rest
    refine ⟨rfl, rfl, ?_, ?_⟩
    · rw [none, Nat.add_zero]
      exact pos.symm
    · intro some
      exact absurd none some
  · rw [Queue.commitRead_unsynchronized sound flavor none] at committed
    split at committed
    · cases (Prod.mk.inj committed).1
    · rename_i near
      obtain ⟨-, rest⟩ := Prod.mk.inj committed
      obtain ⟨rfl, rfl⟩ := Prod.mk.inj rest
      have below : d.view.written < wordLimit := (d.queue.writePos d.memory).toNat_lt
      have reach : (max (d.queue.reservation d.memory) (d.queue.writePos d.memory)).toNat
          = d.view.reserved := by
        rw [toNat_max]
        exact Nat.max_eq_left announced.announced
      have written_le := announced.announced
      have ahead : tx.pos.toNat
          ≤ (max (d.queue.reservation d.memory) (d.queue.writePos d.memory)).toNat := by
        rw [reach]
        omega
      rw [distance_of_le ahead, reach] at near
      refine ⟨Queue.view_notify sound d.memory notFull, rfl, ?_, ?_⟩
      · rw [Queue.ownPos_follow sound flavor, Transaction.toNat_stop (by omega)]
      · intro _
        omega

theorem tracked_commitRead {q : Queue t} {m : Memory}
    (reading : d.member.client.activity = .reading tx)
    (committed : d.queue.commitRead d.memory tx = (.ok (), q, m)) :
    d.Keeps tracked ⟨(d.member.served tx.pos tx.count d.member.seen).turn q .idle, m,
      { d.ledger with
        consumed := d.ledger.consumed ++ d.queue.quanta d.memory tx.pos.toNat tx.count }⟩ := by
  obtain ⟨same, descriptor, next, near⟩ := commitRead_near flavor holds reading committed
  have announced : d.ledger.Announced d.view d.queue.capacity := holds.ledger
  have known : d.member.Tracked d.ledger d.view d.queue.capacity := holds.member
  obtain ⟨pos, inside, given⟩ := known.reading reading
  have published := announced.published
  have view : ∀ l : Ledger t,
      Desk.view ⟨(d.member.served tx.pos tx.count d.member.seen).turn q .idle, m, l⟩ = d.view :=
    fun _ => (Queue.view_congr descriptor m).trans same
  constructor
  · rw [view]
    exact ⟨announced.published, announced.announced, announced.stored⟩
  · have after : Member.Tracked ((d.member.served tx.pos tx.count d.member.seen).turn q .idle)
        d.ledger d.view d.queue.capacity := by
      refine known.deliver (e := .batch tx.pos.toNat tx.count d.member.seen) rfl rfl rfl
        ⟨pos, ?_⟩ ?_ ⟨by omega, ?_⟩
      · rw [← pos]
        exact next
      · show q.ownPos ≤ d.view.written
        rw [next]
        exact inside
      · intro p value mem
        obtain ⟨low, high, there⟩ := given p value mem
        exact ⟨low, high, there (near (by omega))⟩
    rw [view]
    exact after.mono (List.prefix_refl _) (Nat.le_refl _) (Nat.le_refl _) (.inr ⟨rfl, rfl⟩)
  · intro y before _ _
    rw [view]
    exact Member.Tracked.mono before (List.prefix_refl _) (Nat.le_refl _) (Nat.le_refl _)
      (.inr ⟨rfl, rfl⟩)

end Unsynchronized

end Desk

/-! ## What every run keeps -/

theorem tracked_kept : Traffic.Kept (t := t) tracked .unsynchronized := by
  constructor
  · intro v capacity written read reserved
    constructor
    · rw [written]
      rfl
    · rw [written]
      exact Nat.zero_le _
    · intro p below _
      rw [written] at below
      cases below
  · intro q m l sound flavor first announced
    have announced : l.Announced (q.view m) q.capacity := announced
    have cursor : q.cursor = .own (q.writePos m) := by
      have flavor' : q.descriptor.flavor = .unsynchronized := flavor
      rw [Queue.firstCursor_unsynchronized flavor'] at first
      exact (Except.ok.inj first).symm
    have own : q.ownPos = l.published.length := by
      rw [announced.published, Queue.ownPos, cursor]
      rfl
    refine ⟨own, ?_, ?_, ?_, ?_⟩
    · rw [← announced.published, ← own]
      exact Nat.le_refl _
    · intro e mem
      cases mem
    · intro tx writing
      cases writing
    · intro tx reading
      cases reading
  · intro d d' r flavor holds effect below
    have sound : d.queue.Sound := holds.ready.sound
    have known : d.member.Tracked d.ledger d.view d.queue.capacity := holds.member
    cases effect with
    | quiet m same => exact .of_view holds same rfl holds.member
    | openWrite tx m idle asked begun =>
      exact Desk.tracked_openWrite flavor holds begun (below asked begun)
    | fillIn tx draft m quantum writing view kept whole =>
      exact Desk.tracked_fillIn holds writing view kept whole
    | commitWrite tx writing => exact Desk.tracked_commitWrite holds writing
    | abandonWrite tx writing => exact .of_view holds rfl rfl (known.rest rfl rfl rfl rfl)
    | openRead tx idle asked begun => exact Desk.tracked_openRead flavor holds begun
    | refuseRead count e q idle refused =>
      have continues := Queue.continues_beginRead d.queue d.memory count
      rw [refused] at continues
      apply Desk.tracked_refuse flavor holds rfl continues.descriptor_eq
      rcases Queue.beginRead_eq_error refused with still | ⟨-, moved⟩
      · exact .inl still
      · exact .inr moved
    | handOut tx taken reading there => exact Desk.tracked_handOut holds reading there
    | commitRead tx q m reading committed =>
      exact Desk.tracked_commitRead flavor holds reading committed
    | refuseCommit tx e q m reading refused =>
      obtain ⟨rfl, rfl, -, lag, rfl⟩ := Queue.commitRead_eq_error sound flavor refused
      exact Desk.tracked_refuse flavor holds rfl rfl (.inr ⟨rfl, lag, rfl⟩)
    | abandonRead tx reading => exact .of_view holds rfl rfl (known.rest rfl rfl rfl rfl)

namespace Traffic

variable {home : Queue t} {w : Traffic t}

/-- Whatever a handle of an unsynchronized queue was given by reads that
succeeded is what was published at their positions; its reads follow on each
other from where the handle began, and after an overrun from the write
position of that moment. -/
theorem reads_intact (reach : Reachable home w) (flavor : home.flavor = .unsynchronized) :
    w.ledger.published.length = (home.writePos (w.memory home)).toNat ∧
      ∀ {k x}, w.members k = some x →
        (∀ e ∈ x.log, e.Intact w.ledger.published) ∧
        Follows x.start x.log (x.client.queue.readPos (w.memory home)).toNat ∧
        ∀ {tx}, x.client.activity = .writing tx →
          x.draft = x.client.queue.take (w.memory home) tx.pos tx.count := by
  have holds := holds_reachable tracked_kept reach flavor
  have regular := holds.regular
  have announced : w.ledger.Announced (w.view home) home.capacity := holds.ledger
  refine ⟨announced.published, ?_⟩
  intro k x here
  have known : x.Tracked w.ledger (w.view home) home.capacity := holds.member here
  refine ⟨known.intact, ?_, ?_⟩
  · rw [(regular.ready here).sound.ownPos_eq ((regular.flavor_eq here).trans flavor)]
    exact known.follows
  · intro tx writing
    obtain ⟨pos, -, -, draft⟩ := known.writing writing
    have opened : x.client.activity.transaction? = some tx := by rw [writing]; rfl
    rw [draft, ← pos, regular.take_eq here opened]

theorem reads_intact_fourBytes :
    ∃ (w : Traffic (.primitive .u8)) (x : Member (.primitive .u8)),
      Reachable (fourBytes .unsynchronized) w ∧ w.members 0 = some x ∧
      w.ledger.published = [byteQuantum 7, byteQuantum 8] ∧
      x.log = [.batch 0 2 [(0, byteQuantum 7), (1, byteQuantum 8)]] ∧
      (∀ e ∈ x.log, e.Intact w.ledger.published) ∧
      Follows x.start x.log
        (x.client.queue.readPos (w.memory (fourBytes .unsynchronized))).toNat := by
  have written := reachable_fourBytes .unsynchronized (by decide : [7, 8].length ≤ 4)
  have reach := written.next (.serve 0 _ (.read [byteQuantum 0, byteQuantum 0]) rfl ?_)
  · obtain ⟨-, known⟩ := reads_intact reach rfl
    obtain ⟨intact, follows, -⟩ := known (k := 0) rfl
    exact ⟨_, _, reach, rfl, rfl, rfl, intact, follows⟩
  · constructor
    · intro count tx m opens
      cases opens
    · intro synchronized
      cases synchronized

end Traffic

end SharedQueue
