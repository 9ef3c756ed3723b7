/-
SharedQueue.Proofs.Reservation — how far the writer of an unsynchronized queue
announces itself.

* `Desk.Advances`, `Effect.advances` — one operation moves the write counter,
  the reservation and its handle's cursor forward at most, and the
  reservation to no more than a ring behind the write counter.
* `Traffic.Advanced`, `advanced_of_after` — the same of any number of steps.
* `Client.Touches.cases`, `quantum_changed`, `quantum_touched` — a quantum is
  put into the slot of a position; no other slot changes, and the position was
  announced.
* `Client.Reply.Overran`, `overran_unread`, `overran_again` — a handle that
  reports an overrun has nothing unread after, and had something unread before.
* `reservation_within_ring` — what this comes to.

Writes that are given up leave their reservation behind, and a shorter write
may follow. The bound survives because a write is never longer than the ring
and begins at the write counter, which nothing but a commit moves.
-/
import SharedQueue.Proofs.Confinement
import SharedQueue.Proofs.Counters
import SharedQueue.Proofs.Overrun

namespace SharedQueue

variable {t : ElementType}

/-! ## One operation -/

namespace Desk

/-- Nothing went back, and the reservation is within a ring of the write
counter unless it was not before. -/
structure Advances (d d' : Desk t) : Prop where
  written : d.view.written ≤ d'.view.written
  reserved : d.view.reserved ≤ d'.view.reserved
  room : d'.view.reserved ≤ max d.view.reserved (d.view.written + d.queue.capacity)
  cursor : d.queue.ownPos ≤ d'.queue.ownPos

variable {d d' : Desk t} {r : Client.Request t} {tx : Transaction}

theorem Advances.of_eq {v : RingView t} (view : d'.view = v) (written : d.view.written ≤ v.written)
    (reserved : d.view.reserved ≤ v.reserved)
    (room : v.reserved ≤ max d.view.reserved (d.view.written + d.queue.capacity))
    (cursor : d.queue.ownPos ≤ d'.queue.ownPos) : d.Advances d' := by
  subst view
  exact ⟨written, reserved, room, cursor⟩

theorem Advances.of_view (view : d'.view = d.view) (cursor : d.queue.ownPos ≤ d'.queue.ownPos) :
    d.Advances d' :=
  .of_eq view (Nat.le_refl _) (Nat.le_refl _) (Nat.le_max_left _ _) cursor

/-- A cursor that goes to the write counter does not go back. -/
theorem ownPos_le_follow (flavor : d.queue.flavor = .unsynchronized) (holds : d.Holds tracked) :
    d.queue.ownPos ≤ (d.queue.follow (d.queue.writePos d.memory)).ownPos := by
  have sound : d.queue.Sound := holds.ready.sound
  have known : d.member.Tracked d.ledger d.view d.queue.capacity := holds.member
  rw [Queue.ownPos_follow sound flavor]
  exact known.behind

theorem Effect.advances (flavor : d.queue.flavor = .unsynchronized) (holds : d.Holds tracked)
    (below : ∀ {count tx m}, r.writes? = some count →
      d.queue.beginWrite d.memory count = .ok (tx, m) → tx.pos.toNat + tx.count < wordLimit)
    (effect : d.Effect r d') : d.Advances d' := by
  have sound : d.queue.Sound := holds.ready.sound
  have announced : d.ledger.Announced d.view d.queue.capacity := holds.ledger
  have known : d.member.Tracked d.ledger d.view d.queue.capacity := holds.member
  have overrun := ownPos_le_follow flavor holds
  cases effect with
  | quiet m same => exact .of_view same (Nat.le_refl _)
  | openWrite tx m idle asked begun =>
    obtain ⟨-, fits, -⟩ := Queue.beginWrite_eq_ok begun
    have raised := Queue.view_beginWrite sound flavor announced.announced begun (below asked begun)
    refine .of_eq raised (Nat.le_refl _) (Nat.le_max_left _ _) ?_ (Nat.le_refl _)
    show max d.view.reserved (d.view.written + tx.count)
      ≤ max d.view.reserved (d.view.written + d.queue.capacity)
    omega
  | fillIn tx draft m quantum writing filled kept whole =>
    exact .of_eq filled (Nat.le_refl _) (Nat.le_refl _) (Nat.le_max_left _ _) (Nat.le_refl _)
  | commitWrite tx writing =>
    by_cases none : tx.count = 0
    · refine .of_view ?_ (Nat.le_refl _)
      show d.queue.view (d.queue.commitWrite d.memory tx) = d.queue.view d.memory
      rw [Queue.commitWrite, if_pos none]
    · obtain ⟨pos, -, below, -⟩ := known.writing writing
      have stop : tx.stop.toNat = d.view.written + tx.count := by
        rw [Transaction.toNat_stop (by rw [pos]; exact below), pos]
      have published := Queue.view_commitWrite sound d.memory none
      refine .of_eq published ?_ (Nat.le_refl _) (Nat.le_max_left _ _) (Nat.le_refl _)
      show d.view.written ≤ tx.stop.toNat
      rw [stop]
      exact Nat.le_add_right _ _
  | abandonWrite tx writing => exact .of_view rfl (Nat.le_refl _)
  | openRead tx idle asked begun => exact .of_view rfl (Nat.le_refl _)
  | refuseRead count e q idle refused =>
    have continues := Queue.continues_beginRead d.queue d.memory count
    rw [refused] at continues
    refine .of_view (Queue.view_congr continues.descriptor_eq _) ?_
    rcases Queue.beginRead_eq_error refused with ⟨rfl, -⟩ | ⟨-, rfl, -⟩
    · exact Nat.le_refl _
    · exact overrun
  | handOut tx taken reading there => exact .of_view rfl (Nat.le_refl _)
  | commitRead tx q m reading committed =>
    obtain ⟨same, descriptor, next, -⟩ := commitRead_near flavor holds reading committed
    obtain ⟨pos, -, -⟩ := known.reading reading
    refine .of_view ((Queue.view_congr descriptor m).trans same) ?_
    show d.queue.ownPos ≤ q.ownPos
    rw [next, pos]
    exact Nat.le_add_right _ _
  | refuseCommit tx e q m reading refused =>
    obtain ⟨rfl, rfl, -⟩ := Queue.commitRead_eq_error sound flavor refused
    exact .of_view rfl overrun
  | abandonRead tx reading => exact .of_view rfl (Nat.le_refl _)

end Desk

/-! ## Any number of steps -/

namespace Traffic

variable {home : Queue t} {w₀ w w' : Traffic t}

/-- What is known of a state and of an earlier one. A handle may have been
dropped in between and another one attached in its place. -/
structure Advanced (home : Queue t) (w₀ w : Traffic t) : Prop where
  holds : Holds tracked home w
  room : (w.view home).reserved ≤ (w.view home).written + home.capacity
  written : (w₀.view home).written ≤ (w.view home).written
  reserved : (w₀.view home).reserved ≤ (w.view home).reserved
  cursor : ∀ {k x₀ x}, w₀.members k = some x₀ → w.members k = some x →
    x₀.client.queue.ownPos ≤ x.client.queue.ownPos
  behind : ∀ {k x₀}, w₀.members k = some x₀ → x₀.client.queue.ownPos ≤ (w₀.view home).written

theorem Advanced.refl (holds : Holds tracked home w)
    (room : (w.view home).reserved ≤ (w.view home).written + home.capacity) :
    Advanced home w w where
  holds := holds
  room := room
  written := Nat.le_refl _
  reserved := Nat.le_refl _
  cursor := by
    intro k x₀ x there here
    obtain rfl := Option.some.inj (there.symm.trans here)
    exact Nat.le_refl _
  behind := by
    intro k x₀ there
    have known : x₀.Tracked w.ledger (w.view home) home.capacity := holds.member there
    exact known.behind

/-- A new handle begins at the write counter, where no handle was beyond. -/
theorem Advanced.join (advanced : Advanced home w₀ w) (flavor : home.flavor = .unsynchronized)
    {k : Nat} {q : Queue t}
    (ok : Queue.attach t home.flavor home.descriptor w.store = .ok q) :
    Advanced home w₀ (w.join k q) := by
  have holds := advanced.holds.join tracked_kept flavor (k := k) ok
  refine ⟨holds, advanced.room, advanced.written, advanced.reserved, ?_, advanced.behind⟩
  intro j x₀ x there here
  rcases member_update here with ⟨rfl, new⟩ | ⟨-, before⟩
  · have known : x.Tracked w.ledger (w.view home) home.capacity := holds.member here
    have announced : w.ledger.Announced (w.view home) home.capacity := advanced.holds.ledger
    obtain rfl := Option.some.inj new
    have begins : q.ownPos = w.ledger.published.length := known.follows
    have behind := advanced.behind there
    have written := advanced.written
    show x₀.client.queue.ownPos ≤ q.ownPos
    rw [begins, announced.published]
    omega
  · exact advanced.cursor there before

theorem Advanced.leave (advanced : Advanced home w₀ w) (k : Nat) (x : Member t) :
    Advanced home w₀ (w.leave k x) := by
  have same := view_leave w home k x
  refine ⟨advanced.holds.leave k x, ?_, ?_, ?_, ?_, advanced.behind⟩
  · rw [same]
    exact advanced.room
  · rw [same]
    exact advanced.written
  · rw [same]
    exact advanced.reserved
  · intro j x₀ y there here
    exact advanced.cursor there (member_leave here).2

theorem Advanced.serve (advanced : Advanced home w₀ w) (flavor : home.flavor = .unsynchronized)
    {k : Nat} {x : Member t} {r : Client.Request t} (here : w.members k = some x)
    (admits : w.Admits home x r) (isSingle : r.Single) :
    Advanced home w₀ (w.serve home k x r) := by
  have regular := advanced.holds.regular
  have capacity : (w.desk home x).queue.capacity = home.capacity := regular.capacity_eq here
  have flavor' : (w.desk home x).queue.flavor = .unsynchronized :=
    (regular.flavor_eq here).trans flavor
  have effect : (w.desk home x).Effect r ((w.desk home x).serve r) :=
    Desk.serve_effect (regular.ready here) isSingle
  have advances := effect.advances flavor' (advanced.holds.desk here)
    fun opens begun => (admits.write opens begun).2
  have after := regular.view_serve here r
  have room := advanced.room
  obtain ⟨written, reserved, near, cursor⟩ := advances
  rw [regular.view_desk here, ← after] at written reserved
  rw [regular.view_desk here, ← after, capacity] at near
  refine ⟨advanced.holds.serve tracked_kept flavor here admits isSingle, ?_,
    Nat.le_trans advanced.written written, Nat.le_trans advanced.reserved reserved, ?_,
    advanced.behind⟩
  · omega
  · intro j x₀ y there new
    rcases member_update new with ⟨rfl, served⟩ | ⟨-, before⟩
    · rw [← Option.some.inj served]
      exact Nat.le_trans (advanced.cursor there here) cursor
    · exact advanced.cursor there before

theorem Advanced.step (advanced : Advanced home w₀ w) (flavor : home.flavor = .unsynchronized)
    (step : Step home w w') : Advanced home w₀ w' := by
  cases step with
  | attach k q free ok => exact advanced.join flavor ok
  | drop k x here idle => exact advanced.leave k x
  | serve k x r here admits =>
    exact serve_of_single (fun advanced => advanced.holds.regular)
      (fun advanced here admits isSingle => advanced.serve flavor here admits isSingle) advanced
      here admits

/-- The reservation is at most a ring behind the write counter. -/
theorem advanced_of_reachable (reach : Reachable home w) (flavor : home.flavor = .unsynchronized) :
    Advanced home w w := by
  induction reach with
  | start ok =>
    refine .refl (holds_reachable tracked_kept (.start ok) flavor) ?_
    rw [(view_begin ok).2.2]
    exact Nat.zero_le _
  | next _ step ih =>
    have advanced := ih.step flavor step
    exact .refl advanced.holds advanced.room

theorem advanced_of_after (reach : Reachable home w) (flavor : home.flavor = .unsynchronized)
    (after : After home w w') : Advanced home w w' := by
  induction after with
  | refl => exact advanced_of_reachable reach flavor
  | tail _ step ih => exact ih.step flavor step

end Traffic

/-! ## What is touched -/

/-- A slot is touched in the course of an open write, or by a batch that is
written at once. -/
theorem Client.Touches.cases {c : Client t} {m : Memory} {r : Client.Request t} {p : Nat}
    (touches : c.Touches m r p) :
    (∃ tx, c.activity = .writing tx ∧ r.Single ∧ tx.pos.toNat ≤ p ∧
        p < tx.pos.toNat + tx.count) ∨
      ∃ data, c.activity = .idle ∧ r = .write data ∧ (c.queue.write m data).1 = .ok () ∧
        (c.queue.writePos m).toNat ≤ p ∧ p < (c.queue.writePos m).toNat + data.length := by
  obtain ⟨q, activity⟩ := c
  cases activity with
  | idle =>
    cases r with
    | write data => exact .inr ⟨data, rfl, rfl, touches⟩
    | beginWrite | set | copyIn | commitWrite | read | beginRead | get | copyOut | commitRead
    | abandon | raise | clear | bits => cases touches
  | writing tx =>
    cases r with
    | set place v =>
      obtain ⟨inside, rfl⟩ := touches
      exact .inl ⟨tx, rfl, trivial, Nat.le_add_right _ _, Nat.add_lt_add_left inside _⟩
    | copyIn data => exact .inl ⟨tx, rfl, trivial, touches.2⟩
    | write | beginWrite | commitWrite | read | beginRead | get | copyOut | commitRead | abandon
    | raise | clear | bits => cases touches
  | reading tx => cases touches

/-- A batch that is written is announced first, like any other write. -/
theorem Queue.le_reserved_write {q : Queue t} {m : Memory} {data : List t.Value} (sound : q.Sound)
    (flavor : q.flavor = .unsynchronized) (announced : (q.view m).written ≤ (q.view m).reserved)
    (below : ∀ {tx m'}, q.beginWrite m data.length = .ok (tx, m') →
      tx.pos.toNat + tx.count < wordLimit)
    (some : data ≠ []) (done : (q.write m data).1 = .ok ()) :
    (q.view m).written + data.length ≤ (q.view (q.write m data).2).reserved := by
  have isEmpty : ¬ data.isEmpty = true := by simpa using some
  cases begun : q.beginWrite m data.length with
  | error e =>
    rw [Queue.write, if_neg isEmpty, begun] at done
    cases done
  | ok opened =>
    obtain ⟨tx, m'⟩ := opened
    have below := below begun
    obtain ⟨rfl, fits, -⟩ := Queue.beginWrite_eq_ok begun
    have length : data.length ≠ 0 := by simpa using some
    have raised := Queue.view_beginWrite sound flavor announced begun below
    rw [Queue.write, if_neg isEmpty, begun]
    dsimp only
    rw [Queue.view_commitWrite sound _ length, Queue.view_fill sound m' _ fits, raised]
    exact Nat.le_max_right _ _

namespace Desk

variable {d : Desk t} {r : Client.Request t} {p : Nat}

/-- What changes was touched. -/
theorem touched_of_changed (ready : d.member.client.Ready)
    (differ : (d.serve r).view.quantum p ≠ d.view.quantum p) :
    ∃ p', d.member.client.Touches d.memory r p' ∧
      p' % d.queue.capacity = p % d.queue.capacity := by
  have sound : d.queue.Sound := ready.sound
  have same : (d.serve r).view = d.queue.view (d.serve r).memory :=
    Queue.view_congr (Client.step_continues d.member.client d.memory r).descriptor_eq _
  rw [same] at differ
  by_contra untouched
  exact differ (Queue.loadSlot_of_changes sound (Client.step_changes ready d.memory r)
    (Nat.mod_lt _ sound.capacity_pos) untouched)

/-- What is touched lies behind the published quanta, and was announced. -/
theorem touched_reserved (flavor : d.queue.flavor = .unsynchronized) (holds : d.Holds tracked)
    (below : ∀ {count tx m}, r.writes? = some count →
      d.queue.beginWrite d.memory count = .ok (tx, m) → tx.pos.toNat + tx.count < wordLimit)
    (touches : d.member.client.Touches d.memory r p) :
    d.view.written ≤ p ∧ p < (d.serve r).view.reserved := by
  have sound : d.queue.Sound := holds.ready.sound
  have announced : d.ledger.Announced d.view d.queue.capacity := holds.ledger
  have known : d.member.Tracked d.ledger d.view d.queue.capacity := holds.member
  rcases touches.cases with ⟨tx, writing, isSingle, low, high⟩ | ⟨data, idle, rfl, done, low, high⟩
  · obtain ⟨pos, reserved, -, -⟩ := known.writing writing
    have advances := (serve_effect holds.ready isSingle).advances flavor holds below
    rw [pos] at low high
    exact ⟨low, Nat.lt_of_lt_of_le high (Nat.le_trans reserved advances.reserved)⟩
  · have some : data ≠ [] := by
      rintro rfl
      rw [List.length_nil, Nat.add_zero] at high
      exact absurd high (Nat.not_lt_of_le low)
    have opens : (Client.Request.write data).writes? = .some data.length := by
      obtain ⟨v, rest, rfl⟩ := List.exists_cons_of_ne_nil some
      rfl
    have reserved := Queue.le_reserved_write sound flavor announced.announced (below opens) some done
    have after : (d.serve (.write data)).view = d.queue.view (d.queue.write d.memory data).2 := by
      obtain ⟨⟨⟨q, activity⟩, start, draft, seen, log⟩, m, l⟩ := d
      cases idle
      rfl
    rw [after]
    exact ⟨low, Nat.lt_of_lt_of_le high reserved⟩

end Desk

/-! ## Overruns -/

/-- A handle says that it was overrun. -/
def Client.Reply.Overran (reply : Client.Reply t) : Prop :=
  ∃ lag told, reply = .unit (.error (.overflow lag told)) ∨
    reply = .opened (.error (.overflow lag told)) ∨
    ∃ buffer, reply = .filled (.error (.overflow lag told)) buffer

namespace Queue

variable {q q' : Queue t} {m : Memory} {lag : Nat} {told : UInt64}

theorem write_ne_overflow {data : List t.Value} :
    (q.write m data).1 ≠ .error (.overflow lag told) := by
  unfold write
  split
  · simp
  · split
    · rename_i e begun
      intro refused
      rw [Except.error.inj refused] at begun
      exact beginWrite_ne_overflow begun
    · simp

/-- A batch is refused where its transaction is: when it is opened, or when it
is committed. -/
theorem read_eq_overflow (sound : q.Sound) (flavor : q.flavor = .unsynchronized)
    {buffer : List t.Value} (refused : (q.read m buffer).answer = .error (.overflow lag told)) :
    (q.read m buffer).memory = m ∧ (q.read m buffer).queue = q.follow (q.writePos m) ∧
      q.availableToRead m ≠ 0 := by
  by_cases none : buffer = []
  · subst none
    cases refused
  · have isEmpty : ¬ buffer.isEmpty = true := by simpa using none
    rcases begun : q.beginRead m buffer.length with ⟨e | tx, q'⟩
    · simp only [read, if_neg isEmpty, begun] at refused ⊢
      obtain rfl := Except.error.inj refused
      obtain ⟨-, far, rfl⟩ := beginRead_eq_overflow begun
      exact ⟨trivial, rfl, Nat.ne_zero_of_lt far⟩
    · obtain ⟨rfl, shape, -, enough, -⟩ := beginRead_eq_ok begun
      rcases committed : q'.commitRead m tx with ⟨e | answer, q, m'⟩
      · simp only [read, if_neg isEmpty, begun, committed] at refused ⊢
        obtain ⟨rfl, rfl, -⟩ := commitRead_eq_error sound flavor committed
        have length : 0 < buffer.length := List.length_pos_iff.mpr none
        exact ⟨rfl, rfl, Nat.ne_zero_of_lt (Nat.lt_of_lt_of_le length enough)⟩
      · simp only [read, if_neg isEmpty, begun, committed] at refused
        cases refused

end Queue

namespace Client

variable {c : Client t} {m : Memory} {r : Request t}

/-- An overrun leaves the memory alone and the cursor at the write position.
There was something to be read, or a read of something was open. -/
theorem step_overran (sound : c.queue.Sound) (flavor : c.queue.flavor = .unsynchronized)
    (overran : (c.step m r).reply.Overran) :
    (c.step m r).memory = m ∧ (c.step m r).client.queue = c.queue.follow (c.queue.writePos m) ∧
      (c.queue.availableToRead m ≠ 0 ∨ ∃ tx, c.activity = .reading tx ∧ tx.count ≠ 0) := by
  obtain ⟨q, activity⟩ := c
  obtain ⟨lag, told, answered⟩ := overran
  cases activity with
  | idle =>
    cases r with
    | write data =>
      have refused : (q.write m data).1 = .error (.overflow lag told) := by
        simpa [step] using answered
      exact absurd refused Queue.write_ne_overflow
    | beginWrite count =>
      cases begun : q.beginWrite m count with
      | error e =>
        have refused : e = .overflow lag told := by simpa [step, begun] using answered
        rw [refused] at begun
        exact absurd begun Queue.beginWrite_ne_overflow
      | ok opened => simp [step, begun] at answered
    | read buffer =>
      have refused : (q.read m buffer).answer = .error (.overflow lag told) := by
        simpa [step] using answered
      obtain ⟨memory, queue, unread⟩ := Queue.read_eq_overflow sound flavor refused
      exact ⟨memory, queue, .inl unread⟩
    | beginRead count =>
      rcases begun : q.beginRead m count with ⟨e | tx, q'⟩
      · have refused : e = .overflow lag told := by simpa [step, begun] using answered
        subst refused
        obtain ⟨-, far, rfl⟩ := Queue.beginRead_eq_overflow begun
        simp only [step, begun]
        exact ⟨trivial, trivial, .inl (Nat.ne_zero_of_lt far)⟩
      · simp [step, begun] at answered
    | raise mask =>
      by_cases none : mask = 0
      · simp [step, none] at answered
      · simp [step, none] at answered
    | set | copyIn | commitWrite | get | copyOut | commitRead | abandon | clear | bits =>
      simp [step] at answered
  | writing tx =>
    cases r with
    | set place v =>
      cases stored : q.set m tx place v with
      | error e => simp [step, stored] at answered
      | ok m' => simp [step, stored] at answered
    | copyIn data =>
      cases copied : q.copyIn m tx data with
      | error e => simp [step, copied] at answered
      | ok m' => simp [step, copied] at answered
    | write | beginWrite | commitWrite | read | beginRead | get | copyOut | commitRead | abandon
    | raise | clear | bits => simp [step] at answered
  | reading tx =>
    cases r with
    | commitRead =>
      rcases committed : q.commitRead m tx with ⟨e | answer, q', m'⟩
      · obtain ⟨rfl, rfl, some, -⟩ := Queue.commitRead_eq_error sound flavor committed
        simp only [step, committed]
        exact ⟨trivial, trivial, .inr ⟨tx, rfl, some⟩⟩
      · simp [step, committed] at answered
    | write | beginWrite | set | copyIn | commitWrite | read | beginRead | get | copyOut
    | abandon | raise | clear | bits => simp [step] at answered

end Client

/-- What is unread by a private reader that is not ahead of the writer. -/
theorem Queue.availableToRead_eq_own {q : Queue t} {m : Memory} (sound : q.Sound)
    (flavor : q.flavor = .unsynchronized) (behind : q.ownPos ≤ (q.view m).written) :
    q.availableToRead m = (q.view m).written - q.ownPos := by
  rw [← sound.ownPos_eq flavor m] at behind ⊢
  exact distance_of_le behind

namespace Desk

variable {d : Desk t} {r : Client.Request t}

/-- An overrun skips what was unread, and there was something. -/
theorem serve_overran (flavor : d.queue.flavor = .unsynchronized) (holds : d.Holds tracked)
    (overran : (d.member.client.step d.memory r).reply.Overran) :
    d.queue.ownPos < d.view.written ∧ (d.serve r).view = d.view ∧
      (d.serve r).queue.ownPos = d.view.written := by
  have sound : d.queue.Sound := holds.ready.sound
  have known : d.member.Tracked d.ledger d.view d.queue.capacity := holds.member
  have behind := known.behind
  obtain ⟨memory, queue, unread⟩ := Client.step_overran sound flavor overran
  have queue : (d.serve r).queue = d.queue.follow (d.queue.writePos d.memory) := queue
  have memory : (d.serve r).memory = d.memory := memory
  refine ⟨?_, ?_, ?_⟩
  · rcases unread with some | ⟨tx, reading, some⟩
    · have some : d.queue.availableToRead d.memory ≠ 0 := some
      have distance : d.queue.availableToRead d.memory = d.view.written - d.queue.ownPos :=
        Queue.availableToRead_eq_own sound flavor behind
      omega
    · obtain ⟨pos, inside, -⟩ := known.reading reading
      have pos : tx.pos.toNat = d.queue.ownPos := pos
      omega
  · rw [view, queue, memory]
    exact Queue.view_congr (Queue.continues_follow d.queue _).descriptor_eq _
  · rw [queue, Queue.ownPos_follow sound flavor]
    rfl

end Desk

/-! ## What it comes to -/

namespace Traffic

variable {home : Queue t} {w w' : Traffic t}

/-- The reservation is at the write counter or before it by a ring at most,
and no handle has read beyond the write counter. -/
structure WithinRing (home : Queue t) (w : Traffic t) : Prop where
  announced : (w.view home).written ≤ (w.view home).reserved
  room : (w.view home).reserved ≤ (w.view home).written + home.capacity
  behind : ∀ {k x}, w.members k = some x →
    (x.client.queue.readPos (w.memory home)).toNat ≤ (w.view home).written
  unread : ∀ {k x}, w.members k = some x → x.client.queue.availableToRead (w.memory home)
    = (w.view home).written - (x.client.queue.readPos (w.memory home)).toNat

/-- Neither the write counter, nor the reservation, nor a handle's cursor went
back. -/
structure Onward (home : Queue t) (w w' : Traffic t) : Prop where
  written : (w.view home).written ≤ (w'.view home).written
  reserved : (w.view home).reserved ≤ (w'.view home).reserved
  cursor : ∀ {k x x'}, w.members k = some x → w'.members k = some x' →
    (x.client.queue.readPos (w.memory home)).toNat
      ≤ (x'.client.queue.readPos (w'.memory home)).toNat

theorem ownPos_eq (holds : Holds tracked home w) (flavor : home.flavor = .unsynchronized)
    {k : Nat} {x : Member t} (here : w.members k = some x) :
    (x.client.queue.readPos (w.memory home)).toNat = x.client.queue.ownPos :=
  (holds.regular.ready here).sound.ownPos_eq ((holds.regular.flavor_eq here).trans flavor) _

theorem Advanced.withinRing (advanced : Advanced home w₀ w)
    (flavor : home.flavor = .unsynchronized) : WithinRing home w := by
  have announced : w.ledger.Announced (w.view home) home.capacity := advanced.holds.ledger
  have behind : ∀ {k x}, w.members k = some x →
      x.client.queue.ownPos ≤ (w.view home).written := by
    intro k x here
    have known : x.Tracked w.ledger (w.view home) home.capacity := advanced.holds.member here
    exact known.behind
  refine ⟨announced.announced, advanced.room, ?_, ?_⟩
  · intro k x here
    rw [ownPos_eq advanced.holds flavor here]
    exact behind here
  · intro k x here
    have regular := advanced.holds.regular
    have view : x.client.queue.view (w.memory home) = w.view home := regular.view_desk here
    rw [ownPos_eq advanced.holds flavor here, ← view]
    apply Queue.availableToRead_eq_own (regular.ready here).sound
      ((regular.flavor_eq here).trans flavor)
    rw [view]
    exact behind here

theorem Advanced.onward (advanced : Advanced home w w') (holds : Holds tracked home w)
    (flavor : home.flavor = .unsynchronized) : Onward home w w' := by
  refine ⟨advanced.written, advanced.reserved, ?_⟩
  intro k x x' there here
  rw [ownPos_eq holds flavor there, ownPos_eq advanced.holds flavor here]
  exact advanced.cursor there here

section Served

variable {k : Nat} {x : Member t} {r : Client.Request t} (reach : Reachable home w)
  (flavor : home.flavor = .unsynchronized) (here : w.members k = some x)

include reach flavor here

theorem quantum_changed {p : Nat}
    (differ : ((w.serve home k x r).view home).quantum p ≠ (w.view home).quantum p) :
    ∃ p', x.client.Touches (w.memory home) r p' ∧ p' % home.capacity = p % home.capacity := by
  have regular := (advanced_of_reachable reach flavor).holds.regular
  rw [regular.view_serve here, ← regular.view_desk here] at differ
  rw [← regular.capacity_eq here]
  exact Desk.touched_of_changed (regular.ready here) differ

/-- An overrun takes the cursor to the write counter, which it leaves alone. -/
theorem overran_serve (overran : (x.client.step (w.memory home) r).reply.Overran) :
    ((w.serve home k x r).view home).written = (w.view home).written ∧
      ∃ y, (w.serve home k x r).members k = some y ∧
        y.client.queue.ownPos = (w.view home).written := by
  have holds := (advanced_of_reachable reach flavor).holds
  have flavor' : (w.desk home x).queue.flavor = .unsynchronized :=
    (holds.regular.flavor_eq here).trans flavor
  obtain ⟨-, view, own⟩ := Desk.serve_overran flavor' (holds.desk here) overran
  rw [holds.regular.view_desk here] at view own
  refine ⟨?_, _, Function.update_self .., own⟩
  rw [holds.regular.view_serve here, view]

variable (admits : w.Admits home x r)

include admits

/-- What is touched was not published, and it stays announced. -/
theorem quantum_touched {p : Nat} (touches : x.client.Touches (w.memory home) r p)
    (after : After home (w.serve home k x r) w') :
    (w.view home).written ≤ p ∧ p < (w'.view home).reserved := by
  have holds := (advanced_of_reachable reach flavor).holds
  have flavor' : (w.desk home x).queue.flavor = .unsynchronized :=
    (holds.regular.flavor_eq here).trans flavor
  have reach' : Reachable home (w.serve home k x r) := reach.next (.serve k x r here admits)
  obtain ⟨low, high⟩ := Desk.touched_reserved flavor' (holds.desk here)
    (fun opens begun => (admits.write opens begun).2) touches
  rw [holds.regular.view_desk here] at low
  rw [← holds.regular.view_serve here] at high
  exact ⟨low, Nat.lt_of_lt_of_le high (advanced_of_after reach' flavor after).reserved⟩

variable (overran : (x.client.step (w.memory home) r).reply.Overran)

include overran

theorem overran_unread {y : Member t} (there : (w.serve home k x r).members k = some y) :
    y.client.queue.availableToRead ((w.serve home k x r).memory home) = 0 := by
  have reach' : Reachable home (w.serve home k x r) := reach.next (.serve k x r here admits)
  have advanced := advanced_of_reachable reach' flavor
  obtain ⟨written, y', there', own⟩ := overran_serve reach flavor here overran
  obtain rfl := Option.some.inj (there'.symm.trans there)
  rw [(advanced.withinRing flavor).unread there, ownPos_eq advanced.holds flavor there, written]
  exact Nat.sub_eq_zero_of_le (Nat.le_of_eq own.symm)

/-- The next overrun finds something unread, which was published since. -/
theorem overran_again {y : Member t} {r' : Client.Request t}
    (after : After home (w.serve home k x r) w') (there : w'.members k = some y)
    (again : (y.client.step (w'.memory home) r').reply.Overran) :
    (w.view home).written < (w'.view home).written := by
  have reach' : Reachable home (w.serve home k x r) := reach.next (.serve k x r here admits)
  have later := advanced_of_after reach' flavor after
  have flavor' : (w'.desk home y).queue.flavor = .unsynchronized :=
    (later.holds.regular.flavor_eq there).trans flavor
  obtain ⟨-, x', here', own⟩ := overran_serve reach flavor here overran
  obtain ⟨unread, -⟩ := Desk.serve_overran flavor' (later.holds.desk there) again
  rw [later.holds.regular.view_desk there] at unread
  calc (w.view home).written
    _ = x'.client.queue.ownPos := own.symm
    _ ≤ y.client.queue.ownPos := later.cursor here' there
    _ < (w'.view home).written := unread

end Served

/-- The reservation of an unsynchronized queue is never more than a ring
before the write counter, and no handle is beyond that. None of them goes
back. A slot changes only by a write that its position was announced for. A
handle that was overrun has nothing unread, and is not overrun again before
something is published. -/
theorem reservation_within_ring (reach : Reachable home w)
    (flavor : home.flavor = .unsynchronized) :
    WithinRing home w ∧
      (∀ {w'}, After home w w' → Onward home w w') ∧
      ∀ {k x r}, w.members k = some x → w.Admits home x r →
        (∀ {p}, ((w.serve home k x r).view home).quantum p ≠ (w.view home).quantum p →
          ∃ p', x.client.Touches (w.memory home) r p' ∧ p' % home.capacity = p % home.capacity) ∧
        (∀ {p w'}, x.client.Touches (w.memory home) r p →
          After home (w.serve home k x r) w' →
          (w.view home).written ≤ p ∧ p < (w'.view home).reserved) ∧
        ((x.client.step (w.memory home) r).reply.Overran →
          (∀ {y}, (w.serve home k x r).members k = some y →
            y.client.queue.availableToRead ((w.serve home k x r).memory home) = 0) ∧
          ∀ {w' y r'}, After home (w.serve home k x r) w' → w'.members k = some y →
            (y.client.step (w'.memory home) r').reply.Overran →
            (w.view home).written < (w'.view home).written) := by
  have advanced := advanced_of_reachable reach flavor
  refine ⟨advanced.withinRing flavor, ?_, ?_⟩
  · intro w' after
    exact (advanced_of_after reach flavor after).onward advanced.holds flavor
  · intro k x r here admits
    refine ⟨?_, ?_, ?_⟩
    · intro p differ
      exact quantum_changed reach flavor here differ
    · intro p w' touches after
      exact quantum_touched reach flavor here admits touches after
    · intro overran
      constructor
      · intro y there
        exact overran_unread reach flavor here admits overran there
      · intro w' y r' after there again
        exact overran_again reach flavor here admits overran after there again

theorem reservation_within_ring_fourBytes :
    ∃ (w w' : Traffic (.primitive .u8)) (y : Member (.primitive .u8)),
      Reachable (fourBytes .unsynchronized) w ∧
      (w.view (fourBytes .unsynchronized)).written = 6 ∧
      WithinRing (fourBytes .unsynchronized) w ∧ Onward (fourBytes .unsynchronized) w w' ∧
      w'.members 0 = some y ∧
      y.client.queue.availableToRead (w'.memory (fourBytes .unsynchronized)) = 0 := by
  have written := reachable_fourBytes .unsynchronized (by decide : [7, 8].length ≤ 4)
  have reach := written.next (.serve 0 _ (.write ([1, 2, 3, 4].map byteQuantum)) rfl ?_)
  · obtain ⟨within, onward, steps⟩ := reservation_within_ring reach rfl
    obtain ⟨-, -, overrun⟩ := steps (k := 0) (r := .beginRead 1) rfl
      (admits_of_unsynchronized rfl rfl)
    obtain ⟨unread, -⟩ := overrun ⟨6, 6, .inr (.inl rfl)⟩
    exact ⟨_, _, _, reach, rfl, within,
      onward (.single (.serve 0 _ (.beginRead 1) rfl (admits_of_unsynchronized rfl rfl))), rfl,
      unread rfl⟩
  · constructor
    · intro count tx m opens begun
      obtain ⟨rfl, -⟩ := Queue.beginWrite_eq_ok begun
      obtain rfl := Option.some.inj opens
      refine ⟨?_, by decide⟩
      intro k x tx there writing
      rcases member_serve there with ⟨-, client⟩ | ⟨ne, before⟩
      · rw [client] at writing
        cases writing
      · exact ne (member_begin before).1
    · intro synchronized
      cases synchronized

end Traffic

end SharedQueue
