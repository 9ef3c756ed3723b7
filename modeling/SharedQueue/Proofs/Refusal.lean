/-
SharedQueue.Proofs.Refusal — requests that come to nothing.

* `Queue.Refused` — the handle after an error: as it was, unless a private reader
  was told that it was overrun.
* `Client.LeavesAlone` — what a request that is refused leaves.
* `Client.Shrugs` — what a request with a wrong index or length leaves.
* `Client.Held` — what can happen while a transaction is open: requests of its
  own, which are recorded by the positions that they touch, and changes by others.
* `Client.Dropped` — what is left of a transaction that is not committed.
* `refusal_atomic` — this is how every request that comes to nothing ends.

Two things are done before it is known how a transaction ends. A write raises the
reservation, and both fill or copy out slots. Everything else happens behind the
last check.
-/
import SharedQueue.Proofs.Contents
import SharedQueue.Proofs.Outcome

namespace SharedQueue

namespace Queue

variable {t : ElementType} {q q' : Queue t} {m m' : Memory} {tx : Transaction} {e : Error}
  {count : Nat}

/-! ## The handle after an error -/

/-- The handle `q'` is what an error leaves of `q`. -/
structure Refused (q : Queue t) (m : Memory) (e : Error) (q' : Queue t) : Prop where
  stays : (∀ lag resync, e ≠ .overflow lag resync) → q' = q
  resync : ∀ {lag resync}, e = .overflow lag resync →
    q.flavor = .unsynchronized ∧ resync = q.writePos m ∧ q' = { q with cursor := .own resync }

theorem refused_of_same (other : ∀ lag resync, e ≠ .overflow lag resync) : q.Refused m e q :=
  ⟨fun _ => rfl, fun overflow => absurd overflow (other _ _)⟩

theorem refused_of_overrun (sound : q.Sound) (flavor : q.flavor = .unsynchronized) {lag : Nat} :
    q.Refused m (.overflow lag (q.writePos m)) (q.follow (q.writePos m)) := by
  obtain ⟨own, cursor⟩ := sound.cursor_own flavor
  refine ⟨fun other => absurd rfl (other _ _), ?_⟩
  rintro _ _ ⟨⟩
  exact ⟨flavor, rfl, follow_of_own cursor _⟩

theorem beginWrite_refused (refused : q.beginWrite m count = .error e) : q.Refused m e q := by
  apply refused_of_same
  rintro lag resync rfl
  exact beginWrite_ne_overflow refused

theorem beginRead_refused (sound : q.Sound) (refused : q.beginRead m count = (.error e, q')) :
    q.Refused m e q' := by
  rcases beginRead_eq_error refused with ⟨rfl, other⟩ | ⟨flavor, rfl, lag, rfl⟩
  · exact refused_of_same other
  · exact refused_of_overrun sound flavor

theorem commitRead_refused (sound : q.Sound) (refused : q.commitRead m tx = (.error e, q', m')) :
    q.Refused m e q' ∧ m' = m := by
  cases flavor : q.flavor with
  | synchronized =>
    by_cases none : tx.count = 0
    · rw [commitRead, if_pos none] at refused
      cases (Prod.mk.inj refused).1
    · rw [commitRead_synchronized sound flavor none] at refused
      cases (Prod.mk.inj refused).1
  | unsynchronized =>
    obtain ⟨rfl, rfl, -, lag, rfl⟩ := commitRead_eq_error sound flavor refused
    exact ⟨refused_of_overrun sound flavor, rfl⟩

end Queue

namespace Client

variable {t : ElementType} {c : Client t} {m : Memory}

/-! ## Errors -/

/-- The error that a request was refused with. -/
def Reply.error? : Reply t → Option Error
  | .unit (.error e) | .filled (.error e) _ | .opened (.error e) => some e
  | _ => Option.none

/-- The broken precondition of a request. -/
def Reply.misuse? : Reply t → Option Misuse
  | .stored (.error misuse) | .element (.error misuse) | .elements (.error misuse) => some misuse
  | _ => Option.none

/-- What a request that is refused leaves. A buffer has been filled only if the
refusal came at the end of a read. -/
structure LeavesAlone (c : Client t) (m : Memory) (r : Request t) (e : Error) : Prop where
  memory : (c.step m r).memory = m
  idle : (c.step m r).client.activity = .idle
  handle : c.queue.Refused m e (c.step m r).client.queue
  buffer : ∀ {buffer}, r = .read buffer →
    (∃ q', c.queue.beginRead m buffer.length = (.error e, q')) ∧
        (c.step m r).reply = .filled (.error e) buffer ∨
      (∃ tx q', c.queue.beginRead m buffer.length = (.ok tx, q')) ∧
        (c.step m r).reply =
          .filled (.error e) (c.queue.quanta m (c.queue.readPos m).toNat buffer.length)

theorem leavesAlone_of_step {r : Request t} {e : Error} {q' : Queue t} {reply : Reply t}
    (stepped : c.step m r = ⟨⟨q', .idle⟩, m, reply⟩) (handle : c.queue.Refused m e q')
    (other : ∀ buffer, r ≠ .read buffer) : c.LeavesAlone m r e := by
  refine ⟨?_, ?_, ?_, fun read => absurd read (other _)⟩
  all_goals rw [stepped]
  exact handle

theorem leavesAlone_write {q : Queue t} {data : List t.Value} {e : Error}
    (refused : (q.write m data).1 = .error e) : LeavesAlone ⟨q, .idle⟩ m (.write data) e := by
  have some : data ≠ [] := by
    rintro rfl
    cases refused
  cases begun : q.beginWrite m data.length with
  | ok opened =>
    rw [Queue.write_of_begun some begun] at refused
    cases refused
  | error e' =>
    have stepped := step_write q m data
    rw [Queue.write_of_refused some begun] at refused stepped
    obtain rfl := Except.error.inj refused
    exact leavesAlone_of_step stepped (Queue.beginWrite_refused begun) nofun

theorem leavesAlone_read {q : Queue t} (sound : q.Sound) {buffer : List t.Value} {e : Error}
    (refused : (q.read m buffer).answer = .error e) :
    LeavesAlone ⟨q, .idle⟩ m (.read buffer) e := by
  have some : buffer ≠ [] := by
    rintro rfl
    cases refused
  have stepped := step_read q m buffer
  cases begun : q.beginRead m buffer.length with
  | mk answer q' =>
    cases answer with
    | error e' =>
      rw [Queue.read_of_refused some begun] at refused stepped
      obtain rfl := Except.error.inj refused
      refine ⟨?_, ?_, ?_, ?_⟩
      all_goals rw [stepped]
      · exact Queue.beginRead_refused sound begun
      · rintro _ ⟨⟩
        exact .inl ⟨⟨q', begun⟩, rfl⟩
    | ok tx =>
      -- the refusal comes at the end, when the slots have been copied
      rw [Queue.read_of_begun some begun] at refused stepped
      have opened := begun
      obtain ⟨rfl, rfl, fits, -⟩ := Queue.beginRead_eq_ok begun
      rcases committed : q'.commitRead m ⟨q'.readPos m, buffer.length⟩ with ⟨answer, q'', m'⟩
      rw [committed, Queue.take_eq q' m (q'.readPos m) fits] at stepped
      rw [committed] at refused
      obtain rfl : answer = .error e := refused
      obtain ⟨handle, rfl⟩ := Queue.commitRead_refused sound committed
      refine ⟨?_, ?_, ?_, ?_⟩
      all_goals rw [stepped]
      · exact handle
      · rintro _ ⟨⟩
        exact .inr ⟨⟨_, _, opened⟩, rfl⟩

theorem error_of_unit {answer : Except Error Unit} {e : Error}
    (told : (Reply.unit answer : Reply t).error? = some e) : answer = .error e := by
  cases answer with
  | ok _ => cases told
  | error e' => exact congrArg _ (Option.some.inj told)

theorem error_of_filled {answer : Except Error Unit} {buffer : List t.Value} {e : Error}
    (told : (Reply.filled answer buffer).error? = some e) : answer = .error e := by
  cases answer with
  | ok _ => cases told
  | error e' => exact congrArg _ (Option.some.inj told)

/-- A request that is refused leaves everything alone. -/
theorem leavesAlone (ready : c.Ready) {r : Request t} {e : Error}
    (refused : (c.step m r).reply.error? = some e) : c.LeavesAlone m r e := by
  have sound := ready.sound
  obtain ⟨q, activity⟩ := c
  cases activity with
  | idle =>
    cases r with
    | write data => exact leavesAlone_write (error_of_unit refused)
    | read buffer => exact leavesAlone_read sound (error_of_filled refused)
    | beginWrite count =>
      cases begun : q.beginWrite m count with
      | ok opened =>
        rw [step_beginWrite_begun begun] at refused
        cases refused
      | error e' =>
        rw [step_beginWrite_refused begun] at refused
        obtain rfl := Option.some.inj refused
        exact leavesAlone_of_step (step_beginWrite_refused begun)
          (Queue.beginWrite_refused begun) nofun
    | beginRead count =>
      rcases begun : q.beginRead m count with ⟨answer, q'⟩
      cases answer with
      | ok tx =>
        rw [step_beginRead_begun begun] at refused
        cases refused
      | error e' =>
        rw [step_beginRead_refused begun] at refused
        obtain rfl := Option.some.inj refused
        exact leavesAlone_of_step (step_beginRead_refused begun)
          (Queue.beginRead_refused sound begun) nofun
    | raise mask =>
      by_cases empty : mask = 0
      · subst empty
        rw [step_raise_empty] at refused
        obtain rfl := Option.some.inj refused
        exact leavesAlone_of_step (step_raise_empty q m) (Queue.refused_of_same nofun) nofun
      · rw [step_raise_some empty] at refused
        cases refused
    | set | copyIn | commitWrite | get | copyOut | commitRead | abandon | clear | bits =>
      cases refused
  | writing tx =>
    cases r with
    | set place v =>
      cases stored : q.set m tx place v with
      | error misuse =>
        rw [step_set_broken stored] at refused
        cases refused
      | ok m' =>
        rw [step_set_stored stored] at refused
        cases refused
    | copyIn data =>
      cases stored : q.copyIn m tx data with
      | error misuse =>
        rw [step_copyIn_broken stored] at refused
        cases refused
      | ok m' =>
        rw [step_copyIn_stored stored] at refused
        cases refused
    | write | beginWrite | commitWrite | read | beginRead | get | copyOut | commitRead | abandon
    | raise | clear | bits => cases refused
  | reading tx =>
    cases r with
    | commitRead =>
      have stepped := step_commitRead q m tx
      rcases committed : q.commitRead m tx with ⟨answer, q', m'⟩
      rw [committed] at stepped
      rw [stepped] at refused
      obtain rfl := error_of_unit refused
      obtain ⟨handle, rfl⟩ := Queue.commitRead_refused sound committed
      exact leavesAlone_of_step stepped handle nofun
    | write | beginWrite | set | copyIn | commitWrite | read | beginRead | get | copyOut
    | abandon | raise | clear | bits => cases refused

/-! ## Broken preconditions -/

/-- What a request with a wrong index or length leaves: everything as it was, and
the transaction can be committed as if nothing had been asked. -/
structure Shrugs (c : Client t) (m : Memory) (r : Request t) : Prop where
  client : (c.step m r).client = c
  memory : (c.step m r).memory = m
  opened : c.activity ≠ .idle
  writes : ∀ {tx}, c.activity = .writing tx →
    (c.step m r).client.step (c.step m r).memory .commitWrite =
      ⟨⟨c.queue, .idle⟩, c.queue.commitWrite m tx, .unit (.ok ())⟩
  reads : ∀ {tx}, c.activity = .reading tx →
    (c.step m r).client.step (c.step m r).memory .commitRead =
      ⟨⟨(c.queue.commitRead m tx).2.1, .idle⟩, (c.queue.commitRead m tx).2.2,
        .unit (c.queue.commitRead m tx).1⟩

theorem shrugs_of_step {r : Request t} {reply : Reply t} (stepped : c.step m r = ⟨c, m, reply⟩)
    (opened : c.activity ≠ .idle) : c.Shrugs m r := by
  refine ⟨?_, ?_, opened, ?_, ?_⟩
  · rw [stepped]
  · rw [stepped]
  · intro tx writing
    obtain ⟨q, activity⟩ := c
    obtain rfl : activity = .writing tx := writing
    rw [stepped]
    rfl
  · intro tx reading
    obtain ⟨q, activity⟩ := c
    obtain rfl : activity = .reading tx := reading
    rw [stepped]
    rfl

theorem shrugs (c : Client t) (m : Memory) {r : Request t} {misuse : Misuse}
    (broken : (c.step m r).reply.misuse? = some misuse) : c.Shrugs m r := by
  obtain ⟨q, activity⟩ := c
  cases activity with
  | idle =>
    cases r with
    | beginWrite count =>
      cases begun : q.beginWrite m count with
      | error e =>
        rw [step_beginWrite_refused begun] at broken
        cases broken
      | ok opened =>
        rw [step_beginWrite_begun begun] at broken
        cases broken
    | beginRead count =>
      rcases begun : q.beginRead m count with ⟨answer, q'⟩
      cases answer with
      | error e =>
        rw [step_beginRead_refused begun] at broken
        cases broken
      | ok tx =>
        rw [step_beginRead_begun begun] at broken
        cases broken
    | raise mask =>
      by_cases empty : mask = 0
      · subst empty
        cases broken
      · rw [step_raise_some empty] at broken
        cases broken
    | write | set | copyIn | commitWrite | read | get | copyOut | commitRead | abandon
    | clear | bits => cases broken
  | writing tx =>
    cases r with
    | set place v =>
      cases stored : q.set m tx place v with
      | error misuse => exact shrugs_of_step (step_set_broken stored) nofun
      | ok m' =>
        rw [step_set_stored stored] at broken
        cases broken
    | copyIn data =>
      cases stored : q.copyIn m tx data with
      | error misuse => exact shrugs_of_step (step_copyIn_broken stored) nofun
      | ok m' =>
        rw [step_copyIn_stored stored] at broken
        cases broken
    | write | beginWrite | commitWrite | read | beginRead | get | copyOut | commitRead | abandon
    | raise | clear | bits => cases broken
  | reading tx =>
    cases r with
    | get place => exact shrugs_of_step rfl nofun
    | copyOut length => exact shrugs_of_step rfl nofun
    | write | beginWrite | set | copyIn | commitWrite | read | beginRead | commitRead
    | abandon | raise | clear | bits => cases broken

/-! ## Transactions that are not committed -/

/-- The request ends the transaction that is open. -/
def Request.closes : Request t → Bool
  | .commitWrite | .commitRead | .abandon => true
  | _ => false

/-- The handle `q` on the memory `m₀` opens a transaction and is asked for any
steps of it. The last argument holds the positions that these have touched. In
between, others change bytes that are `foreign`. -/
inductive Held (q : Queue t) (m₀ : Memory) (foreign : Nat → Prop) :
    Client t → Memory → (Nat → Prop) → Prop
  | opened {r : Request t} (held : (step ⟨q, .idle⟩ m₀ r).client.activity ≠ .idle) :
    Held q m₀ foreign (step ⟨q, .idle⟩ m₀ r).client (step ⟨q, .idle⟩ m₀ r).memory fun _ => False
  | asked {c : Client t} {m : Memory} {touched : Nat → Prop} (before : Held q m₀ foreign c m touched)
    {r : Request t} (goesOn : r.closes = false) :
    Held q m₀ foreign (c.step m r).client (c.step m r).memory fun p => touched p ∨ c.Touches m r p
  | elsewhere {c : Client t} {m m' : Memory} {touched : Nat → Prop}
    (before : Held q m₀ foreign c m touched) (size_eq : m'.size = m.size)
    (only : ∀ {a}, m'.byte a ≠ m.byte a → foreign a) : Held q m₀ foreign c m' touched

/-- What is left of a transaction that is let go without a commit. -/
structure Dropped (q : Queue t) (m₀ : Memory) (foreign : Nat → Prop) (c : Client t) (m : Memory)
    (touched : Nat → Prop) : Prop where
  client : (c.step m .abandon).client = ⟨q, .idle⟩
  memory : (c.step m .abandon).memory = m
  size_eq : m.size = m₀.size
  /-- A write changes the slots that it has touched and the reservation. -/
  writes : ∀ {tx}, c.activity = .writing tx → ∀ {a}, m.byte a ≠ m₀.byte a → ¬ foreign a →
    (∃ p, touched p ∧ (q.descriptor.slot (p % q.capacity)).Covers a) ∨
      q.flavor = .unsynchronized ∧ tx.count ≠ 0 ∧
        ∃ g, q.descriptor.place? .writeReservation = some g ∧ g.Covers a
  within : ∀ {p}, touched p → ∃ tx, c.activity = .writing tx ∧
    tx.pos.toNat ≤ p ∧ p < tx.pos.toNat + tx.count
  /-- The reservation goes as far as the transaction does, or stays. -/
  raised : ∀ {tx g}, c.activity = .writing tx → q.descriptor.place? .writeReservation = some g →
    (∀ a, g.Covers a → ¬ foreign a) →
    q.reservation m =
      if tx.count = 0 then q.reservation m₀ else max (q.reservation m₀) tx.stop
  /-- A read changes nothing. -/
  reads : ∀ {tx}, c.activity = .reading tx → ∀ {a}, m.byte a ≠ m₀.byte a → foreign a

/-- How the transaction was opened: from `m₀` it made `m₁`. -/
inductive Opening (q : Queue t) (m₀ m₁ : Memory) : Activity → Prop
  | write {tx : Transaction} (begun : q.beginWrite m₀ tx.count = .ok (tx, m₁)) :
    Opening q m₀ m₁ (.writing tx)
  | read {tx : Transaction} (fits : tx.count ≤ q.capacity) (same : m₁ = m₀) :
    Opening q m₀ m₁ (.reading tx)

theorem opening_of_step {q : Queue t} {m₀ : Memory} {r : Request t}
    (held : (step ⟨q, .idle⟩ m₀ r).client.activity ≠ .idle) :
    (step ⟨q, .idle⟩ m₀ r).client.queue = q ∧
      Opening q m₀ (step ⟨q, .idle⟩ m₀ r).memory (step ⟨q, .idle⟩ m₀ r).client.activity := by
  cases r with
  | beginWrite count =>
    cases begun : q.beginWrite m₀ count with
    | error e =>
      rw [step_beginWrite_refused begun] at held
      exact absurd rfl held
    | ok opened =>
      obtain ⟨tx, m₁⟩ := opened
      rw [step_beginWrite_begun begun]
      obtain ⟨rfl, -⟩ := Queue.beginWrite_eq_ok begun
      exact ⟨rfl, .write begun⟩
  | beginRead count =>
    rcases begun : q.beginRead m₀ count with ⟨answer, q'⟩
    cases answer with
    | error e =>
      rw [step_beginRead_refused begun] at held
      exact absurd rfl held
    | ok tx =>
      rw [step_beginRead_begun begun]
      obtain ⟨rfl, rfl, fits, -⟩ := Queue.beginRead_eq_ok begun
      exact ⟨rfl, .read fits rfl⟩
  | raise mask =>
    by_cases empty : mask = 0
    · subst empty
      exact absurd rfl held
    · rw [step_raise_some empty] at held
      exact absurd rfl held
  | write | set | copyIn | commitWrite | read | get | copyOut | commitRead | abandon | clear
  | bits => exact absurd rfl held

/-- A step of an open transaction changes the slots that it touches. -/
theorem step_of_open (ready : c.Ready) (opened : c.activity ≠ .idle) {r : Request t}
    (goesOn : r.closes = false) :
    (c.step m r).client = c ∧
      c.queue.descriptor.OnlySlots (fun i => ∃ p, c.Touches m r p ∧ p % c.queue.capacity = i) m
        (c.step m r).memory := by
  have changes := step_changes ready m r
  have sound := ready.sound
  obtain ⟨q, activity⟩ := c
  cases activity with
  | idle => exact absurd rfl opened
  | writing tx =>
    have fits : tx.count ≤ q.capacity := ready.fits rfl
    cases r with
    | set place v =>
      cases stored : q.set m tx place v with
      | error misuse =>
        rw [step_set_broken stored]
        exact ⟨rfl, .refl _ _ m⟩
      | ok m' =>
        rw [step_set_stored stored] at changes ⊢
        obtain ⟨-, rfl⟩ := Queue.set_eq_ok fits stored
        exact ⟨rfl, Descriptor.onlySlots_of sound.placed
          (Queue.storeSlot_only sound m (Nat.mod_lt _ sound.capacity_pos) v) changes⟩
    | copyIn data =>
      cases stored : q.copyIn m tx data with
      | error misuse =>
        rw [step_copyIn_broken stored]
        exact ⟨rfl, .refl _ _ m⟩
      | ok m' =>
        rw [step_copyIn_stored stored] at changes ⊢
        obtain ⟨same, rfl⟩ := Queue.copyIn_eq_ok stored
        rw [← same] at fits
        exact ⟨rfl, Descriptor.onlySlots_of sound.placed (Queue.fill_only sound m tx.pos fits)
          changes⟩
    | commitWrite | commitRead | abandon => cases goesOn
    | write | beginWrite | read | beginRead | get | copyOut | raise | clear | bits =>
      exact ⟨rfl, .refl _ _ m⟩
  | reading tx =>
    cases r with
    | commitWrite | commitRead | abandon => cases goesOn
    | write | beginWrite | set | copyIn | read | beginRead | get | copyOut | raise | clear | bits =>
      exact ⟨rfl, .refl _ _ m⟩

theorem Opening.ready {q : Queue t} {m₀ m₁ : Memory} (sound : q.Sound)
    (opening : Opening q m₀ m₁ c.activity) (same : c.queue = q) : c.Ready := by
  obtain ⟨queue, activity⟩ := c
  obtain rfl : queue = q := same
  refine ⟨sound, ?_⟩
  intro tx opened
  cases opening with
  | write begun =>
    obtain rfl := Option.some.inj opened
    exact (Queue.beginWrite_eq_ok begun).2.1
  | read fits _ =>
    obtain rfl := Option.some.inj opened
    exact fits

theorem Opening.open {q : Queue t} {m₀ m₁ : Memory} (opening : Opening q m₀ m₁ c.activity) :
    c.activity ≠ .idle := by
  intro idle
  rw [idle] at opening
  cases opening

theorem Touches.within {r : Request t} {p : Nat} (touches : c.Touches m r p)
    (opened : c.activity ≠ .idle) : ∃ tx, c.activity = .writing tx ∧
      tx.pos.toNat ≤ p ∧ p < tx.pos.toNat + tx.count := by
  obtain ⟨q, activity⟩ := c
  cases activity with
  | idle => exact absurd rfl opened
  | reading tx => cases touches
  | writing tx =>
    cases r with
    | set place v =>
      obtain ⟨inside, rfl⟩ := touches
      exact ⟨tx, rfl, Nat.le_add_right _ _, Nat.add_lt_add_left inside _⟩
    | copyIn data => exact ⟨tx, rfl, touches.2⟩
    | write | beginWrite | commitWrite | read | beginRead | get | copyOut | commitRead | abandon
    | raise | clear | bits => cases touches

/-- While the transaction is open, its own steps change no bytes but those of
touched slots. -/
theorem Held.kept {q : Queue t} (sound : q.Sound) {m₀ : Memory} {foreign touched : Nat → Prop}
    (held : Held q m₀ foreign c m touched) :
    ∃ m₁, c.queue = q ∧ Opening q m₀ m₁ c.activity ∧ m.size = m₁.size ∧
      (∀ {a}, m.byte a ≠ m₁.byte a → ¬ foreign a →
        ∃ p, touched p ∧ (q.descriptor.slot (p % q.capacity)).Covers a) ∧
      ∀ {p}, touched p → ∃ tx, c.activity = .writing tx ∧
        tx.pos.toNat ≤ p ∧ p < tx.pos.toNat + tx.count := by
  -- `m₁` is the memory right after the opening, whatever has happened since
  induction held with
  | opened opened =>
    obtain ⟨same, opening⟩ := opening_of_step opened
    exact ⟨_, same, opening, rfl, fun differ => absurd rfl differ, False.elim⟩
  | @asked c m touched _ r goesOn ih =>
    obtain ⟨m₁, rfl, opening, size, changed, within⟩ := ih
    have ready := opening.ready sound rfl
    obtain ⟨same, only⟩ := step_of_open (m := m) ready opening.open goesOn
    rw [same]
    refine ⟨m₁, rfl, opening, only.size_eq.trans size, ?_, ?_⟩
    · intro a differ own
      by_cases still : (c.step m r).memory.byte a = m.byte a
      · rw [still] at differ
        obtain ⟨p, before, covers⟩ := changed differ own
        exact ⟨p, .inl before, covers⟩
      · obtain ⟨i, -, ⟨p, now, rfl⟩, covers⟩ := only.changed still
        exact ⟨p, .inr now, covers⟩
    · rintro p (before | now)
      · exact within before
      · exact now.within opening.open
  | @elsewhere c m m' touched _ size_eq only ih =>
    obtain ⟨m₁, same, opening, size, changed, within⟩ := ih
    refine ⟨m₁, same, opening, size_eq.trans size, ?_, within⟩
    intro a differ own
    have still : m'.byte a = m.byte a := by
      by_contra ne
      exact own (only ne)
    rw [still] at differ
    exact changed differ own

end Client

namespace Queue

variable {t : ElementType} {q : Queue t} {m m' : Memory}

theorem reservation_reserve (sound : q.Sound) (flavor : q.flavor = .unsynchronized) (m : Memory)
    (stop : UInt64) : q.reservation (q.reserve m stop) = max (q.reservation m) stop := by
  have raised := congrArg RingView.reserved (view_reserve sound flavor m stop)
  apply UInt64.toNat_inj.mp
  rw [toNat_max]
  exact raised

/-- The reservation is what the bytes of its word say. -/
theorem reservation_of_bytes {g : Grantor} (place : q.descriptor.place? .writeReservation = some g)
    (same : ∀ a, g.Covers a → m'.byte a = m.byte a) : q.reservation m' = q.reservation m := by
  obtain ⟨g, reserve, rfl⟩ := Option.map_eq_some_iff.mp place
  have bytes : m'.bytes g.offset counterSize = m.bytes g.offset counterSize := by
    apply List.map_congr_left
    intro i hi
    exact same _ ⟨Nat.le_add_right _ _, Nat.add_lt_add_left (List.mem_range.mp hi) _⟩
  simp only [reservation, reserve, Memory.load64, Memory.loadNat]
  exact congrArg (fun bytes => UInt64.ofNat (Bytes.toNat bytes)) bytes

end Queue

namespace Client

variable {t : ElementType} {c : Client t} {m : Memory}

/-- A write that is opened raises the reservation, and does nothing else. -/
theorem changed_of_beginWrite {q : Queue t} {m₀ m₁ : Memory} {tx : Transaction}
    (begun : q.beginWrite m₀ tx.count = .ok (tx, m₁)) {a : Nat} (differ : m₁.byte a ≠ m₀.byte a) :
    tx.count ≠ 0 ∧ ∃ g, q.descriptor.place? .writeReservation = some g ∧ g.Covers a := by
  obtain ⟨-, -, -, made⟩ := Queue.beginWrite_eq_ok begun
  by_cases none : tx.count = 0
  · rw [if_pos none] at made
    rw [made] at differ
    exact absurd rfl differ
  · rw [if_neg none] at made
    refine ⟨none, ?_⟩
    by_contra outside
    rw [made] at differ
    exact differ ((Queue.reserve_only q m₀ tx.stop).byte_eq a fun g place covers =>
      outside ⟨g, place, covers⟩)

theorem reservation_of_beginWrite {q : Queue t} (sound : q.Sound)
    (flavor : q.flavor = .unsynchronized) {m₀ m₁ : Memory} {tx : Transaction}
    (begun : q.beginWrite m₀ tx.count = .ok (tx, m₁)) :
    q.reservation m₁ =
      if tx.count = 0 then q.reservation m₀ else max (q.reservation m₀) tx.stop := by
  obtain ⟨-, -, -, rfl⟩ := Queue.beginWrite_eq_ok begun
  split
  · rfl
  · exact Queue.reservation_reserve sound flavor m₀ tx.stop

theorem unsynchronized_of_place {q : Queue t} (sound : q.Sound) {g : Grantor}
    (place : q.descriptor.place? .writeReservation = some g) : q.flavor = .unsynchronized := by
  obtain ⟨g, reserve, -⟩ := Option.map_eq_some_iff.mp place
  have announced := sound.placed.writeReserve_isSome
  rw [reserve] at announced
  show q.descriptor.flavor = .unsynchronized
  cases flavor : q.descriptor.flavor with
  | unsynchronized => rfl
  | synchronized =>
    rw [flavor] at announced
    cases announced

/-- A transaction that is let go has left no trace but touched slots and the
reservation. -/
theorem Held.dropped {q : Queue t} (sound : q.Sound) {m₀ : Memory} {foreign touched : Nat → Prop}
    (held : Held q m₀ foreign c m touched) : Dropped q m₀ foreign c m touched := by
  obtain ⟨m₁, rfl, opening, size, changed, within⟩ := held.kept sound
  obtain ⟨q, activity⟩ := c
  cases opening with
  | @write tx begun =>
    have opens : m₁.size = m₀.size := by
      obtain ⟨-, -, -, rfl⟩ := Queue.beginWrite_eq_ok begun
      split
      · rfl
      · exact (Queue.reserve_only ..).size_eq
    refine ⟨rfl, rfl, size.trans opens, ?_, within, ?_, nofun⟩
    · rintro _ ⟨⟩ a differ own
      by_cases still : m.byte a = m₁.byte a
      · rw [still] at differ
        obtain ⟨some, g, place, covers⟩ := changed_of_beginWrite begun differ
        exact .inr ⟨unsynchronized_of_place sound place, some, g, place, covers⟩
      · exact .inl (changed still own)
    · rintro _ g ⟨⟩ place own
      rw [← reservation_of_beginWrite sound (unsynchronized_of_place sound place) begun]
      apply Queue.reservation_of_bytes place
      intro a covers
      by_contra differ
      obtain ⟨p, -, slot⟩ := changed differ (own a covers)
      have small : p % q.capacity < q.capacity := Nat.mod_lt _ sound.capacity_pos
      exact (sound.placed.slot_apart_word small (by decide) place).not_covers slot covers
  | @read tx fits same =>
    subst same
    refine ⟨rfl, rfl, size, nofun, within, nofun, ?_⟩
    intro _ _ a differ
    by_contra own
    obtain ⟨p, touched, -⟩ := changed differ own
    obtain ⟨_, writing, -⟩ := within touched
    cases writing

end Client

/-! ## Every request that comes to nothing -/

/-- A request that is refused, that breaks a precondition, or that is let go
without a commit leaves everything alone, but for what it had to announce. -/
theorem refusal_atomic {t : ElementType} {c : Client t} (ready : c.Ready) (m : Memory) :
    (∀ {r e}, (c.step m r).reply.error? = some e → c.LeavesAlone m r e) ∧
    (∀ {r misuse}, (c.step m r).reply.misuse? = some misuse → c.Shrugs m r) ∧
    ∀ {foreign touched : Nat → Prop} {c' : Client t} {m' : Memory},
      Client.Held c.queue m foreign c' m' touched →
      Client.Dropped c.queue m foreign c' m' touched :=
  ⟨Client.leavesAlone ready, Client.shrugs c m, fun held => held.dropped ready.sound⟩

/-- A private reader with all slots announced in front of it is told at the end of
its read. A write over two places, of which only the last is set, is let go. -/
theorem refusal_atomic_halfFull :
    let c : Client (.primitive .u8) := ⟨fourBytes .unsynchronized, .idle⟩
    let m := halfFull .unsynchronized
    let opened := c.step m (.beginWrite 2)
    (c.step m (.read [byteQuantum 0])).client.queue =
        { fourBytes .unsynchronized with cursor := .own 2 } ∧
      (c.step m (.read [byteQuantum 0])).memory = m ∧
      Client.Dropped c.queue m (fun _ => False)
        (opened.client.step opened.memory (.set 1 (byteQuantum 9))).client
        (opened.client.step opened.memory (.set 1 (byteQuantum 9))).memory
        fun p => False ∨ opened.client.Touches opened.memory (.set 1 (byteQuantum 9)) p := by
  intro c m opened
  have ready : c.Ready := ⟨Queue.sound_of_create (create_fourBytes .unsynchronized), nofun⟩
  have overrun : (c.step m (.read [byteQuantum 0])).reply.error? = some (.overflow 5 2) := by
    decide
  obtain ⟨refused, -, dropped⟩ := refusal_atomic ready m
  obtain ⟨memory, -, handle, -⟩ := refused overrun
  exact ⟨(handle.resync rfl).2.2, memory, dropped (.asked (.opened (by decide)) rfl)⟩

end SharedQueue
