/-
SharedQueue.Proofs.Desk — one handle, what it acts on and what came of it.

* `Member`, `Ledger` — a handle with what is remembered of it, and what went
  through the queue: the quanta that were set, handed out, published and
  consumed. They are taken from the replies, and no request looks at them.
* `Desk.serve` — one request, with all that it changes.
* `serve_batch` — writing or reading a batch at once is a transaction of its
  own, so what the steps of transactions keep, batches keep.
* `Effect`, `serve_effect` — all that a single operation can lead to.
-/
import SharedQueue.Proofs.Client

namespace SharedQueue

/-! ## What is remembered -/

/-- What came of a read. -/
inductive Delivery (t : ElementType)
  /-- The read of `count` quanta from `pos` on succeeded, and handed out these
  quanta for these positions. -/
  | batch (pos count : Nat) (seen : List (Nat × t.Value))
  /-- The handle was overrun, and was told to go on at `told`, when this many
  quanta were published. -/
  | lost (told published : Nat)

/-- A handle in use, and what is remembered of it. -/
structure Member (t : ElementType) where
  client : Client t
  /-- The number of quanta that were published when the handle was made. -/
  start : Nat
  /-- The quanta of the open write: what its slots held when it was opened,
  and then what was set last. -/
  draft : List t.Value
  /-- What the open read has handed out. -/
  seen : List (Nat × t.Value)
  log : List (Delivery t)

/-- What went through the queue. -/
structure Ledger (t : ElementType) where
  /-- The quanta of all committed writes. -/
  published : List t.Value
  /-- The quanta of all committed reads. -/
  consumed : List t.Value

/-- Quanta with their positions. -/
def numbered {t : ElementType} (pos : Nat) (values : List t.Value) : List (Nat × t.Value) :=
  values.zipIdx pos |>.map fun (v, p) => (p, v)

namespace Member

variable {t : ElementType}

/-- A handle that was just made. -/
def new (q : Queue t) (published : Nat) : Member t := ⟨⟨q, .idle⟩, published, [], [], []⟩

/-- Remembers a failed read, if it was an overrun. -/
def refused (x : Member t) (published : Nat) : Error → Member t
  | .overflow _ told => { x with seen := [], log := x.log ++ [.lost told.toNat published] }
  | _ => { x with seen := [] }

/-- Remembers a read that succeeded. -/
def served (x : Member t) (pos : UInt64) (count : Nat) (seen : List (Nat × t.Value)) : Member t :=
  { x with seen := [], log := x.log ++ [.batch pos.toNat count seen] }

/-- The handle in the middle of something else. -/
def turn (x : Member t) (q : Queue t) (a : Activity) : Member t := { x with client := ⟨q, a⟩ }

/-- What is remembered of a request, given the reply to it. -/
def record (x : Member t) (m : Memory) (published : Nat) (r : Client.Request t)
    (reply : Client.Reply t) : Member t :=
  let q := x.client.queue
  match x.client.activity, r, reply with
  | .idle, .write (_ :: _), .unit (.ok ()) => { x with draft := [] }
  | .idle, .beginWrite _, .opened (.ok tx) =>
    { x with draft := q.quanta m tx.pos.toNat tx.count }
  | .writing _, .set place v, .stored (.ok ()) => { x with draft := x.draft.set place v }
  | .writing _, .copyIn data, .stored (.ok ()) => { x with draft := data }
  | .writing _, .commitWrite, _ => { x with draft := [] }
  | .writing _, .abandon, _ => { x with draft := [] }
  | .idle, .read (_ :: _), .filled (.ok ()) taken =>
    x.served (q.readPos m) taken.length (numbered (q.readPos m).toNat taken)
  | .idle, .read (_ :: _), .filled (.error e) _ => x.refused published e
  | .idle, .beginRead _, .opened (.ok _) => { x with seen := [] }
  | .idle, .beginRead _, .opened (.error e) => x.refused published e
  | .reading tx, .get place, .element (.ok v) =>
    { x with seen := x.seen ++ [(tx.pos.toNat + place, v)] }
  | .reading tx, .copyOut _, .elements (.ok taken) =>
    { x with seen := x.seen ++ numbered tx.pos.toNat taken }
  | .reading tx, .commitRead, .unit (.ok ()) => x.served tx.pos tx.count x.seen
  | .reading _, .commitRead, .unit (.error e) => x.refused published e
  | .reading _, .abandon, _ => { x with seen := [] }
  | _, _, _ => x

end Member

namespace Ledger

variable {t : ElementType}

/-- What goes through the queue with a request of `x`, given the reply. -/
def record (l : Ledger t) (x : Member t) (m : Memory) (r : Client.Request t)
    (reply : Client.Reply t) : Ledger t :=
  match x.client.activity, r, reply with
  | .idle, .write (v :: rest), .unit (.ok ()) =>
    { l with published := l.published ++ v :: rest }
  | .writing _, .commitWrite, _ => { l with published := l.published ++ x.draft }
  | .idle, .read (_ :: _), .filled (.ok ()) taken => { l with consumed := l.consumed ++ taken }
  | .reading tx, .commitRead, .unit (.ok ()) =>
    { l with consumed := l.consumed ++ x.client.queue.quanta m tx.pos.toNat tx.count }
  | _, _, _ => l

end Ledger

/-! ## One handle at its desk -/

/-- A handle with all that it acts on. -/
structure Desk (t : ElementType) where
  member : Member t
  memory : Memory
  ledger : Ledger t

/-- The handle serves a request. -/
def Desk.serve {t : ElementType} (k : Desk t) (r : Client.Request t) : Desk t :=
  let out := k.member.client.step k.memory r
  let x := k.member.record k.memory k.ledger.published.length r out.reply
  ⟨{ x with client := out.client }, out.memory, k.ledger.record k.member k.memory r out.reply⟩

/-! ## Batches as transactions -/

/-- The number of quanta of the write that a request opens, if it does. A
batch of nothing opens none. -/
def Client.Request.writes? {t : ElementType} : Client.Request t → Option Nat
  | .write (v :: rest) => some (v :: rest).length
  | .beginWrite count => some count
  | _ => none

/-- The number of quanta of the read that a request opens, if it does. -/
def Client.Request.reads? {t : ElementType} : Client.Request t → Option Nat
  | .read (v :: rest) => some (v :: rest).length
  | .beginRead count => some count
  | _ => none

/-- A request is a single operation, not a batch. -/
def Client.Request.Single {t : ElementType} : Client.Request t → Prop
  | .write _ => False
  | .read _ => False
  | _ => True

namespace Desk

variable {t : ElementType} {q : Queue t} {start : Nat} {draft : List t.Value}
  {seen : List (Nat × t.Value)} {log : List (Delivery t)} {m : Memory} {l : Ledger t}

/-- Writing a batch at once is a transaction that sets all of it. -/
theorem serve_write {data : List t.Value} {tx : Transaction} {m' : Memory} (some : data ≠ [])
    (begun : q.beginWrite m data.length = .ok (tx, m')) :
    serve ⟨⟨⟨q, .idle⟩, start, draft, seen, log⟩, m, l⟩ (.write data) =
      (((serve ⟨⟨⟨q, .idle⟩, start, draft, seen, log⟩, m, l⟩ (.beginWrite data.length)).serve
        (.copyIn data)).serve .commitWrite) := by
  obtain ⟨v, rest, rfl⟩ := List.exists_cons_of_ne_nil some
  obtain ⟨same, -⟩ := Queue.beginWrite_eq_ok begun
  have length : (v :: rest).length = tx.count := by rw [same]
  have copied : q.copyIn m' tx (v :: rest) = .ok (q.fill m' tx.pos (v :: rest)) := if_pos length
  simp only [serve, Client.step, Queue.write, List.isEmpty_cons, Bool.false_eq_true, if_false,
    begun, copied, Member.record, Ledger.record]

theorem serve_read {buffer : List t.Value} {tx : Transaction} {q' : Queue t} (some : buffer ≠ [])
    (begun : q.beginRead m buffer.length = (.ok tx, q')) :
    serve ⟨⟨⟨q, .idle⟩, start, draft, seen, log⟩, m, l⟩ (.read buffer) =
      (((serve ⟨⟨⟨q, .idle⟩, start, draft, seen, log⟩, m, l⟩ (.beginRead buffer.length)).serve
        (.copyOut buffer.length)).serve .commitRead) := by
  obtain ⟨v, rest, rfl⟩ := List.exists_cons_of_ne_nil some
  obtain ⟨rfl, rfl, fits, -⟩ := Queue.beginRead_eq_ok begun
  have taken := Queue.take_eq q' m (q'.readPos m) fits
  have copied : q'.copyOut m ⟨q'.readPos m, (v :: rest).length⟩ (v :: rest).length
      = .ok (q'.quanta m (q'.readPos m).toNat (v :: rest).length) := by
    rw [← taken]
    exact if_pos rfl
  rcases committed : q'.commitRead m ⟨q'.readPos m, (v :: rest).length⟩ with ⟨answer | answer, q, m'⟩
  · simp only [serve, Client.step, Queue.read, List.isEmpty_cons, Bool.false_eq_true, if_false,
      begun, copied, taken, committed, Member.record, Ledger.record]
    cases answer <;> rfl
  · simp only [serve, Client.step, Queue.read, List.isEmpty_cons, Bool.false_eq_true, if_false,
      begun, copied, taken, committed, Member.record, Ledger.record, Member.served,
      List.nil_append, Queue.length_quanta]

/-- A batch that is refused is a transaction that is not opened. -/
theorem serve_write_refused {data : List t.Value} {e : Error} (some : data ≠ [])
    (refused : q.beginWrite m data.length = .error e) :
    serve ⟨⟨⟨q, .idle⟩, start, draft, seen, log⟩, m, l⟩ (.write data) =
      ⟨⟨⟨q, .idle⟩, start, draft, seen, log⟩, m, l⟩ := by
  obtain ⟨v, rest, rfl⟩ := List.exists_cons_of_ne_nil some
  simp only [serve, Client.step, Queue.write, List.isEmpty_cons, Bool.false_eq_true, if_false,
    refused, Member.record, Ledger.record]

theorem serve_read_refused {buffer : List t.Value} {e : Error} {q' : Queue t}
    (some : buffer ≠ []) (refused : q.beginRead m buffer.length = (.error e, q')) :
    serve ⟨⟨⟨q, .idle⟩, start, draft, seen, log⟩, m, l⟩ (.read buffer) =
      serve ⟨⟨⟨q, .idle⟩, start, draft, seen, log⟩, m, l⟩ (.beginRead buffer.length) := by
  obtain ⟨v, rest, rfl⟩ := List.exists_cons_of_ne_nil some
  simp only [serve, Client.step, Queue.read, List.isEmpty_cons, Bool.false_eq_true, if_false,
    refused, Member.record, Ledger.record]

/-- What every single operation keeps, a batch keeps. The operation that opens
a transaction on the way does so at the desk where the batch begins, for as
many quanta as the batch has. -/
theorem serve_batch {P : Desk t → Prop} {d : Desk t} {r : Client.Request t} (now : P d)
    (single : ∀ d' r', P d' → r'.Single →
      (∀ n, r'.writes? = some n → d' = d ∧ r.writes? = some n) →
      (∀ n, r'.reads? = some n → d' = d ∧ r.reads? = some n) → P (d'.serve r')) :
    P (d.serve r) := by
  obtain ⟨⟨⟨q, activity⟩, start, draft, seen, log⟩, m, l⟩ := d
  have opensNone : ∀ {r' : Client.Request t} {d d' : Desk t} {p : Option Nat}, r'.writes? = none →
      ∀ n, r'.writes? = some n → d' = d ∧ p = some n := by
    intro r' d d' p none n opens
    rw [none] at opens
    cases opens
  have readsNone : ∀ {r' : Client.Request t} {d d' : Desk t} {p : Option Nat}, r'.reads? = none →
      ∀ n, r'.reads? = some n → d' = d ∧ p = some n := by
    intro r' d d' p none n opens
    rw [none] at opens
    cases opens
  cases r with
  | write data =>
    cases activity with
    | idle =>
      by_cases none : data = []
      · subst none
        exact now
      · have opens : (Client.Request.write data).writes? = some data.length := by
          obtain ⟨v, rest, rfl⟩ := List.exists_cons_of_ne_nil none
          rfl
        cases begun : q.beginWrite m data.length with
        | error e =>
          rw [serve_write_refused none begun]
          exact now
        | ok opened =>
          rw [serve_write none begun]
          have first := single _ (.beginWrite data.length) now trivial
            (fun n same => ⟨rfl, opens.trans same⟩) (readsNone rfl)
          have second := single _ (.copyIn data) first trivial (opensNone rfl) (readsNone rfl)
          exact single _ .commitWrite second trivial (opensNone rfl) (readsNone rfl)
    | writing tx => exact now
    | reading tx => exact now
  | read buffer =>
    cases activity with
    | idle =>
      by_cases none : buffer = []
      · subst none
        exact now
      · have opens : (Client.Request.read buffer).reads? = some buffer.length := by
          obtain ⟨v, rest, rfl⟩ := List.exists_cons_of_ne_nil none
          rfl
        have first := single _ (.beginRead buffer.length) now trivial (opensNone rfl)
          (fun n same => ⟨rfl, opens.trans same⟩)
        rcases begun : q.beginRead m buffer.length with ⟨e | tx, q'⟩
        · rw [serve_read_refused none begun]
          exact first
        · rw [serve_read none begun]
          have second := single _ (.copyOut buffer.length) first trivial (opensNone rfl)
            (readsNone rfl)
          exact single _ .commitRead second trivial (opensNone rfl) (readsNone rfl)
    | writing tx => exact now
    | reading tx => exact now
  | beginWrite | set | copyIn | commitWrite | beginRead | get | copyOut | commitRead | abandon
  | raise | clear | bits =>
    exact single _ _ now trivial (fun n same => ⟨rfl, same⟩) (fun n same => ⟨rfl, same⟩)

/-! ## What a single operation can lead to -/

/-- The handle itself. -/
def queue (d : Desk t) : Queue t := d.member.client.queue

/-- What the handle sees. -/
def view (d : Desk t) : RingView t := d.queue.view d.memory

/-- All that a single operation can lead to. -/
inductive Effect (d : Desk t) (r : Client.Request t) : Desk t → Prop
  /-- Nothing changes but bits of the flag. -/
  | quiet (m : Memory) (same : d.queue.view m = d.queue.view d.memory) :
    Effect d r { d with memory := m }
  | openWrite (tx : Transaction) (m : Memory) (idle : d.member.client.activity = .idle)
    (asked : r.writes? = some tx.count)
    (begun : d.queue.beginWrite d.memory tx.count = .ok (tx, m)) :
    Effect d r ⟨{ d.member.turn d.queue (.writing tx) with
      draft := d.queue.quanta d.memory tx.pos.toNat tx.count }, m, d.ledger⟩
  /-- Slots of the open write are filled. -/
  | fillIn (tx : Transaction) (draft : List t.Value) (m : Memory) (quantum : Nat → t.Value)
    (writing : d.member.client.activity = .writing tx)
    (view : d.queue.view m = { d.view with quantum := quantum })
    (kept : ∀ p, (∀ i < tx.count, p % d.queue.capacity ≠ (tx.pos.toNat + i) % d.queue.capacity) →
      quantum p = d.view.quantum p)
    (whole : d.member.draft = d.view.stretch tx.pos.toNat tx.count →
      draft = (d.queue.view m).stretch tx.pos.toNat tx.count) :
    Effect d r ⟨{ d.member with draft := draft }, m, d.ledger⟩
  | commitWrite (tx : Transaction) (writing : d.member.client.activity = .writing tx) :
    Effect d r ⟨{ d.member.turn d.queue .idle with draft := [] }, d.queue.commitWrite d.memory tx,
      { d.ledger with published := d.ledger.published ++ d.member.draft }⟩
  | abandonWrite (tx : Transaction) (writing : d.member.client.activity = .writing tx) :
    Effect d r { d with member := { d.member.turn d.queue .idle with draft := [] } }
  | openRead (tx : Transaction) (idle : d.member.client.activity = .idle)
    (asked : r.reads? = some tx.count)
    (begun : d.queue.beginRead d.memory tx.count = (.ok tx, d.queue)) :
    Effect d r { d with member := { d.member.turn d.queue (.reading tx) with seen := [] } }
  | refuseRead (count : Nat) (e : Error) (q : Queue t)
    (idle : d.member.client.activity = .idle)
    (refused : d.queue.beginRead d.memory count = (.error e, q)) :
    Effect d r { d with
      member := (d.member.refused d.ledger.published.length e).turn q .idle }
  /-- Quanta of the open read are looked at. -/
  | handOut (tx : Transaction) (taken : List (Nat × t.Value))
    (reading : d.member.client.activity = .reading tx)
    (there : ∀ p v, (p, v) ∈ taken →
      tx.pos.toNat ≤ p ∧ p < tx.pos.toNat + tx.count ∧ v = d.queue.quantumAt d.memory p) :
    Effect d r { d with member := { d.member with seen := d.member.seen ++ taken } }
  | commitRead (tx : Transaction) (q : Queue t) (m : Memory)
    (reading : d.member.client.activity = .reading tx)
    (committed : d.queue.commitRead d.memory tx = (.ok (), q, m)) :
    Effect d r ⟨(d.member.served tx.pos tx.count d.member.seen).turn q .idle, m,
      { d.ledger with
        consumed := d.ledger.consumed ++ d.queue.quanta d.memory tx.pos.toNat tx.count }⟩
  | refuseCommit (tx : Transaction) (e : Error) (q : Queue t) (m : Memory)
    (reading : d.member.client.activity = .reading tx)
    (refused : d.queue.commitRead d.memory tx = (.error e, q, m)) :
    Effect d r ⟨(d.member.refused d.ledger.published.length e).turn q .idle, m, d.ledger⟩
  | abandonRead (tx : Transaction) (reading : d.member.client.activity = .reading tx) :
    Effect d r { d with member := { d.member.turn d.queue .idle with seen := [] } }

theorem mem_numbered {pos p : Nat} {v : t.Value} {values : List t.Value} :
    (p, v) ∈ numbered pos values ↔ ∃ i, ∃ hi : i < values.length, p = pos + i ∧ v = values[i] := by
  unfold numbered
  constructor
  · intro mem
    obtain ⟨⟨v', p'⟩, mem', same⟩ := List.mem_map.mp mem
    obtain ⟨rfl, rfl⟩ := Prod.mk.inj same
    obtain ⟨i, hi, entry⟩ := List.getElem_of_mem mem'
    rw [List.getElem_zipIdx] at entry
    obtain ⟨left, right⟩ := Prod.mk.inj entry
    rw [List.length_zipIdx] at hi
    exact ⟨i, hi, right.symm, left.symm⟩
  · rintro ⟨i, hi, rfl, rfl⟩
    apply List.mem_map.mpr
    refine ⟨(values[i], pos + i), ?_, rfl⟩
    apply List.mem_of_getElem (i := i) (h := by rw [List.length_zipIdx]; exact hi)
    rw [List.getElem_zipIdx]

/-- A single operation has one of the effects. -/
theorem serve_effect {d : Desk t} {r : Client.Request t} (ready : d.member.client.Ready)
    (isSingle : r.Single) : Effect d r (d.serve r) := by
  have sound := ready.sound
  obtain ⟨⟨⟨q, activity⟩, start, draft, seen, log⟩, m, l⟩ := d
  have still := Effect.quiet (d := ⟨⟨⟨q, activity⟩, start, draft, seen, log⟩, m, l⟩) (r := r) m rfl
  cases activity with
  | idle =>
    cases r with
    | write => cases isSingle
    | read => cases isSingle
    | beginWrite count =>
      cases begun : q.beginWrite m count with
      | error e =>
        simp only [serve, Client.step, begun, Member.record, Ledger.record]
        exact still
      | ok opened =>
        obtain ⟨tx, m'⟩ := opened
        have same : tx.count = count := by rw [(Queue.beginWrite_eq_ok begun).1]
        simp only [serve, Client.step, begun, Member.record, Ledger.record]
        exact .openWrite tx m' rfl (by rw [same]; rfl) (by rw [same]; exact begun)
    | beginRead count =>
      rcases begun : q.beginRead m count with ⟨e | tx, q'⟩
      · simp only [serve, Client.step, begun, Member.record, Ledger.record]
        exact .refuseRead count e q' rfl begun
      · obtain ⟨rfl, shape, -⟩ := Queue.beginRead_eq_ok begun
        have same : tx.count = count := by rw [shape]
        simp only [serve, Client.step, begun, Member.record, Ledger.record]
        exact .openRead tx rfl (by rw [same]; rfl) (by rw [same]; exact begun)
    | raise mask =>
      by_cases none : mask = 0
      · simp only [serve, Client.step, if_pos none, Member.record, Ledger.record]
        exact still
      · simp only [serve, Client.step, if_neg none, Member.record, Ledger.record]
        exact .quiet _ (Queue.view_notify sound m mask)
    | clear mask => exact .quiet _ (Queue.view_clearBits sound m mask)
    | set | copyIn | commitWrite | get | copyOut | commitRead | abandon | bits => exact still
  | writing tx =>
    have fits : tx.count ≤ q.capacity := ready.fits rfl
    cases r with
    | write => cases isSingle
    | read => cases isSingle
    | set place v =>
      cases stored : q.set m tx place v with
      | error e =>
        simp only [serve, Client.step, stored, Member.record, Ledger.record]
        exact still
      | ok m' =>
        obtain ⟨inside, rfl⟩ := Queue.set_eq_ok fits stored
        have view := Queue.view_storeSlot sound m (tx.pos.toNat + place) v
        simp only [serve, Client.step, stored, Member.record, Ledger.record]
        refine .fillIn tx _ _ _ rfl view ?_ ?_
        · intro p other
          exact if_neg (other place inside).symm
        · intro whole
          have whole : draft = (q.view m).stretch tx.pos.toNat tx.count := whole
          show draft.set place v = RingView.stretch (q.view _) _ _
          rw [view, whole]
          exact RingView.stretch_set (q.view m) v fits inside
    | copyIn data =>
      cases copied : q.copyIn m tx data with
      | error e =>
        simp only [serve, Client.step, copied, Member.record, Ledger.record]
        exact still
      | ok m' =>
        obtain ⟨whole, rfl⟩ := Queue.copyIn_eq_ok copied
        have fits' : data.length ≤ q.capacity := by
          rw [whole]
          exact fits
        simp only [serve, Client.step, copied, Member.record, Ledger.record]
        refine .fillIn tx _ _ _ rfl (Queue.view_fill sound m tx.pos fits') ?_ ?_
        · intro p other
          apply Queue.quantumAt_fill_of_ne q m tx.pos sound.capacity_pos fits'
          rw [whole]
          exact other
        · intro _
          rw [← whole]
          exact Queue.stretch_fill q m tx.pos fits'
    | commitWrite => exact .commitWrite tx rfl
    | abandon => exact .abandonWrite tx rfl
    | beginWrite | beginRead | get | copyOut | commitRead | raise | clear | bits => exact still
  | reading tx =>
    have fits : tx.count ≤ q.capacity := ready.fits rfl
    cases r with
    | write => cases isSingle
    | read => cases isSingle
    | get place =>
      cases given : q.get m tx place with
      | error e =>
        simp only [serve, Client.step, given, Member.record, Ledger.record]
        exact still
      | ok v =>
        obtain ⟨inside, same⟩ := Queue.get_eq_ok fits given
        simp only [serve, Client.step, given, Member.record, Ledger.record]
        refine .handOut tx [(tx.pos.toNat + place, v)] rfl ?_
        intro p v' mem
        obtain ⟨rfl, rfl⟩ := Prod.mk.inj (List.mem_singleton.mp mem)
        exact ⟨Nat.le_add_right _ _, Nat.add_lt_add_left inside _, same⟩
    | copyOut length =>
      cases given : q.copyOut m tx length with
      | error e =>
        simp only [serve, Client.step, given, Member.record, Ledger.record]
        exact still
      | ok values =>
        obtain ⟨-, same⟩ := Queue.copyOut_eq_ok fits given
        simp only [serve, Client.step, given, Member.record, Ledger.record]
        refine .handOut tx (numbered tx.pos.toNat values) rfl ?_
        intro p v mem
        obtain ⟨i, hi, rfl, rfl⟩ := mem_numbered.mp mem
        subst same
        rw [Queue.length_quanta] at hi
        exact ⟨Nat.le_add_right _ _, Nat.add_lt_add_left hi _, Queue.getElem_quanta ..⟩
    | commitRead =>
      rcases committed : q.commitRead m tx with ⟨e | answer, q', m'⟩
      · simp only [serve, Client.step, committed, Member.record, Ledger.record]
        exact .refuseCommit tx e q' m' rfl committed
      · simp only [serve, Client.step, committed, Member.record, Ledger.record]
        exact .commitRead tx q' m' rfl committed
    | abandon => exact .abandonRead tx rfl
    | beginWrite | set | copyIn | commitWrite | beginRead | raise | clear | bits => exact still

end Desk

/-! ## What is to be kept -/

/-- What is to be kept of the ledger and of each handle, given the view and
the capacity. -/
structure Promise (t : ElementType) where
  ledger : Ledger t → RingView t → Nat → Prop
  member : Member t → Ledger t → RingView t → Nat → Prop

namespace Desk

variable {t : ElementType}

/-- The promise holds for a handle at its desk. -/
structure Holds (p : Promise t) (d : Desk t) : Prop where
  ready : d.member.client.Ready
  ledger : p.ledger d.ledger d.view d.queue.capacity
  member : p.member d.member d.ledger d.view d.queue.capacity

/-- The promise is kept, for the handle itself and for others. Two handles
never write at the same time, nor do they read a synchronized queue. -/
structure Keeps (p : Promise t) (d d' : Desk t) : Prop where
  ledger : p.ledger d'.ledger d'.view d.queue.capacity
  member : p.member d'.member d'.ledger d'.view d.queue.capacity
  others : ∀ y : Member t, p.member y d.ledger d.view d.queue.capacity →
    (∀ tx tx', d.member.client.activity = .writing tx → y.client.activity ≠ .writing tx') →
    (d.queue.flavor = .synchronized →
      ∀ tx tx', d.member.client.activity = .reading tx → y.client.activity ≠ .reading tx') →
    p.member y d'.ledger d'.view d.queue.capacity

/-- What changes neither the view nor the ledger has only the handle itself to
care for. -/
theorem Keeps.of_view {p : Promise t} {d d' : Desk t} (holds : d.Holds p)
    (view : d'.view = d.view) (ledger : d'.ledger = d.ledger)
    (after : p.member d'.member d.ledger d.view d.queue.capacity) : d.Keeps p d' := by
  constructor
  · rw [view, ledger]
    exact holds.ledger
  · rw [view, ledger]
    exact after
  · intro y before _ _
    rw [view, ledger]
    exact before

end Desk

end SharedQueue
