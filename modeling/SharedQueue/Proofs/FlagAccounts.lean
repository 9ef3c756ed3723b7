/-
SharedQueue.Proofs.FlagAccounts — what a call has told the flag word of a queue.

* `WriteCall.Told`, `ReadCall.Told`, `FlagCall.Told` — what a call has told so far,
  wherever it stands. A call that fails has told nothing but that it began to wait,
  and one that succeeds has told of its success exactly once.
* `told_first`, `told_step` — so it is at the beginning, and every step keeps it so.
* `WriteCall.committing`, `ReadState.committing` — a transaction that is committed is
  the end of such a call; `ends_committing` says that it does what a commit does.
-/
import SharedQueue.Proofs.FlagEvents
import SharedQueue.Proofs.LoneRead

namespace SharedQueue

variable {t : ElementType} {flag : FlagWord} {told waited : List FlagEvent} {s : Store}

/-- Nothing was told but that the call began to wait, however often. -/
def Waiting.Only (flag : FlagWord) (waiting : Option Waiting) (told : List FlagEvent) : Prop :=
  ∀ e ∈ told, e ∈ Waiting.begins flag waiting

theorem Waiting.only_nil {waiting : Option Waiting} : Only flag waiting [] :=
  nofun

theorem Waiting.Only.again {waiting : Option Waiting} (only : Only flag waiting waited) :
    Only flag waiting (Waiting.begins flag waiting ++ waited) := by
  intro e mem
  rcases List.mem_append.mp mem with new | old
  · exact new
  · exact only e old

/-! ## The quanta of a transaction -/

namespace Queue

variable (q : Queue t) (m : Memory)

/-- A transaction is known by its position and its quanta. -/
theorem transaction_take (tx : Transaction) :
    ⟨tx.pos, (q.take m tx.pos tx.count).length⟩ = tx :=
  congrArg (Transaction.mk tx.pos) (ReadCall.length_take ..)

end Queue

/-! ## Writes -/

namespace WriteCall

/-- What a write tells in the end if it succeeds. -/
def success (c : WriteCall t) (flag : FlagWord) : List FlagEvent :=
  Waiting.serves flag c.waiting ++ (c.queue.tells flag .published ++ c.queue.tells flag .stored)

/-- The part of it that is told before a point. -/
def toldAt (c : WriteCall t) (flag : FlagWord) : WritePoint → List FlagEvent
  | .raiseOwn => c.queue.tells flag .stored
  | .signalOwn | .raiseNotify => c.queue.tells flag .published ++ c.queue.tells flag .stored
  | .signalNotify | .done => c.success flag
  | _ => []

/-- A write stands at a point, and has told this. -/
structure Standing (c : WriteCall t) (flag : FlagWord) (told : List FlagEvent) (p : WritePoint) :
    Prop where
  some : c.data ≠ []
  fits : c.Fits p
  waits : p.late = true → c.waiting ≠ none
  told : ∃ waited, Waiting.Only flag c.waiting waited ∧ told = c.toldAt flag p ++ waited

/-- What a write has told so far. -/
def Told (c : WriteCall t) (flag : FlagWord) (told : List FlagEvent) (move : Next) : Prop :=
  match move with
  | .finish (.ok ()) => c.data = [] ∧ told = [] ∨
    c.data ≠ [] ∧ ∃ waited, Waiting.Only flag c.waiting waited ∧ told = c.success flag ++ waited
  | .finish (.error _) => Waiting.Only flag c.waiting told
  | .go p | .signal _ _ p | .park _ _ _ p | .pause _ p => c.Standing flag told p

variable {c : WriteCall t} {p p' : WritePoint}

/-- How a single attempt begins. -/
def once (data : List t.Value) : Next := if data = [] then .finish (.ok ()) else .go .begin

theorem told_once (q : Queue t) (data : List t.Value) (flag : FlagWord) :
    Told ⟨q, data, none⟩ flag [] (once data) := by
  unfold once
  split
  · rename_i empty
    exact .inl ⟨empty, rfl⟩
  · rename_i some
    exact ⟨some, trivial, nofun, [], Waiting.only_nil, rfl⟩

theorem told_first (q : Queue t) (data : List t.Value) (a : Manner) (flag : FlagWord) :
    (inManner q data a).Told flag [] (first q data a) := by
  rw [first_eq]
  split
  · rename_i empty
    exact .inl ⟨empty, rfl⟩
  · rename_i some
    split
    · exact Waiting.only_nil
    · split
      · exact Waiting.only_nil
      · exact ⟨some, trivial, nofun, [], Waiting.only_nil, rfl⟩

/-- The write goes on to a point before which nothing more is told. -/
theorem Standing.move (standing : c.Standing flag told p) (fits : c.Fits p')
    (waits : p'.late = true → c.waiting ≠ none) (same : c.toldAt flag p' = c.toldAt flag p) :
    c.Standing flag told p' :=
  ⟨standing.some, fits, waits, same ▸ standing.told⟩

/-- A point before which nothing is told. -/
theorem Standing.only (standing : c.Standing flag told p) (nothing : c.toldAt flag p = []) :
    Waiting.Only flag c.waiting told := by
  obtain ⟨waited, only, rfl⟩ := standing.told
  rw [nothing]
  exact only

/-- The write tries again. -/
theorem Standing.retry (standing : c.Standing flag told p) (nothing : c.toldAt flag p = []) :
    c.Standing flag told .begin :=
  standing.move trivial nofun nothing.symm

theorem told_refuse {e : Error} (standing : c.Standing flag told p)
    (nothing : c.toldAt flag p = []) : c.Told flag told (c.refuse e) := by
  unfold refuse
  split
  · rename_i wait waits
    split
    · exact standing.move trivial (fun _ => by simp [waits]) nothing.symm
    · exact standing.only nothing
  · exact standing.only nothing

theorem standing_afterOwn (some : c.data ≠ []) (only : Waiting.Only flag c.waiting waited) :
    c.Standing flag
      (c.queue.tells flag .published ++ c.queue.tells flag .stored ++ waited) c.afterOwn := by
  unfold afterOwn
  split
  · rename_i wait waits
    exact ⟨some, trivial, fun _ => by simp [waits], waited, only, rfl⟩
  · rename_i alone
    refine ⟨some, trivial, nofun, waited, only, ?_⟩
    rw [toldAt, success, alone]
    rfl

/-- The steps up to the store of the write counter. -/
theorem told_attempt (standing : c.Standing flag told p) (now : Instant) (s : Store)
    (attempt : p = .begin ∨ (∃ pos, p = .judge pos) ∨ (∃ pos, p = .reserve pos) ∨
      (∃ pos, p = .fill pos) ∨ ∃ pos, p = .publish pos) :
    c.Told flag (c.events flag p ++ told) (c.step now s p).2 := by
  obtain rfl | ⟨pos, rfl⟩ | ⟨pos, rfl⟩ | ⟨pos, rfl⟩ | ⟨pos, rfl⟩ := attempt
  · exact standing.move trivial nofun rfl
  · unfold step
    dsimp only
    split
    · exact told_refuse standing rfl
    · rename_i admitted
      have fits := (Queue.checkWrite_eq_ok admitted).1
      dsimp only [Told]
      split
      · exact standing.move fits nofun rfl
      · exact standing.move fits nofun rfl
  · exact standing.move standing.fits nofun rfl
  · exact standing.move trivial nofun rfl
  · have only := standing.only rfl
    unfold step
    dsimp only [Told]
    split
    · exact ⟨standing.some, trivial, nofun, told, only, rfl⟩
    · rename_i flagless
      have absent : c.queue.flagWord? = none := by simpa using flagless
      have silent (e : FlagEvent) : c.queue.tells flag e = [] := Queue.tells_of_none absent _ _
      have before : c.events flag (.publish pos) = [] := silent _
      have same : c.events flag (.publish pos) ++ told =
          c.queue.tells flag .published ++ c.queue.tells flag .stored ++ told := by
        rw [before, silent, silent, List.append_nil]
      rw [same]
      exact standing_afterOwn standing.some only

/-- The steps after it. -/
theorem told_done (standing : c.Standing flag told p) (now : Instant) (s : Store)
    (done : p = .raiseOwn ∨ p = .signalOwn ∨ p = .raiseNotify ∨ p = .signalNotify ∨ p = .done) :
    c.Told flag (c.events flag p ++ told) (c.step now s p).2 := by
  obtain ⟨waited, only, rfl⟩ := standing.told
  obtain rfl | rfl | rfl | rfl | rfl := done
  · have after := standing_afterOwn standing.some only
    have same : c.events flag .raiseOwn ++ (c.toldAt flag .raiseOwn ++ waited) =
        c.queue.tells flag .published ++ c.queue.tells flag .stored ++ waited :=
      (List.append_assoc ..).symm
    rw [same]
    unfold step
    dsimp only
    split
    · exact after
    · dsimp only [Told]
      split
      · exact ⟨standing.some, trivial, nofun, waited, only, rfl⟩
      · exact after
  · have after := standing_afterOwn standing.some only
    unfold step
    dsimp only
    split <;> exact after
  · unfold step
    dsimp only
    split
    · rename_i alone
      exact absurd alone (standing.waits rfl)
    · have same : c.events flag .raiseNotify ++ (c.toldAt flag .raiseNotify ++ waited) =
          c.success flag ++ waited := (List.append_assoc ..).symm
      rw [same]
      dsimp only [Told]
      split
      · exact ⟨standing.some, trivial, fun _ => standing.waits rfl, waited, only, rfl⟩
      · exact ⟨standing.some, trivial, nofun, waited, only, rfl⟩
  · unfold step
    dsimp only
    split
    · rename_i alone
      exact absurd alone (standing.waits rfl)
    · exact ⟨standing.some, trivial, nofun, waited, only, rfl⟩
  · exact .inr ⟨standing.some, waited, only, rfl⟩

/-- The steps of waiting. -/
theorem told_waiting (standing : c.Standing flag told p) (now : Instant) (s : Store)
    (late : p.late = true) (failed : p ≠ .raiseNotify ∧ p ≠ .signalNotify) :
    c.Told flag (c.events flag p ++ told) (c.step now s p).2 := by
  have can := standing.waits late
  obtain ⟨wait, waits⟩ := Option.ne_none_iff_exists'.mp can
  cases p with
  | expire =>
    unfold step
    simp only [waits]
    split
    · exact standing.only rfl
    · exact standing.move trivial (fun _ => can) rfl
  | clear =>
    unfold step
    simp only [waits]
    exact ⟨standing.some, trivial, fun _ => can, _, (standing.only rfl).again, rfl⟩
  | observe =>
    unfold step
    simp only [waits, Told]
    split
    · exact standing.move trivial (fun _ => can) rfl
    · exact standing.retry rfl
  | recount seen =>
    unfold step
    simp only [waits]
    exact standing.move trivial (fun _ => can) rfl
  | recheck seen pos =>
    unfold step
    simp only [waits, Told]
    split
    · exact standing.retry rfl
    · exact standing.move trivial (fun _ => can) rfl
  | park seen =>
    unfold step
    simp only [waits]
    split
    · exact standing.retry rfl
    · exact standing.retry rfl
  | raiseNotify => exact absurd rfl failed.1
  | signalNotify => exact absurd rfl failed.2
  | begin | judge | reserve | fill | publish | raiseOwn | signalOwn | done => cases late

theorem told_step (standing : c.Standing flag told p) (now : Instant) (s : Store) :
    c.Told flag (c.events flag p ++ told) (c.step now s p).2 := by
  cases p with
  | begin | judge | reserve | fill | publish => exact told_attempt standing now s (by simp)
  | raiseOwn | signalOwn | raiseNotify | signalNotify | done =>
    exact told_done standing now s (by simp)
  | expire | clear | observe | recount | recheck | park =>
    exact told_waiting standing now s rfl (by simp)

theorem standing_of_told {move : Next} (so : c.Told flag told move) (next : move.next? = some p) :
    c.Standing flag told p := by
  cases move <;> cases next <;> exact so

/-! ## Commits of transactions -/

/-- The rest of a write that fills no slots any more: what is in them is published. -/
def committing (q : Queue t) (m : Memory) (tx : Transaction) : WriteCall t :=
  ⟨q, q.take m tx.pos tx.count, none⟩

/-- How it begins. -/
def commit (tx : Transaction) : Next :=
  if tx.count = 0 then .finish (.ok ()) else .go (.publish tx.pos)

/-- That is how a write transaction is committed. -/
theorem ends_committing (q : Queue t) {tx : Transaction} (some : tx.count ≠ 0)
    (mapped : q.region.memory < s.memories.size) :
    Ends (committing q (q.memory s) tx).step (.ok ())
      (s.update q.region.memory fun m => q.commitWrite m tx) s (.publish tx.pos) := by
  have ends := ends_publish (c := committing q (q.memory s) tx) mapped
    (q.take_ne_nil _ tx.pos some) tx.pos
  have same := q.transaction_take (q.memory s) tx
  rw [committing, same] at ends
  exact ends

theorem told_commit (q : Queue t) (m : Memory) (tx : Transaction) (flag : FlagWord) :
    (committing q m tx).Told flag [] (commit tx) := by
  unfold commit
  split
  · rename_i empty
    exact .inl ⟨List.length_eq_zero_iff.mp ((ReadCall.length_take ..).trans empty), rfl⟩
  · rename_i some
    exact ⟨q.take_ne_nil m tx.pos some, trivial, nofun, [], Waiting.only_nil, rfl⟩

end WriteCall

/-! ## Reads -/

namespace ReadCall

/-- What a read tells in the end if it succeeds. -/
def success (c : ReadCall) (flag : FlagWord) (q : Queue t) : List FlagEvent :=
  Waiting.serves flag c.waiting ++ q.tells flag .released

/-- The part of it that is told before a point. -/
def toldAt (c : ReadCall) (flag : FlagWord) (st : ReadState t) : List FlagEvent :=
  match st.point with
  | .signalOwn | .raiseNotify => st.queue.tells flag .released
  | .signalNotify | .done => c.success flag st.queue
  | _ => []

/-- A read stands at a point, and has told this. -/
structure Standing (c : ReadCall) (flag : FlagWord) (told : List FlagEvent) (st : ReadState t) :
    Prop where
  some : st.buffer ≠ []
  waits : st.point.late = true → c.waiting ≠ none
  told : ∃ waited, Waiting.Only flag c.waiting waited ∧ told = c.toldAt flag st ++ waited

/-- What a read has told so far. -/
def Told (c : ReadCall) (flag : FlagWord) (told : List FlagEvent) (move : ReadState.Next t) :
    Prop :=
  match move with
  | .finish ⟨.ok (), queue, buffer⟩ => buffer = [] ∧ told = [] ∨
    buffer ≠ [] ∧
      ∃ waited, Waiting.Only flag c.waiting waited ∧ told = c.success flag queue ++ waited
  | .finish ⟨.error _, _, _⟩ => Waiting.Only flag c.waiting told
  | .go st | .signal _ _ st | .park _ _ _ st | .pause _ st => c.Standing flag told st

variable {c : ReadCall} {q q' : Queue t} {buffer buffer' : List t.Value} {p p' : ReadPoint}
  {st st' : ReadState t}

/-- How a single attempt begins. -/
def once (q : Queue t) (buffer : List t.Value) : ReadState.Next t :=
  if buffer = [] then .finish ⟨.ok (), q, buffer⟩ else .go ⟨q, buffer, .begin⟩

theorem told_once (q : Queue t) (buffer : List t.Value) (flag : FlagWord) :
    Told ⟨none⟩ flag [] (once q buffer) := by
  unfold once
  split
  · rename_i empty
    exact .inl ⟨empty, rfl⟩
  · rename_i some
    exact ⟨some, nofun, [], Waiting.only_nil, rfl⟩

theorem told_first (q : Queue t) (buffer : List t.Value) (a : Manner) (flag : FlagWord) :
    (inManner q a).Told flag [] (first q buffer a) := by
  rw [first_eq]
  split
  · rename_i empty
    exact .inl ⟨empty, rfl⟩
  · rename_i some
    split
    · exact Waiting.only_nil
    · split
      · exact Waiting.only_nil
      · exact ⟨some, nofun, [], Waiting.only_nil, rfl⟩

/-- A read that has told nothing of its success goes on to a point of that kind. -/
theorem Standing.move (standing : c.Standing flag told st) (nothing : c.toldAt flag st = [])
    (some : st'.buffer ≠ []) (waits : st'.point.late = true → c.waiting ≠ none)
    (same : c.toldAt flag st' = []) : c.Standing flag told st' :=
  ⟨some, waits, same.trans nothing.symm ▸ standing.told⟩

/-- A point before which nothing is told. -/
theorem Standing.only (standing : c.Standing flag told st) (nothing : c.toldAt flag st = []) :
    Waiting.Only flag c.waiting told := by
  obtain ⟨waited, only, rfl⟩ := standing.told
  rw [nothing]
  exact only

/-- The read tries again. -/
theorem Standing.retry (standing : c.Standing flag told st) (nothing : c.toldAt flag st = []) :
    c.Standing flag told { st with point := .begin } :=
  standing.move nothing standing.some nofun rfl

theorem told_refuse {e : Error} (standing : c.Standing flag told st)
    (nothing : c.toldAt flag st = []) (some : st'.buffer ≠ []) :
    c.Told flag told (c.refuse st' e) := by
  unfold refuse
  split
  · rename_i wait waits
    split
    · exact standing.move nothing some (fun _ => by simp [waits]) rfl
    · exact standing.only nothing
  · exact standing.only nothing

theorem standing_afterOwn (some : buffer ≠ []) (only : Waiting.Only flag c.waiting waited) :
    c.Standing flag (q.tells flag .released ++ waited) ⟨q, buffer, c.afterOwn⟩ := by
  unfold afterOwn
  split
  · rename_i wait waits
    exact ⟨some, fun _ => by simp [waits], waited, only, rfl⟩
  · rename_i alone
    refine ⟨some, nofun, waited, only, ?_⟩
    simp only [toldAt, success, alone]
    rfl

/-- The steps up to the store of the read counter. -/
theorem told_attempt (standing : c.Standing flag told st) (now : Instant) (s : Store)
    (attempt : st.point = .begin ∨ (∃ w, st.point = .judge w) ∨ (∃ pos, st.point = .take pos) ∨
      (∃ pos, st.point = .confirm pos) ∨ (∃ pos w, st.point = .verify pos w) ∨
      ∃ pos, st.point = .release pos) :
    c.Told flag (c.events flag st ++ told) (c.step now s st).2 := by
  obtain ⟨q, buffer, p⟩ := st
  have some := standing.some
  obtain rfl | ⟨w, rfl⟩ | ⟨pos, rfl⟩ | ⟨pos, rfl⟩ | ⟨pos, w, rfl⟩ | ⟨pos, rfl⟩ := attempt
  · exact standing.move rfl some nofun rfl
  · unfold step
    dsimp only
    split
    · exact told_refuse standing rfl some
    · exact standing.move rfl some nofun rfl
  · have copied : q.take (q.memory s) pos buffer.length ≠ [] :=
      q.take_ne_nil _ pos (mt List.length_eq_zero_iff.mp some)
    exact standing.move rfl copied nofun rfl
  · exact standing.move rfl some nofun rfl
  · unfold step
    dsimp only
    split
    · exact told_refuse standing rfl some
    · exact standing.move rfl some nofun rfl
  · have only := standing.only rfl
    unfold step
    dsimp only [Told, ReadState.goto]
    split
    · exact standing.move rfl some nofun rfl
    · rename_i flagless
      have absent : q.flagWord? = none := by simpa using flagless
      have same : c.events flag ⟨q, buffer, .release pos⟩ ++ told =
          q.tells flag .released ++ told := by
        simp only [events, Queue.tells_of_none absent]
      rw [same]
      exact standing_afterOwn (q := (q.release (q.memory s) (pos + UInt64.ofNat buffer.length)).1)
        some only

/-- The steps after it. -/
theorem told_done (standing : c.Standing flag told st) (now : Instant) (s : Store)
    (done : st.point = .raiseOwn ∨ st.point = .signalOwn ∨ st.point = .raiseNotify ∨
      st.point = .signalNotify ∨ st.point = .done) :
    c.Told flag (c.events flag st ++ told) (c.step now s st).2 := by
  obtain ⟨q, buffer, p⟩ := st
  have some := standing.some
  obtain rfl | rfl | rfl | rfl | rfl := done
  · have after := standing_afterOwn (q := q) some (standing.only rfl)
    unfold step
    dsimp only
    split
    · exact after
    · dsimp only [Told, ReadState.goto]
      split
      · exact ⟨some, nofun, told, standing.only rfl, rfl⟩
      · exact after
  · obtain ⟨waited, only, rfl⟩ := standing.told
    have after := standing_afterOwn (q := q) some only
    unfold step
    dsimp only
    split <;> exact after
  · obtain ⟨waited, only, rfl⟩ := standing.told
    unfold step
    dsimp only
    split
    · rename_i alone
      exact absurd alone (standing.waits rfl)
    · have same : c.events flag ⟨q, buffer, .raiseNotify⟩ ++
          (c.toldAt flag ⟨q, buffer, .raiseNotify⟩ ++ waited) = c.success flag q ++ waited :=
        (List.append_assoc ..).symm
      rw [same]
      dsimp only [Told, ReadState.goto]
      split
      · exact ⟨some, fun _ => standing.waits rfl, waited, only, rfl⟩
      · exact ⟨some, nofun, waited, only, rfl⟩
  · obtain ⟨waited, only, rfl⟩ := standing.told
    unfold step
    dsimp only
    split
    · rename_i alone
      exact absurd alone (standing.waits rfl)
    · exact ⟨some, nofun, waited, only, rfl⟩
  · obtain ⟨waited, only, rfl⟩ := standing.told
    exact .inr ⟨some, waited, only, rfl⟩

/-- The steps of waiting. -/
theorem told_waiting (standing : c.Standing flag told st) (now : Instant) (s : Store)
    (late : st.point.late = true)
    (failed : st.point ≠ .raiseNotify ∧ st.point ≠ .signalNotify) :
    c.Told flag (c.events flag st ++ told) (c.step now s st).2 := by
  obtain ⟨q, buffer, p⟩ := st
  have some := standing.some
  have can := standing.waits late
  obtain ⟨wait, waits⟩ := Option.ne_none_iff_exists'.mp can
  cases p with
  | expire =>
    unfold step
    simp only [waits]
    split
    · exact standing.only rfl
    · exact standing.move rfl some (fun _ => can) rfl
  | clear =>
    unfold step
    simp only [waits]
    exact ⟨some, fun _ => can, _, (standing.only rfl).again, rfl⟩
  | observe =>
    unfold step
    simp only [waits, Told, ReadState.goto]
    split
    · exact standing.move rfl some (fun _ => can) rfl
    · exact standing.retry rfl
  | recount seen =>
    unfold step
    simp only [waits]
    exact standing.move rfl some (fun _ => can) rfl
  | recheck seen w =>
    unfold step
    simp only [waits, Told, ReadState.goto]
    split
    · exact standing.retry rfl
    · exact standing.move rfl some (fun _ => can) rfl
  | park seen =>
    unfold step
    simp only [waits]
    split
    · exact standing.retry rfl
    · exact standing.retry rfl
  | raiseNotify => exact absurd rfl failed.1
  | signalNotify => exact absurd rfl failed.2
  | begin | judge | take | confirm | verify | release | raiseOwn | signalOwn | done => cases late

theorem told_step (standing : c.Standing flag told st) (now : Instant) (s : Store) :
    c.Told flag (c.events flag st ++ told) (c.step now s st).2 := by
  obtain ⟨q, buffer, p⟩ := st
  cases p with
  | begin | judge | take | confirm | verify | release =>
    exact told_attempt standing now s (by simp)
  | raiseOwn | signalOwn | raiseNotify | signalNotify | done =>
    exact told_done standing now s (by simp)
  | expire | clear | observe | recount | recheck | park =>
    exact told_waiting standing now s rfl (by simp)

theorem standing_of_told {move : ReadState.Next t} (so : c.Told flag told move)
    (next : move.next? = some st) : c.Standing flag told st := by
  cases move <;> cases next <;> exact so

/-! ## Commits of transactions -/

/-- The rest of a read that copies no quanta any more: those that are looked at in
place are released. -/
def commit (q : Queue t) (m : Memory) (tx : Transaction) : ReadState.Next t :=
  if tx.count = 0 then .finish ⟨.ok (), q, []⟩
  else .go ⟨q, q.take m tx.pos tx.count, .confirm tx.pos⟩

/-- That is how a read transaction is committed, if all goes well. -/
theorem ends_commit {tx : Transaction} (some : tx.count ≠ 0)
    (mapped : q.region.memory < s.memories.size) {queue : Queue t} {m' : Memory}
    (committed : q.commitRead (q.memory s) tx = (.ok (), queue, m')) :
    Ends (step ⟨none⟩) ⟨.ok (), queue, q.take (q.memory s) tx.pos tx.count⟩
      (s.setMemory q.region.memory m') s
      ⟨q, q.take (q.memory s) tx.pos tx.count, .confirm tx.pos⟩ := by
  rw [← q.transaction_take (q.memory s) tx] at committed
  exact ends_confirm (c := ⟨none⟩) mapped (q.take_ne_nil _ tx.pos some) tx.pos committed

/-- Or if the reader was overrun. -/
theorem ends_commit_overrun {tx : Transaction} (some : tx.count ≠ 0) {queue : Queue t}
    {m' : Memory} {e : Error} (committed : q.commitRead (q.memory s) tx = (.error e, queue, m')) :
    Ends (step ⟨none⟩) ⟨.error e, queue, q.take (q.memory s) tx.pos tx.count⟩ s s
      ⟨q, q.take (q.memory s) tx.pos tx.count, .confirm tx.pos⟩ := by
  rw [← q.transaction_take (q.memory s) tx] at committed
  exact (ends_confirm_overrun (c := ⟨none⟩) (q.take_ne_nil _ tx.pos some) tx.pos committed).2.2

theorem told_commit (q : Queue t) (m : Memory) (tx : Transaction) (flag : FlagWord) :
    Told ⟨none⟩ flag [] (commit q m tx) := by
  unfold commit
  split
  · exact .inl ⟨rfl, rfl⟩
  · rename_i some
    exact ⟨q.take_ne_nil m tx.pos some, nofun, [], Waiting.only_nil, rfl⟩

end ReadCall

/-! ## Calls on a flag -/

namespace FlagCall

/-- What a call on the word `w` tells the word `flag` in the end if it succeeds with
this answer. -/
def success (call : FlagCall) (w flag : FlagWord) (answer : Option UInt32) : List FlagEvent :=
  match call, answer with
  | wake mask, _ => flag.told w (.woken mask)
  | clear mask, _ => flag.told w (.cleared mask)
  | wait mask _ true, some seen => flag.told w (.consumed mask seen)
  | wait .., _ => []

/-- A call stands at a point, and has told this. -/
def Standing (call : FlagCall) (w flag : FlagWord) (told : List FlagEvent) (p : FlagPoint) : Prop :=
  match call, p with
  | wake _, .begin => told = []
  | wake mask, _ => told = flag.told w (.woken mask)
  | clear _, _ => told = []
  | wait _ _ consume, .consume _ => consume = true ∧ told = []
  | wait .., _ => told = []

/-- What a call has told so far. -/
def Told (call : FlagCall) (w flag : FlagWord) (told : List FlagEvent)
    (move : Move FlagPoint Answer) : Prop :=
  match move with
  | .finish (.ok answer) => told = call.success w flag answer
  | .finish (.error _) => told = []
  | .go p | .signal _ _ p | .park _ _ _ p | .pause _ p => call.Standing w flag told p

variable {call : FlagCall} {w : FlagWord} {p : FlagPoint}

theorem told_start (call : FlagCall) (w flag : FlagWord) : call.Told w flag [] call.start := by
  cases call with
  | wake mask =>
    simp only [start]
    split <;> rfl
  | clear mask => rfl
  | wait mask deadline consume =>
    simp only [start]
    split <;> rfl

theorem told_step (standing : call.Standing w flag told p) (now : Instant) (s : Store) :
    call.Told w flag (call.events w flag p ++ told) (call.step w now s p).2 := by
  cases call with
  | wake mask =>
    cases p with
    | begin =>
      obtain rfl : told = [] := standing
      unfold step
      dsimp only
      split
      · exact List.append_nil _
      · exact List.append_nil _
    | _ => exact standing
  | clear mask =>
    obtain rfl : told = [] := by cases p <;> exact standing
    cases p <;> exact List.append_nil _
  | wait mask deadline consume =>
    cases p with
    | consume seen =>
      obtain ⟨rfl, rfl⟩ := standing
      exact List.append_nil _
    | look =>
      obtain rfl : told = [] := standing
      unfold step
      dsimp only
      split
      · rfl
      · split
        · rename_i consumes
          exact ⟨consumes, rfl⟩
        · rename_i keeps
          cases consume with
          | true => exact absurd rfl keeps
          | false => rfl
    | expire seen =>
      obtain rfl : told = [] := standing
      unfold step
      dsimp only
      split <;> rfl
    | park seen =>
      obtain rfl : told = [] := standing
      unfold step
      dsimp only
      split <;> rfl
    | begin | signal | done => exact standing

theorem standing_of_told {move : Move FlagPoint Answer} (so : call.Told w flag told move)
    (next : move.next? = some p) : call.Standing w flag told p := by
  cases move <;> cases next <;> exact so

end FlagCall

end SharedQueue
