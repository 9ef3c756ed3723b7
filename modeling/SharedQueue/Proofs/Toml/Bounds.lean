/-
SharedQueue.Proofs.Toml.Bounds — what is read can be written.

* `Value.Bounded` — no integer in a value is larger than a document can hold.
* `Members.Bounded.change?` and the lemmas behind it — tables stay bounded
  while they are filled.
* `bounded_readValue?`, `bounded_parse?` — all that is read is bounded.
* `Value.Bounded.required?_le` — so are the numbers that a record takes from it.
-/
import SharedQueue.Proofs.Toml.Sheets

namespace SharedQueue.Toml

/-! ## Bounded values and tables -/

/-- No integer inside is larger than a document can hold. -/
inductive Value.Bounded : Value → Prop
  | string (text : String) : Bounded (.string text)
  | integer {n : Int} (fits : n ≤ integerMax) : Bounded (.integer n)
  | boolean (b : Bool) : Bounded (.boolean b)
  | float (written : String) : Bounded (.float written)
  | moment (written : String) : Bounded (.moment written)
  | array {items : List Value} (inside : ∀ v ∈ items, Bounded v) : Bounded (.array items)
  | table {members : List (String × Value)} (inside : ∀ entry ∈ members, Bounded entry.2) :
    Bounded (.table members)

/-- The same for a member of a table under construction. -/
inductive Node.Bounded : Node → Prop
  | value {v : Value} (fits : v.Bounded) : Bounded (.value v)
  | table {origin : Origin} {members : Members} (inside : ∀ entry ∈ members, Bounded entry.2) :
    Bounded (.table origin members)
  | tables {items : List Members} (inside : ∀ members ∈ items, ∀ entry ∈ members, Bounded entry.2) :
    Bounded (.tables items)

/-- The same for a table under construction. -/
def Members.Bounded (members : Members) : Prop := ∀ entry ∈ members, Node.Bounded entry.2

theorem finishTables_eq (items : List Members) :
    finishTables items = items.map fun members => .table (finishMembers members) := by
  induction items with
  | nil => rfl
  | cons members items ih => simp [finishTables, ih]

theorem Value.bounded_finishMembers {members : Members}
    (inside : ∀ entry ∈ members, (Node.finish entry.2).Bounded) :
    (Value.table (finishMembers members)).Bounded := by
  refine .table fun entry mem => ?_
  rw [finishMembers_eq] at mem
  obtain ⟨entry, there, rfl⟩ := List.mem_map.mp mem
  exact inside entry there

/-- What is finished stays bounded. -/
theorem Node.Bounded.finish {node : Node} (bounded : node.Bounded) : node.finish.Bounded := by
  induction bounded with
  | value fits => simpa [Node.finish] using fits
  | table _ ih =>
    rw [Node.finish]
    exact Value.bounded_finishMembers ih
  | tables _ ih =>
    rw [Node.finish, finishTables_eq]
    refine .array fun v mem => ?_
    obtain ⟨members, there, rfl⟩ := List.mem_map.mp mem
    exact Value.bounded_finishMembers (ih members there)

namespace Members

variable {members result : Members} {name : String} {node : Node}

theorem bounded_nil : Members.Bounded [] := fun _ mem => absurd mem List.not_mem_nil

theorem Bounded.lookup (bounded : members.Bounded) (found : members.lookup name = some node) :
    node.Bounded := by
  obtain ⟨before, after, rfl, -⟩ := List.lookup_eq_some_iff.mp found
  exact bounded (name, node) (by simp)

theorem Bounded.append (bounded : members.Bounded) (fits : node.Bounded) :
    Members.Bounded (members ++ [(name, node)]) := by
  intro entry mem
  rcases List.mem_append.mp mem with mem | mem
  · exact bounded entry mem
  · rw [List.mem_singleton.mp mem]
    exact fits

theorem Bounded.replace (bounded : members.Bounded) (fits : node.Bounded) :
    (replace members name node).Bounded := by
  intro entry mem
  obtain ⟨old, there, rfl⟩ := List.mem_map.mp mem
  split
  · exact fits
  · exact bounded old there

theorem Bounded.add? (bounded : members.Bounded) (fits : node.Bounded)
    (ok : add? members name node = some result) : result.Bounded := by
  unfold Members.add? at ok
  split at ok
  · cases ok
  · cases ok
    exact bounded.append fits

theorem Bounded.latest {items : List Members} {latest : Members} (bounded : (Node.tables items).Bounded)
    (last : items.getLast? = some latest) : latest.Bounded := by
  cases bounded with
  | tables inside => exact inside latest (List.mem_of_getLast? last)

/-- A table stays bounded if one of its tables is changed into a bounded one. -/
theorem Bounded.change? {dotted : Bool} {f : Origin → Members → Option Members}
    (keeps : ∀ {origin inner result}, Members.Bounded inner → f origin inner = some result →
      Members.Bounded result) {way : List String} :
    ∀ {here : Origin} {members result : Members}, members.Bounded →
      change? dotted here members way f = some result → result.Bounded := by
  induction way with
  | nil => exact fun bounded ok => keeps bounded ok
  | cons name way ih =>
    intro here members result bounded ok
    unfold Members.change? at ok
    dsimp only at ok
    split at ok
    · obtain ⟨sub, inner, same⟩ := Option.bind_eq_some_iff.mp ok
      cases same
      exact bounded.append (.table (ih bounded_nil inner))
    · cases ok
    · rename_i items found
      split at ok
      · cases ok
      · rename_i latest last
        obtain ⟨sub, inner, same⟩ := Option.bind_eq_some_iff.mp ok
        cases same
        have tables := bounded.lookup found
        refine bounded.replace (.tables fun members mem => ?_)
        rcases List.mem_append.mp mem with mem | mem
        · cases tables with
          | tables inside => exact inside members (List.mem_of_mem_dropLast mem)
        · rw [List.mem_singleton.mp mem]
          exact ih (Bounded.latest tables last) inner
    · rename_i origin sub found
      split at ok
      · cases ok
      · obtain ⟨sub', inner, same⟩ := Option.bind_eq_some_iff.mp ok
        cases same
        refine bounded.replace (.table (ih ?_ inner))
        cases bounded.lookup found with
        | table inside => exact inside

theorem Bounded.addKey? {here : Origin} {path : List String} {v : Value} (bounded : members.Bounded)
    (fits : v.Bounded) (ok : addKey? here members path v = some result) : result.Bounded := by
  obtain ⟨⟨way, name⟩, -, ok⟩ := Option.bind_eq_some_iff.mp ok
  refine Bounded.change? (fun {origin inner result} inside ok => ?_) bounded ok
  split at ok
  · cases ok
  · exact inside.add? (.value fits) ok

theorem Bounded.openTable? {path : List String} (bounded : members.Bounded)
    (ok : openTable? members path = some result) : result.Bounded := by
  obtain ⟨⟨way, name⟩, -, ok⟩ := Option.bind_eq_some_iff.mp ok
  refine Bounded.change? (fun {origin inner result} inside ok => ?_) bounded ok
  split at ok
  · exact inside.add? (.table bounded_nil) ok
  · rename_i sub found
    cases ok
    refine inside.replace (.table ?_)
    cases inside.lookup found with
    | table inside => exact inside
  · cases ok

theorem Bounded.openItem? {path : List String} (bounded : members.Bounded)
    (ok : openItem? members path = some result) : result.Bounded := by
  obtain ⟨⟨way, name⟩, -, ok⟩ := Option.bind_eq_some_iff.mp ok
  refine Bounded.change? (fun {origin inner result} inside ok => ?_) bounded ok
  split at ok
  · refine inside.add? (.tables fun members mem => ?_) ok
    rw [List.mem_singleton.mp mem]
    exact bounded_nil
  · rename_i items found
    cases ok
    refine inside.replace (.tables fun members mem => ?_)
    rcases List.mem_append.mp mem with mem | mem
    · cases inside.lookup found with
      | tables inside => exact inside members mem
    · rw [List.mem_singleton.mp mem]
      exact bounded_nil
  · cases ok

theorem Bounded.addAt? {place path : List String} {v : Value} (bounded : members.Bounded)
    (fits : v.Bounded) (ok : addAt? members place path v = some result) : result.Bounded :=
  Bounded.change? (fun inside ok => inside.addKey? fits ok) bounded ok

end Members

/-! ## What is read -/

variable {text rest : List Char} {v : Value}

theorem bounded?_le {n m : Int} (ok : bounded? n = some m) : m ≤ integerMax := by
  unfold bounded? at ok
  split at ok
  · rename_i fits
    cases ok
    exact fits.2
  · cases ok

theorem integer?_le {n : Int} (ok : integer? text = some n) : n ≤ integerMax := by
  unfold integer? at ok
  split at ok <;>
  · obtain ⟨_, -, ok⟩ := Option.bind_eq_some_iff.mp ok
    exact bounded?_le ok

theorem bounded_scalar? (ok : scalar? text = some v) : v.Bounded := by
  unfold scalar? at ok
  split at ok
  · cases ok
    exact .boolean true
  · split at ok
    · cases ok
      exact .boolean false
    · split at ok
      · rename_i n read
        cases ok
        exact .integer (integer?_le read)
      · split at ok
        · cases ok
          exact .float _
        · split at ok
          · cases ok
            exact .moment _
          · cases ok

/-- A reader that gives bounded values only. -/
def Reader.Bounded (item : Reader Value) : Prop :=
  ∀ {text rest : List Char} {v : Value}, item text = some (v, rest) → v.Bounded

theorem bounded_readScalar? : Reader.Bounded readScalar? := by
  intro text rest v ok
  obtain ⟨v', read, same⟩ := Option.map_eq_some_iff.mp ok
  cases same
  exact bounded_scalar? read

theorem bounded_readItems? {item : Reader Value} (keeps : Reader.Bounded item) {items : List Value}
    (ok : readItems? item text = some (items, rest)) : ∀ v ∈ items, v.Bounded := by
  revert ok
  fun_induction readItems? item text generalizing items rest with
  | case1 =>
    rintro ⟨⟩
    exact nofun
  | case3 =>
    rename_i first _ _ _ _ _ read ih
    intro ok
    obtain ⟨⟨others, after⟩, more, same⟩ := Option.map_eq_some_iff.mp ok
    cases same
    exact List.forall_mem_cons.mpr ⟨keeps read, ih more⟩
  | case5 =>
    rename_i read
    rintro ⟨⟩
    exact List.forall_mem_singleton.mpr (keeps read)
  | case2 | case4 | case6 => exact nofun

theorem bounded_readPair? {item : Reader Value} (keeps : Reader.Bounded item)
    {pair : List String × Value} (ok : readPair? item text = some (pair, rest)) :
    pair.2.Bounded := by
  obtain ⟨⟨key, behind⟩, -, ok⟩ := Option.bind_eq_some_iff.mp ok
  obtain ⟨value, -, ok⟩ := Option.bind_eq_some_iff.mp ok
  obtain ⟨⟨v, after⟩, read, same⟩ := Option.bind_eq_some_iff.mp ok
  cases same
  exact keeps read

theorem bounded_readPairs? {item : Reader Value} (keeps : Reader.Bounded item)
    {pairs : List (List String × Value)} (ok : readPairs? item text = some (pairs, rest)) :
    ∀ pair ∈ pairs, pair.2.Bounded := by
  revert ok
  fun_induction readPairs? item text generalizing pairs rest with
  | case2 =>
    rename_i read _ _ _ ih
    intro ok
    obtain ⟨⟨others, after⟩, more, same⟩ := Option.map_eq_some_iff.mp ok
    cases same
    exact List.forall_mem_cons.mpr ⟨bounded_readPair? keeps read, ih more⟩
  | case4 =>
    rename_i read _ _
    rintro ⟨⟩
    exact List.forall_mem_singleton.mpr (bounded_readPair? keeps read)
  | case1 | case3 | case5 => exact nofun

/-- What every step keeps holds of the end. -/
theorem foldlM_keeps {α σ : Type} {P : σ → Prop} {f : σ → α → Option σ} {inputs : List α}
    (keeps : ∀ {s s' x}, x ∈ inputs → P s → f s x = some s' → P s') :
    ∀ {s s' : σ}, P s → inputs.foldlM f s = some s' → P s' := by
  induction inputs with
  | nil =>
    intro s s' start ok
    cases ok
    exact start
  | cons x inputs ih =>
    intro s s' start ok
    rw [List.foldlM_cons] at ok
    obtain ⟨next, first, ok⟩ := Option.bind_eq_some_iff.mp ok
    exact ih (fun mem => keeps (List.mem_cons_of_mem x mem)) (keeps List.mem_cons_self start first) ok

theorem bounded_gather? {pairs : List (List String × Value)} {members : Members}
    (inside : ∀ pair ∈ pairs, pair.2.Bounded) (ok : gather? pairs = some members) :
    members.Bounded :=
  foldlM_keeps (fun mem bounded ok => bounded.addKey? (inside _ mem) ok) Members.bounded_nil ok

theorem bounded_finish {members : Members} (bounded : members.Bounded) :
    (Value.table (finishMembers members)).Bounded :=
  Value.bounded_finishMembers fun entry mem => (bounded entry mem).finish

theorem bounded_readInline? {item : Reader Value} (keeps : Reader.Bounded item) :
    Reader.Bounded (readInline? item) := by
  intro text rest v ok
  unfold readInline? at ok
  split at ok
  · cases ok
    exact .table fun _ mem => absurd mem List.not_mem_nil
  · obtain ⟨⟨pairs, behind⟩, read, ok⟩ := Option.bind_eq_some_iff.mp ok
    obtain ⟨members, gathered, same⟩ := Option.bind_eq_some_iff.mp ok
    cases same
    exact bounded_finish (bounded_gather? (bounded_readPairs? keeps read) gathered)

/-- Every value that is read is bounded. -/
theorem bounded_readValue? (depth : Nat) : Reader.Bounded (readValue? depth) := by
  induction depth with
  | zero =>
    intro text rest v ok
    rw [readValue?.eq_def] at ok
    dsimp only at ok
    split at ok
    · cases ok
    · split at ok
      · obtain ⟨⟨s, after⟩, -, same⟩ := Option.map_eq_some_iff.mp ok
        cases same
        exact .string _
      · exact bounded_readScalar? ok
  | succ depth ih =>
    intro text rest v ok
    rw [readValue?.eq_def] at ok
    dsimp only at ok
    split at ok
    · cases ok
    · split at ok
      · obtain ⟨⟨s, after⟩, -, same⟩ := Option.map_eq_some_iff.mp ok
        cases same
        exact .string _
      · split at ok
        · obtain ⟨⟨items, after⟩, read, same⟩ := Option.map_eq_some_iff.mp ok
          cases same
          exact .array (bounded_readItems? ih read)
        · split at ok
          · exact bounded_readInline? ih ok
          · exact bounded_readScalar? ok

/-- The entry sets nothing but bounded values. -/
def Entry.Bounded : Entry → Prop
  | .pair _ v => v.Bounded
  | .table _ | .item _ => True

theorem bounded_entry {entry : Entry} (ok : readEntry? text = some (entry, rest)) :
    entry.Bounded := by
  unfold readEntry? at ok
  split at ok
  · obtain ⟨_, -, ok⟩ := Option.bind_eq_some_iff.mp ok
    obtain ⟨_, -, ok⟩ := Option.bind_eq_some_iff.mp ok
    obtain ⟨_, -, same⟩ := Option.bind_eq_some_iff.mp ok
    cases same
    exact trivial
  · obtain ⟨_, -, ok⟩ := Option.bind_eq_some_iff.mp ok
    obtain ⟨_, -, same⟩ := Option.bind_eq_some_iff.mp ok
    cases same
    exact trivial
  · obtain ⟨⟨⟨path, v⟩, behind⟩, read, same⟩ := Option.bind_eq_some_iff.mp ok
    cases same
    exact bounded_readPair? (bounded_readValue? _) read

theorem bounded_readEntries? {entries : List Entry} (ok : readEntries? text = some entries) :
    ∀ entry ∈ entries, entry.Bounded := by
  revert ok
  fun_induction readEntries? text generalizing entries with
  | case1 =>
    rintro ⟨⟩
    exact nofun
  | case4 =>
    rename_i read ih
    intro ok
    obtain ⟨others, more, rfl⟩ := Option.map_eq_some_iff.mp ok
    exact List.forall_mem_cons.mpr ⟨bounded_entry read, ih more⟩
  | case2 | case3 | case5 => exact nofun

theorem bounded_add? {d d' : Draft} {entry : Entry} (fits : entry.Bounded)
    (bounded : d.members.Bounded) (ok : d.add? entry = some d') : d'.members.Bounded := by
  cases entry with
  | pair path v =>
    obtain ⟨members, added, rfl⟩ := Option.map_eq_some_iff.mp ok
    exact bounded.addAt? fits added
  | table path =>
    obtain ⟨members, added, rfl⟩ := Option.map_eq_some_iff.mp ok
    exact bounded.openTable? added
  | item path =>
    obtain ⟨members, added, rfl⟩ := Option.map_eq_some_iff.mp ok
    exact bounded.openItem? added

/-- No integer of a document is larger than it can hold. -/
theorem bounded_parse? {document : String} (ok : parse? document = some v) : v.Bounded := by
  obtain ⟨entries, read, ok⟩ := Option.bind_eq_some_iff.mp ok
  obtain ⟨draft, drawn, same⟩ := Option.bind_eq_some_iff.mp ok
  cases same
  have inside := bounded_readEntries? read
  have filled : draft.members.Bounded :=
    foldlM_keeps (P := fun d : Draft => d.members.Bounded)
      (fun mem bounded ok => bounded_add? (inside _ mem) bounded ok) Members.bounded_nil drawn
  exact bounded_finish filled

/-! ## Numbers of a record -/

namespace Value.Bounded

theorem natural?_le (bounded : v.Bounded) {n : Nat} (ok : v.natural? = some n) :
    n ≤ integerMax := by
  cases bounded with
  | integer fits =>
    simp only [Value.natural?] at ok
    split at ok
    · cases ok
      omega
    · cases ok
  | _ => cases ok

theorem field? (bounded : v.Bounded) {place : Nat} {name : String} {inner : Value}
    (found : v.field? place name = some inner) : inner.Bounded := by
  cases bounded with
  | table inside =>
    obtain ⟨before, after, rfl, -⟩ := List.lookup_eq_some_iff.mp found
    exact inside (name, inner) (by simp)
  | array inside => exact inside inner (List.mem_of_getElem? found)
  | _ => cases found

/-- The numbers that a record takes from a bounded value can be written. -/
theorem required?_le (bounded : v.Bounded) {place : Nat} {name : String} {n : Nat}
    (ok : v.required? place name (·.natural?) = some n) : n ≤ integerMax := by
  obtain ⟨inner, found, read⟩ := Option.bind_eq_some_iff.mp ok
  exact (bounded.field? found).natural?_le read

end Value.Bounded

end SharedQueue.Toml
