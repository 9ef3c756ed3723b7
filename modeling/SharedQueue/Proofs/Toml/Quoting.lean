/-
SharedQueue.Proofs.Toml.Quoting — a written string is read back.

* `Piece` — characters that a reader takes for a single one.
* `Shown` — a text, written piece by piece; only so many quotes in a row stand
  as they are.
* `Shown.read_append`, `Shown.lines_append` — such a text is read back up to the
  quotes that close it; `Shown.read_cut`, `Shown.lines_cut` — a beginning of it is
  not read past its end.
* `shown_basicText`, `shown_literal`, `shown_literalLines` — the forms in which
  strings are written show their text.
* `readString?_write` — a written string is read back, and a beginning of it is
  not read, or to its own end.
-/
import Mathlib.Tactic.Ring
import SharedQueue.Toml.Reader

namespace SharedQueue.Toml

/-! ## Pieces -/

/-- The characters `w` are read as the character `c`, and a beginning of them
is not read. They do not begin with the quote `q`. -/
structure Piece (q : Char) (read : Reader (List Char)) (c : Char) (w : List Char) : Prop where
  head : ∃ d tail, w = d :: tail ∧ d ≠ q
  whole : ∀ rest, read (w ++ rest) = (read rest).map fun (body, after) => (c :: body, after)
  cut : ∀ p s, w = p ++ s → s ≠ [] → read p = none

/-- The text is written piece by piece, but up to `most` quotes in a row stand
as they are; `run` of them stand in front. -/
inductive Shown (q : Char) (most : Nat) (read : Reader (List Char)) :
    (run : Nat) → (text written : List Char) → Prop
  | nil {run : Nat} : Shown q most read run [] []
  | bare {run : Nat} {text written : List Char} (few : run < most)
    (rest : Shown q most read (run + 1) text written) :
    Shown q most read run (q :: text) (q :: written)
  | piece {run : Nat} {c : Char} {text w written : List Char} (first : Piece q read c w)
    (rest : Shown q most read 0 text written) :
    Shown q most read run (c :: text) (w ++ written)

variable {q : Char} {most run : Nat} {read : Reader (List Char)} {text written rest : List Char}

/-- Quotes in front, and then the end or something else. -/
theorem Shown.quotes (shown : Shown q most read run text written) (few : run ≤ most) :
    ∃ k, run + k ≤ most ∧
      ((text = List.replicate k q ∧ written = List.replicate k q) ∨
        ∃ d tail, d ≠ q ∧ written = List.replicate k q ++ d :: tail) := by
  induction shown with
  | nil => exact ⟨0, few, .inl ⟨rfl, rfl⟩⟩
  | bare less _ ih =>
    obtain ⟨k, bound, ⟨rfl, rfl⟩ | ⟨d, tail, other, rfl⟩⟩ := ih less
    · exact ⟨k + 1, by omega, .inl ⟨rfl, rfl⟩⟩
    · exact ⟨k + 1, by omega, .inr ⟨d, tail, other, rfl⟩⟩
  | piece first _ _ =>
    obtain ⟨d, tail, rfl, other⟩ := first.head
    exact ⟨0, few, .inr ⟨d, _, other, rfl⟩⟩

/-- A single character that is read as a character. -/
theorem Piece.single {c d : Char} (other : d ≠ q) (stop : read [] = none)
    (whole : ∀ rest, read (d :: rest) = (read rest).map fun (body, after) => (c :: body, after)) :
    Piece q read c [d] := by
  refine ⟨⟨d, [], rfl, other⟩, whole, fun p s same more => ?_⟩
  cases p with
  | nil => exact stop
  | cons e p => simp_all

/-! ## Strings on one line -/

/-- A text without quotes is read up to the quote behind it. -/
theorem Shown.read_append (shown : Shown q 0 read run text written)
    (close : ∀ rest, read (q :: rest) = some ([], rest)) (rest : List Char) :
    read (written ++ q :: rest) = some (text, rest) := by
  induction shown with
  | nil => exact close rest
  | bare few => exact absurd few (Nat.not_lt_zero _)
  | piece first _ ih => simp [first.whole, ih]

theorem append_eq_append_cases {a b c d : List Char} (same : a ++ b = c ++ d) :
    (∃ e, c = a ++ e ∧ b = e ++ d) ∨ ∃ e, e ≠ [] ∧ a = c ++ e ∧ d = e ++ b := by
  rcases List.append_eq_append_iff.mp same with ⟨e, rfl, rfl⟩ | ⟨e, rfl, rfl⟩
  · exact .inl ⟨e, rfl, rfl⟩
  · cases e with
    | nil => exact .inl ⟨[], by simp, by simp⟩
    | cons x e => exact .inr ⟨x :: e, by simp, rfl, rfl⟩

/-- Without that quote it is not read. -/
theorem Shown.read_cut (shown : Shown q 0 read run text written) (stop : read [] = none)
    {p s : List Char} (same : written ++ [q] = p ++ s) (more : s ≠ []) : read p = none := by
  induction shown generalizing p with
  | nil =>
    cases p with
    | nil => exact stop
    | cons c p => simp_all
  | bare few => exact absurd few (Nat.not_lt_zero _)
  | @piece _ c _ w _ first _ ih =>
    rw [List.append_assoc] at same
    rcases append_eq_append_cases same with ⟨p', rfl, same⟩ | ⟨e, filled, rfl, -⟩
    · rw [List.append_assoc] at same
      rw [first.whole, ih (List.append_cancel_left same)]
      rfl
    · exact first.cut p e rfl filled

/-! ## Strings on several lines -/

theorem runLength_replicate (k : Nat) (rest : List Char) (other : rest.head? ≠ some q) :
    runLength q (List.replicate k q ++ rest) = k := by
  unfold runLength
  rw [List.takeWhile_append_of_pos (by simp)]
  cases rest with
  | nil => simp
  | cons d rest =>
    have ne : d ≠ q := by simpa using other
    simp [ne]

theorem runLength_le_append (q : Char) (p s : List Char) :
    runLength q p ≤ runLength q (p ++ s) := by
  unfold runLength
  rw [List.takeWhile_append]
  split
  · rename_i whole
    simp [whole]
  · exact Nat.le_refl _

@[simp] theorem linesBody?_nil (q : Char) (escapes : Bool) : linesBody? q escapes [] = none := by
  rw [linesBody?]

theorem linesBody?_quote (escapes : Bool) (few : runLength q (q :: rest) < 3) :
    linesBody? q escapes (q :: rest) =
      (linesBody? q escapes rest).map fun (body, after) => (q :: body, after) := by
  rw [linesBody?]
  simp [few]

/-- Three to five quotes close the string. -/
theorem linesBody?_close (escapes : Bool) {k : Nat} (few : k ≤ 2)
    (other : rest.head? ≠ some q) :
    linesBody? q escapes (List.replicate k q ++ [q, q, q] ++ rest) =
      some (List.replicate k q, rest) := by
  have joined : List.replicate k q ++ [q, q, q] = q :: List.replicate (k + 2) q :=
    List.replicate_append_replicate (n := k) (m := 3)
  have run := runLength_replicate (k + 3) rest other
  rw [List.replicate_succ, List.cons_append] at run
  rw [joined, List.cons_append, linesBody?]
  simp only [run, if_true]
  rw [if_neg (by omega), if_pos (by omega)]
  simp

theorem Shown.lines_append {escapes : Bool}
    (shown : Shown q 2 (linesBody? q escapes) run text written) (few : run ≤ 2)
    (other : rest.head? ≠ some q) :
    linesBody? q escapes (written ++ [q, q, q] ++ rest) = some (text, rest) := by
  induction shown with
  | nil => exact linesBody?_close (k := 0) escapes (Nat.zero_le 2) other
  | @bare run text written less inner ih =>
    obtain ⟨k, bound, ⟨rfl, rfl⟩ | ⟨d, tail, ne, rfl⟩⟩ := inner.quotes less
    · exact linesBody?_close (k := k + 1) escapes (by omega) other
    · have next := ih less
      have short := runLength_replicate (k + 1) (d :: (tail ++ [q, q, q] ++ rest))
        (by simpa using ne)
      simp only [List.replicate_succ, List.cons_append, List.append_assoc] at short next ⊢
      rw [linesBody?_quote escapes (by omega), next]
      rfl
  | piece first _ ih =>
    simp only [List.append_assoc] at ih ⊢
    rw [first.whole, ih (Nat.zero_le 2)]
    rfl

theorem linesBody?_quotes (escapes : Bool) {k : Nat} {v after : List Char}
    (ok : linesBody? q escapes (List.replicate k q) = some (v, after)) : after = [] := by
  induction k generalizing v after with
  | zero => simp at ok
  | succ k ih =>
    have run : runLength q (List.replicate (k + 1) q) = k + 1 := by
      simpa using runLength_replicate (k + 1) [] (by simp)
    rw [List.replicate_succ] at ok run
    by_cases few : k + 1 < 3
    · rw [linesBody?_quote escapes (by omega), Option.map_eq_some_iff] at ok
      obtain ⟨⟨v', after'⟩, inner, same⟩ := ok
      cases same
      exact ih inner
    · rw [linesBody?] at ok
      simp only [run, if_true, if_neg few] at ok
      split at ok
      · cases ok
        simp
      · cases ok

/-- Without all closing quotes the string is not read past its end. -/
theorem Shown.lines_cut {escapes : Bool}
    (shown : Shown q 2 (linesBody? q escapes) run text written) (few : run ≤ 2) {p s : List Char}
    (same : written ++ [q, q, q] = p ++ s) {v after : List Char}
    (ok : linesBody? q escapes p = some (v, after)) : after = [] := by
  induction shown generalizing p v after with
  | nil =>
    have quotes : p ++ s = List.replicate 3 q := same.symm
    rw [(List.append_eq_replicate_iff.mp quotes).2.1] at ok
    exact linesBody?_quotes escapes ok
  | @bare run text written less inner ih =>
    cases p with
    | nil => simp at ok
    | cons c p =>
      rw [List.cons_append, List.cons_append, List.cons.injEq] at same
      obtain ⟨rfl, same⟩ := same
      obtain ⟨k, bound, ⟨rfl, rfl⟩ | ⟨d, tail, ne, rfl⟩⟩ := inner.quotes less
      · have quotes : p ++ s = List.replicate (k + 3) q :=
          same.symm.trans (List.replicate_append_replicate (n := k) (m := 3))
        rw [(List.append_eq_replicate_iff.mp quotes).2.1, ← List.replicate_succ] at ok
        exact linesBody?_quotes escapes ok
      · have short := runLength_replicate (k + 1) (d :: (tail ++ [q, q, q]))
          (by simpa using ne)
        have shorter := runLength_le_append q (q :: p) s
        rw [List.cons_append, ← same] at shorter
        simp only [List.replicate_succ, List.cons_append, List.append_assoc] at short shorter
        rw [linesBody?_quote escapes (by omega), Option.map_eq_some_iff] at ok
        obtain ⟨⟨v', after'⟩, read, same'⟩ := ok
        cases same'
        exact ih less same read
  | piece first _ ih =>
    rw [List.append_assoc] at same
    rcases append_eq_append_cases same with ⟨p', rfl, -⟩ | ⟨e, filled, rfl, -⟩
    · rw [List.append_assoc] at same
      rw [first.whole, Option.map_eq_some_iff] at ok
      obtain ⟨⟨v', after'⟩, read, same'⟩ := ok
      cases same'
      exact ih (Nat.zero_le 2) (List.append_cancel_left same) read
    · rw [first.cut p e rfl filled] at ok
      cases ok

/-! ## Escapes -/

/-- The reader of a basic form, behind the quotes that open it. -/
def basicReader (lines : Bool) : Reader (List Char) :=
  if lines then linesBody? quote true else basicBody?

theorem joined?_eq_none {c : Char} (blank : isBlank c = false) (line : c ≠ lineFeed)
    (carriage : c ≠ carriageReturn) (rest : List Char) : joined? (c :: rest) = none := by
  simp [joined?, blank, lineEnd?, line, carriage]

/-- A backslash that does not join two lines begins an escape. -/
theorem basicReader_backslash (lines : Bool) {text : List Char} (apart : joined? text = none) :
    basicReader lines (backslash :: text) = (escape? text).bind fun (c, rest) =>
      (basicReader lines rest).map fun (body, after) => (c :: body, after) := by
  have other : backslash ≠ quote := by decide
  cases lines with
  | false =>
    simp only [basicReader, Bool.false_eq_true, if_false]
    rw [basicBody?]
    simp only [other, if_false, if_true]
    split <;> simp [*]
  | true =>
    simp only [basicReader, if_true]
    rw [linesBody?]
    simp only [other, if_false, Bool.true_and, decide_true, if_true]
    split
    · simp_all
    · split <;> simp [*]

/-- An escape is a piece, if only all of it is one. -/
theorem piece_escape (lines : Bool) {c d : Char} {w : List Char} (blank : isBlank d = false)
    (line : d ≠ lineFeed) (carriage : d ≠ carriageReturn)
    (whole : ∀ rest, escape? (d :: w ++ rest) = some (c, rest))
    (cut : ∀ p s, w = p ++ s → s ≠ [] → escape? (d :: p) = none) :
    Piece quote (basicReader lines) c (backslash :: d :: w) := by
  have apart : ∀ rest, joined? (d :: rest) = none := joined?_eq_none blank line carriage
  refine ⟨⟨backslash, d :: w, rfl, by decide⟩, fun rest => ?_, fun p s same more => ?_⟩
  · rw [List.cons_append, List.cons_append, basicReader_backslash lines (apart _),
      ← List.cons_append, whole]
    rfl
  · match p with
    | [] => cases lines <;> simp [basicReader, basicBody?]
    | [e] =>
      obtain rfl : backslash = e := by simpa using (List.cons.inj same).1
      rw [basicReader_backslash lines rfl]
      rfl
    | e :: d' :: p =>
      simp only [List.cons_append, List.cons.injEq] at same
      obtain ⟨rfl, rfl, same⟩ := same
      rw [basicReader_backslash lines (apart _), cut p s same more]
      rfl

/-- An escape of a single letter. -/
theorem piece_letter (lines : Bool) {c d : Char} (blank : isBlank d = false)
    (line : d ≠ lineFeed) (carriage : d ≠ carriageReturn)
    (whole : ∀ rest, escape? (d :: rest) = some (c, rest)) :
    Piece quote (basicReader lines) c [backslash, d] := by
  refine piece_escape lines blank line carriage whole fun p s same more => ?_
  simp_all

theorem hexValue?_digit {d : Nat} (small : d < 16) :
    hexValue? (Char.ofNat (if d < 10 then 48 + d else 55 + d)) = some d := by
  revert d
  decide

theorem hexNumber?_append (n count more value : Nat) (rest : List Char) :
    hexNumber? (count + more) value (hexDigits count n ++ rest) =
      hexNumber? more (value * 16 ^ count + n % 16 ^ count) rest := by
  induction count generalizing n more rest with
  | zero => simp [hexDigits, Nat.mod_one]
  | succ count ih =>
    have split : n % 16 ^ (count + 1) = n % 16 + 16 * (n / 16 % 16 ^ count) := by
      rw [Nat.pow_succ', Nat.mod_mul]
    rw [hexDigits, List.append_assoc, Nat.add_right_comm, Nat.add_assoc, ih (n / 16) (more + 1)]
    simp only [List.cons_append, List.nil_append, hexNumber?,
      hexValue?_digit (Nat.mod_lt n (show 0 < 16 by decide)), Option.bind_eq_bind,
      Option.bind_some]
    rw [split, Nat.pow_succ]
    congr 1
    ring

theorem length_hexDigits (count n : Nat) : (hexDigits count n).length = count := by
  induction count generalizing n with
  | zero => rfl
  | succ count ih => simp [hexDigits, ih]

/-- Too few digits are no number. -/
theorem hexNumber?_eq_none {count value : Nat} {text : List Char} (short : text.length < count) :
    hexNumber? count value text = none := by
  induction count generalizing value text with
  | zero => simp at short
  | succ count ih =>
    cases text with
    | nil => rfl
    | cons c text =>
      simp only [hexNumber?, Option.bind_eq_bind]
      cases hexValue? c with
      | none => rfl
      | some v => exact ih (by simpa using short)

/-- A character given by number. -/
theorem piece_coded (lines : Bool) {c : Char} (small : c.toNat < 16 ^ 4) :
    Piece quote (basicReader lines) c (backslash :: 'u' :: hexDigits 4 c.toNat) := by
  have number (rest : List Char) :
      hexNumber? 4 0 (hexDigits 4 c.toNat ++ rest) = some (c.toNat, rest) := by
    have read := hexNumber?_append c.toNat 4 0 0 rest
    rwa [Nat.zero_mul, Nat.zero_add, Nat.mod_eq_of_lt small] at read
  have escape (text : List Char) : escape? ('u' :: text) = codePoint? 4 text := by
    simp [escape?, quote, backslash]
  refine piece_escape lines (by decide) (by decide) (by decide) (fun rest => ?_)
    fun p s same more => ?_
  · have valid : c.toNat.isValidChar := c.valid
    rw [List.cons_append, escape]
    simp [codePoint?, number, valid]
  · have longer : 0 < s.length := List.length_pos_iff.mpr more
    have total := congrArg List.length same
    rw [length_hexDigits, List.length_append] at total
    rw [escape]
    simp [codePoint?, hexNumber?_eq_none (show p.length < 4 by omega)]

theorem basicReader_nil (lines : Bool) : basicReader lines [] = none := by
  cases lines <;> simp [basicReader, basicBody?]

/-- A character that may stand as it is. -/
theorem piece_plain (lines : Bool) {c : Char} (other : c ≠ quote) (unslashed : c ≠ backslash)
    (plain : isPlain c = true) : Piece quote (basicReader lines) c [c] := by
  refine .single other (basicReader_nil lines) fun rest => ?_
  cases lines with
  | false =>
    simp only [basicReader, Bool.false_eq_true, if_false]
    rw [basicBody?]
    simp [other, unslashed, plain]
  | true =>
    simp only [basicReader, if_true]
    rw [linesBody?]
    simp [other, unslashed, plain]

theorem linesBody?_lineFeed (escapes : Bool) (other : lineFeed ≠ q) (rest : List Char) :
    linesBody? q escapes (lineFeed :: rest) =
      (linesBody? q escapes rest).map fun (body, after) => (lineFeed :: body, after) := by
  have plain : isPlain lineFeed = false := by decide
  have slash : lineFeed ≠ backslash := by decide
  rw [linesBody?]
  simp only [other, if_false, slash, decide_false, Bool.and_false, Bool.false_eq_true, plain]
  split <;> simp_all [lineEnd?]

/-- Every character but the quote is written as a piece. -/
theorem piece_escaped (lines : Bool) {c : Char} (other : c ≠ quote) :
    Piece quote (basicReader lines) c (escaped lines c) := by
  unfold escaped
  split_ifs with slash line several blank carriage back feed control
  · subst slash
    exact piece_letter lines (by decide) (by decide) (by decide) fun _ => rfl
  · obtain rfl : lines = true := several
    subst line
    exact .single (by decide) (basicReader_nil true) (linesBody?_lineFeed true (by decide))
  · subst line
    exact piece_letter lines (by decide) (by decide) (by decide) fun _ => rfl
  · subst blank
    exact piece_letter lines (by decide) (by decide) (by decide) fun _ => rfl
  · subst carriage
    exact piece_letter lines (by decide) (by decide) (by decide) fun _ => rfl
  · subst back
    exact piece_letter lines (by decide) (by decide) (by decide) fun _ => rfl
  · subst feed
    exact piece_letter lines (by decide) (by decide) (by decide) fun _ => rfl
  · refine piece_coded lines ?_
    simp only [isControl, Bool.or_eq_true, decide_eq_true_eq] at control
    omega
  · exact piece_plain lines other slash (by simp [isPlain, control])

/-! ## Texts in each form -/

/-- A text in a basic form. -/
theorem shown_basicText (lines : Bool) (run : Nat) (text : List Char) :
    Shown quote (if lines then 2 else 0) (basicReader lines) run text
      (basicText lines run text) := by
  induction text generalizing run with
  | nil => exact .nil
  | cons c text ih =>
    rw [basicText]
    by_cases same : c = quote
    · subst same
      rw [if_pos rfl]
      by_cases few : run < if lines then 2 else 0
      · rw [if_pos few]
        exact .bare few (ih (run + 1))
      · rw [if_neg few]
        exact .piece (w := [backslash, quote])
          (piece_letter lines (by decide) (by decide) (by decide) fun _ => rfl) (ih 0)
    · rw [if_neg same]
      exact .piece (piece_escaped lines same) (ih 0)

/-- A text in a literal form on one line. -/
theorem shown_literal {text : List Char}
    (plain : ∀ c ∈ text, isPlain c = true ∧ c ≠ apostrophe) (run : Nat) :
    Shown apostrophe 0 literalBody? run text text := by
  induction text generalizing run with
  | nil => exact .nil
  | cons c text ih =>
    obtain ⟨⟨good, other⟩, later⟩ := List.forall_mem_cons.mp plain
    refine .piece (w := [c]) (.single other rfl fun rest => ?_) (ih later 0)
    simp [literalBody?, other, good]

theorem le_longestRun (q : Char) (run : Nat) (text : List Char) : run ≤ longestRun q run text := by
  induction text generalizing run with
  | nil => exact Nat.le_refl _
  | cons c text ih =>
    unfold longestRun
    split
    · exact Nat.le_of_succ_le (ih (run + 1))
    · exact Nat.le_max_left _ _

/-- A text in a literal form on several lines. -/
theorem shown_literalLines {text : List Char}
    (plain : ∀ c ∈ text, isPlain c = true ∨ c = lineFeed) {run : Nat}
    (few : longestRun apostrophe run text ≤ 2) :
    Shown apostrophe 2 (linesBody? apostrophe false) run text text := by
  induction text generalizing run with
  | nil => exact .nil
  | cons c text ih =>
    obtain ⟨good, later⟩ := List.forall_mem_cons.mp plain
    unfold longestRun at few
    split at few
    · rename_i same
      subst same
      exact .bare (Nat.lt_of_succ_le (Nat.le_trans (le_longestRun _ _ _) few)) (ih later few)
    · rename_i other
      have less : longestRun apostrophe 0 text ≤ 2 := Nat.le_trans (Nat.le_max_right _ _) few
      refine .piece (w := [c]) (.single other (linesBody?_nil _ _) fun rest => ?_) (ih later less)
      rcases good with good | rfl
      · rw [linesBody?]
        simp [other, good]
      · exact linesBody?_lineFeed false other rest

/-! ## Whole strings -/

/-- What a value may stand in front of: the end of the line, or of the text. -/
def Ends (rest : List Char) : Prop := rest = [] ∨ ∃ more, rest = lineFeed :: more

theorem Ends.head_ne (ends : Ends rest) {c : Char} (other : c ≠ lineFeed) :
    rest.head? ≠ some c := by
  obtain rfl | ⟨more, rfl⟩ := ends
  · simp
  · simpa using other.symm

theorem isPlain_of_needsEscape {c : Char} (shown : needsEscape c = false) :
    isPlain c = true ∨ c = lineFeed := by
  simp only [needsEscape, isPlain, Bool.and_eq_false_iff, Bool.or_eq_true, bne_eq_false_iff_eq,
    Bool.not_eq_true', decide_eq_true_eq] at *
  tauto

/-- The literal forms are picked for texts that they can show. -/
theorem Form.pick_shows (text : List Char) :
    (Form.pick text = .literal → ∀ c ∈ text, isPlain c = true ∧ c ≠ apostrophe) ∧
      (Form.pick text = .literalLines →
        (∀ c ∈ text, isPlain c = true ∨ c = lineFeed) ∧ longestRun apostrophe 0 text ≤ 2) := by
  unfold Form.pick
  dsimp only
  split_ifs with bare single lines several <;> simp only [false_implies, true_implies, true_and,
    and_true]
  · intro c mem
    simp only [Bool.and_eq_true, Bool.not_eq_true', List.any_eq_false, List.contains_eq_mem,
      decide_eq_false_iff_not] at single
    obtain ⟨⟨uncoded, unquoted⟩, unbroken⟩ := single
    have plain := isPlain_of_needsEscape (Bool.eq_false_iff.mpr (uncoded c mem))
    exact ⟨plain.resolve_right fun same => unbroken (same ▸ mem), fun same => unquoted (same ▸ mem)⟩
  · simp only [Bool.and_eq_true, Bool.not_eq_true', List.any_eq_false, decide_eq_true_eq] at several
    exact ⟨fun c mem => isPlain_of_needsEscape (Bool.eq_false_iff.mpr (several.1 c mem)), several.2⟩

/-- The sign that opens and closes a form. -/
def Form.sign : Form → Char
  | .basic | .basicLines => quote
  | .literal | .literalLines => apostrophe

/-- What reads a string on one line, behind the sign that opens it. -/
def lineReader (q : Char) : Reader (List Char) := if q = quote then basicBody? else literalBody?

theorem readLine?_sign (sign : q = quote ∨ q = apostrophe) (text : List Char) :
    readLine? (q :: text) = lineReader q text := by
  obtain rfl | rfl := sign <;> simp [readLine?, lineReader, apostrophe, quote]

/-- Without two more signs behind the first the string is on one line. -/
theorem readString?_line (sign : q = quote ∨ q = apostrophe) {text : List Char}
    (few : ¬ [q, q] <+: text) : readString? (q :: text) = lineReader q text := by
  have other : apostrophe ≠ quote := by decide
  rw [← readLine?_sign sign]
  obtain rfl | rfl := sign
  · simp [readString?, List.cons_prefix_cons, few, other]
  · simp [readString?, List.cons_prefix_cons, few, other.symm]

theorem readString?_lines (sign : q = quote ∨ q = apostrophe) (text : List Char) :
    readString? (q :: q :: q :: text) = linesBody? q (q = quote) (afterOpening text) := by
  have other : apostrophe ≠ quote := by decide
  obtain rfl | rfl := sign
  · simp [readString?]
  · simp [readString?, List.cons_prefix_cons, other, other.symm]

theorem lineReader_close (sign : q = quote ∨ q = apostrophe) (rest : List Char) :
    lineReader q (q :: rest) = some ([], rest) := by
  obtain rfl | rfl := sign
  · rw [lineReader, if_pos rfl, basicBody?]
    simp
  · simp [lineReader, literalBody?, apostrophe, quote]

theorem lineReader_nil (q : Char) : lineReader q [] = none := by
  unfold lineReader
  split
  · exact basicReader_nil false
  · rfl

theorem Shown.not_quotes (shown : Shown q 0 read run text written) (few : run = 0)
    (other : rest.head? ≠ some q) : ¬ [q, q] <+: written ++ q :: rest := by
  rintro ⟨tail, same⟩
  obtain ⟨k, bound, ⟨-, rfl⟩ | ⟨d, more, ne, rfl⟩⟩ := shown.quotes (Nat.le_of_eq few)
  · obtain rfl : k = 0 := by omega
    obtain rfl : rest = q :: tail := by simpa using same.symm
    simp at other
  · obtain rfl : k = 0 := by omega
    simp_all

/-- A string on one line. -/
theorem Shown.line (sign : q = quote ∨ q = apostrophe)
    (shown : Shown q 0 (lineReader q) 0 text written) :
    (∀ rest, rest.head? ≠ some q → readString? (q :: (written ++ q :: rest)) = some (text, rest)) ∧
      ∀ p s, q :: (written ++ [q]) = p ++ s → s ≠ [] → readString? p = none := by
  refine ⟨fun rest other => ?_, fun p s same more => ?_⟩
  · rw [readString?_line sign (shown.not_quotes rfl other)]
    exact shown.read_append (lineReader_close sign) rest
  · cases p with
    | nil => rfl
    | cons c p =>
      rw [List.cons_append, List.cons.injEq] at same
      obtain ⟨rfl, same⟩ := same
      have few : ¬ [q, q] <+: p := fun two =>
        shown.not_quotes rfl (by simp : ([] : List Char).head? ≠ some q)
          (same ▸ two.trans (List.prefix_append p s))
      rw [readString?_line sign few]
      exact shown.read_cut (lineReader_nil q) same more

/-- The first character, if there is one, ends no line. -/
def Unbroken (text : List Char) : Prop := ∀ d ∈ text.head?, d ≠ lineFeed ∧ d ≠ carriageReturn

theorem Unbroken.afterOpening_eq (unbroken : Unbroken text) : afterOpening text = text := by
  cases text with
  | nil => rfl
  | cons c text =>
    obtain ⟨line, carriage⟩ := unbroken c rfl
    simp [afterOpening, lineEnd?, line, carriage]

theorem afterOpening_lineFeed (text : List Char) : afterOpening (lineFeed :: text) = text := by
  simp [afterOpening, lineEnd?]

theorem Unbroken.of_within {p : List Char} (unbroken : Unbroken text) (within : p <+: text) :
    Unbroken p := by
  obtain ⟨s, rfl⟩ := within
  cases p with
  | nil => exact nofun
  | cons c p => exact unbroken

theorem Unbroken.append_sign (unbroken : Unbroken written) (sign : q = quote ∨ q = apostrophe)
    (rest : List Char) : Unbroken (written ++ q :: rest) := by
  cases written with
  | nil =>
    rintro d ⟨⟩
    obtain rfl | rfl := sign <;> decide
  | cons c written => exact unbroken

/-- The line end that opens a string on several lines is not read. -/
theorem afterOpening_append {body : List Char}
    (unbroken : text.contains lineFeed = false → Unbroken body) :
    afterOpening (opening text ++ body) = body := by
  unfold opening
  split
  · exact afterOpening_lineFeed body
  · rename_i single
    exact (unbroken (Bool.eq_false_iff.mpr single)).afterOpening_eq

theorem afterOpening_cut {body p s : List Char}
    (unbroken : text.contains lineFeed = false → Unbroken body)
    (same : opening text ++ body = p ++ s) :
    afterOpening p = [] ∨ body = afterOpening p ++ s := by
  unfold opening at same
  split at same
  · cases p with
    | nil => exact .inl rfl
    | cons c p =>
      simp only [List.cons_append, List.nil_append, List.cons.injEq] at same
      obtain ⟨rfl, same⟩ := same
      exact .inr (by rw [afterOpening_lineFeed, same])
  · rename_i single
    have within : Unbroken p :=
      (unbroken (Bool.eq_false_iff.mpr single)).of_within ⟨s, same.symm⟩
    exact .inr (by rw [within.afterOpening_eq, ← same]; rfl)

/-- A string on several lines. -/
theorem Shown.lines (sign : q = quote ∨ q = apostrophe)
    (shown : Shown q 2 (linesBody? q (q = quote)) 0 text written)
    (unbroken : text.contains lineFeed = false → Unbroken written) :
    (∀ rest, rest.head? ≠ some q →
        readString? (q :: q :: q :: (opening text ++ (written ++ [q, q, q] ++ rest))) =
          some (text, rest)) ∧
      ∀ p s, q :: q :: q :: (opening text ++ (written ++ [q, q, q])) = p ++ s →
        ∀ v after, readString? p = some (v, after) → after = [] := by
  have start (rest : List Char) (single : text.contains lineFeed = false) :
      Unbroken (written ++ [q, q, q] ++ rest) := by
    rw [List.append_assoc]
    exact (unbroken single).append_sign sign _
  refine ⟨fun rest other => ?_, fun p s same v after ok => ?_⟩
  · rw [readString?_lines sign, afterOpening_append (start rest)]
    exact shown.lines_append (Nat.zero_le 2) other
  · match p with
    | [] => cases ok
    | [c] =>
      obtain rfl : q = c := by simpa using (List.cons.inj same).1
      rw [readString?_line sign (by simp), lineReader_nil] at ok
      cases ok
    | [c, d] =>
      simp only [List.cons_append, List.cons.injEq] at same
      obtain ⟨rfl, rfl, -⟩ := same
      rw [readString?_line sign (by simp), lineReader_close sign] at ok
      cases ok
      rfl
    | c :: d :: e :: p =>
      simp only [List.cons_append, List.cons.injEq] at same
      obtain ⟨rfl, rfl, rfl, same⟩ := same
      rw [readString?_lines sign] at ok
      have beginning := start []
      simp only [List.append_nil] at beginning
      rcases afterOpening_cut beginning same with stop | inner
      · rw [stop, linesBody?_nil] at ok
        cases ok
      · exact shown.lines_cut (Nat.zero_le 2) inner ok

theorem unbroken_basicText {text : List Char} (single : text.contains lineFeed = false) :
    Unbroken (basicText true 0 text) := by
  cases text with
  | nil => exact nofun
  | cons c text =>
    have line : c ≠ lineFeed := by
      rintro rfl
      simp at single
    by_cases sign : c = quote
    · rw [basicText, if_pos sign, if_pos (by decide)]
      rintro d ⟨⟩
      decide
    · rw [basicText, if_neg sign]
      unfold escaped
      split_ifs with slash blank carriage <;> rintro d ⟨⟩
      all_goals first
        | decide
        | exact ⟨line, carriage⟩

theorem unbroken_of_plain {text : List Char} (plain : ∀ c ∈ text, isPlain c = true ∨ c = lineFeed)
    (single : text.contains lineFeed = false) : Unbroken text := by
  cases text with
  | nil => exact nofun
  | cons c text =>
    rintro d ⟨⟩
    have line : c ≠ lineFeed := by
      rintro rfl
      simp at single
    refine ⟨line, ?_⟩
    rintro rfl
    rcases plain carriageReturn (by simp) with shown | same
    · simp [isPlain, isControl, carriageReturn, tab] at shown
    · exact line same

/-- A written string is read back, and a beginning of it is not read past its
end. -/
theorem readString?_write (text : List Char) :
    (∀ rest, Ends rest → readString? (writeString text ++ rest) = some (text, rest)) ∧
      ∀ p s, writeString text = p ++ s → s ≠ [] →
        ∀ v after, readString? p = some (v, after) → after = [] := by
  have shows := Form.pick_shows text
  unfold writeString
  cases picked : Form.pick text with
  | basic =>
    have shown : Shown quote 0 (lineReader quote) 0 text (basicText false 0 text) :=
      shown_basicText false 0 text
    obtain ⟨whole, cut⟩ := shown.line (.inl rfl)
    simp only [Form.write, List.append_assoc, List.cons_append, List.nil_append]
    refine ⟨fun rest ends => whole rest (ends.head_ne (by decide)),
      fun p s same more v after ok => ?_⟩
    rw [cut p s same more] at ok
    cases ok
  | literal =>
    have shown : Shown apostrophe 0 (lineReader apostrophe) 0 text text :=
      shown_literal (shows.1 picked) 0
    obtain ⟨whole, cut⟩ := shown.line (.inr rfl)
    simp only [Form.write, List.append_assoc, List.cons_append, List.nil_append]
    refine ⟨fun rest ends => whole rest (ends.head_ne (by decide)),
      fun p s same more v after ok => ?_⟩
    rw [cut p s same more] at ok
    cases ok
  | basicLines =>
    have shown : Shown quote 2 (linesBody? quote (quote = quote)) 0 text (basicText true 0 text) :=
      shown_basicText true 0 text
    obtain ⟨whole, cut⟩ := shown.lines (.inl rfl) unbroken_basicText
    simp only [Form.write, List.append_assoc, List.cons_append, List.nil_append] at whole cut ⊢
    exact ⟨fun rest ends => whole rest (ends.head_ne (by decide)), fun p s same _ => cut p s same⟩
  | literalLines =>
    obtain ⟨plain, few⟩ := shows.2 picked
    have shown : Shown apostrophe 2 (linesBody? apostrophe (apostrophe = quote)) 0 text text :=
      shown_literalLines plain few
    obtain ⟨whole, cut⟩ := shown.lines (.inr rfl) (unbroken_of_plain plain)
    simp only [Form.write, List.append_assoc, List.cons_append, List.nil_append] at whole cut ⊢
    exact ⟨fun rest ends => whole rest (ends.head_ne (by decide)), fun p s same _ => cut p s same⟩

/-- A written string begins with a sign. -/
theorem writeString_head (text : List Char) :
    ∃ q tail, writeString text = q :: tail ∧ (q = quote ∨ q = apostrophe) := by
  unfold writeString
  cases Form.pick text with
  | basic | basicLines => exact ⟨quote, _, rfl, .inl rfl⟩
  | literal | literalLines => exact ⟨apostrophe, _, rfl, .inr rfl⟩

end SharedQueue.Toml
