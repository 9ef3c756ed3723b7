/-
SharedQueue.Proofs.Toml.Lines — a written document is read line by line.

* `Line` — a field with its value, or the header of a section; `Sheet.lines`
  are the lines of a record, and `write_eq_lines` says that they are its text.
* `readEntries?_write` — written lines are read back as their entries.
* `Cuts`, `readEntries?_cut` — a beginning of them is not read, or as some of the
  lines, of which the last one may say something else.
-/
import Mathlib.Data.List.TakeWhile
import SharedQueue.Proofs.Toml.Scalars

namespace SharedQueue.Toml

variable {rest : List Char} {name : String}

/-! ## Lines -/

/-- A name that is written as it is. -/
def isBareName (name : String) : Bool := !name.toList.isEmpty && name.toList.all isBareChar

/-- A line of a record. -/
inductive Line
  | pair (name : String) (v : Scalar)
  /-- The name of a section in brackets, with a blank line before it. -/
  | header (name : String)

namespace Line

/-- The line without its end. -/
def body : Line → List Char
  | pair name v => name.toList ++ ' ' :: '=' :: ' ' :: v.write
  | header name => '[' :: (name.toList ++ [']'])

/-- What stands in front of it. -/
def lead : Line → List Char
  | pair .. => []
  | header _ => [lineFeed]

def write (l : Line) : List Char := l.lead ++ l.body ++ [lineFeed]

/-- What it is read as. -/
def entry : Line → Entry
  | pair name v => .pair [name] v.value
  | header name => .table [name]

/-- It can be written. -/
def Good : Line → Prop
  | pair name v => isBareName name = true ∧ v.fits = true
  | header name => isBareName name = true

end Line

/-- The lines of some fields. -/
def Fields.lines (fields : Fields) : List Line := fields.map fun (name, v) => .pair name v

/-- The lines of some sections. -/
def sectionLines (sections : List (String × Fields)) : List Line :=
  sections.flatMap fun (name, fields) => .header name :: Fields.lines fields

/-- The lines of a record. -/
def Sheet.lines (s : Sheet) : List Line := Fields.lines s.fields ++ sectionLines s.sections

theorem writeFields_eq (fields : Fields) :
    writeFields fields = (Fields.lines fields).flatMap Line.write := by
  simp [writeFields, Fields.lines, Line.write, Line.lead, Line.body, List.flatMap_map]

/-- The text of a record is its lines. -/
theorem Sheet.write_eq_lines (s : Sheet) : s.write = s.lines.flatMap Line.write := by
  simp [Sheet.write, Sheet.lines, sectionLines, writeSection, writeFields_eq, List.flatMap_append,
    List.flatMap_assoc, Line.write, Line.lead, Line.body]

/-! ## Keys -/

theorem ne_of_isBareChar {c d : Char} (bare : isBareChar c = true) (unlike : isBareChar d = false) :
    c ≠ d := by
  rintro rfl
  rw [unlike] at bare
  cases bare

theorem isBareName_iff : isBareName name = true ↔
    name.toList ≠ [] ∧ ∀ c ∈ name.toList, isBareChar c = true := by
  simp [isBareName]

theorem skipBlanks_of_head (solid : ∀ c ∈ rest.head?, isBlank c = false) :
    skipBlanks rest = rest := by
  cases rest with
  | nil => rfl
  | cons c rest => simp [skipBlanks, solid c rfl]

theorem isBlank_of_isBareChar {c : Char} (bare : isBareChar c = true) : isBlank c = false := by
  simp [isBlank, ne_of_isBareChar bare (show isBareChar ' ' = false from rfl),
    ne_of_isBareChar bare (show isBareChar tab = false from rfl)]

/-- A name ends at the first character that cannot belong to one. -/
theorem readName?_bare (bare : isBareName name = true)
    (stop : ∀ c ∈ rest.head?, isBareChar c = false) :
    readName? (name.toList ++ rest) = some (name, rest) := by
  obtain ⟨filled, letters⟩ := isBareName_iff.mp bare
  have whole : (name.toList ++ rest).takeWhile isBareChar = name.toList ∧
      (name.toList ++ rest).dropWhile isBareChar = rest := by
    rw [List.takeWhile_append_of_pos letters, List.dropWhile_append_of_pos letters]
    cases rest with
    | nil => simp
    | cons c rest => simp [stop c rfl]
  obtain ⟨c, cs, same⟩ := List.exists_cons_of_ne_nil filled
  have letter : isBareChar c = true := letters c (same ▸ List.mem_cons_self)
  have plain : c ≠ quote ∧ c ≠ apostrophe :=
    ⟨ne_of_isBareChar letter rfl, ne_of_isBareChar letter rfl⟩
  rw [same, List.cons_append] at whole ⊢
  simp only [readName?, plain.1, plain.2, decide_false, Bool.or_self, Bool.false_eq_true, if_false,
    letter, if_true, whole]
  rw [← same, String.ofList_toList]

/-- A bare name is a key, if no dot follows. -/
theorem readKey?_bare (bare : isBareName name = true)
    (stop : ∀ c ∈ rest.head?, isBareChar c = false) (single : (skipBlanks rest).head? ≠ some '.') :
    readKey? (name.toList ++ rest) = some ([name], skipBlanks rest) := by
  obtain ⟨filled, letters⟩ := isBareName_iff.mp bare
  have start : skipBlanks (name.toList ++ rest) = name.toList ++ rest := by
    obtain ⟨c, cs, same⟩ := List.exists_cons_of_ne_nil filled
    refine skipBlanks_of_head fun d mem => isBlank_of_isBareChar (letters d ?_)
    rw [same] at mem ⊢
    cases mem
    exact List.mem_cons_self
  have names : readNames? (name.toList ++ rest) = some ([name], skipBlanks rest) := by
    rw [readNames?, start, readName?_bare bare stop]
    dsimp only
    split
    · rename_i more dot
      rw [dot] at single
      exact absurd rfl single
    · rfl
  simp [readKey?, names, nestingLimit]

/-! ## Entries -/

theorem skipBlanks_space (text : List Char) : skipBlanks (' ' :: text) = skipBlanks text := by
  simp [skipBlanks, isBlank]

/-- The value of a pair stands behind the sign. -/
theorem readPair?_bare (item : Reader Value) (bare : isBareName name = true) (text : List Char) :
    readPair? item (name.toList ++ ' ' :: '=' :: text) =
      (item (skipBlanks text)).map fun (v, rest) => (([name], v), rest) := by
  have key : readKey? (name.toList ++ ' ' :: '=' :: text) = some ([name], '=' :: text) :=
    readKey?_bare bare (by rintro c ⟨⟩; rfl) (by simp [skipBlanks, isBlank, tab])
  simp only [readPair?, key, Option.bind_eq_bind, Option.bind_some, expect?, if_true]
  cases item (skipBlanks text) <;> rfl

/-- Without the sign there is no pair. -/
theorem readPair?_unsigned (item : Reader Value) (bare : isBareName name = true)
    (blank : ∀ c ∈ rest, isBlank c = true) : readPair? item (name.toList ++ rest) = none := by
  have nothing : skipBlanks rest = [] := List.dropWhile_eq_nil_iff.mpr blank
  have stop : ∀ c ∈ rest.head?, isBareChar c = false := fun c mem => by
    by_contra letter
    have solid := isBlank_of_isBareChar (Bool.of_not_eq_false letter)
    rw [blank c (List.mem_of_head? mem)] at solid
    cases solid
  have key := readKey?_bare bare stop (by simp [nothing])
  simp [readPair?, key, nothing, expect?]

/-- An entry that begins with a letter or a digit is a pair. -/
theorem readEntry?_of_bare {text : List Char} (letter : ∀ c ∈ text.head?, isBareChar c = true) :
    readEntry? text = (readPair? (readValue? 79) text).map fun ((path, v), rest) =>
      (.pair path v, rest) := by
  unfold readEntry?
  split
  · exact absurd (letter '[' rfl) (by decide)
  · exact absurd (letter '[' rfl) (by decide)
  · rw [show nestingLimit - 1 = 79 from rfl]
    cases readPair? (readValue? 79) text <;> rfl

theorem head?_name_append (bare : isBareName name = true) (text : List Char) :
    ∀ c ∈ (name.toList ++ text).head?, isBareChar c = true := by
  obtain ⟨filled, letters⟩ := isBareName_iff.mp bare
  obtain ⟨d, cs, same⟩ := List.exists_cons_of_ne_nil filled
  rintro c mem
  rw [same] at mem
  cases mem
  exact letters d (same ▸ List.mem_cons_self)

theorem readEntry?_header (bare : isBareName name = true) (rest : List Char) :
    readEntry? ('[' :: (name.toList ++ ']' :: rest)) = some (.table [name], rest) := by
  have key : readKey? (name.toList ++ ']' :: rest) = some ([name], ']' :: rest) :=
    readKey?_bare bare (by rintro c ⟨⟩; rfl) (by simp [skipBlanks, isBlank, tab])
  have plain := head?_name_append bare (']' :: rest)
  unfold readEntry?
  split
  · rename_i more same
    rw [(List.cons.inj same).2] at plain
    exact absurd (plain '[' rfl) (by decide)
  · rename_i more _ same
    obtain rfl := (List.cons.inj same).2
    simp [key, expect?]
  · rename_i single
    exact absurd rfl (single _)

theorem isBareName_ofList {p : List Char} (filled : p ≠ [])
    (letters : ∀ c ∈ p, isBareChar c = true) : isBareName (String.ofList p) = true :=
  isBareName_iff.mpr ⟨by simpa using filled, by simpa using letters⟩

/-- A header that is cut short is no entry. -/
theorem readEntry?_header_cut {p : List Char} (letters : ∀ c ∈ p, isBareChar c = true) :
    readEntry? ('[' :: p) = none := by
  unfold readEntry?
  split
  · rename_i more same
    have inside : '[' ∈ p := by
      rw [(List.cons.inj same).2]
      exact List.mem_cons_self
    exact absurd (letters '[' inside) (by decide)
  · rename_i more _ same
    obtain rfl := (List.cons.inj same).2
    by_cases empty : p = []
    · subst empty
      simp [readKey?, readNames?, skipBlanks, readName?]
    · have key : readKey? ((String.ofList p).toList ++ []) = some ([String.ofList p], []) :=
        readKey?_bare (isBareName_ofList empty letters) (by simp) (by simp [skipBlanks])
      rw [String.toList_ofList, List.append_nil] at key
      simp [key, expect?]
  · rename_i single
    exact absurd rfl (single _)

/-- A written scalar begins with something. -/
theorem Scalar.write_head (v : Scalar) : ∃ c tail, v.write = c :: tail ∧ isBlank c = false := by
  cases v with
  | text s =>
    obtain ⟨q, tail, written, sign⟩ := writeString_head s.toList
    refine ⟨q, tail, written, ?_⟩
    obtain rfl | rfl := sign <;> rfl
  | number n =>
    obtain ⟨c, tail, written⟩ := List.exists_cons_of_ne_nil (decimals_ne_nil n)
    have digit := isDigit_of_mem_decimals c (written ▸ List.mem_cons_self)
    exact ⟨c, tail, (toList_toString n).trans written,
      isBlank_of_isBareChar (isBareChar_of_isDigit digit)⟩
  | truth b => cases b <;> exact ⟨_, _, rfl, rfl⟩

/-- A beginning of a written scalar has no blanks in front. -/
theorem Scalar.skipBlanks_cut {v : Scalar} {p s : List Char} (same : v.write ++ rest = p ++ s)
    : skipBlanks p = p := by
  obtain ⟨c, tail, written, solid⟩ := v.write_head
  cases p with
  | nil => rfl
  | cons d p =>
    rw [written] at same
    obtain rfl := (List.cons.inj same).1
    exact skipBlanks_of_head (by rintro e ⟨⟩; exact solid)

/-- A line is read as its entry. -/
theorem readEntry?_body {l : Line} (good : l.Good) (ends : Ends rest) :
    readEntry? (l.body ++ rest) = some (l.entry, rest) := by
  cases l with
  | header name => simpa [Line.body, Line.entry] using readEntry?_header good rest
  | pair name v =>
    obtain ⟨bare, fits⟩ := good
    simp only [Line.body, List.append_assoc, List.cons_append]
    rw [readEntry?_of_bare (head?_name_append bare _), readPair?_bare _ bare,
      skipBlanks_space, Scalar.skipBlanks_cut (s := []) (List.append_nil _).symm,
      readValue?_write 78 fits ends]
    rfl

/-! ## Lines, one after the other -/

theorem skipTrivia_of_bare {text : List Char} (letter : ∀ c ∈ text.head?, isBareChar c = true) :
    skipTrivia false text = text := by
  cases text with
  | nil => rfl
  | cons c text =>
    have bare := letter c rfl
    rw [skipTrivia.eq_def]
    simp [isBlank_of_isBareChar bare,
      ne_of_isBareChar bare (show isBareChar lineFeed = false from rfl),
      ne_of_isBareChar bare (show isBareChar '#' = false from rfl),
      ne_of_isBareChar bare (show isBareChar carriageReturn = false from rfl)]

theorem endLine?_lineFeed (rest : List Char) : endLine? (lineFeed :: rest) = some rest := by
  simp [endLine?, skipBlanks, isBlank, lineFeed, tab, lineEnd?]

theorem skipTrivia_bracket (text : List Char) : skipTrivia false ('[' :: text) = '[' :: text := by
  rw [skipTrivia.eq_def]
  simp [isBlank, lineFeed, tab, carriageReturn]

theorem skipTrivia_lineFeed (text : List Char) :
    skipTrivia false (lineFeed :: text) = skipTrivia false text := by
  rw [skipTrivia.eq_def]
  simp [isBlank, lineFeed]

/-- What stands in front of a line is skipped. -/
theorem skipTrivia_line {l : Line} (good : l.Good) (rest : List Char) :
    skipTrivia false (l.lead ++ (l.body ++ rest)) = l.body ++ rest := by
  cases l with
  | pair name v =>
    simp only [Line.lead, Line.body, List.nil_append, List.append_assoc]
    exact skipTrivia_of_bare (head?_name_append good.1 _)
  | header name => exact (skipTrivia_lineFeed _).trans (skipTrivia_bracket _)

theorem readEntries?_nil : readEntries? [] = some [] := by
  rw [readEntries?]
  rfl

/-- One entry, and then the others. -/
theorem readEntries?_of_entry {text start rest more : List Char} {entry : Entry}
    (space : skipTrivia false text = start) (filled : start ≠ [])
    (read : readEntry? start = some (entry, rest)) (line : endLine? rest = some more)
    (shorter : more.length < text.length) :
    readEntries? text = (readEntries? more).map (entry :: ·) := by
  rw [readEntries?, space]
  split
  · rename_i empty
    exact absurd rfl filled
  · simp [read, line, shorter]

theorem Line.body_ne_nil (l : Line) : l.body ≠ [] := by
  cases l <;> simp [body]

/-- A line is read as its entry, and the next lines after it. -/
theorem readEntries?_line {l : Line} (good : l.Good) (rest : List Char) :
    readEntries? (l.write ++ rest) = (readEntries? rest).map (l.entry :: ·) := by
  have space := skipTrivia_line good (lineFeed :: rest)
  simp only [Line.write, List.append_assoc, List.cons_append, List.nil_append]
  refine readEntries?_of_entry space (by simp [l.body_ne_nil])
    (readEntry?_body good (.inr ⟨rest, rfl⟩)) (endLine?_lineFeed rest) ?_
  simp
  omega

/-- Written lines are read back. -/
theorem readEntries?_write {lines : List Line} (good : ∀ l ∈ lines, l.Good) :
    readEntries? (lines.flatMap Line.write) = some (lines.map Line.entry) := by
  induction lines with
  | nil => exact readEntries?_nil
  | cons l lines ih =>
    obtain ⟨first, others⟩ := List.forall_mem_cons.mp good
    rw [List.flatMap_cons, readEntries?_line first, ih others]
    rfl

/-! ## Lines that are cut short -/

/-- What a line can say that is cut short. -/
inductive Line.Cut : Line → Line → Prop
  | pair {name : String} {v v' : Scalar} (cut : v.Cut v') : Cut (.pair name v) (.pair name v')
  | header {name : String} : Cut (.header name) (.header name)

/-- What a list comes to that is cut short: some of its first entries, and
perhaps a part of the next one. -/
inductive Cuts {α : Type} (part : α → α → Prop) : List α → List α → Prop
  | nil {xs : List α} : Cuts part xs []
  | last {x x' : α} {xs : List α} (cut : part x x') : Cuts part (x :: xs) [x']
  | cons {x : α} {xs xs' : List α} (rest : Cuts part xs xs') : Cuts part (x :: xs) (x :: xs')

theorem readEntries?_eq_none {text start : List Char} (space : skipTrivia false text = start)
    (filled : start ≠ []) (read : readEntry? start = none) : readEntries? text = none := by
  rw [readEntries?, space]
  split
  · exact absurd rfl filled
  · simp [read]

/-- The last entry of a text without a line end. -/
theorem readEntries?_last {text start : List Char} {entry : Entry}
    (space : skipTrivia false text = start) (filled : start ≠ [])
    (read : readEntry? start = some (entry, [])) : readEntries? text = some [entry] := by
  have long : 0 < text.length := by
    cases text with
    | nil => exact absurd space.symm filled
    | cons c text => simp
  rw [readEntries?_of_entry space filled read rfl long, readEntries?_nil]
  rfl

/-- Written lines are read back even if the end of the last one is missing. -/
theorem readEntries?_unended {lines : List Line} {l : Line} (good : ∀ l' ∈ lines ++ [l], l'.Good) :
    readEntries? (lines.flatMap Line.write ++ (l.lead ++ l.body)) =
      some ((lines ++ [l]).map Line.entry) := by
  induction lines with
  | nil =>
    have last : l.Good := good l (by simp)
    have space := skipTrivia_line last []
    have read := readEntry?_body last (.inl rfl : Ends [])
    rw [List.append_nil] at space read
    exact readEntries?_last space l.body_ne_nil read
  | cons first lines ih =>
    obtain ⟨here, later⟩ := List.forall_mem_cons.mp good
    rw [List.flatMap_cons, List.append_assoc, readEntries?_line here, ih later]
    rfl

/-- What is read of the beginning of a line. -/
def Line.Reads (l : Line) (p : List Char) : Prop :=
  readEntries? p = none ∨ readEntries? p = some [] ∨
    ∃ l', l.Cut l' ∧ readEntries? p = some [l'.entry]

/-- A name without the sign behind it is no line. -/
theorem readEntries?_unsigned (bare : isBareName name = true)
    (blank : ∀ c ∈ rest, isBlank c = true) : readEntries? (name.toList ++ rest) = none := by
  have letter := head?_name_append bare rest
  refine readEntries?_eq_none (skipTrivia_of_bare letter)
    (by simp [(isBareName_iff.mp bare).1]) ?_
  rw [readEntry?_of_bare letter, readPair?_unsigned _ bare blank]
  rfl

/-- What stands behind the sign decides what is read. -/
theorem Line.reads_signed {v : Scalar} (good : (Line.pair name v).Good) {text : List Char}
    (read : readValue? 79 (skipBlanks text) = none ∨
      ∃ v', v.Cut v' ∧ readValue? 79 (skipBlanks text) = some (v'.value, [])) :
    (Line.pair name v).Reads (name.toList ++ ' ' :: '=' :: text) := by
  obtain ⟨bare, -⟩ := good
  have letter := head?_name_append bare (' ' :: '=' :: text)
  have space := skipTrivia_of_bare letter
  have filled : name.toList ++ ' ' :: '=' :: text ≠ [] := by simp
  have entry := (readEntry?_of_bare letter).trans
    (congrArg _ (readPair?_bare (readValue? 79) bare text))
  rcases read with read | ⟨v', cut, read⟩
  · rw [read] at entry
    exact .inl (readEntries?_eq_none space filled entry)
  · rw [read] at entry
    exact .inr (.inr ⟨_, .pair cut, readEntries?_last space filled entry⟩)

theorem Line.reads_pair {v : Scalar} (good : (Line.pair name v).Good) {p s : List Char}
    (same : (Line.pair name v).body = p ++ s) : (Line.pair name v).Reads p := by
  obtain ⟨bare, fits⟩ := good
  rcases append_eq_append_cases same with ⟨e, rfl, behind⟩ | ⟨e, -, within, -⟩
  · match e with
    | [] => exact .inl (readEntries?_unsigned bare nofun)
    | [c] =>
      obtain rfl : ' ' = c := (List.cons.inj behind).1
      exact .inl (readEntries?_unsigned bare (by simp [isBlank]))
    | [c, d] =>
      simp only [List.cons_append, List.cons.injEq] at behind
      obtain ⟨rfl, rfl, -⟩ := behind
      exact reads_signed ⟨bare, fits⟩ (.inl rfl)
    | c :: d :: f :: e =>
      simp only [List.cons_append, List.cons.injEq] at behind
      obtain ⟨rfl, rfl, rfl, written⟩ := behind
      refine reads_signed ⟨bare, fits⟩ ?_
      rw [skipBlanks_space, Scalar.skipBlanks_cut ((List.append_nil _).trans written)]
      exact readValue?_cut 78 fits written
  · by_cases empty : p = []
    · subst empty
      exact .inr (.inl readEntries?_nil)
    · have letters : ∀ c ∈ p, isBareChar c = true := fun c mem =>
        (isBareName_iff.mp bare).2 c (within ▸ List.mem_append_left e mem)
      have cut : readEntries? ((String.ofList p).toList ++ []) = none :=
        readEntries?_unsigned (isBareName_ofList empty letters) nofun
      rw [String.toList_ofList, List.append_nil] at cut
      exact .inl cut

theorem Line.reads_header (bare : isBareName name = true) {p s : List Char}
    (same : (Line.header name).lead ++ (Line.header name).body = p ++ s) :
    (Line.header name).Reads p := by
  match p with
  | [] => exact .inr (.inl readEntries?_nil)
  | [c] =>
    obtain rfl : lineFeed = c := (List.cons.inj same).1
    exact .inr (.inl (by rw [readEntries?, skipTrivia_lineFeed]; rfl))
  | c :: d :: p =>
    simp only [lead, body, List.cons_append, List.nil_append, List.cons.injEq] at same
    obtain ⟨rfl, rfl, same⟩ := same
    have space := (skipTrivia_lineFeed ('[' :: p)).trans (skipTrivia_bracket p)
    rcases append_eq_append_cases same with ⟨e, rfl, behind⟩ | ⟨e, -, within, -⟩
    · match e with
      | [] =>
        rw [List.append_nil] at space ⊢
        exact .inl (readEntries?_eq_none space (by simp)
          (readEntry?_header_cut (isBareName_iff.mp bare).2))
      | f :: e =>
        simp only [List.cons_append, List.cons.injEq] at behind
        obtain ⟨rfl, nothing⟩ := behind
        obtain ⟨rfl, -⟩ := List.append_eq_nil_iff.mp nothing.symm
        exact .inr (.inr
          ⟨_, .header, readEntries?_last space (by simp) (readEntry?_header bare [])⟩)
    · exact .inl (readEntries?_eq_none space (by simp) (readEntry?_header_cut fun c mem =>
        (isBareName_iff.mp bare).2 c (within ▸ List.mem_append_left e mem)))

/-- What is read of a beginning of a line, if its end is missing. -/
theorem Line.reads {l : Line} (good : l.Good) {p s : List Char} (same : l.lead ++ l.body = p ++ s) :
    l.Reads p := by
  cases l with
  | pair name v => exact reads_pair good same
  | header name => exact reads_header good same

/-- A beginning of some lines does not begin with a mark. -/
theorem skipMark_cut {lines : List Line} (good : ∀ l ∈ lines, l.Good) {p s : List Char}
    (same : lines.flatMap Line.write = p ++ s) : skipMark p = p := by
  cases p with
  | nil => rfl
  | cons c p =>
    have plain : c ≠ byteOrderMark := by
      cases lines with
      | nil => cases same
      | cons l lines =>
        cases l with
        | header name =>
          obtain rfl : lineFeed = c := (List.cons.inj same).1
          decide
        | pair name v =>
          have bare := (List.forall_mem_cons.mp good).1.1
          have letter := head?_name_append bare (' ' :: '=' :: ' ' :: (v.write ++ [lineFeed]) ++
            lines.flatMap Line.write)
          refine ne_of_isBareChar (letter c ?_) rfl
          have head := congrArg List.head? same
          simp only [List.flatMap_cons, Line.write, Line.lead, Line.body, List.nil_append,
            List.append_assoc, List.cons_append, List.head?_cons] at head ⊢
          exact head
    simp [skipMark, plain]

/-- A beginning of some lines is not read, or as what they say when they are cut
short. -/
theorem readEntries?_cut {lines : List Line} (good : ∀ l ∈ lines, l.Good) {p s : List Char}
    (same : lines.flatMap Line.write = p ++ s) :
    readEntries? p = none ∨
      ∃ lines', Cuts Line.Cut lines lines' ∧ readEntries? p = some (lines'.map Line.entry) := by
  induction lines generalizing p with
  | nil =>
    obtain ⟨rfl, -⟩ := List.append_eq_nil_iff.mp same.symm
    exact .inr ⟨[], .nil, readEntries?_nil⟩
  | cons l lines ih =>
    obtain ⟨first, others⟩ := List.forall_mem_cons.mp good
    rw [List.flatMap_cons] at same
    rcases append_eq_append_cases same with ⟨e, rfl, later⟩ | ⟨e, filled, within, -⟩
    · rw [readEntries?_line first]
      rcases ih others later with unread | ⟨lines', cuts, read⟩
      · exact .inl (by rw [unread]; rfl)
      · exact .inr ⟨l :: lines', .cons cuts, by rw [read]; rfl⟩
    · obtain ⟨s', short⟩ : ∃ s', l.lead ++ l.body = p ++ s' := by
        obtain ⟨s', c, rfl⟩ := (List.eq_nil_or_concat e).resolve_left filled
        rw [List.concat_eq_append, ← List.append_assoc] at within
        exact ⟨s', List.append_inj_left' within rfl⟩
      rcases l.reads first short with read | read | ⟨l', cut, read⟩
      · exact .inl read
      · exact .inr ⟨[], .nil, read⟩
      · exact .inr ⟨[l'], .last cut, read⟩

end SharedQueue.Toml
