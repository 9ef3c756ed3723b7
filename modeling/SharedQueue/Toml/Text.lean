/-
SharedQueue.Toml.Text — the characters of TOML, and its strings.

A string has four written forms: basic or literal, on one line or on
several. Literal forms show their characters as they are; basic forms know
escapes; forms on several lines may contain line ends.

* `Form.pick` — the form that a string is written in: the first of basic,
  literal, basic on several lines and literal on several lines that shows
  it without escapes, else a basic form with escapes.
* `Form.write` — the written string.
* `readString?`, `readLine?` — a string at the head of some text, in any
  form or in a form on one line, and the text behind it.
-/

namespace SharedQueue.Toml

/-! ## Characters -/

/-- The quote of basic forms. -/
def quote : Char := '\x22'

/-- The quote of literal forms. -/
def apostrophe : Char := '\x27'

/-- The sign in front of an escape. -/
def backslash : Char := '\x5c'

def tab : Char := '\t'
def lineFeed : Char := '\n'
def carriageReturn : Char := '\x0d'

/-- Blanks inside a line. -/
def isBlank (c : Char) : Bool := c = ' ' || c = tab

/-- Control characters. -/
def isControl (c : Char) : Bool := c.toNat < 0x20 || c.toNat = 0x7f

/-- What a comment may hold, and what may stand as it is in a string: all
characters but the control characters, and of those the tab. -/
def isPlain (c : Char) : Bool := c = tab || !isControl c

/-! ## Writing -/

/-- The written form of a string. -/
inductive Form
  | basic
  | literal
  | basicLines
  | literalLines
deriving DecidableEq, Repr

/-- The length of the longest run of `q`, when `run` of them stand in front. -/
def longestRun (q : Char) (run : Nat) : List Char → Nat
  | [] => run
  | c :: rest => if c = q then longestRun q (run + 1) rest else max run (longestRun q 0 rest)

/-- The character cannot be shown without an escape, in any form. A tab can:
literal forms hold it as it is. -/
def needsEscape (c : Char) : Bool := isControl c && c != lineFeed && c != tab

/-- The form of a string. -/
def Form.pick (text : List Char) : Form :=
  let coded := text.any needsEscape
  let slashed := text.contains backslash
  let lines := text.contains lineFeed
  if !coded && !slashed && !text.contains quote && !lines then .basic
  else if !coded && !text.contains apostrophe && !lines then .literal
  else if !coded && !slashed && longestRun quote 0 text ≤ 2 then .basicLines
  else if !coded && longestRun apostrophe 0 text ≤ 2 then .literalLines
  else if lines then .basicLines
  else .basic

/-- The last `count` hexadecimal digits of a number, in upper case. -/
def hexDigits : (count n : Nat) → List Char
  | 0, _ => []
  | count + 1, n =>
    let d := n % 16
    hexDigits count (n / 16) ++ [Char.ofNat (if d < 10 then 48 + d else 55 + d)]

/-- A character other than the quote, in a basic form. -/
def escaped (lines : Bool) (c : Char) : List Char :=
  if c = backslash then [backslash, backslash]
  else if c = lineFeed then if lines then [lineFeed] else [backslash, 'n']
  else if c = tab then [backslash, 't']
  else if c = carriageReturn then [backslash, 'r']
  else if c = Char.ofNat 8 then [backslash, 'b']
  else if c = Char.ofNat 12 then [backslash, 'f']
  else if isControl c then backslash :: 'u' :: hexDigits 4 c.toNat
  else [c]

/-- The text of a basic form. On several lines up to two quotes in a row may
stand as they are, on one line none. -/
def basicText (lines : Bool) (run : Nat) : List Char → List Char
  | [] => []
  | c :: rest =>
    if c = quote then
      if run < (if lines then 2 else 0) then quote :: basicText lines (run + 1) rest
      else backslash :: quote :: basicText lines 0 rest
    else escaped lines c ++ basicText lines 0 rest

/-- A line end behind the opening quotes is not part of the string, so one
is added where the string has several lines. -/
def opening (text : List Char) : List Char :=
  if text.contains lineFeed then [lineFeed] else []

/-- The written string. -/
def Form.write (form : Form) (text : List Char) : List Char :=
  match form with
  | .basic => [quote] ++ basicText false 0 text ++ [quote]
  | .literal => [apostrophe] ++ text ++ [apostrophe]
  | .basicLines =>
    [quote, quote, quote] ++ opening text ++ basicText true 0 text ++ [quote, quote, quote]
  | .literalLines =>
    [apostrophe, apostrophe, apostrophe] ++ opening text ++ text
      ++ [apostrophe, apostrophe, apostrophe]

/-- A string as it is written. -/
def writeString (text : List Char) : List Char := (Form.pick text).write text

/-! ## Reading -/

/-- The value of a hexadecimal digit. -/
def hexValue? (c : Char) : Option Nat :=
  if '0' ≤ c ∧ c ≤ '9' then some (c.toNat - 48)
  else if 'A' ≤ c ∧ c ≤ 'F' then some (c.toNat - 55)
  else if 'a' ≤ c ∧ c ≤ 'f' then some (c.toNat - 87)
  else none

/-- The number that `count` hexadecimal digits spell, behind `value`. -/
def hexNumber? : (count value : Nat) → List Char → Option (Nat × List Char)
  | 0, value, rest => some (value, rest)
  | _ + 1, _, [] => none
  | count + 1, value, c :: rest => do
    hexNumber? count (16 * value + (← hexValue? c)) rest

/-- A character given by number, with `count` digits. -/
def codePoint? (count : Nat) (text : List Char) : Option (Char × List Char) := do
  let (n, rest) ← hexNumber? count 0 text
  if n.isValidChar then some (Char.ofNat n, rest) else none

/-- The character that an escape stands for; the backslash has been read. -/
def escape? : List Char → Option (Char × List Char)
  | [] => none
  | c :: rest =>
    if c = quote then some (quote, rest)
    else if c = backslash then some (backslash, rest)
    else if c = 'b' then some (Char.ofNat 8, rest)
    else if c = 't' then some (tab, rest)
    else if c = 'n' then some (lineFeed, rest)
    else if c = 'f' then some (Char.ofNat 12, rest)
    else if c = 'r' then some (carriageReturn, rest)
    else if c = 'u' then codePoint? 4 rest
    else if c = 'U' then codePoint? 8 rest
    else none

theorem hexNumber?_length {count value : Nat} {text rest : List Char} {n : Nat}
    (h : hexNumber? count value text = some (n, rest)) : rest.length ≤ text.length := by
  induction count generalizing value text with
  | zero => simp only [hexNumber?, Option.some.injEq, Prod.mk.injEq] at h; simp [h.2]
  | succ count ih =>
    cases text with
    | nil => simp [hexNumber?] at h
    | cons c tail =>
      simp only [hexNumber?, bind, Option.bind] at h
      split at h
      · simp at h
      · have := ih h
        simp only [List.length_cons]; omega

theorem codePoint?_length {count : Nat} {text rest : List Char} {c : Char}
    (h : codePoint? count text = some (c, rest)) : rest.length ≤ text.length := by
  simp only [codePoint?, Option.bind_eq_bind, Option.bind_eq_some_iff] at h
  obtain ⟨⟨n, tail⟩, hn, h⟩ := h
  have := hexNumber?_length hn
  split at h
  · simp only [Option.some.injEq, Prod.mk.injEq] at h
    rwa [← h.2]
  · simp at h

/-- An escape is one character, or one and the digits of a number. -/
theorem escape?_cons {c d : Char} {text rest : List Char}
    (h : escape? (d :: text) = some (c, rest)) :
    rest = text ∨ codePoint? 4 text = some (c, rest) ∨ codePoint? 8 text = some (c, rest) := by
  grind [escape?]

/-- An escape takes at least one character. -/
theorem escape?_length {text rest : List Char} {c : Char} (h : escape? text = some (c, rest)) :
    rest.length < text.length := by
  cases text with
  | nil => simp [escape?] at h
  | cons d tail =>
    rw [List.length_cons, Nat.lt_succ_iff]
    rcases escape?_cons h with rfl | short | long
    · exact Nat.le_refl _
    · exact codePoint?_length short
    · exact codePoint?_length long

/-- The rest of a basic string on one line. -/
def basicBody? (text : List Char) : Option (List Char × List Char) :=
  match text with
  | [] => none
  | c :: rest =>
    if c = quote then some ([], rest)
    else if c = backslash then
      match _h : escape? rest with
      | none => none
      | some (e, tail) => (basicBody? tail).map fun (body, after) => (e :: body, after)
    else if isPlain c then (basicBody? rest).map fun (body, after) => (c :: body, after)
    else none
termination_by text.length
decreasing_by
  · have := escape?_length _h
    simp only [List.length_cons]; omega
  · simp

/-- The rest of a literal string on one line. -/
def literalBody? : List Char → Option (List Char × List Char)
  | [] => none
  | c :: rest =>
    if c = apostrophe then some ([], rest)
    else if isPlain c then (literalBody? rest).map fun (body, after) => (c :: body, after)
    else none

/-- The text behind a line end. -/
def lineEnd? : List Char → Option (List Char)
  | [] => none
  | c :: rest =>
    if c = lineFeed then some rest
    else if c = carriageReturn then
      match rest with
      | d :: tail => if d = lineFeed then some tail else none
      | [] => none
    else none

/-- A line end is one character or two. -/
theorem lineEnd?_cons {c : Char} {text rest : List Char} (h : lineEnd? (c :: text) = some rest) :
    rest = text ∨ text = lineFeed :: rest := by
  cases text <;> grind [lineEnd?]

theorem lineEnd?_length {text rest : List Char} (h : lineEnd? text = some rest) :
    rest.length < text.length := by
  cases text with
  | nil => simp [lineEnd?] at h
  | cons c tail =>
    rcases lineEnd?_cons h with rfl | rfl
    · simp
    · simp only [List.length_cons]
      omega

/-- The text behind blanks and line ends. -/
def skipSpace (text : List Char) : List Char :=
  match text with
  | [] => []
  | c :: rest =>
    if isBlank c then skipSpace rest
    else
      match _h : lineEnd? (c :: rest) with
      | some tail => skipSpace tail
      | none => c :: rest
termination_by text.length
decreasing_by
  · simp
  · exact lineEnd?_length _h

theorem skipSpace_length (text : List Char) : (skipSpace text).length ≤ text.length := by
  fun_induction skipSpace text with
  | case1 => simp
  | case2 c rest _ ih => simp only [List.length_cons]; omega
  | case3 c rest _ tail h ih => have := lineEnd?_length h; omega
  | case4 => simp

/-- A backslash at the end of a line joins it with the next text; here, the
text behind the backslash. -/
def joined? (text : List Char) : Option (List Char) :=
  (lineEnd? (text.dropWhile isBlank)).map skipSpace

theorem length_dropWhile_le {α : Type} (p : α → Bool) (xs : List α) :
    (xs.dropWhile p).length ≤ xs.length := by
  induction xs with
  | nil => simp
  | cons x rest ih =>
    rw [List.dropWhile_cons]
    split
    · simp only [List.length_cons]; omega
    · simp

theorem joined?_length {text rest : List Char} (h : joined? text = some rest) :
    rest.length ≤ text.length := by
  simp only [joined?, Option.map_eq_some_iff] at h
  obtain ⟨tail, ht, rfl⟩ := h
  have h1 := lineEnd?_length ht
  have h2 := length_dropWhile_le isBlank text
  have h3 := skipSpace_length tail
  omega

/-- The number of `q` at the head of a text. -/
def runLength (q : Char) (text : List Char) : Nat := (text.takeWhile (· = q)).length

/-- The rest of a string on several lines. A run of fewer than three quotes
is text; a longer one closes the string, and up to two quotes of it are
text. Line ends are read as line feeds. -/
def linesBody? (q : Char) (escapes : Bool) (text : List Char) :
    Option (List Char × List Char) :=
  match text with
  | [] => none
  | c :: rest =>
    if c = q then
      let run := runLength q (c :: rest)
      if run < 3 then (linesBody? q escapes rest).map fun (body, after) => (c :: body, after)
      else if run ≤ 5 then
        some (List.replicate (run - 3) q, rest.drop (run - 1))
      else none
    else if escapes && c = backslash then
      match _joined : joined? rest with
      | some tail => linesBody? q escapes tail
      | none =>
        match _h : escape? rest with
        | none => none
        | some (e, tail) => (linesBody? q escapes tail).map fun (body, after) => (e :: body, after)
    else if isPlain c then (linesBody? q escapes rest).map fun (body, after) => (c :: body, after)
    else
      match _h : lineEnd? (c :: rest) with
      | some tail => (linesBody? q escapes tail).map fun (body, after) => (lineFeed :: body, after)
      | none => none
termination_by text.length
decreasing_by
  · simp
  · have := joined?_length _joined; simp only [List.length_cons]; omega
  · have := escape?_length _h; simp only [List.length_cons]; omega
  · simp
  · exact lineEnd?_length _h

/-- A string on one line. -/
def readLine? (text : List Char) : Option (List Char × List Char) :=
  match text with
  | [] => none
  | c :: rest =>
    if c = quote then basicBody? rest
    else if c = apostrophe then literalBody? rest
    else none

/-- A line end behind the opening quotes is not part of the string. -/
def afterOpening (text : List Char) : List Char := (lineEnd? text).getD text

/-- A string in any form. -/
def readString? (text : List Char) : Option (List Char × List Char) :=
  if [quote, quote, quote].isPrefixOf text then
    linesBody? quote true (afterOpening (text.drop 3))
  else if [apostrophe, apostrophe, apostrophe].isPrefixOf text then
    linesBody? apostrophe false (afterOpening (text.drop 3))
  else
    readLine? text

end SharedQueue.Toml
