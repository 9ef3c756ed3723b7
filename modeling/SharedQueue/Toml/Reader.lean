/-
SharedQueue.Toml.Reader — from the text of a document to its value.

* `readKey?` — a key: names, plain or quoted, joined by dots.
* `readValue?` — a value. Arrays and inline tables may be nested only so
  deep; the depth that is left is what the recursion runs on.
* `readEntries?` — the document as a list of entries: headers, and keys with
  their values.
* `parse?` — the document's value: the entries, put into their tables.
-/
import SharedQueue.Toml.Scalar
import SharedQueue.Toml.Tree

namespace SharedQueue.Toml

/-- What reads something at the head of a text and gives the rest. -/
abbrev Reader (α : Type) := List Char → Option (α × List Char)

/-! ## Space and comments -/

/-- The text behind the blanks at its head. -/
def skipBlanks (text : List Char) : List Char := text.dropWhile isBlank

/-- The text behind blanks, line ends and comments; `comment` tells whether
a comment is being skipped. -/
def skipTrivia (comment : Bool) : List Char → List Char
  | [] => []
  | c :: rest =>
    if comment && isPlain c then skipTrivia true rest
    else if isBlank c || c = lineFeed then skipTrivia false rest
    else if c = '#' then skipTrivia true rest
    else if c = carriageReturn then
      match rest with
      | d :: tail => if d = lineFeed then skipTrivia false tail else c :: rest
      | [] => [c]
    else c :: rest

/-- The text behind the end of the line, which may hold a comment. -/
def endLine? (text : List Char) : Option (List Char) :=
  let rest :=
    match skipBlanks text with
    | '#' :: comment => comment.dropWhile isPlain
    | rest => rest
  if rest.isEmpty then some [] else lineEnd? rest

/-! ## Keys -/

/-- The characters of plain names. -/
def isBareChar (c : Char) : Bool :=
  isDigit c || ('a' ≤ c && c ≤ 'z') || ('A' ≤ c && c ≤ 'Z') || c = '_' || c = '-'

/-- One name of a key. -/
def readName? (text : List Char) : Option (String × List Char) :=
  match text with
  | [] => none
  | c :: _ =>
    if c = quote || c = apostrophe then
      (readLine? text).map fun (name, rest) => (String.ofList name, rest)
    else if isBareChar c then
      some (String.ofList (text.takeWhile isBareChar), text.dropWhile isBareChar)
    else none

/-- The names of a key, with blanks around them. Each round takes a part of
the text. -/
def readNames? (text : List Char) : Option (List String × List Char) :=
  match readName? (skipBlanks text) with
  | none => none
  | some (name, rest) =>
    match skipBlanks rest with
    | '.' :: more =>
      if more.length < text.length then
        (readNames? more).map fun (names, rest) => (name :: names, rest)
      else none
    | rest => some ([name], rest)
termination_by text.length

/-- Brackets may be nested, and names joined, fewer times than this. -/
def nestingLimit : Nat := 80

/-- A key. -/
def readKey? (text : List Char) : Option (List String × List Char) := do
  let (names, rest) ← readNames? text
  if names.length < nestingLimit then some (names, rest) else none

/-! ## Values -/

/-- The items of an array, behind the bracket that opens it. -/
def readItems? (item : Reader Value) (text : List Char) : Option (List Value × List Char) :=
  match skipTrivia false text with
  | ']' :: rest => some ([], rest)
  | start =>
    match item start with
    | none => none
    | some (v, rest) =>
      match skipTrivia false rest with
      | ',' :: more =>
        if more.length < text.length then
          (readItems? item more).map fun (items, rest) => (v :: items, rest)
        else none
      | ']' :: rest => some ([v], rest)
      | _ => none
termination_by text.length

/-- A key and its value. -/
def readPair? (item : Reader Value) (text : List Char) :
    Option ((List String × Value) × List Char) := do
  let (key, rest) ← readKey? text
  let rest ← expect? '=' rest
  let (v, rest) ← item (skipBlanks rest)
  return ((key, v), rest)

/-- The pairs of an inline table, at least one of them. -/
def readPairs? (item : Reader Value) (text : List Char) :
    Option (List (List String × Value) × List Char) :=
  match readPair? item text with
  | none => none
  | some (pair, rest) =>
    match skipBlanks rest with
    | ',' :: more =>
      if more.length < text.length then
        (readPairs? item more).map fun (pairs, rest) => (pair :: pairs, rest)
      else none
    | '}' :: rest => some ([pair], rest)
    | _ => none
termination_by text.length

/-- The members that some pairs give to a new table. -/
def gather? (pairs : List (List String × Value)) : Option Members :=
  pairs.foldlM (fun members (path, v) => Members.addKey? .opened members path v) []

/-- An inline table, behind the brace that opens it. -/
def readInline? (item : Reader Value) (text : List Char) : Option (Value × List Char) :=
  match skipBlanks text with
  | '}' :: rest => some (.table [], rest)
  | start => do
    let (pairs, rest) ← readPairs? item start
    let members ← gather? pairs
    return (.table (finishMembers members), rest)

/-- A value, with brackets nested at most `depth` times. -/
def readValue? : (depth : Nat) → Reader Value
  | depth, text =>
    match text with
    | [] => none
    | c :: rest =>
      if c = quote || c = apostrophe then
        (readString? text).map fun (s, rest) => (.string (String.ofList s), rest)
      else
        match depth with
        | 0 => readScalar? text
        | depth + 1 =>
          if c = '[' then
            (readItems? (readValue? depth) rest).map fun (items, rest) => (.array items, rest)
          else if c = '{' then readInline? (readValue? depth) rest
          else readScalar? text

/-! ## Documents -/

/-- An entry of a document. -/
inductive Entry
  | pair (path : List String) (v : Value)
  | table (path : List String)
  | item (path : List String)

/-- An entry at the head of a text that does not begin with a blank, a line
end or a comment. -/
def readEntry? (text : List Char) : Option (Entry × List Char) :=
  match text with
  | '[' :: '[' :: rest => do
    let (path, rest) ← readKey? rest
    let rest ← expect? ']' rest
    let rest ← expect? ']' rest
    return (.item path, rest)
  | '[' :: rest => do
    let (path, rest) ← readKey? rest
    let rest ← expect? ']' rest
    return (.table path, rest)
  | _ => do
    let ((path, v), rest) ← readPair? (readValue? (nestingLimit - 1)) text
    return (.pair path v, rest)

/-- The entries of a document. Each round takes a part of the text. -/
def readEntries? (text : List Char) : Option (List Entry) :=
  match skipTrivia false text with
  | [] => some []
  | start =>
    match readEntry? start with
    | none => none
    | some (entry, rest) =>
      match endLine? rest with
      | none => none
      | some more =>
        if more.length < text.length then (readEntries? more).map (entry :: ·) else none
termination_by text.length

/-- A document being put together: its members, and the table that is being
filled. -/
structure Draft where
  members : Members
  place : List String

/-- Adds an entry. -/
def Draft.add? (d : Draft) : Entry → Option Draft
  | .pair path v => (d.members.addAt? d.place path v).map fun members => { d with members }
  | .table path => (d.members.openTable? path).map fun members => ⟨members, path⟩
  | .item path => (d.members.openItem? path).map fun members => ⟨members, path⟩

/-- A mark that some editors put in front of a text. -/
def byteOrderMark : Char := '\ufeff'

/-- The text without the mark. -/
def skipMark : List Char → List Char
  | c :: rest => if c = byteOrderMark then rest else c :: rest
  | [] => []

/-- The value of a document, which is a table. -/
def parse? (text : String) : Option Value := do
  let entries ← readEntries? (skipMark text.toList)
  let draft ← entries.foldlM (fun d e => Draft.add? d e) ⟨[], []⟩
  return .table (finishMembers draft.members)

end SharedQueue.Toml
