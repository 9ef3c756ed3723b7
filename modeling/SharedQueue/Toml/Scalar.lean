/-
SharedQueue.Toml.Scalar — values without quotes or brackets.

Such a value ends at the first character that cannot belong to one, so it
is cut out first (`takeToken`) and then recognised as a whole:

* `integer?` — decimal with an optional sign, or hexadecimal, octal or
  binary without one; underscores stand between digits only, and the value
  fits 64 signed bits.
* `float?` — a decimal integer with a fraction, an exponent or both, or one
  of the words for infinity and not-a-number. A number beyond the largest
  float is refused.
* `moment?` — a date, a time, or both, with an optional offset.
* `scalar?` — any of these, or a truth value.
-/
import SharedQueue.Toml.Text
import SharedQueue.Toml.Value

namespace SharedQueue.Toml

def isDigit (c : Char) : Bool := '0' ≤ c && c ≤ '9'

/-- The characters of values without quotes. -/
def isTokenChar (c : Char) : Bool :=
  isDigit c || ('a' ≤ c && c ≤ 'z') || ('A' ≤ c && c ≤ 'Z')
    || c = '+' || c = '-' || c = '_' || c = '.' || c = ':'

/-- The value of a digit in a base. -/
def digitValue? (base : Nat) (c : Char) : Option Nat :=
  (hexValue? c).filter (· < base)

/-! ## Integers -/

/-- Digits of a base, with single underscores between them only; gives the
digits' values. -/
def digits? (base : Nat) : List Char → Option (List Nat)
  | [] => none
  | [c] => (digitValue? base c).map ([·])
  | c :: d :: rest => do
    let v ← digitValue? base c
    if d = '_' then return v :: (← digits? base rest)
    else return v :: (← digits? base (d :: rest))

/-- The number that digits spell. -/
def ofDigits (base : Nat) (ds : List Nat) : Nat := ds.foldl (fun n d => base * n + d) 0

/-- Digits in a base, as a number. -/
def natural? (base : Nat) (text : List Char) : Option Nat := (digits? base text).map (ofDigits base)

/-- Decimal digits, of which the first is zero only if it stands alone. -/
def decimal? (text : List Char) : Option Nat :=
  match text with
  | '0' :: _ :: _ => none
  | _ => natural? 10 text

/-- A number that a document can hold. -/
def bounded? (n : Int) : Option Int :=
  if -integerMax - 1 ≤ n ∧ n ≤ integerMax then some n else none

/-- An integer. -/
def integer? (text : List Char) : Option Int :=
  match text with
  | '0' :: 'x' :: rest => (natural? 16 rest).bind fun n => bounded? n
  | '0' :: 'o' :: rest => (natural? 8 rest).bind fun n => bounded? n
  | '0' :: 'b' :: rest => (natural? 2 rest).bind fun n => bounded? n
  | '+' :: rest => (decimal? rest).bind fun n => bounded? n
  | '-' :: rest => (decimal? rest).bind fun n => bounded? (-n)
  | _ => (decimal? text).bind fun n => bounded? n

/-! ## Floats -/

/-- The text without its sign, and whether that is a minus. -/
def unsigned (text : List Char) : Bool × List Char :=
  match text with
  | '+' :: rest => (false, rest)
  | '-' :: rest => (true, rest)
  | _ => (false, text)

/-- The text up to the first character of a kind, and from it on. -/
def cut (p : Char → Bool) (text : List Char) : List Char × List Char :=
  (text.takeWhile fun c => !p c, text.dropWhile fun c => !p c)

/-- The decimal `n · 10^e` rounds to a number beyond the largest float.
The rounding bound is halfway between the largest float and the next power
of two. Far exponents need no computation. -/
def exceedsFloats (n : Nat) (e : Int) : Bool :=
  let bound := (1 <<< 1024) - (1 <<< 970)
  if n = 0 then false
  else if 400 ≤ e then true
  else if 0 ≤ e then bound ≤ n * Nat.pow 10 e.toNat
  else if Nat.log2 n ≤ 3 * e.natAbs then false
  else bound * Nat.pow 10 e.natAbs ≤ n

/-- A float. -/
def float? (text : List Char) : Option Unit :=
  let (negative, plain) := unsigned text
  if plain = ['i', 'n', 'f'] ∨ plain = ['n', 'a', 'n'] then some ()
  else do
    let (mantissa, exponentPart) := cut (fun c => c = 'e' || c = 'E') plain
    let (whole, fractionPart) := cut (· = '.') mantissa
    if fractionPart.isEmpty && exponentPart.isEmpty then none
    let _ ← decimal? whole
    let wholeDigits ← digits? 10 whole
    let fraction ← match fractionPart with
      | [] => some []
      | _ :: rest => digits? 10 rest
    let exponent ← match exponentPart with
      | [] => some (0 : Int)
      | _ :: rest =>
        let (minus, digits) := unsigned rest
        (natural? 10 digits).map fun n => if minus then -(n : Int) else n
    let significand := ofDigits 10 (wholeDigits ++ fraction)
    if !negative && exceedsFloats significand (exponent - fraction.length) then none
    else some ()

/-! ## Dates and times -/

/-- A number of exactly `count` decimal digits at the head of a text. -/
def fixed? : (count value : Nat) → List Char → Option (Nat × List Char)
  | 0, value, rest => some (value, rest)
  | _ + 1, _, [] => none
  | count + 1, value, c :: rest => do fixed? count (10 * value + (← digitValue? 10 c)) rest

/-- The given character at the head of a text. -/
def expect? (c : Char) : List Char → Option (List Char)
  | [] => none
  | d :: rest => if d = c then some rest else none

/-- The days of a month. -/
def daysOf (year month : Nat) : Nat :=
  if month = 2 then
    if year % 4 = 0 ∧ (year % 100 ≠ 0 ∨ year % 400 = 0) then 29 else 28
  else if month = 4 ∨ month = 6 ∨ month = 9 ∨ month = 11 then 30
  else 31

/-- A date at the head of a text. -/
def date? (text : List Char) : Option (List Char) := do
  let (year, text) ← fixed? 4 0 text
  let text ← expect? '-' text
  let (month, text) ← fixed? 2 0 text
  let text ← expect? '-' text
  let (day, text) ← fixed? 2 0 text
  if 1 ≤ month ∧ month ≤ 12 ∧ 1 ≤ day ∧ day ≤ daysOf year month then some text else none

/-- A time of day at the head of a text. A minute may have a leap second. -/
def time? (text : List Char) : Option (List Char) := do
  let (hour, text) ← fixed? 2 0 text
  let text ← expect? ':' text
  let (minute, text) ← fixed? 2 0 text
  let text ← expect? ':' text
  let (second, text) ← fixed? 2 0 text
  if hour ≤ 23 ∧ minute ≤ 59 ∧ second ≤ 60 then
    match text with
    | '.' :: fraction =>
      if (fraction.takeWhile isDigit).isEmpty then none else some (fraction.dropWhile isDigit)
    | _ => some text
  else none

/-- An offset from universal time, which has to end the text. -/
def offset? (text : List Char) : Option Unit :=
  match text with
  | ['Z'] | ['z'] => some ()
  | sign :: rest =>
    if sign = '+' || sign = '-' then do
      let (hour, text) ← fixed? 2 0 rest
      let text ← expect? ':' text
      let (minute, text) ← fixed? 2 0 text
      if hour ≤ 23 ∧ minute ≤ 59 ∧ text.isEmpty then some () else none
    else none
  | [] => none

/-- A date, a time of day, or both with an optional offset. -/
def moment? (text : List Char) : Option Unit :=
  match date? text with
  | some [] => some ()
  | some (mark :: rest) =>
    if mark = 'T' || mark = 't' || mark = ' ' then
      match time? rest with
      | some [] => some ()
      | some tail => offset? tail
      | none => none
    else none
  | none =>
    match time? text with
    | some [] => some ()
    | _ => none

/-! ## Any of them -/

/-- A value without quotes, given its whole text. -/
def scalar? (text : List Char) : Option Value :=
  if text = ['t', 'r', 'u', 'e'] then some (.boolean true)
  else if text = ['f', 'a', 'l', 's', 'e'] then some (.boolean false)
  else
    match integer? text with
    | some n => some (.integer n)
    | none =>
      if (float? text).isSome then some (.float (String.ofList text))
      else if (moment? text).isSome then some (.moment (String.ofList text))
      else none

/-- Cuts the text of a value off. A blank belongs to it only between a date
and a time. -/
def takeToken (text : List Char) : List Char × List Char :=
  let token := text.takeWhile isTokenChar
  let rest := text.dropWhile isTokenChar
  match date? token, rest with
  | some [], ' ' :: h1 :: h2 :: ':' :: tail =>
    if isDigit h1 && isDigit h2 then
      let time := h1 :: h2 :: ':' :: tail
      (token ++ ' ' :: time.takeWhile isTokenChar, time.dropWhile isTokenChar)
    else (token, rest)
  | _, _ => (token, rest)

/-- A value without quotes at the head of a text. -/
def readScalar? (text : List Char) : Option (Value × List Char) :=
  let (token, rest) := takeToken text
  (scalar? token).map (·, rest)

end SharedQueue.Toml
