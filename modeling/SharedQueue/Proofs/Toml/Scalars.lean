/-
SharedQueue.Proofs.Toml.Scalars — a written scalar is read back.

* `natural?_decimals`, `decimals_cut` — the decimal digits of a number spell
  it, and the first of them spell the number without its last digits.
* `readScalar?_number`, `readScalar?_truth` — numbers and truth values.
* `Scalar.value`, `Scalar.Cut` — what a written scalar says, and what a
  beginning of one can say.
* `readValue?_write`, `readValue?_cut` — they do.
-/
import Mathlib.Data.List.Induction
import Mathlib.Data.List.Infix
import SharedQueue.Proofs.Toml.Quoting
import SharedQueue.Toml.Record

namespace SharedQueue.Toml

variable {rest : List Char}

/-! ## Digits -/

/-- The digits of a number as it is written. -/
def decimals (n : Nat) : List Char := Nat.toDigits 10 n

theorem toList_toString (n : Nat) : (toString n).toList = decimals n := by
  rw [Nat.toString_eq_ofList_toDigits, String.toList_ofList, decimals]

theorem decimals_of_lt {n : Nat} (small : n < 10) : decimals n = [n.digitChar] :=
  Nat.toDigits_of_lt_base small

theorem decimals_of_le {n : Nat} (large : 10 ≤ n) :
    decimals n = decimals (n / 10) ++ [(n % 10).digitChar] :=
  Nat.toDigits_of_base_le (by decide) large

theorem decimals_ne_nil (n : Nat) : decimals n ≠ [] := Nat.toDigits_ne_nil

theorem isDigit_digitChar {d : Nat} (small : d < 10) : isDigit d.digitChar = true := by
  revert d
  decide

theorem digitValue?_digitChar {d : Nat} (small : d < 10) :
    digitValue? 10 d.digitChar = some d := by
  revert d
  decide

/-- A number is followed digit by digit. -/
theorem decimals_induction {motive : Nat → Prop} (small : ∀ n < 10, motive n)
    (large : ∀ n, 10 ≤ n → motive (n / 10) → motive n) (n : Nat) : motive n := by
  induction n using Nat.strongRecOn with
  | ind n ih =>
    by_cases few : n < 10
    · exact small n few
    · exact large n (Nat.le_of_not_lt few) (ih (n / 10) (by omega))

theorem isDigit_of_mem_decimals {n : Nat} : ∀ c ∈ decimals n, isDigit c = true := by
  induction n using decimals_induction with
  | small n few => simp [decimals_of_lt few, isDigit_digitChar few]
  | large n many ih =>
    rw [decimals_of_le many]
    intro c mem
    rcases List.mem_append.mp mem with mem | mem
    · exact ih c mem
    · rw [List.mem_singleton.mp mem]
      exact isDigit_digitChar (Nat.mod_lt n (by decide))

/-- The first digit is zero only if the number is. -/
theorem head_decimals_ne {n : Nat} (pos : 0 < n) : (decimals n).head? ≠ some '0' := by
  induction n using decimals_induction with
  | small n few =>
    rw [decimals_of_lt few, List.head?_cons]
    intro zero
    exact absurd (Nat.digitChar_eq_zero.mp (Option.some.inj zero)) (by omega)
  | large n many ih =>
    have head := ih (by omega)
    obtain ⟨c, digits, same⟩ := List.exists_cons_of_ne_nil (decimals_ne_nil (n / 10))
    rw [same] at head
    rw [decimals_of_le many, same]
    exact head

theorem digits?_append {base : Nat} {text : List Char} {ds : List Nat} {c : Char} {d : Nat}
    (read : digits? base text = some ds) (digit : digitValue? base c = some d) (mark : c ≠ '_') :
    digits? base (text ++ [c]) = some (ds ++ [d]) := by
  induction text using digits?.induct generalizing ds with
  | case1 => cases read
  | case2 e =>
    simp only [digits?, Option.map_eq_some_iff] at read
    obtain ⟨v, first, rfl⟩ := read
    simp [digits?, first, digit, mark]
  | case3 e f rest skip ih =>
    simp only [digits?, Option.bind_eq_bind, Option.bind_eq_some_iff] at read
    obtain ⟨v, first, read⟩ := read
    by_cases under : f = '_'
    · rw [if_pos under, Option.bind_eq_some_iff] at read
      obtain ⟨ds', more, same⟩ := read
      cases same
      simp [digits?, first, under, skip more]
    · rw [if_neg under, Option.bind_eq_some_iff] at read
      obtain ⟨ds', more, same⟩ := read
      cases same
      have next := ih more
      rw [List.cons_append] at next
      simp [digits?, first, under, next]

theorem natural?_append {base : Nat} {text : List Char} {n : Nat} {c : Char} {d : Nat}
    (read : natural? base text = some n) (digit : digitValue? base c = some d) (mark : c ≠ '_') :
    natural? base (text ++ [c]) = some (base * n + d) := by
  simp only [natural?, Option.map_eq_some_iff] at read
  obtain ⟨ds, digits, rfl⟩ := read
  simp [natural?, digits?_append digits digit mark, ofDigits]

/-- The digits of a number spell it. -/
theorem natural?_decimals (n : Nat) : natural? 10 (decimals n) = some n := by
  induction n using decimals_induction with
  | small n few => simp [decimals_of_lt few, natural?, digits?, digitValue?_digitChar few, ofDigits]
  | large n many ih =>
    have small : n % 10 < 10 := Nat.mod_lt n (by decide)
    have mark : (n % 10).digitChar ≠ '_' := fun same => by
      have digit := isDigit_digitChar small
      rw [same] at digit
      cases digit
    rw [decimals_of_le many, natural?_append ih (digitValue?_digitChar small) mark,
      Nat.div_add_mod]

theorem decimal?_decimals (n : Nat) : decimal? (decimals n) = some n := by
  unfold decimal?
  split
  · rename_i same
    by_cases few : n < 10
    · rw [decimals_of_lt few] at same
      simp at same
    · have head := head_decimals_ne (show 0 < n by omega)
      rw [same] at head
      simp at head
  · exact natural?_decimals n

/-- Plain digits have no sign and no base in front. -/
theorem integer?_of_digits {text : List Char} (digits : ∀ c ∈ text, isDigit c = true) :
    integer? text = (decimal? text).bind fun n => bounded? n := by
  unfold integer?
  split
  · exact absurd (digits 'x' (by simp)) (by decide)
  · exact absurd (digits 'o' (by simp)) (by decide)
  · exact absurd (digits 'b' (by simp)) (by decide)
  · exact absurd (digits '+' (by simp)) (by decide)
  · exact absurd (digits '-' (by simp)) (by decide)
  · rfl

theorem integer?_decimals {n : Nat} (fits : n ≤ integerMax) :
    integer? (decimals n) = some (n : Int) := by
  rw [integer?_of_digits isDigit_of_mem_decimals, decimal?_decimals, Option.bind_some, bounded?,
    if_pos ⟨by omega, by omega⟩]

/-- The first digits of a number are those of the number without its last
digits. -/
theorem decimals_cut {n : Nat} {p s : List Char} (same : decimals n = p ++ s) (filled : p ≠ []) :
    p = decimals (n / 10 ^ s.length) ∧ (s = [] ∨ 10 ^ s.length ≤ n) := by
  induction s using List.reverseRecOn generalizing n with
  | nil => simpa using same.symm
  | append_singleton s c ih =>
    have many : 10 ≤ n := by
      by_contra few
      have length := congrArg List.length same
      rw [decimals_of_lt (by omega)] at length
      have longer := List.length_pos_iff.mpr filled
      simp at length
      omega
    rw [decimals_of_le many, ← List.append_assoc] at same
    obtain ⟨shorter, large⟩ := ih (List.append_inj_left' same rfl)
    have power : 10 ^ (s ++ [c]).length = 10 * 10 ^ s.length := by
      rw [List.length_append, List.length_singleton, Nat.pow_succ']
    rw [power, ← Nat.div_div_eq_div_mul]
    refine ⟨shorter, .inr ?_⟩
    rcases large with rfl | large
    · simpa using many
    · rw [Nat.mul_comm]
      exact (Nat.le_div_iff_mul_le (by decide)).mp large

/-- A number without its last digits begins the number. -/
theorem decimals_within {n j : Nat} (large : j = 0 ∨ 10 ^ j ≤ n) :
    decimals (n / 10 ^ j) <+: decimals n := by
  induction j generalizing n with
  | zero => simp
  | succ j ih =>
    have power : 10 ^ (j + 1) = 10 * 10 ^ j := Nat.pow_succ'
    have many : 10 * 10 ^ j ≤ n := power ▸ large.resolve_left (Nat.succ_ne_zero j)
    have rest : 10 ^ j ≤ n / 10 := by
      rw [Nat.le_div_iff_mul_le (by decide), Nat.mul_comm]
      exact many
    have pos : 0 < 10 ^ j := Nat.pow_pos (by decide)
    rw [power, ← Nat.div_div_eq_div_mul]
    refine (ih (.inr rest)).trans ?_
    rw [decimals_of_le (n := n) (by omega)]
    exact List.prefix_append _ _

/-! ## Values without quotes -/

/-- A value without quotes ends at the end of its line. -/
theorem takeToken_append {token : List Char} (inside : ∀ c ∈ token, isTokenChar c = true)
    (ends : Ends rest) : takeToken (token ++ rest) = (token, rest) := by
  have stop : rest.takeWhile isTokenChar = [] ∧ rest.dropWhile isTokenChar = rest := by
    obtain rfl | ⟨more, rfl⟩ := ends
    · exact ⟨rfl, rfl⟩
    · exact ⟨rfl, rfl⟩
  unfold takeToken
  rw [List.takeWhile_append_of_pos inside, List.dropWhile_append_of_pos inside, stop.1, stop.2,
    List.append_nil]
  dsimp only
  obtain rfl | ⟨more, rfl⟩ := ends
  · split
    · rename_i clash
      cases clash
    · rfl
  · split
    · rename_i clash
      cases clash
    · rfl

theorem isTokenChar_of_isDigit {c : Char} (digit : isDigit c = true) : isTokenChar c = true := by
  simp [isTokenChar, digit]

theorem readScalar?_number {n : Nat} (fits : n ≤ integerMax) (ends : Ends rest) :
    readScalar? (decimals n ++ rest) = some (.integer n, rest) := by
  have inside : ∀ c ∈ decimals n, isTokenChar c = true := fun c mem =>
    isTokenChar_of_isDigit (isDigit_of_mem_decimals c mem)
  have wordless (c : Char) (word : List Char) (letter : isDigit c = false) :
      decimals n ≠ c :: word := fun same => by
    have digit := isDigit_of_mem_decimals c (same ▸ List.mem_cons_self)
    rw [letter] at digit
    cases digit
  have read : scalar? (decimals n) = some (.integer n) := by
    rw [scalar?, if_neg (wordless 't' _ rfl), if_neg (wordless 'f' _ rfl),
      integer?_decimals fits]
  simp [readScalar?, takeToken_append inside ends, read]

/-- The letters of a truth value. -/
def truthWord (b : Bool) : List Char :=
  if b then ['t', 'r', 'u', 'e'] else ['f', 'a', 'l', 's', 'e']

theorem readScalar?_truth (b : Bool) (ends : Ends rest) :
    readScalar? (truthWord b ++ rest) = some (.boolean b, rest) := by
  have inside : ∀ c ∈ truthWord b, isTokenChar c = true :=
    List.all_eq_true.mp (by cases b <;> rfl)
  have read : scalar? (truthWord b) = some (.boolean b) := by
    cases b <;> rfl
  simp [readScalar?, takeToken_append inside ends, read]

/-- The first letters of a truth value are no value. -/
theorem readScalar?_truth_cut {b : Bool} {p s : List Char} (same : truthWord b = p ++ s)
    (filled : p ≠ []) (more : s ≠ []) : readScalar? p = none := by
  have within : p <+: truthWord b := ⟨s, same.symm⟩
  have short : ∀ p ∈ (truthWord b).inits, p ≠ [] → p ≠ truthWord b → readScalar? p = none := by
    cases b <;> decide
  refine short p ((List.mem_inits p _).mpr within) filled fun whole => more ?_
  rw [whole] at same
  simpa using same

/-! ## Written scalars -/

/-- What a written scalar says. -/
def Scalar.value : Scalar → Value
  | .text s => .string s
  | .number n => .integer n
  | .truth b => .boolean b

/-- What a beginning of a written scalar can say: some text, the number
without its last digits, or the whole truth. -/
inductive Scalar.Cut : Scalar → Scalar → Prop
  | text (s s' : String) : Cut (.text s) (.text s')
  | number (n j : Nat) (large : j = 0 ∨ 10 ^ j ≤ n) : Cut (.number n) (.number (n / 10 ^ j))
  | truth (b : Bool) : Cut (.truth b) (.truth b)

theorem Scalar.Cut.refl (v : Scalar) : v.Cut v := by
  cases v with
  | text s => exact .text s s
  | number n => simpa using Scalar.Cut.number n 0 (.inl rfl)
  | truth b => exact .truth b

theorem readValue?_sign {depth : Nat} {q : Char} (sign : q = quote ∨ q = apostrophe)
    (text : List Char) : readValue? depth (q :: text) =
      (readString? (q :: text)).map fun (s, rest) => (.string (String.ofList s), rest) := by
  rw [readValue?.eq_def]
  obtain rfl | rfl := sign <;> simp

/-- A value that begins with a letter or a digit has no quotes and no brackets. -/
theorem readValue?_bare {depth : Nat} {c : Char} (bare : isBareChar c = true) (text : List Char) :
    readValue? (depth + 1) (c :: text) = readScalar? (c :: text) := by
  have other (d : Char) (unlike : isBareChar d = false) : c ≠ d := by
    rintro rfl
    rw [unlike] at bare
    cases bare
  simp [readValue?, other quote rfl, other apostrophe rfl, other '[' rfl, other '\x7b' rfl]

theorem isBareChar_of_isDigit {c : Char} (digit : isDigit c = true) : isBareChar c = true := by
  simp [isBareChar, digit]

/-- Values that begin as numbers and truth values do. -/
theorem readValue?_of_bare {depth : Nat} {text : List Char} (filled : text ≠ [])
    (bare : ∀ c ∈ text.head?, isBareChar c = true) :
    readValue? (depth + 1) text = readScalar? text := by
  obtain ⟨c, text, rfl⟩ := List.exists_cons_of_ne_nil filled
  exact readValue?_bare (bare c rfl) text

/-- A written scalar is read back. -/
theorem readValue?_write (depth : Nat) {v : Scalar} (fits : v.fits = true) (ends : Ends rest) :
    readValue? (depth + 1) (v.write ++ rest) = some (v.value, rest) := by
  cases v with
  | text s =>
    obtain ⟨q, tail, written, sign⟩ := writeString_head s.toList
    have read := (readString?_write s.toList).1 rest ends
    simp only [Scalar.write, written, List.cons_append] at read ⊢
    rw [readValue?_sign sign, read]
    simp [Scalar.value]
  | number n =>
    obtain ⟨c, tail, written⟩ := List.exists_cons_of_ne_nil (decimals_ne_nil n)
    have digit := isDigit_of_mem_decimals c (written ▸ List.mem_cons_self)
    have read := readScalar?_number (by simpa [Scalar.fits] using fits) ends (n := n)
    simp only [Scalar.write, toList_toString, written, List.cons_append] at read ⊢
    rw [readValue?_bare (isBareChar_of_isDigit digit), read]
    rfl
  | truth b =>
    have read := readScalar?_truth b ends
    cases b <;> exact (readValue?_bare rfl _).trans read

/-- A beginning of a written scalar says nothing, or one of the things that it
can say, and nothing of it is left. -/
theorem readValue?_cut (depth : Nat) {v : Scalar} (fits : v.fits = true) {p s : List Char}
    (same : v.write = p ++ s) :
    readValue? (depth + 1) p = none ∨
      ∃ v', v.Cut v' ∧ readValue? (depth + 1) p = some (v'.value, []) := by
  by_cases more : s = []
  · subst more
    rw [List.append_nil] at same
    have read := readValue?_write depth fits (.inl rfl : Ends [])
    rw [same, List.append_nil] at read
    exact .inr ⟨v, .refl v, read⟩
  by_cases empty : p = []
  · subst empty
    exact .inl (by rw [readValue?.eq_def])
  cases v with
  | text t =>
    obtain ⟨q, tail, written, sign⟩ := writeString_head t.toList
    obtain ⟨c, p, rfl⟩ := List.exists_cons_of_ne_nil empty
    obtain rfl : q = c := by
      rw [Scalar.write, written] at same
      exact (List.cons.inj same).1
    rw [readValue?_sign sign]
    cases read : readString? (q :: p) with
    | none => exact .inl rfl
    | some found =>
      obtain ⟨t', after⟩ := found
      obtain rfl := (readString?_write t.toList).2 _ s same more t' after read
      exact .inr ⟨_, .text t (String.ofList t'), rfl⟩
  | number n =>
    rw [Scalar.write, toList_toString] at same
    have bare : ∀ c ∈ p.head?, isBareChar c = true := fun c mem =>
      isBareChar_of_isDigit (isDigit_of_mem_decimals c
        (same ▸ List.mem_append_left s (List.mem_of_head? mem)))
    obtain ⟨digits, large⟩ := decimals_cut same empty
    have fits : n / 10 ^ s.length ≤ integerMax :=
      Nat.le_trans (Nat.div_le_self n _) (by simpa [Scalar.fits] using fits)
    have read := readScalar?_number fits (.inl rfl : Ends [])
    rw [← digits, List.append_nil, ← readValue?_of_bare empty bare] at read
    refine .inr ⟨_, .number n s.length ?_, read⟩
    exact large.imp (by simp_all) id
  | truth b =>
    have word : truthWord b = p ++ s := by
      rw [← same]
      cases b <;> rfl
    have bare : ∀ c ∈ p.head?, isBareChar c = true := by
      have letters : ∀ c ∈ truthWord b, isBareChar c = true :=
        List.all_eq_true.mp (by cases b <;> rfl)
      exact fun c mem => letters c (word ▸ List.mem_append_left s (List.mem_of_head? mem))
    exact .inl (by rw [readValue?_of_bare empty bare, readScalar?_truth_cut word empty more])

end SharedQueue.Toml
