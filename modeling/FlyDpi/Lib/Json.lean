import FlyDpi.Lib.Decimal

/-!
# Json — values, their text, and a reader of it

`render` writes a value without white space; how a string is escaped is a parameter, `Quoting`.
`parse` reads any text with white space between its tokens; of numbers it knows the integers, and of
the `\u` escapes those of single code units.

* `parse_render` — a rendered value is read back, its strings as the quoting leaves them.
* `not_control_render` — a rendered value has no control character, in particular no newline.
-/

namespace Lib
namespace Json

open Bytes

inductive Value
  | null
  | bool (b : Bool)
  | number (n : Int)
  | string (s : Bytes)
  | array (items : List Value)
  | object (members : List (Bytes × Value))

mutual

def Value.numbers : Value → List Int
  | .number n => [n]
  | .array items => itemNumbers items
  | .object members => memberNumbers members
  | _ => []

def itemNumbers : List Value → List Int
  | [] => []
  | v :: items => v.numbers ++ itemNumbers items

def memberNumbers : List (Bytes × Value) → List Int
  | [] => []
  | (_, v) :: members => v.numbers ++ memberNumbers members

end

/-! ## Strings -/

/-- UTF-8 of a code unit that is no surrogate. -/
def utf8 (u : Nat) : Bytes :=
  if u < 0x80 then [UInt8.ofNat u]
  else if u < 0x800 then [UInt8.ofNat (0xc0 + u / 0x40), UInt8.ofNat (0x80 + u % 0x40)]
  else
    [UInt8.ofNat (0xe0 + u / 0x1000), UInt8.ofNat (0x80 + u / 0x40 % 0x40),
      UInt8.ofNat (0x80 + u % 0x40)]

def hexDigit (c : UInt8) : Option Nat :=
  if 0x30 ≤ c ∧ c ≤ 0x39 then some (c.toNat - 0x30)
  else if 0x61 ≤ c ∧ c ≤ 0x66 then some (c.toNat - 0x57)
  else if 0x41 ≤ c ∧ c ≤ 0x46 then some (c.toNat - 0x37)
  else none

/-- The escapes of one letter. -/
def unescaped (c : UInt8) : Option UInt8 :=
  if c = 0x22 ∨ c = 0x5c ∨ c = 0x2f then some c
  else if c = 0x62 then some 0x08
  else if c = 0x66 then some 0x0c
  else if c = 0x6e then some 0x0a
  else if c = 0x72 then some 0x0d
  else if c = 0x74 then some 0x09
  else none

/-- Where the scanner is inside a string. -/
inductive Scanner
  | plain
  /-- Behind a backslash. -/
  | escape
  /-- So many hexadecimal digits of a code unit are missing besides one. -/
  | hex (missing value : Nat)
  deriving DecidableEq

/-- A byte that does not end the string: the next state and what the byte contributes. -/
def Scanner.advance : Scanner → UInt8 → Option (Scanner × Bytes)
  | .plain, c =>
      if c = 0x5c then some (.escape, [])
      else if c < 0x20 then none
      else some (.plain, [c])
  | .escape, c =>
      if c = 0x75 then some (.hex 3 0, [])
      else (unescaped c).map fun b => (.plain, [b])
  | .hex (missing + 1) value, c =>
      (hexDigit c).map fun d => (.hex missing (value * 16 + d), [])
  | .hex 0 value, c =>
      (hexDigit c).bind fun d =>
        let u := value * 16 + d
        -- half of a surrogate pair
        if 0xd800 ≤ u ∧ u < 0xe000 then none else some (.plain, utf8 u)

/-- Whether the byte is the closing quotation mark. -/
def Scanner.closes (scanner : Scanner) (c : UInt8) : Bool :=
  decide (scanner = .plain ∧ c = 0x22)

/-- A string from a state of the scanner on: its contents and what stands behind the closing mark. -/
def readString : Scanner → Bytes → Option (Bytes × Bytes)
  | _, [] => none
  | scanner, c :: rest =>
      if scanner.closes c then some ([], rest)
      else
        match scanner.advance c with
        | none => none
        | some (scanner, out) => (readString scanner rest).map fun r => (out ++ r.1, r.2)

/-- The state behind a text without a closing mark, and the contents of the text. -/
def feed : Scanner → Bytes → Option (Scanner × Bytes)
  | scanner, [] => some (scanner, [])
  | scanner, c :: rest =>
      if scanner.closes c then none
      else
        match scanner.advance c with
        | none => none
        | some (scanner, out) => (feed scanner rest).map fun r => (r.1, out ++ r.2)

theorem readString_feed {scanner scanner' : Scanner} {text out : Bytes}
    (h : feed scanner text = some (scanner', out)) (rest : Bytes) :
    readString scanner (text ++ rest) =
      (readString scanner' rest).map fun r => (out ++ r.1, r.2) := by
  induction text generalizing scanner out with
  | nil =>
      cases h
      simp
  | cons c text ih =>
      rw [feed] at h
      rw [List.cons_append, readString]
      cases hcloses : scanner.closes c with
      | true =>
          simp [hcloses] at h
      | false =>
          simp only [hcloses, Bool.false_eq_true, if_false] at h ⊢
          cases hadvance : scanner.advance c with
          | none =>
              simp [hadvance] at h
          | some next =>
              rcases next with ⟨mid, first⟩
              simp only [hadvance] at h ⊢
              rcases Option.map_eq_some_iff.1 h with ⟨⟨last, more⟩, hfeed, heq⟩
              cases heq
              rw [ih hfeed, Option.map_map]
              congr 1
              funext r
              simp

theorem feed_append {scanner : Scanner} (text more : Bytes) :
    feed scanner (text ++ more) =
      (feed scanner text).bind fun r => (feed r.1 more).map fun r' => (r'.1, r.2 ++ r'.2) := by
  induction text generalizing scanner with
  | nil =>
      cases hfeed : feed scanner more with
      | none =>
          simp [feed, hfeed]
      | some r =>
          simp [feed, hfeed]
  | cons c text ih =>
      rw [List.cons_append, feed, feed]
      split
      · rfl
      · split
        · rfl
        · rw [ih, Option.map_bind, Option.bind_map]
          congr 1
          funext r
          simp only [Function.comp_apply, Option.map_map]
          congr 1
          funext r'
          simp

/-- How a writer puts texts between quotation marks, and what a reader gets back. -/
structure Quoting where
  escape : Bytes → Bytes
  clean : Bytes → Bytes
  /-- Nothing in an escaped text ends the string, and it is read as a whole. -/
  reads : ∀ s, feed .plain (escape s) = some (.plain, clean s)

theorem Quoting.readString (q : Quoting) (s rest : Bytes) :
    readString .plain (q.escape s ++ 0x22 :: rest) = some (q.clean s, rest) := by
  rw [readString_feed (q.reads s), Json.readString]
  simp [Scanner.closes]

/-- A control character is below every mark of the syntax. -/
theorem not_le_of_control {c mark : UInt8} (h : c < 0x20) (hmark : 0x20 ≤ mark) : ¬ mark ≤ c := by
  rw [UInt8.le_iff_toNat_le] at hmark ⊢
  rw [UInt8.lt_iff_toNat_lt] at h
  omega

theorem ne_of_control {c mark : UInt8} (h : c < 0x20) (hmark : 0x20 ≤ mark) : c ≠ mark := by
  rintro rfl
  exact not_le_of_control h hmark (UInt8.le_refl c)

theorem hexDigit_of_lt {c : UInt8} (h : c < 0x20) : hexDigit c = none := by
  have hnot : ∀ low : UInt8, 0x20 ≤ low → ¬ low ≤ c := fun low => not_le_of_control h
  simp [hexDigit, hnot 0x30 (by decide), hnot 0x61 (by decide), hnot 0x41 (by decide)]

theorem unescaped_of_lt {c : UInt8} (h : c < 0x20) : unescaped c = none := by
  have hnot : ∀ mark : UInt8, 0x20 ≤ mark → c ≠ mark := fun mark => ne_of_control h
  simp [unescaped, hnot 0x22 (by decide), hnot 0x5c (by decide), hnot 0x2f (by decide),
    hnot 0x62 (by decide), hnot 0x66 (by decide), hnot 0x6e (by decide), hnot 0x72 (by decide),
    hnot 0x74 (by decide)]

theorem not_control_advance {scanner : Scanner} {c : UInt8} {r : Scanner × Bytes}
    (h : scanner.advance c = some r) : 0x20 ≤ c := by
  by_contra hlow
  have hlt : c < 0x20 := UInt8.not_le.1 hlow
  have hnot : ∀ mark : UInt8, 0x20 ≤ mark → c ≠ mark := fun mark => ne_of_control hlt
  cases scanner with
  | plain =>
      simp [Scanner.advance, hnot 0x5c (by decide), hlt] at h
  | escape =>
      simp [Scanner.advance, hnot 0x75 (by decide), unescaped_of_lt hlt] at h
  | hex missing value =>
      cases missing with
      | zero =>
          simp [Scanner.advance, hexDigit_of_lt hlt] at h
      | succ missing =>
          simp [Scanner.advance, hexDigit_of_lt hlt] at h

/-- What the scanner takes has no control character. -/
theorem not_control_feed {scanner scanner' : Scanner} {text out : Bytes}
    (h : feed scanner text = some (scanner', out)) : ∀ c ∈ text, 0x20 ≤ c := by
  induction text generalizing scanner out with
  | nil =>
      intro c hc
      cases hc
  | cons c text ih =>
      rw [feed] at h
      split at h
      · cases h
      · split at h
        · cases h
        · rename_i mid first hadvance
          rcases Option.map_eq_some_iff.1 h with ⟨⟨last, more⟩, hfeed, heq⟩
          cases heq
          intro c' hc'
          rcases List.mem_cons.1 hc' with rfl | htail
          · exact not_control_advance hadvance
          · exact ih hfeed c' htail

/-! ## Text -/

section Text

variable (q : Quoting)

def quoted (s : Bytes) : Bytes :=
  0x22 :: q.escape s ++ [0x22]

mutual

def Value.render : Value → Bytes
  | .null => [0x6e, 0x75, 0x6c, 0x6c]
  | .bool true => [0x74, 0x72, 0x75, 0x65]
  | .bool false => [0x66, 0x61, 0x6c, 0x73, 0x65]
  | .number n => Decimal.appendInt 1 n
  | .string s => quoted q s
  | .array items => 0x5b :: renderItems items ++ [0x5d]
  | .object members => 0x7b :: renderMembers members ++ [0x7d]

/-- The items, with commas between them. -/
def renderItems : List Value → Bytes
  | [] => []
  | v :: items => v.render ++ renderMoreItems items

def renderMoreItems : List Value → Bytes
  | [] => []
  | v :: items => 0x2c :: v.render ++ renderMoreItems items

def renderMembers : List (Bytes × Value) → Bytes
  | [] => []
  | (key, v) :: members => quoted q key ++ 0x3a :: v.render ++ renderMoreMembers members

def renderMoreMembers : List (Bytes × Value) → Bytes
  | [] => []
  | (key, v) :: members => 0x2c :: quoted q key ++ 0x3a :: v.render ++ renderMoreMembers members

end

mutual

/-- The value as it is read back. -/
def Value.clean : Value → Value
  | .string s => .string (q.clean s)
  | .array items => .array (cleanItems items)
  | .object members => .object (cleanMembers members)
  | v => v

def cleanItems : List Value → List Value
  | [] => []
  | v :: items => v.clean :: cleanItems items

def cleanMembers : List (Bytes × Value) → List (Bytes × Value)
  | [] => []
  | (key, v) :: members => (q.clean key, v.clean) :: cleanMembers members

end

end Text

/-! ## The reader -/

def isSpace (c : UInt8) : Bool :=
  decide (c = 0x20 ∨ c = 0x09 ∨ c = 0x0a ∨ c = 0x0d)

def skipSpace (input : Bytes) : Bytes :=
  input.dropWhile isSpace

def isDigit (c : UInt8) : Bool :=
  decide (0x30 ≤ c ∧ c ≤ 0x39)

/-- Digits without a superfluous zero in front. -/
def readDigits (input : Bytes) : Option (Nat × Bytes) :=
  let digits := input.takeWhile isDigit
  if digits = [] ∨ (digits.head? = some 0x30 ∧ digits ≠ [0x30]) then none
  else some (Decimal.value digits, input.dropWhile isDigit)

/-- Behind a mark, with white space in front of it. -/
def expect (mark : UInt8) (input : Bytes) : Option Bytes :=
  match skipSpace input with
  | [] => none
  | c :: rest => if c = mark then some rest else none

/-- Behind a word. -/
def readWord : Bytes → Bytes → Option Bytes
  | [], input => some input
  | _ :: _, [] => none
  | c :: word, d :: input => if c = d then readWord word input else none

/-- A literal or a number. -/
def readAtom (input : Bytes) : Option (Value × Bytes) :=
  match input with
  | [] => none
  | c :: rest =>
      if c = 0x6e then (readWord [0x75, 0x6c, 0x6c] rest).map fun rest => (.null, rest)
      else if c = 0x74 then (readWord [0x72, 0x75, 0x65] rest).map fun rest => (.bool true, rest)
      else if c = 0x66 then
        (readWord [0x61, 0x6c, 0x73, 0x65] rest).map fun rest => (.bool false, rest)
      else if c = 0x2d then (readDigits rest).map fun r => (.number (-(r.1 : Int)), r.2)
      else (readDigits input).map fun r => (.number r.1, r.2)

mutual

/-- A value; the first argument bounds how deep and how far the reader goes. -/
def readValue : Nat → Bytes → Option (Value × Bytes)
  | 0, _ => none
  | fuel + 1, input =>
      match skipSpace input with
      | [] => none
      | c :: rest =>
          if c = 0x22 then (readString .plain rest).map fun r => (.string r.1, r.2)
          else if c = 0x5b then
            match expect 0x5d rest with
            | some rest => some (.array [], rest)
            | none => (readItems fuel rest).map fun r => (.array r.1, r.2)
          else if c = 0x7b then
            match expect 0x7d rest with
            | some rest => some (.object [], rest)
            | none => (readMembers fuel rest).map fun r => (.object r.1, r.2)
          else readAtom (c :: rest)

/-- The items of an array behind the bracket, and the closing bracket. -/
def readItems : Nat → Bytes → Option (List Value × Bytes)
  | 0, _ => none
  | fuel + 1, input => do
      let (v, rest) ← readValue fuel input
      match expect 0x2c rest with
      | some rest => (readItems fuel rest).map fun r => (v :: r.1, r.2)
      | none => (expect 0x5d rest).map fun rest => ([v], rest)

/-- The members of an object behind the brace, and the closing brace. -/
def readMembers : Nat → Bytes → Option (List (Bytes × Value) × Bytes)
  | 0, _ => none
  | fuel + 1, input => do
      let rest ← expect 0x22 input
      let (key, rest) ← readString .plain rest
      let rest ← expect 0x3a rest
      let (v, rest) ← readValue fuel rest
      match expect 0x2c rest with
      | some rest => (readMembers fuel rest).map fun r => ((key, v) :: r.1, r.2)
      | none => (expect 0x7d rest).map fun rest => ([(key, v)], rest)

end

/-- A text that is one value. -/
def parse (text : Bytes) : Option Value :=
  match readValue (text.length + 1) text with
  | some (v, rest) => if skipSpace rest = [] then some v else none
  | none => none

/-! ## Steps of the reader -/

theorem skipSpace_cons {c : UInt8} (h : isSpace c = false) (rest : Bytes) :
    skipSpace (c :: rest) = c :: rest := by
  simp [skipSpace, h]

theorem expect_self {c : UInt8} (h : isSpace c = false) (rest : Bytes) :
    expect c (c :: rest) = some rest := by
  simp [expect, skipSpace_cons h]

theorem expect_ne {c mark : UInt8} (h : isSpace c = false) (hne : c ≠ mark) (rest : Bytes) :
    expect mark (c :: rest) = none := by
  simp [expect, skipSpace_cons h, hne]

theorem readValue_string (q : Quoting) (s rest : Bytes) (fuel : Nat) :
    readValue (fuel + 1) (quoted q s ++ rest) = some (.string (q.clean s), rest) := by
  have hquoted : quoted q s ++ rest = 0x22 :: (q.escape s ++ 0x22 :: rest) := by
    simp [quoted]
  rw [hquoted, readValue, skipSpace_cons (by decide)]
  simp [q.readString]

/-! ### Numbers -/

theorem isDigit_of_mem {n : Nat} {c : UInt8} (h : c ∈ Decimal.zeroPadded 1 n) :
    isDigit c = true := by
  rcases List.mem_map.1 h with ⟨d, hd, rfl⟩
  have hlt : d < 10 := Nat.lt_of_mem_digitsAppend (by decide) 1 d (List.mem_reverse.1 hd)
  interval_cases d <;> decide

/-- No digit follows. -/
def NoDigit (rest : Bytes) : Prop :=
  ∀ c ∈ rest.head?, isDigit c = false

theorem noDigit_nil : NoDigit [] := nofun

theorem noDigit_cons {c : UInt8} (h : isDigit c = false) (rest : Bytes) : NoDigit (c :: rest) := by
  intro c' hc'
  cases hc'
  exact h

theorem takeWhile_of_noDigit {rest : Bytes} (h : NoDigit rest) :
    rest.takeWhile isDigit = [] ∧ rest.dropWhile isDigit = rest := by
  cases rest with
  | nil =>
      exact ⟨rfl, rfl⟩
  | cons c rest =>
      have hc : isDigit c = false := h c rfl
      simp [hc]

theorem zeroPadded_zero : Decimal.zeroPadded 1 0 = [0x30] := by
  decide +kernel

/-- Only zero starts with a zero. -/
theorem head_zeroPadded {n : Nat} (h : (Decimal.zeroPadded 1 n).head? = some 0x30) : n = 0 := by
  by_contra hn
  have hne : Nat.digits 10 n ≠ [] := mt Nat.digits_eq_nil_iff_eq_zero.1 hn
  have hpos : 0 < (Nat.digits 10 n).length := List.length_pos_iff.2 hne
  have hdigits : Nat.digitsAppend 10 1 n = Nat.digits 10 n := by
    have hzero : 1 - (Nat.digits 10 n).length = 0 := by
      omega
    simp [Nat.digitsAppend, hzero]
  rw [Decimal.zeroPadded, hdigits, List.head?_map, List.head?_reverse,
    List.getLast?_eq_some_getLast hne] at h
  have hlast := Nat.getLast_digit_ne_zero 10 hn
  have hlt : (Nat.digits 10 n).getLast hne < 10 :=
    Nat.digits_lt_base (by decide) (List.getLast_mem hne)
  have hzero : 0x30 + UInt8.ofNat ((Nat.digits 10 n).getLast hne) = 0x30 := Option.some.inj h
  have hdigit := Decimal.toNat_digit hlt
  rw [hzero] at hdigit
  exact hlast hdigit.symm

theorem readDigits_zeroPadded (n : Nat) {rest : Bytes} (h : NoDigit rest) :
    readDigits (Decimal.zeroPadded 1 n ++ rest) = some (n, rest) := by
  rcases takeWhile_of_noDigit h with ⟨htake, hdrop⟩
  have hall : ∀ c ∈ Decimal.zeroPadded 1 n, isDigit c = true := fun c hc => isDigit_of_mem hc
  have hne : Decimal.zeroPadded 1 n ≠ [] := by
    intro hnil
    have hvalue := Decimal.value_zeroPadded 1 n
    rw [hnil] at hvalue
    have hzero : n = 0 := hvalue.symm
    rw [hzero, zeroPadded_zero] at hnil
    cases hnil
  have hzero : ¬ ((Decimal.zeroPadded 1 n).head? = some 0x30 ∧ Decimal.zeroPadded 1 n ≠ [0x30]) := by
    rintro ⟨hhead, hmore⟩
    rw [head_zeroPadded hhead] at hmore
    exact hmore zeroPadded_zero
  rw [readDigits, List.takeWhile_append_of_pos hall, List.dropWhile_append_of_pos hall, htake, hdrop,
    List.append_nil]
  rw [if_neg (not_or.2 ⟨hne, hzero⟩), Decimal.value_zeroPadded]

/-! ### What is rendered is read -/

section Render

variable (q : Quoting)

/-- The first byte of a value is part of it and closes nothing. -/
structure Opens (c : UInt8) : Prop where
  notSpace : isSpace c = false
  notComma : c ≠ 0x2c
  notBracket : c ≠ 0x5d
  notBrace : c ≠ 0x7d

theorem opens_of_digit {c : UInt8} (h : isDigit c = true) : Opens c := by
  have hrange : 0x30 ≤ c ∧ c ≤ 0x39 := by
    simpa [isDigit] using h
  rw [UInt8.le_iff_toNat_le, UInt8.le_iff_toNat_le] at hrange
  have hne : ∀ mark : UInt8, ¬ (0x30 ≤ mark.toNat ∧ mark.toNat ≤ 0x39) → c ≠ mark := by
    rintro mark hmark rfl
    exact hmark hrange
  refine ⟨?_, hne _ (by decide), hne _ (by decide), hne _ (by decide)⟩
  simp [isSpace, hne 0x20 (by decide), hne 0x09 (by decide), hne 0x0a (by decide),
    hne 0x0d (by decide)]

theorem appendInt_one_negSucc (n : Nat) :
    Decimal.appendInt 1 (Int.negSucc n) = 0x2d :: Decimal.zeroPadded 1 (n + 1) :=
  if_pos (Int.negSucc_lt_zero n)

theorem zeroPadded_eq_cons (n : Nat) :
    ∃ c tail, Decimal.zeroPadded 1 n = c :: tail ∧ isDigit c = true := by
  cases hdigits : Decimal.zeroPadded 1 n with
  | nil =>
      have hread := readDigits_zeroPadded n noDigit_nil
      rw [hdigits] at hread
      cases hread
  | cons c tail =>
      exact ⟨c, tail, rfl, isDigit_of_mem (n := n) (by simp [hdigits])⟩

theorem render_eq_cons (v : Value) : ∃ c tail, v.render q = c :: tail ∧ Opens c := by
  cases v with
  | null =>
      exact ⟨0x6e, _, by rw [Value.render], by decide, by decide, by decide, by decide⟩
  | bool b =>
      cases b with
      | true =>
          exact ⟨0x74, _, by rw [Value.render], by decide, by decide, by decide, by decide⟩
      | false =>
          exact ⟨0x66, _, by rw [Value.render], by decide, by decide, by decide, by decide⟩
  | number n =>
      cases n with
      | ofNat n =>
          rcases zeroPadded_eq_cons n with ⟨c, tail, htext, hdigit⟩
          exact ⟨c, tail, by rw [Value.render, ← htext]; rfl, opens_of_digit hdigit⟩
      | negSucc n =>
          exact ⟨0x2d, _, by rw [Value.render, appendInt_one_negSucc], by decide, by decide,
            by decide, by decide⟩
  | string s =>
      exact ⟨0x22, _, by rw [Value.render, quoted]; rfl, by decide, by decide, by decide, by decide⟩
  | array items =>
      exact ⟨0x5b, _, by rw [Value.render]; rfl, by decide, by decide, by decide, by decide⟩
  | object members =>
      exact ⟨0x7b, _, by rw [Value.render]; rfl, by decide, by decide, by decide, by decide⟩

theorem readAtom_appendInt (n : Int) {rest : Bytes} (h : NoDigit rest) :
    readAtom (Decimal.appendInt 1 n ++ rest) = some (.number n, rest) := by
  cases n with
  | ofNat n =>
      rcases zeroPadded_eq_cons n with ⟨c, tail, htext, hdigit⟩
      have hread := readDigits_zeroPadded n h
      have hne : ∀ mark : UInt8, isDigit mark = false → c ≠ mark := by
        rintro mark hmark rfl
        rw [hdigit] at hmark
        cases hmark
      have happend : Decimal.appendInt 1 (Int.ofNat n) = c :: tail := htext
      rw [htext] at hread
      rw [happend, List.cons_append] at *
      rw [readAtom, if_neg (hne _ (by decide)), if_neg (hne _ (by decide)),
        if_neg (hne _ (by decide)), if_neg (hne _ (by decide)), hread]
      rfl
  | negSucc n =>
      rw [appendInt_one_negSucc, List.cons_append, readAtom, if_neg (by decide), if_neg (by decide),
        if_neg (by decide), if_pos rfl, readDigits_zeroPadded _ h]
      rfl

theorem noDigit_renderMoreItems (items : List Value) (rest : Bytes) :
    NoDigit (renderMoreItems q items ++ 0x5d :: rest) := by
  cases items with
  | nil =>
      rw [renderMoreItems]
      exact noDigit_cons (by decide) rest
  | cons v items =>
      rw [renderMoreItems]
      exact noDigit_cons (by decide) _

theorem noDigit_renderMoreMembers (members : List (Bytes × Value)) (rest : Bytes) :
    NoDigit (renderMoreMembers q members ++ 0x7d :: rest) := by
  cases members with
  | nil =>
      rw [renderMoreMembers]
      exact noDigit_cons (by decide) rest
  | cons member members =>
      rw [renderMoreMembers]
      exact noDigit_cons (by decide) _

theorem renderMoreItems_cons (v : Value) (items : List Value) :
    renderMoreItems q (v :: items) = 0x2c :: renderItems q (v :: items) := by
  rw [renderMoreItems, renderItems]
  rfl

theorem renderMoreMembers_cons (member : Bytes × Value) (members : List (Bytes × Value)) :
    renderMoreMembers q (member :: members) = 0x2c :: renderMembers q (member :: members) := by
  rw [renderMoreMembers, renderMembers]
  rfl

theorem readString_quoted (s rest : Bytes) :
    quoted q s ++ rest = 0x22 :: (q.escape s ++ 0x22 :: rest) := by
  simp [quoted]

/-- A value that neither is a string nor opens a bracket is left to `readAtom`. -/
theorem readValue_atom {c : UInt8} {rest : Bytes} (fuel : Nat) (hspace : isSpace c = false)
    (hquote : c ≠ 0x22) (hbracket : c ≠ 0x5b) (hbrace : c ≠ 0x7b) :
    readValue (fuel + 1) (c :: rest) = readAtom (c :: rest) := by
  rw [readValue, skipSpace_cons hspace]
  simp [hquote, hbracket, hbrace]

theorem readValue_number (n : Int) {rest : Bytes} (fuel : Nat) (h : NoDigit rest) :
    readValue (fuel + 1) (Decimal.appendInt 1 n ++ rest) = some (.number n, rest) := by
  rw [← readAtom_appendInt n h]
  cases n with
  | ofNat n =>
      rcases zeroPadded_eq_cons n with ⟨c, tail, htext, hdigit⟩
      have happend : Decimal.appendInt 1 (Int.ofNat n) = c :: tail := htext
      have hne : ∀ mark : UInt8, isDigit mark = false → c ≠ mark := by
        rintro mark hmark rfl
        rw [hdigit] at hmark
        cases hmark
      rw [happend]
      exact readValue_atom fuel (opens_of_digit hdigit).notSpace (hne _ (by decide))
        (hne _ (by decide)) (hne _ (by decide))
  | negSucc n =>
      rw [appendInt_one_negSucc]
      exact readValue_atom fuel (by decide) (by decide) (by decide) (by decide)

mutual

theorem readValue_render : ∀ (v : Value) (fuel : Nat) {rest : Bytes},
    (v.render q).length ≤ fuel → NoDigit rest →
      readValue fuel (v.render q ++ rest) = some (v.clean q, rest)
  | v, 0, rest, hfuel, _ => by
      rcases render_eq_cons q v with ⟨c, tail, htext, _⟩
      rw [htext] at hfuel
      simp at hfuel
  | .null, fuel + 1, rest, _, _ => by
      rw [Value.render, Value.clean]
      · exact readValue_atom fuel (by decide) (by decide) (by decide) (by decide)
      all_goals nofun
  | .bool true, fuel + 1, rest, _, _ => by
      rw [Value.render, Value.clean]
      · exact readValue_atom fuel (by decide) (by decide) (by decide) (by decide)
      all_goals nofun
  | .bool false, fuel + 1, rest, _, _ => by
      rw [Value.render, Value.clean]
      · exact readValue_atom fuel (by decide) (by decide) (by decide) (by decide)
      all_goals nofun
  | .number n, fuel + 1, rest, _, hrest => by
      rw [Value.render, Value.clean]
      · exact readValue_number n fuel hrest
      all_goals nofun
  | .string s, fuel + 1, rest, _, _ => by
      rw [Value.render, Value.clean]
      exact readValue_string q s rest fuel
  | .array [], fuel + 1, rest, _, _ => by
      rw [Value.render, Value.clean, renderItems, cleanItems, readValue]
      rfl
  | .array (v :: items), fuel + 1, rest, hfuel, _ => by
      have hlength : (renderItems q (v :: items)).length + 1 ≤ fuel := by
        rw [Value.render] at hfuel
        simpa using hfuel
      have hread : readItems fuel (renderItems q (v :: items) ++ 0x5d :: rest) = some _ :=
        readItems_render (v :: items) fuel nofun hlength
      rcases render_eq_cons q v with ⟨c, tail, htext, hopens⟩
      have hcons : renderItems q (v :: items) = c :: (tail ++ renderMoreItems q items) := by
        rw [renderItems, htext]
        rfl
      rw [Value.render, Value.clean]
      simp only [List.cons_append, List.append_assoc, List.nil_append]
      rw [readValue, skipSpace_cons (by decide), hcons, List.cons_append]
      simp only [expect_ne hopens.notSpace hopens.notBracket]
      rw [hcons, List.cons_append] at hread
      simpa using hread
  | .object [], fuel + 1, rest, _, _ => by
      rw [Value.render, Value.clean, renderMembers, cleanMembers, readValue]
      rfl
  | .object (member :: members), fuel + 1, rest, hfuel, _ => by
      have hlength : (renderMembers q (member :: members)).length + 1 ≤ fuel := by
        rw [Value.render] at hfuel
        simpa using hfuel
      have hread : readMembers fuel (renderMembers q (member :: members) ++ 0x7d :: rest) = some _ :=
        readMembers_render (member :: members) fuel nofun hlength
      have hcons : ∃ tail, renderMembers q (member :: members) = 0x22 :: tail := by
        rw [renderMembers]
        exact ⟨_, rfl⟩
      rcases hcons with ⟨tail, hcons⟩
      rw [Value.render, Value.clean]
      simp only [List.cons_append, List.append_assoc, List.nil_append]
      rw [readValue, skipSpace_cons (by decide), hcons, List.cons_append]
      simp only [@expect_ne 0x22 0x7d (by decide) (by decide)]
      rw [hcons, List.cons_append] at hread
      simpa using hread

/-- The items behind the bracket. -/
theorem readItems_render : ∀ (items : List Value) (fuel : Nat) {rest : Bytes}, items ≠ [] →
    (renderItems q items).length + 1 ≤ fuel →
      readItems fuel (renderItems q items ++ 0x5d :: rest) = some (cleanItems q items, rest)
  | [], _, _, hne, _ => absurd rfl hne
  | _ :: _, 0, _, _, hfuel => by
      omega
  | v :: items, fuel + 1, rest, _, hfuel => by
      rw [renderItems, List.length_append] at hfuel
      have hvalue := readValue_render v fuel (by omega) (noDigit_renderMoreItems q items rest)
      rw [renderItems, List.append_assoc, readItems, hvalue]
      cases items with
      | nil =>
          rw [renderMoreItems, cleanItems, cleanItems]
          simp only [Option.bind_eq_bind, Option.bind_some, List.nil_append]
          rw [expect_ne (by decide) (by decide), expect_self (by decide)]
          rfl
      | cons w items =>
          rw [renderMoreItems_cons, List.length_cons] at hfuel
          have hmore : readItems fuel (renderItems q (w :: items) ++ 0x5d :: rest) = some _ :=
            readItems_render (w :: items) fuel nofun (by omega)
          rw [renderMoreItems_cons, List.cons_append]
          simp only [Option.bind_eq_bind, Option.bind_some]
          rw [expect_self (by decide)]
          simp only [hmore]
          rw [cleanItems.eq_2 q v]
          rfl

/-- The members behind the brace. -/
theorem readMembers_render : ∀ (members : List (Bytes × Value)) (fuel : Nat) {rest : Bytes},
    members ≠ [] → (renderMembers q members).length + 1 ≤ fuel →
      readMembers fuel (renderMembers q members ++ 0x7d :: rest) =
        some (cleanMembers q members, rest)
  | [], _, _, hne, _ => absurd rfl hne
  | _ :: _, 0, _, _, hfuel => by
      omega
  | (key, v) :: members, fuel + 1, rest, _, hfuel => by
      have hkey : renderMembers q ((key, v) :: members) ++ 0x7d :: rest =
          0x22 :: (q.escape key ++ 0x22 :: (0x3a :: (v.render q ++
            (renderMoreMembers q members ++ 0x7d :: rest)))) := by
        rw [renderMembers, quoted]
        simp
      rw [renderMembers] at hfuel
      simp only [List.length_append, List.length_cons] at hfuel
      have hvalue := readValue_render v fuel (by omega) (noDigit_renderMoreMembers q members rest)
      rw [hkey, readMembers, expect_self (by decide)]
      simp only [Option.bind_eq_bind, Option.bind_some, q.readString]
      rw [expect_self (by decide)]
      simp only [Option.bind_some, hvalue]
      cases members with
      | nil =>
          rw [renderMoreMembers, cleanMembers, cleanMembers, List.nil_append,
            expect_ne (by decide) (by decide), expect_self (by decide)]
          rfl
      | cons member members =>
          rw [renderMoreMembers_cons, List.length_cons] at hfuel
          have hmore : readMembers fuel (renderMembers q (member :: members) ++ 0x7d :: rest) =
              some _ :=
            readMembers_render (member :: members) fuel nofun (by omega)
          rw [renderMoreMembers_cons, List.cons_append, expect_self (by decide)]
          simp only [hmore]
          rw [cleanMembers.eq_2 q]
          rfl

end

theorem readValue_render_self (v : Value) {fuel : Nat} (h : (v.render q).length ≤ fuel) :
    readValue fuel (v.render q) = some (v.clean q, []) := by
  have hread := readValue_render q v fuel h noDigit_nil
  rwa [List.append_nil] at hread

theorem parse_render (v : Value) : parse (v.render q) = some (v.clean q) := by
  rw [parse, readValue_render_self q v (Nat.le_succ _)]
  rfl

end Render

/-! ## No control characters -/

section Control

variable (q : Quoting)

theorem not_control_of_all {text : Bytes} (h : (text.all fun c => 0x20 ≤ c) = true) :
    ∀ c ∈ text, 0x20 ≤ c := by
  simpa using h

theorem not_control_quoted (s : Bytes) : ∀ c ∈ quoted q s, 0x20 ≤ c := by
  have hescape := not_control_feed (q.reads s)
  simp only [quoted, List.cons_append, List.forall_mem_cons, List.forall_mem_append]
  exact ⟨by decide, hescape, by decide, nofun⟩

theorem not_control_number (n : Int) : ∀ c ∈ Decimal.appendInt 1 n, 0x20 ≤ c := by
  have hdigits : ∀ (n : Nat), ∀ c ∈ Decimal.zeroPadded 1 n, 0x20 ≤ c := by
    intro n c hc
    have hrange : 0x30 ≤ c ∧ c ≤ 0x39 := by
      simpa [isDigit] using isDigit_of_mem hc
    exact UInt8.le_trans (by decide) hrange.1
  cases n with
  | ofNat n =>
      exact hdigits n
  | negSucc n =>
      rw [appendInt_one_negSucc, List.forall_mem_cons]
      exact ⟨by decide, hdigits (n + 1)⟩

mutual

theorem not_control_render : ∀ v : Value, ∀ c ∈ v.render q, 0x20 ≤ c
  | .null => by
      rw [Value.render]
      exact not_control_of_all (by decide)
  | .bool true => by
      rw [Value.render]
      exact not_control_of_all (by decide)
  | .bool false => by
      rw [Value.render]
      exact not_control_of_all (by decide)
  | .number n => by
      rw [Value.render]
      exact not_control_number n
  | .string s => by
      rw [Value.render]
      exact not_control_quoted q s
  | .array items => by
      rw [Value.render, List.cons_append, List.forall_mem_cons, List.forall_mem_append]
      exact ⟨by decide, not_control_renderItems items, not_control_of_all (by decide)⟩
  | .object members => by
      rw [Value.render, List.cons_append, List.forall_mem_cons, List.forall_mem_append]
      exact ⟨by decide, not_control_renderMembers members, not_control_of_all (by decide)⟩

theorem not_control_renderItems : ∀ items : List Value, ∀ c ∈ renderItems q items, 0x20 ≤ c
  | [] => by
      rw [renderItems]
      nofun
  | v :: items => by
      rw [renderItems, List.forall_mem_append]
      exact ⟨not_control_render v, not_control_renderMoreItems items⟩

theorem not_control_renderMoreItems : ∀ items : List Value,
    ∀ c ∈ renderMoreItems q items, 0x20 ≤ c
  | [] => by
      rw [renderMoreItems]
      nofun
  | v :: items => by
      rw [renderMoreItems, List.cons_append, List.forall_mem_cons, List.forall_mem_append]
      exact ⟨by decide, not_control_render v, not_control_renderMoreItems items⟩

theorem not_control_renderMembers : ∀ members : List (Bytes × Value),
    ∀ c ∈ renderMembers q members, 0x20 ≤ c
  | [] => by
      rw [renderMembers]
      nofun
  | (key, v) :: members => by
      rw [renderMembers]
      simp only [List.append_assoc, List.cons_append, List.forall_mem_cons, List.forall_mem_append]
      exact ⟨not_control_quoted q key, by decide, not_control_render v,
        not_control_renderMoreMembers members⟩

theorem not_control_renderMoreMembers : ∀ members : List (Bytes × Value),
    ∀ c ∈ renderMoreMembers q members, 0x20 ≤ c
  | [] => by
      rw [renderMoreMembers]
      nofun
  | (key, v) :: members => by
      rw [renderMoreMembers]
      simp only [List.append_assoc, List.cons_append, List.forall_mem_cons, List.forall_mem_append]
      exact ⟨by decide, not_control_quoted q key, by decide, not_control_render v,
        not_control_renderMoreMembers members⟩

end

end Control

end Json
end Lib
