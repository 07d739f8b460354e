import FlyDpi.Lib.Json

/-!
# JsonCut — texts that are cut off and continued by something else

What is left of a text that was cut off somewhere, with texts of other values behind it, is read as
no value: a bracket stays open, or a string ends in the middle of another text.

* `Foreign.parse_cut` — a rendered object that is cut off, and foreign text behind it.
* `foreign_render`, `Foreign.cut` — what is foreign: a rendered object, and a cut one before it.
-/

namespace Lib
namespace Json

open Bytes

/-! ## More fuel changes nothing -/

theorem fuel_succ (fuel : Nat) :
    (∀ x r, readValue fuel x = some r → readValue (fuel + 1) x = some r) ∧
    (∀ x r, readItems fuel x = some r → readItems (fuel + 1) x = some r) ∧
    ∀ x r, readMembers fuel x = some r → readMembers (fuel + 1) x = some r := by
  induction fuel with
  | zero =>
      simp [readValue, readItems, readMembers]
  | succ fuel ih =>
      rcases ih with ⟨hvalue, hitems, hmembers⟩
      refine ⟨fun x r h => ?_, fun x r h => ?_, fun x r h => ?_⟩
      · rw [readValue] at h ⊢
        cases hskip : skipSpace x with
        | nil =>
            simp [hskip] at h
        | cons c rest =>
            simp only [hskip] at h ⊢
            split
            · rwa [if_pos ‹_›] at h
            · rw [if_neg ‹_›] at h
              split
              · rw [if_pos ‹_›] at h
                cases hexpect : expect 0x5d rest with
                | some rest' =>
                    simpa only [hexpect] using h
                | none =>
                    simp only [hexpect] at h ⊢
                    rcases Option.map_eq_some_iff.1 h with ⟨s, hread, hs⟩
                    exact Option.map_eq_some_iff.2 ⟨s, hitems _ _ hread, hs⟩
              · rw [if_neg ‹_›] at h
                split
                · rw [if_pos ‹_›] at h
                  cases hexpect : expect 0x7d rest with
                  | some rest' =>
                      simpa only [hexpect] using h
                  | none =>
                      simp only [hexpect] at h ⊢
                      rcases Option.map_eq_some_iff.1 h with ⟨s, hread, hs⟩
                      exact Option.map_eq_some_iff.2 ⟨s, hmembers _ _ hread, hs⟩
                · rwa [if_neg ‹_›] at h
      · rw [readItems] at h ⊢
        simp only [Option.bind_eq_bind, Option.bind_eq_some_iff] at h ⊢
        rcases h with ⟨⟨v, rest⟩, hread, h⟩
        refine ⟨(v, rest), hvalue _ _ hread, ?_⟩
        cases hexpect : expect 0x2c rest with
        | none =>
            simpa only [hexpect] using h
        | some rest' =>
            simp only [hexpect] at h ⊢
            rcases Option.map_eq_some_iff.1 h with ⟨s, hmore, hs⟩
            exact Option.map_eq_some_iff.2 ⟨s, hitems _ _ hmore, hs⟩
      · rw [readMembers] at h ⊢
        simp only [Option.bind_eq_bind, Option.bind_eq_some_iff] at h ⊢
        rcases h with ⟨rest, hquote, ⟨key, rest'⟩, hkey, rest'', hcolon, ⟨v, last⟩, hread, h⟩
        refine ⟨rest, hquote, (key, rest'), hkey, rest'', hcolon, (v, last), hvalue _ _ hread, ?_⟩
        cases hexpect : expect 0x2c last with
        | none =>
            simpa only [hexpect] using h
        | some more =>
            simp only [hexpect] at h ⊢
            rcases Option.map_eq_some_iff.1 h with ⟨s, hmore, hs⟩
            exact Option.map_eq_some_iff.2 ⟨s, hmembers _ _ hmore, hs⟩

theorem readValue_mono {fuel fuel' : Nat} {x : Bytes} {r : Value × Bytes} (hle : fuel ≤ fuel')
    (h : readValue fuel x = some r) : readValue fuel' x = some r := by
  induction hle with
  | refl =>
      exact h
  | step _ ih =>
      exact (fuel_succ _).1 _ _ ih

/-- What is read of a rendered value, if anything is. -/
theorem eq_of_readValue_render (q : Quoting) {v : Value} {fuel : Nat} {rest : Bytes}
    {r : Value × Bytes} (hrest : NoDigit rest) (h : readValue fuel (v.render q ++ rest) = some r) :
    r = (v.clean q, rest) := by
  have hall := readValue_mono (Nat.le_add_right fuel (v.render q).length) h
  rw [readValue_render q v _ (Nat.le_add_left _ _) hrest] at hall
  exact (Option.some.inj hall).symm

/-! ## What continues no value -/

/-- The next byte that is no white space neither continues an array or an object nor ends it. -/
def Blocked (rest : Bytes) : Prop :=
  ∀ c ∈ (skipSpace rest).head?, c ≠ 0x2c ∧ c ≠ 0x3a ∧ c ≠ 0x5d ∧ c ≠ 0x7d

theorem blocked_nil : Blocked [] := nofun

theorem blocked_cons {c : UInt8} (hspace : isSpace c = false)
    (h : c ≠ 0x2c ∧ c ≠ 0x3a ∧ c ≠ 0x5d ∧ c ≠ 0x7d) (rest : Bytes) : Blocked (c :: rest) := by
  intro d hd
  rw [skipSpace_cons hspace] at hd
  cases hd
  exact h

theorem Blocked.expect {rest : Bytes} (h : Blocked rest) {mark : UInt8}
    (hmark : mark = 0x2c ∨ mark = 0x3a ∨ mark = 0x5d ∨ mark = 0x7d) : expect mark rest = none := by
  rw [Json.expect]
  cases hskip : skipSpace rest with
  | nil =>
      rfl
  | cons c more =>
      rcases h c (by simp [hskip]) with ⟨hcomma, hcolon, hbracket, hbrace⟩
      have hne : c ≠ mark := by
        rintro rfl
        rcases hmark with hmark | hmark | hmark | hmark
        · exact hcomma hmark
        · exact hcolon hmark
        · exact hbracket hmark
        · exact hbrace hmark
      simp [hne]

/-- A text that makes no sense as the rest of a value that was cut off. -/
structure Foreign (t : Bytes) : Prop where
  brace : ∃ t', t = 0x7b :: t'
  /-- Where a value is missing: what is read in its place is the wrong one. -/
  value : ∀ fuel r, readValue fuel t = some r → Blocked r.2
  /-- Inside a string: it ends too early. -/
  string : ∀ r, readString .plain t = some r → Blocked r.2

theorem Foreign.blocked {t : Bytes} (h : Foreign t) : Blocked t := by
  rcases h.brace with ⟨t', rfl⟩
  exact blocked_cons (by decide) (by decide) t'

theorem Foreign.noDigit {t : Bytes} (h : Foreign t) : NoDigit t := by
  rcases h.brace with ⟨t', rfl⟩
  exact noDigit_cons (by decide) t'

/-! ## Cutting the parts of a text -/

section Cut

variable {t : Bytes}

/-- A text that is cut in two parts is cut in the first one, or behind it. -/
theorem cut_append {p a b : Bytes} (h : p <+: a ++ b) :
    p <+: a ∨ ∃ p', p = a ++ p' ∧ p' <+: b := by
  rcases List.prefix_or_prefix_of_prefix h (List.prefix_append a b) with hleft | hright
  · exact .inl hleft
  · rcases hright with ⟨p', rfl⟩
    exact .inr ⟨p', rfl, (List.prefix_append_right_inj a).1 h⟩

theorem blocked_readWord (ht : Foreign t) {word p rest : Bytes} (hword : 0x7b ∉ word)
    (hp : p <+: word) (h : readWord word (p ++ t) = some rest) : Blocked rest := by
  induction word generalizing p with
  | nil =>
      rw [List.prefix_nil.1 hp] at h
      cases h
      exact ht.blocked
  | cons c word ih =>
      rw [List.mem_cons, not_or] at hword
      rcases List.prefix_cons_iff.1 hp with rfl | ⟨p', rfl, hp'⟩
      · rcases ht.brace with ⟨t', rfl⟩
        simp [readWord, Ne.symm hword.1] at h
      · rw [List.cons_append, readWord, if_pos rfl] at h
        exact ih hword.2 hp' h

theorem blocked_readDigits (ht : Foreign t) {p : Bytes} {r : Nat × Bytes}
    (hp : ∀ c ∈ p, isDigit c = true) (h : readDigits (p ++ t) = some r) : Blocked r.2 := by
  rcases takeWhile_of_noDigit ht.noDigit with ⟨_, hdrop⟩
  rw [readDigits, List.dropWhile_append_of_pos hp, hdrop] at h
  split at h
  · cases h
  · cases h
    exact ht.blocked

/-- An escape is cut by the brace, and a string goes on until the next quotation mark. -/
theorem blocked_readString (q : Quoting) (ht : Foreign t) {s p : Bytes} {r : Bytes × Bytes}
    (hp : p <+: q.escape s) (h : readString .plain (p ++ t) = some r) : Blocked r.2 := by
  rcases hp with ⟨more, hmore⟩
  have hfeed := q.reads s
  rw [← hmore, feed_append] at hfeed
  rcases Option.bind_eq_some_iff.1 hfeed with ⟨⟨scanner, out⟩, hcut, _⟩
  rw [readString_feed hcut] at h
  rcases Option.map_eq_some_iff.1 h with ⟨r', hread, rfl⟩
  cases scanner with
  | plain =>
      exact ht.string r' hread
  | escape =>
      rcases ht.brace with ⟨t', rfl⟩
      rw [readString] at hread
      simp [Scanner.closes, Scanner.advance, show unescaped 0x7b = none by decide] at hread
  | hex missing value =>
      rcases ht.brace with ⟨t', rfl⟩
      have hdigit : hexDigit 0x7b = none := by
        decide
      cases missing with
      | zero =>
          simp [readString, Scanner.closes, Scanner.advance, hdigit] at hread
      | succ missing =>
          simp [readString, Scanner.closes, Scanner.advance, hdigit] at hread

/-- Behind the quotation mark that opens a string. -/
theorem blocked_readString_closed (q : Quoting) (ht : Foreign t) {s p : Bytes} {r : Bytes × Bytes}
    (hp : p <+: q.escape s ++ [0x22]) (h : readString .plain (p ++ t) = some r) : Blocked r.2 := by
  rcases cut_append hp with hcut | ⟨p', rfl, hp'⟩
  · exact blocked_readString q ht hcut h
  · rcases List.prefix_cons_iff.1 hp' with rfl | ⟨p'', rfl, hp''⟩
    · rw [List.append_nil] at h
      exact blocked_readString q ht List.prefix_rfl h
    · rw [List.prefix_nil.1 hp'', List.append_assoc] at h
      rw [show [0x22] ++ t = 0x22 :: t from rfl, q.readString] at h
      cases h
      exact ht.blocked

theorem isDigit_of_mem_cut {n : Nat} {p : Bytes} (hp : p <+: Decimal.zeroPadded 1 n) :
    ∀ c ∈ p, isDigit c = true :=
  fun _ hc => isDigit_of_mem (hp.subset hc)

theorem blocked_number (ht : Foreign t) {n : Int} {p : Bytes} {fuel : Nat} {r : Value × Bytes}
    (hp : p <+: Decimal.appendInt 1 n) (hne : p ≠ []) (h : readValue fuel (p ++ t) = some r) :
    Blocked r.2 := by
  cases fuel with
  | zero =>
      cases h
  | succ fuel =>
      cases n with
      | ofNat n =>
          have hall := isDigit_of_mem_cut (n := n) hp
          cases p with
          | nil =>
              exact absurd rfl hne
          | cons c p =>
              have hdigit : isDigit c = true := hall c List.mem_cons_self
              have hmark : ∀ mark : UInt8, isDigit mark = false → c ≠ mark := by
                rintro mark hfalse rfl
                rw [hdigit] at hfalse
                cases hfalse
              rw [List.cons_append, readValue_atom fuel (opens_of_digit hdigit).notSpace
                (hmark _ (by decide)) (hmark _ (by decide)) (hmark _ (by decide)), readAtom,
                if_neg (hmark _ (by decide)), if_neg (hmark _ (by decide)),
                if_neg (hmark _ (by decide)), if_neg (hmark _ (by decide))] at h
              rcases Option.map_eq_some_iff.1 h with ⟨r', hread, rfl⟩
              exact blocked_readDigits ht hall hread
      | negSucc n =>
          rw [appendInt_one_negSucc] at hp
          rcases List.prefix_cons_iff.1 hp with rfl | ⟨p', rfl, hp'⟩
          · exact absurd rfl hne
          · rw [List.cons_append, readValue_atom fuel (by decide) (by decide) (by decide) (by decide),
              readAtom, if_neg (by decide), if_neg (by decide), if_neg (by decide), if_pos rfl] at h
            rcases Option.map_eq_some_iff.1 h with ⟨r', hread, rfl⟩
            exact blocked_readDigits ht (isDigit_of_mem_cut hp') hread

/-- A literal, by its first letter and the rest of it. -/
theorem blocked_literal (ht : Foreign t) {c : UInt8} {word p : Bytes} {v : Value} {fuel : Nat}
    {r : Value × Bytes} (hspace : isSpace c = false)
    (hmarks : c ≠ 0x22 ∧ c ≠ 0x5b ∧ c ≠ 0x7b) (hword : 0x7b ∉ word)
    (hatom : ∀ rest, readAtom (c :: rest) = (readWord word rest).map fun rest => (v, rest))
    (hp : p <+: c :: word) (hne : p ≠ []) (h : readValue fuel (p ++ t) = some r) :
    Blocked r.2 := by
  rcases List.prefix_cons_iff.1 hp with rfl | ⟨p', rfl, hp'⟩
  · exact absurd rfl hne
  · cases fuel with
    | zero =>
        cases h
    | succ fuel =>
        rw [List.cons_append, readValue_atom fuel hspace hmarks.1 hmarks.2.1 hmarks.2.2, hatom] at h
        rcases Option.map_eq_some_iff.1 h with ⟨rest, hread, rfl⟩
        exact blocked_readWord ht hword hp' hread

/-! ## Cutting a value -/

variable (q : Quoting)

theorem Foreign.expect_bracket (ht : Foreign t) {items : List Value} {p : Bytes}
    (hp : p <+: renderItems q items) : expect 0x5d (p ++ t) = none := by
  cases p with
  | nil =>
      exact ht.blocked.expect (by decide)
  | cons c p =>
      cases items with
      | nil =>
          rw [renderItems] at hp
          cases List.prefix_nil.1 hp
      | cons v items =>
          rcases render_eq_cons q v with ⟨first, tail, htext, hopens⟩
          rw [renderItems, htext, List.cons_append] at hp
          rcases List.cons_prefix_cons.1 hp with ⟨rfl, _⟩
          exact expect_ne hopens.notSpace hopens.notBracket _

theorem Foreign.expect_brace (ht : Foreign t) {members : List (Bytes × Value)} {p : Bytes}
    (hp : p <+: renderMembers q members) : expect 0x7d (p ++ t) = none := by
  cases p with
  | nil =>
      exact ht.blocked.expect (by decide)
  | cons c p =>
      cases members with
      | nil =>
          rw [renderMembers] at hp
          cases List.prefix_nil.1 hp
      | cons member members =>
          rw [renderMembers, quoted, List.cons_append, List.cons_append, List.cons_append] at hp
          rcases List.cons_prefix_cons.1 hp with ⟨rfl, _⟩
          exact expect_ne (by decide) (by decide) _

theorem readValue_bracket {fuel : Nat} {x : Bytes} (hbracket : expect 0x5d x = none)
    (hitems : readItems fuel x = none) : readValue (fuel + 1) (0x5b :: x) = none := by
  rw [readValue, skipSpace_cons (by decide)]
  simp [hbracket, hitems]

theorem readValue_brace {fuel : Nat} {x : Bytes} (hbrace : expect 0x7d x = none)
    (hmembers : readMembers fuel x = none) : readValue (fuel + 1) (0x7b :: x) = none := by
  rw [readValue, skipSpace_cons (by decide)]
  simp [hbrace, hmembers]

/-- Neither another item nor the bracket follows. -/
theorem readItems_blocked {fuel : Nat} {x : Bytes}
    (h : ∀ r, readValue fuel x = some r → Blocked r.2) : readItems (fuel + 1) x = none := by
  rw [readItems]
  cases hread : readValue fuel x with
  | none =>
      rfl
  | some r =>
      have hblocked := h r hread
      simp only [Option.bind_eq_bind, Option.bind_some]
      rw [hblocked.expect (by decide), hblocked.expect (by decide)]
      rfl

/-- The members behind a key and its colon. -/
theorem readMembers_eq {key x : Bytes} (fuel : Nat) :
    readMembers (fuel + 1) (quoted q key ++ 0x3a :: x) =
      (readValue fuel x).bind fun r =>
        match expect 0x2c r.2 with
        | some rest => (readMembers fuel rest).map fun s => ((q.clean key, r.1) :: s.1, s.2)
        | none => (expect 0x7d r.2).map fun rest => ([(q.clean key, r.1)], rest) := by
  rw [readString_quoted, readMembers, expect_self (by decide)]
  simp only [Option.bind_eq_bind, Option.bind_some, q.readString]
  rw [expect_self (by decide)]
  rfl

theorem readMembers_blocked {key x : Bytes} {fuel : Nat}
    (h : ∀ r, readValue fuel x = some r → Blocked r.2) :
    readMembers (fuel + 1) (quoted q key ++ 0x3a :: x) = none := by
  rw [readMembers_eq]
  cases hread : readValue fuel x with
  | none =>
      rfl
  | some r =>
      have hblocked := h r hread
      rw [Option.bind_some, hblocked.expect (by decide), hblocked.expect (by decide)]
      rfl

/-- A key that is cut, or not followed by its colon. -/
theorem readMembers_cut_key (ht : Foreign t) {key p : Bytes} (fuel : Nat) (hp : p <+: quoted q key) :
    readMembers (fuel + 1) (p ++ t) = none := by
  rw [readMembers]
  rw [quoted, List.cons_append] at hp
  rcases List.prefix_cons_iff.1 hp with rfl | ⟨p', rfl, hp'⟩
  · rcases ht.brace with ⟨t', rfl⟩
    rw [List.nil_append, expect_ne (by decide) (by decide)]
    rfl
  · rw [List.cons_append, expect_self (by decide)]
    cases hread : readString .plain (p' ++ t) with
    | none =>
        simp [hread]
    | some r =>
        have hcolon : expect 0x3a r.2 = none :=
          (blocked_readString_closed q ht hp' hread).expect (by decide)
        simp [hread, hcolon]

mutual

/-- A cut value is not followed by what could continue the text around it. -/
theorem blocked_cut : ∀ (v : Value), Foreign t → ∀ {p : Bytes} {fuel : Nat} {r : Value × Bytes},
    p <+: v.render q → readValue fuel (p ++ t) = some r → Blocked r.2
  | _, ht, [], fuel, r, _, h => ht.value fuel r h
  | .null, ht, c :: p, _, _, hp, h => by
      rw [Value.render] at hp
      exact blocked_literal ht (v := .null) (by decide) (by decide) (by decide) (fun _ => rfl) hp
        nofun h
  | .bool true, ht, c :: p, _, _, hp, h => by
      rw [Value.render] at hp
      exact blocked_literal ht (v := .bool true) (by decide) (by decide) (by decide) (fun _ => rfl)
        hp nofun h
  | .bool false, ht, c :: p, _, _, hp, h => by
      rw [Value.render] at hp
      exact blocked_literal ht (v := .bool false) (by decide) (by decide) (by decide)
        (fun _ => rfl) hp nofun h
  | .number n, ht, c :: p, _, _, hp, h => by
      rw [Value.render] at hp
      exact blocked_number ht hp nofun h
  | .string s, ht, c :: p, 0, _, _, h => by
      cases h
  | .string s, ht, c :: p, fuel + 1, r, hp, h => by
      rw [Value.render, quoted, List.cons_append] at hp
      rcases List.cons_prefix_cons.1 hp with ⟨rfl, hp'⟩
      rw [List.cons_append, readValue, skipSpace_cons (by decide)] at h
      simp only [if_true] at h
      rcases Option.map_eq_some_iff.1 h with ⟨r', hread, rfl⟩
      exact blocked_readString_closed q ht hp' hread
  | .array items, ht, c :: p, 0, _, _, h => by
      cases h
  | .array items, ht, c :: p, fuel + 1, r, hp, h => by
      have hp' := hp
      rw [Value.render, List.cons_append] at hp'
      rcases List.cons_prefix_cons.1 hp' with ⟨rfl, hcuts⟩
      rcases cut_append hcuts with hcut | ⟨p', rfl, hend⟩
      · rw [List.cons_append, readValue_bracket (ht.expect_bracket q hcut)
          (readItems_cut items ht fuel hcut)] at h
        cases h
      · rcases List.prefix_cons_iff.1 hend with rfl | ⟨p'', rfl, hnil⟩
        · -- only the bracket is missing
          rw [List.append_nil, List.cons_append,
            readValue_bracket (ht.expect_bracket q List.prefix_rfl)
              (readItems_cut items ht fuel List.prefix_rfl)] at h
          cases h
        · have hwhole : 0x5b :: (renderItems q items ++ 0x5d :: p'') = (Value.array items).render q := by
            rw [List.prefix_nil.1 hnil, Value.render]
            rfl
          rw [hwhole] at h
          rw [eq_of_readValue_render q ht.noDigit h]
          exact ht.blocked
  | .object members, ht, c :: p, 0, _, _, h => by
      cases h
  | .object members, ht, c :: p, fuel + 1, r, hp, h => by
      have hp' := hp
      rw [Value.render, List.cons_append] at hp'
      rcases List.cons_prefix_cons.1 hp' with ⟨rfl, hcuts⟩
      rcases cut_append hcuts with hcut | ⟨p', rfl, hend⟩
      · rw [List.cons_append, readValue_brace (ht.expect_brace q hcut)
          (readMembers_cut members ht fuel hcut)] at h
        cases h
      · rcases List.prefix_cons_iff.1 hend with rfl | ⟨p'', rfl, hnil⟩
        · rw [List.append_nil, List.cons_append,
            readValue_brace (ht.expect_brace q List.prefix_rfl)
              (readMembers_cut members ht fuel List.prefix_rfl)] at h
          cases h
        · have hwhole : 0x7b :: (renderMembers q members ++ 0x7d :: p'') =
              (Value.object members).render q := by
            rw [List.prefix_nil.1 hnil, Value.render]
            rfl
          rw [hwhole] at h
          rw [eq_of_readValue_render q ht.noDigit h]
          exact ht.blocked

/-- Items without the bracket behind them. -/
theorem readItems_cut : ∀ (items : List Value), Foreign t → ∀ (fuel : Nat) {p : Bytes},
    p <+: renderItems q items → readItems fuel (p ++ t) = none
  | _, _, 0, _, _ => by
      rw [readItems]
  | [], ht, fuel + 1, p, hp => by
      rw [renderItems] at hp
      rw [List.prefix_nil.1 hp]
      exact readItems_blocked (ht.value fuel)
  | v :: items, ht, fuel + 1, p, hp => by
      rw [renderItems] at hp
      rcases cut_append hp with hcut | ⟨p', rfl, hp'⟩
      · exact readItems_blocked fun r => blocked_cut v ht hcut
      · rw [List.append_assoc]
        match items, p', hp' with
        | _, [], _ =>
            exact readItems_blocked fun r hread => by
              rw [eq_of_readValue_render q ht.noDigit hread]
              exact ht.blocked
        | [], c :: p', hp' =>
            rw [renderMoreItems] at hp'
            cases List.prefix_nil.1 hp'
        | w :: items, c :: p', hp' =>
            rw [renderMoreItems_cons] at hp'
            rcases List.cons_prefix_cons.1 hp' with ⟨rfl, hmore⟩
            have hrest := readItems_cut (w :: items) ht fuel hmore
            rw [readItems]
            cases hread : readValue fuel (v.render q ++ (0x2c :: p' ++ t)) with
            | none =>
                rfl
            | some r =>
                rw [eq_of_readValue_render q (noDigit_cons (by decide) _) hread]
                simp only [Option.bind_eq_bind, Option.bind_some]
                rw [expect_self (by decide)]
                exact congrArg (Option.map _) hrest

/-- Members without the brace behind them. -/
theorem readMembers_cut : ∀ (members : List (Bytes × Value)), Foreign t → ∀ (fuel : Nat)
    {p : Bytes}, p <+: renderMembers q members → readMembers fuel (p ++ t) = none
  | _, _, 0, _, _ => by
      rw [readMembers]
  | [], ht, fuel + 1, p, hp => by
      rw [renderMembers] at hp
      rw [List.prefix_nil.1 hp]
      have hkey : [] <+: quoted q [] := List.nil_prefix
      exact readMembers_cut_key q ht fuel hkey
  | (key, v) :: members, ht, fuel + 1, p, hp => by
      rw [renderMembers, List.append_assoc] at hp
      rcases cut_append hp with hcut | ⟨p', rfl, hp'⟩
      · exact readMembers_cut_key q ht fuel hcut
      · match p', hp' with
        | [], _ =>
            rw [List.append_nil]
            exact readMembers_cut_key q ht fuel List.prefix_rfl
        | c :: p', hp' =>
            rcases List.cons_prefix_cons.1 hp' with ⟨rfl, hvalue⟩
            rw [List.append_assoc, List.cons_append]
            rcases cut_append hvalue with hcut | ⟨p'', rfl, hp''⟩
            · exact readMembers_blocked q fun r => blocked_cut v ht hcut
            · rw [List.append_assoc]
              match members, p'', hp'' with
              | _, [], _ =>
                  exact readMembers_blocked q fun r hread => by
                    rw [eq_of_readValue_render q ht.noDigit hread]
                    exact ht.blocked
              | [], c :: p'', hp'' =>
                  rw [renderMoreMembers] at hp''
                  cases List.prefix_nil.1 hp''
              | member :: members, c :: p'', hp'' =>
                  rw [renderMoreMembers_cons] at hp''
                  rcases List.cons_prefix_cons.1 hp'' with ⟨rfl, hmore⟩
                  have hrest := readMembers_cut (member :: members) ht fuel hmore
                  rw [readMembers_eq]
                  cases hread : readValue fuel (v.render q ++ (0x2c :: p'' ++ t)) with
                  | none =>
                      rfl
                  | some r =>
                      rw [eq_of_readValue_render q (noDigit_cons (by decide) _) hread]
                      rw [Option.bind_some, expect_self (by decide)]
                      exact congrArg (Option.map _) hrest

end

/-! ## Foreign texts -/

/-- An object whose first key begins with what may not stand behind a string, such as a letter. -/
def Announced (v : Value) : Prop :=
  ∃ key w members c tail, v = .object ((key, w) :: members) ∧ q.escape key = c :: tail ∧
    isSpace c = false ∧ c ≠ 0x2c ∧ c ≠ 0x3a ∧ c ≠ 0x5d ∧ c ≠ 0x7d

variable {q} {v : Value}

theorem Announced.render (h : Announced q v) :
    ∃ c tail, v.render q = 0x7b :: 0x22 :: c :: tail ∧ ∀ rest, Blocked (c :: rest) := by
  rcases h with ⟨key, w, members, c, tail, rfl, htext, hspace, hmarks⟩
  rw [Value.render, renderMembers, quoted, htext]
  exact ⟨c, _, rfl, blocked_cons hspace hmarks⟩

theorem readString_brace (x : Bytes) :
    readString .plain (0x7b :: x) = (readString .plain x).map fun r => ([0x7b] ++ r.1, r.2) := by
  rw [readString]
  rfl

theorem readString_mark (x : Bytes) : readString .plain (0x22 :: x) = some ([], x) := by
  rw [readString]
  rfl

theorem foreign_render (h : Announced q v) : Foreign (v.render q) := by
  rcases h.render with ⟨c, tail, htext, hblocked⟩
  refine ⟨⟨0x22 :: c :: tail, htext⟩, fun fuel r hread => ?_, fun r hread => ?_⟩
  · rw [← List.append_nil (v.render q)] at hread
    rw [eq_of_readValue_render q noDigit_nil hread]
    exact blocked_nil
  · rw [htext, readString_brace, readString_mark] at hread
    cases hread
    exact hblocked tail

/-- What is left of an object that was cut off, with foreign text behind it. -/
theorem Foreign.cut (ht : Foreign t) (h : Announced q v) {p : Bytes} (hp : p <+: v.render q)
    (hne : p ≠ []) : Foreign (p ++ t) := by
  rcases h.render with ⟨c, tail, htext, hblocked⟩
  have hparts := hp
  rw [htext] at hparts
  rcases List.prefix_cons_iff.1 hparts with rfl | ⟨p₁, rfl, hp₁⟩
  · exact absurd rfl hne
  refine ⟨⟨p₁ ++ t, rfl⟩, fun fuel r hread => blocked_cut q v ht hp hread, fun r hread => ?_⟩
  rw [List.cons_append, readString_brace] at hread
  rcases Option.map_eq_some_iff.1 hread with ⟨r', hrest, rfl⟩
  -- the brace, the quotation mark, and the first letter of the key
  rcases List.prefix_cons_iff.1 hp₁ with rfl | ⟨p₂, rfl, hp₂⟩
  · exact ht.string r' hrest
  rw [List.cons_append, readString_mark] at hrest
  cases hrest
  rcases List.prefix_cons_iff.1 hp₂ with rfl | ⟨p₃, rfl, _⟩
  · exact ht.blocked
  · exact hblocked (p₃ ++ t)

/-- A rendered object that is cut off, even directly behind its end, and foreign text behind it are
no value. -/
theorem Foreign.parse_cut (ht : Foreign t) {members : List (Bytes × Value)} {p : Bytes}
    (hp : p <+: (Value.object members).render q) (hne : p ≠ []) : parse (p ++ t) = none := by
  have hparts := hp
  rw [Value.render, List.cons_append] at hparts
  rcases List.prefix_cons_iff.1 hparts with rfl | ⟨p', rfl, hcuts⟩
  · exact absurd rfl hne
  have hopen : ∀ fuel, p' <+: renderMembers q members →
      readValue (fuel + 1) (0x7b :: p' ++ t) = none := fun fuel hcut =>
    readValue_brace (ht.expect_brace q hcut) (readMembers_cut q members ht fuel hcut)
  rcases cut_append hcuts with hcut | ⟨p'', rfl, hend⟩
  · rw [parse, hopen _ hcut]
  · rcases List.prefix_cons_iff.1 hend with rfl | ⟨last, rfl, hnil⟩
    · rw [List.append_nil] at hopen ⊢
      rw [parse, hopen _ List.prefix_rfl]
    · -- the object is whole, and the other text is too much
      have hwhole : 0x7b :: (renderMembers q members ++ 0x7d :: last) =
          (Value.object members).render q := by
        rw [List.prefix_nil.1 hnil, Value.render]
        rfl
      rcases ht.brace with ⟨t', rfl⟩
      have hfuel : ∀ a b : Bytes, a.length ≤ (a ++ b).length + 1 := by
        intro a b
        rw [List.length_append]
        omega
      rw [hwhole, parse, readValue_render q _ _ (hfuel _ _) ht.noDigit]
      rfl

end Cut

end Json
end Lib
