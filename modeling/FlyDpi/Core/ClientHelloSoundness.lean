import FlyDpi.Core.Transport

/-!
# ClientHelloSoundness — what the TLS analyzer reports is in the bytes

The extensions block and the server-name lists are described by the offsets a reader visits, with
no reference to the loops of the analyzer:

* `ExtensionAt body stop pos t l` — an extension header stands at `pos` and its body ends by `stop`;
* `Visited body stop start q` — stepping from `start` by `4 + ext_len` arrives at the extension `q`;
* `FirstHost ext stop np name` — stepping entry by entry from `np`, `name` is the first host entry;
* `LastHost body stop start s` — `s` is the host name of the last visited extension that has one.

Every loop is then shown to replace its `sni` variable by what these predicates determine.
-/

namespace FlyDpi
namespace Core

open Lib Lib.Bytes Lib.Outcome

/-! ## Offsets a reader visits -/

structure ExtensionAt (body : Bytes) (stop pos : Nat) (extType extLen : UInt16) : Prop where
  type : At body pos (u16ToBeBytes extType)
  len : At body (pos + 2) (u16ToBeBytes extLen)
  inside : pos + 4 + extLen.toNat ≤ stop

inductive Visited (body : Bytes) (stop : Nat) : Nat → Nat → Prop where
  | here {pos : Nat} {t l : UInt16} :
      ExtensionAt body stop pos t l → Visited body stop pos pos
  | next {pos q : Nat} {t l : UInt16} :
      ExtensionAt body stop pos t l → Visited body stop (pos + 4 + l.toNat) q →
        Visited body stop pos q

inductive FirstHost (ext : Bytes) (stop : Nat) : Nat → Bytes → Prop where
  | found {np : Nat} {len : UInt16} {name : Bytes} :
      ext[np]? = some 0 → At ext (np + 1) (u16ToBeBytes len) → 0 < len.toNat →
        np + 3 + len.toNat ≤ stop → At ext (np + 3) name → name.length = len.toNat →
          FirstHost ext stop np name
  | skip {np : Nat} {nameType : UInt8} {len : UInt16} {name : Bytes} :
      ext[np]? = some nameType → At ext (np + 1) (u16ToBeBytes len) →
        np + 3 + len.toNat ≤ stop → ¬ (nameType = 0 ∧ 0 < len.toNat) →
          FirstHost ext stop (np + 3 + len.toNat) name → FirstHost ext stop np name

/-- The first host entry from `np` on is the UTF-8 encoding of `s`. -/
def NamesHost (ext : Bytes) (stop np : Nat) (s : String) : Prop :=
  FirstHost ext stop np (asBytes s)

/-- A server-name extension of length at least 5 stands at `q` and its list names the host `s`. -/
def HostAt (body : Bytes) (stop q : Nat) (s : String) : Prop :=
  ∃ (extLen listLen : UInt16) (ext : Bytes),
    ExtensionAt body stop q 0 extLen ∧ 5 ≤ extLen.toNat ∧
    At body (q + 4) ext ∧ ext.length = extLen.toNat ∧
    At ext 0 (u16ToBeBytes listLen) ∧ listLen.toNat + 2 ≤ ext.length ∧
    NamesHost ext (2 + listLen.toNat) 2 s

/-- The host name of the last visited extension that has one. -/
def LastHost (body : Bytes) (stop start : Nat) (s : String) : Prop :=
  ∃ q, Visited body stop start q ∧ HostAt body stop q s ∧
    ∀ q' s', q < q' → Visited body stop start q' → ¬ HostAt body stop q' s'

/-- The declared bounds of the extensions block of a ClientHello body. -/
structure BlockAt (body : Bytes) (sessionLen compressionLen : UInt8)
    (cipherLen extensionsLen : UInt16) (start stop : Nat) : Prop where
  session : body[34]? = some sessionLen
  cipher : At body (35 + sessionLen.toNat) (u16ToBeBytes cipherLen)
  compression : body[37 + sessionLen.toNat + cipherLen.toNat]? = some compressionLen
  extensions :
    At body (38 + sessionLen.toNat + cipherLen.toNat + compressionLen.toNat)
      (u16ToBeBytes extensionsLen)
  start_eq : start = 40 + sessionLen.toNat + cipherLen.toNat + compressionLen.toNat
  stop_eq : stop = start + extensionsLen.toNat
  stop_le : stop ≤ body.length

/-- The body has an extensions block whose last host name is `s`. -/
def ReportsHost (body : Bytes) (s : String) : Prop :=
  ∃ sessionLen compressionLen cipherLen extensionsLen start stop,
    BlockAt body sessionLen compressionLen cipherLen extensionsLen start stop ∧
      LastHost body stop start s

/-! ## Reads are functional -/

theorem u16_unique {body : Bytes} {pos : Nat} {v w : UInt16} (hv : At body pos (u16ToBeBytes v))
    (hw : At body pos (u16ToBeBytes w)) : v = w := by
  have hread := readU16Be_eq_ok_iff (ε := Empty) |>.2 hv
  rw [readU16Be_eq_ok_iff.2 hw] at hread
  exact (ok.inj hread).symm

theorem bytes_unique {body xs ys : Bytes} {pos : Nat} (hx : At body pos xs) (hy : At body pos ys)
    (hlen : xs.length = ys.length) : xs = ys := by
  rw [← hx.eq_window, ← hy.eq_window, hlen]

theorem BlockAt.unique {body : Bytes} {sl cl sl' cl' : UInt8} {ci ex ci' ex' : UInt16}
    {start stop start' stop' : Nat} (h : BlockAt body sl cl ci ex start stop)
    (h' : BlockAt body sl' cl' ci' ex' start' stop') : start = start' ∧ stop = stop' := by
  have hsession : sl = sl' := Option.some.inj (h.session.symm.trans h'.session)
  subst hsession
  have hcipher : ci = ci' := u16_unique h.cipher h'.cipher
  subst hcipher
  have hcompression : cl = cl' := Option.some.inj (h.compression.symm.trans h'.compression)
  subst hcompression
  have hextensions : ex = ex' := u16_unique h.extensions h'.extensions
  subst hextensions
  have hstart : start = start' := h.start_eq.trans h'.start_eq.symm
  exact ⟨hstart, by rw [h.stop_eq, h'.stop_eq, hstart]⟩

/-! ## Updates of the `sni` variable -/

/-- `new` is what `P` determines, or `old` where `P` determines nothing. -/
def Overrides (P : String → Prop) (old new : Option String) : Prop :=
  ∀ s, new = some s ↔ P s ∨ ((∀ s', ¬ P s') ∧ old = some s)

theorem Overrides.of_none {P : String → Prop} {old : Option String} (h : ∀ s, ¬ P s) :
    Overrides P old old := by
  intro s
  simp [h]

theorem Overrides.congr {P Q : String → Prop} {old new : Option String} (h : Overrides P old new)
    (hPQ : ∀ s, P s ↔ Q s) : Overrides Q old new := by
  intro s
  rw [h s]
  simp only [hPQ]

theorem Overrides.trans {P Q : String → Prop} {a b c : Option String} (hP : Overrides P a b)
    (hQ : Overrides Q b c) : Overrides (fun s => Q s ∨ ((∀ s', ¬ Q s') ∧ P s)) a c := by
  intro s
  rw [hQ s]
  -- either the second update decides, or it leaves what the first one made
  by_cases hq : ∃ s', Q s'
  · rcases hq with ⟨s', hs'⟩
    have hnone : ¬ ∀ s', ¬ Q s' := fun h => h s' hs'
    constructor
    · rintro (h | ⟨h, _⟩)
      · exact Or.inl (Or.inl h)
      · exact absurd h hnone
    · rintro ((h | ⟨h, _⟩) | ⟨h, _⟩)
      · exact Or.inl h
      · exact absurd h hnone
      · exact absurd (Or.inl hs') (h s')
  · have hnone : ∀ s', ¬ Q s' := fun s' h => hq ⟨s', h⟩
    simp only [hnone, false_or, not_false_eq_true, implies_true, true_and]
    exact hP s

/-- A value that is found replaces the old one; an invalid one leaves it. -/
theorem Overrides.or (o old : Option String) : Overrides (o = some ·) old (o.or old) := by
  intro s
  cases o <;> simp

/-! ## One server-name list -/

theorem FirstHost.entry_le {ext name : Bytes} {stop np : Nat} (h : FirstHost ext stop np name) :
    np + 3 ≤ stop := by
  cases h <;> omega

/-- What precedes the first host entry is not looked at again. -/
theorem FirstHost.skip_iff {ext name : Bytes} {stop np : Nat} {nameType : UInt8} {len : UInt16}
    (htype : ext[np]? = some nameType) (hlen : At ext (np + 1) (u16ToBeBytes len))
    (hle : np + 3 + len.toNat ≤ stop) (hhost : ¬ (nameType = 0 ∧ 0 < len.toNat)) :
    FirstHost ext stop np name ↔ FirstHost ext stop (np + 3 + len.toNat) name := by
  constructor
  · intro h
    cases h with
    | found htype' hlen' hpos _ _ _ =>
        have heq : nameType = 0 := Option.some.inj (htype.symm.trans htype')
        rw [u16_unique hlen' hlen] at hpos
        exact absurd ⟨heq, hpos⟩ hhost
    | skip _ hlen' _ _ hrest =>
        rwa [u16_unique hlen' hlen] at hrest
  · exact FirstHost.skip htype hlen hle hhost

theorem FirstHost.found_iff {ext name name' : Bytes} {stop np : Nat} {len : UInt16}
    (htype : ext[np]? = some 0) (hlen : At ext (np + 1) (u16ToBeBytes len)) (hpos : 0 < len.toNat)
    (hle : np + 3 + len.toNat ≤ stop) (hname : At ext (np + 3) name)
    (hnameLen : name.length = len.toNat) :
    FirstHost ext stop np name' ↔ name' = name := by
  constructor
  · intro h
    cases h with
    | found _ hlen' _ _ hname' hnameLen' =>
        rw [u16_unique hlen' hlen] at hnameLen'
        exact bytes_unique hname' hname (hnameLen'.trans hnameLen.symm)
    | skip htype' hlen' _ hhost _ =>
        have heq : _ = (0 : UInt8) := Option.some.inj (htype'.symm.trans htype)
        rw [u16_unique hlen' hlen] at hhost
        exact absurd ⟨heq, hpos⟩ hhost
  · rintro rfl
    exact FirstHost.found htype hlen hpos hle hname hnameLen

theorem scanNames_overrides {ext : Bytes} {listLen np : Nat} {sni new : Option String}
    (h : scanNames ext listLen np sni = ok new) :
    Overrides (NamesHost ext (2 + listLen) np) sni new := by
  -- induction along the loop; `sni` is only written by the iteration that leaves it
  fun_induction scanNames ext listLen np sni with
  | case1 np hnp ih =>
      simp only [bind_eq_ok_iff, index_eq_ok_iff, reject_eq_ok_iff, readU16Be_eq_ok_iff] at h
      rcases h with ⟨nameType, htype, nameLen, hlen, _, hbounds, h⟩
      have hle : np + 3 + nameLen.toNat ≤ 2 + listLen := by
        omega
      split at h
      · -- a host entry: its name decides, and the loop is left
        rename_i hhost
        rcases hhost with ⟨rfl, hpos⟩
        simp only [bind_eq_ok_iff, slice_eq_ok_iff, pure_eq_ok, ok.injEq] at h
        rcases h with ⟨name, ⟨hstart, hend, hslice⟩, rfl⟩
        rcases At.of_slice hstart hend hslice with ⟨hname, hcut⟩
        have hnameLen : name.length = nameLen.toNat := by
          omega
        refine (Overrides.or (fromUtf8 name) sni).congr fun s => ?_
        rw [fromUtf8_eq_some_iff]
        exact (FirstHost.found_iff htype hlen hpos hle hname hnameLen).symm
      · -- any other entry is stepped over
        rename_i hhost
        exact (ih nameLen h).congr fun s => (FirstHost.skip_iff htype hlen hle hhost).symm
  | case2 np hnp =>
      -- no room for another entry
      cases h
      exact Overrides.of_none fun s hfirst => hnp hfirst.entry_le

/-! ## One extension -/

theorem scanServerName_overrides {body : Bytes} {stop q : Nat} {extType extLen : UInt16}
    {sni new : Option String} (hext : ExtensionAt body stop q extType extLen)
    (h : scanServerName body (q + 4) extType extLen.toNat sni = ok new) :
    Overrides (HostAt body stop q) sni new := by
  have hinside : q + 4 + extLen.toNat ≤ stop := hext.inside
  unfold scanServerName at h
  split at h
  · rename_i hname
    simp only [bind_eq_ok_iff, slice_eq_ok_iff, reject_eq_ok_iff, readU16Be_eq_ok_iff] at h
    rcases h with ⟨ext, ⟨hstart, hend, hslice⟩, listLen, hlistLen, _, hlist, h⟩
    rcases At.of_slice hstart hend hslice with ⟨hat, hcut⟩
    have hextLen : ext.length = extLen.toNat := by
      omega
    refine (scanNames_overrides h).congr fun s => ?_
    constructor
    · intro hs
      refine ⟨extLen, listLen, ext, ?_, hname.2, hat, hextLen, hlistLen, by omega, hs⟩
      rw [← hname.1]
      exact hext
    · -- the fields at `q` are determined, so another reading of them is this one
      rintro ⟨extLen', listLen', ext', hext', _, hat', hextLen', hlistLen', _, hs⟩
      have hlenEq : extLen' = extLen := u16_unique hext'.len hext.len
      have hbodyEq : ext' = ext := bytes_unique hat' hat (by rw [hextLen', hlenEq, hextLen])
      subst hbodyEq
      rwa [u16_unique hlistLen' hlistLen] at hs
  · -- another type, or too short for a list: the source does not look inside
    rename_i hname
    cases h
    refine Overrides.of_none fun s => ?_
    rintro ⟨extLen', _, _, hext', hmin, _⟩
    rw [u16_unique hext'.len hext.len] at hmin
    exact hname ⟨u16_unique hext.type hext'.type, hmin⟩

/-! ## The extensions block -/

section Visits

variable {body : Bytes} {stop pos q : Nat} {t l : UInt16} {s : String}

theorem Visited.bounds (h : Visited body stop pos q) : pos ≤ q ∧ q + 4 ≤ stop := by
  induction h with
  | here hext =>
      have := hext.inside
      omega
  | next hext _ ih =>
      omega

theorem visited_iff (hext : ExtensionAt body stop pos t l) :
    Visited body stop pos q ↔ q = pos ∨ Visited body stop (pos + 4 + l.toNat) q := by
  constructor
  · intro h
    cases h with
    | here _ =>
        exact Or.inl rfl
    | next hext' hrest =>
        rw [u16_unique hext'.len hext.len] at hrest
        exact Or.inr hrest
  · rintro (rfl | h)
    · exact Visited.here hext
    · exact Visited.next hext h

/-- Where some visited extension has a host name, one of them is the last. -/
theorem exists_lastHost {q : Nat} {s : String} (hv : Visited body stop pos q)
    (hh : HostAt body stop q s) : ∃ s', LastHost body stop pos s' := by
  -- recursion on what is left behind `q`: a later host is closer to the end of the block
  by_cases hlater : ∃ q' s', q < q' ∧ Visited body stop pos q' ∧ HostAt body stop q' s'
  · rcases hlater with ⟨q', s', hlt, hv', hh'⟩
    have hbound : q + 4 ≤ stop := hv.bounds.2
    exact exists_lastHost hv' hh'
  · refine ⟨s, q, hv, hh, ?_⟩
    intro q' s' hlt hv' hh'
    exact hlater ⟨q', s', hlt, hv', hh'⟩
termination_by stop - q

/-- The last host name from `pos` on is the last one after this extension, or else this one's. -/
theorem lastHost_iff (hext : ExtensionAt body stop pos t l) :
    (LastHost body stop (pos + 4 + l.toNat) s ∨
        (∀ s', ¬ LastHost body stop (pos + 4 + l.toNat) s') ∧ HostAt body stop pos s) ↔
      LastHost body stop pos s := by
  constructor
  · rintro (⟨q, hv, hh, hlast⟩ | ⟨hnone, hh⟩)
    · -- a host behind this extension stays the last one
      refine ⟨q, (visited_iff hext).2 (Or.inr hv), hh, ?_⟩
      intro q' s' hlt hv'
      rcases (visited_iff hext).1 hv' with rfl | hv'
      · have := hv.bounds
        omega
      · exact hlast q' s' hlt hv'
    · -- this extension has a host and nothing behind it has one
      refine ⟨pos, Visited.here hext, hh, ?_⟩
      intro q' s' hlt hv' hh'
      rcases (visited_iff hext).1 hv' with rfl | hv'
      · omega
      · rcases exists_lastHost hv' hh' with ⟨s'', hs''⟩
        exact hnone s'' hs''
  · rintro ⟨q, hv, hh, hlast⟩
    rcases (visited_iff hext).1 hv with rfl | hv
    · refine Or.inr ⟨?_, hh⟩
      rintro s' ⟨q', hv', hh', _⟩
      have hlt : q < q' := by
        have := hv'.bounds
        omega
      exact hlast q' s' hlt ((visited_iff hext).2 (Or.inr hv')) hh'
    · refine Or.inl ⟨q, hv, hh, ?_⟩
      intro q' s' hlt hv'
      exact hlast q' s' hlt ((visited_iff hext).2 (Or.inr hv'))

end Visits

theorem scanExtensions_overrides {body : Bytes} {stop pos : Nat} {sni new : Option String}
    (h : scanExtensions body stop pos sni = ok new) :
    Overrides (LastHost body stop pos) sni new := by
  fun_induction scanExtensions body stop pos sni with
  | case1 pos sni hpos ih =>
      simp only [bind_eq_ok_iff, reject_eq_ok_iff, readU16Be_eq_ok_iff] at h
      rcases h with ⟨extType, htype, extLen, hlen, _, hbounds, mid, hmid, h⟩
      have hext : ExtensionAt body stop pos extType extLen := ⟨htype, hlen, by omega⟩
      -- first this extension, then the rest of the block
      have hfirst : Overrides (HostAt body stop pos) sni mid :=
        scanServerName_overrides hext hmid
      have hrest : Overrides (LastHost body stop (pos + 4 + extLen.toNat)) mid new :=
        ih extLen mid h
      exact (hfirst.trans hrest).congr fun s => lastHost_iff hext
  | case2 pos sni hpos =>
      -- no header fits any more, so nothing is visited
      cases h
      refine Overrides.of_none fun s => ?_
      rintro ⟨q, hv, _⟩
      have := hv.bounds
      omega

/-! ## The fixed part of the body -/

theorem extensionsBlock_some {body : Bytes} {start stop : Nat}
    (h : extensionsBlock body = ok (some (start, stop))) :
    ∃ sessionLen compressionLen cipherLen extensionsLen,
      BlockAt body sessionLen compressionLen cipherLen extensionsLen start stop := by
  simp only [extensionsBlock, bind_eq_ok_iff, reject_eq_ok_iff, index_eq_ok_iff,
    readU16Be_eq_ok_iff] at h
  rcases h with ⟨sessionLen, hsession, _, _, _, _, cipherLen, hcipher, _, _, h⟩
  split at h
  · cases h
  · simp only [bind_eq_ok_iff, reject_eq_ok_iff, index_eq_ok_iff, readU16Be_eq_ok_iff, pure_eq_ok,
      ok.injEq, Option.some.injEq, Prod.mk.injEq] at h
    rcases h with ⟨compressionLen, hcompression, _, _, _, _, extensionsLen, hextensions, _, hbounds,
      rfl, rfl⟩
    refine ⟨sessionLen, compressionLen, cipherLen, extensionsLen, hsession, hcipher, ?_, ?_, ?_, rfl,
      by omega⟩
    · rw [← hcompression]
      congr 1
      omega
    · convert hextensions using 1
      omega
    · omega

theorem extensionsBlock_none {body : Bytes} (h : extensionsBlock body = ok none) :
    ∀ {sessionLen compressionLen cipherLen extensionsLen start stop},
      ¬ BlockAt body sessionLen compressionLen cipherLen extensionsLen start stop := by
  intro sessionLen compressionLen cipherLen extensionsLen start stop hblock
  simp only [extensionsBlock, bind_eq_ok_iff, reject_eq_ok_iff, index_eq_ok_iff,
    readU16Be_eq_ok_iff] at h
  rcases h with ⟨sessionLen', hsession, _, _, _, _, cipherLen', hcipher, _, _, h⟩
  have hsessionEq : sessionLen' = sessionLen :=
    Option.some.inj (hsession.symm.trans hblock.session)
  subst hsessionEq
  have hcipherEq : cipherLen' = cipherLen := u16_unique hcipher hblock.cipher
  subst hcipherEq
  split at h
  · -- the body ends with the cipher suites, where the block would have its compression byte
    rename_i hend
    have hbyte := (List.getElem?_eq_some_iff.1 hblock.compression).1
    omega
  · simp only [bind_eq_ok_iff, pure_eq_ok, ok.injEq, reduceCtorEq, and_false, exists_false] at h

/-- The host name of a body, or none where the body has no extensions block. -/
theorem reportsHost_iff {body : Bytes} {sessionLen compressionLen : UInt8}
    {cipherLen extensionsLen : UInt16} {start stop : Nat} {s : String}
    (hblock : BlockAt body sessionLen compressionLen cipherLen extensionsLen start stop) :
    ReportsHost body s ↔ LastHost body stop start s := by
  constructor
  · rintro ⟨_, _, _, _, start', stop', hblock', hlast⟩
    rcases hblock'.unique hblock with ⟨rfl, rfl⟩
    exact hlast
  · intro hlast
    exact ⟨_, _, _, _, start, stop, hblock, hlast⟩

theorem analyzeClientHelloBody_sound {body : Bytes} {handshakeLen : Nat} {info : TlsClientHelloInfo}
    (h : analyzeClientHelloBody body handshakeLen = ok (.tlsClientHello info)) :
    info.handshakeLen = handshakeLen ∧ At body 0 (u16ToBeBytes info.legacyVersion) ∧
      ∀ s, info.sni = some s ↔ ReportsHost body s := by
  simp only [analyzeClientHelloBody, bind_eq_ok_iff, readU16Be_eq_ok_iff] at h
  rcases h with ⟨_, _, legacyVersion, hlegacy, block, hblock, h⟩
  cases block with
  | none =>
      cases h
      refine ⟨rfl, hlegacy, fun s => ?_⟩
      simp only [reduceCtorEq, false_iff]
      rintro ⟨_, _, _, _, _, _, hat, _⟩
      exact extensionsBlock_none hblock hat
  | some bounds =>
      rcases bounds with ⟨start, stop⟩
      simp only [bind_eq_ok_iff] at h
      rcases h with ⟨sni, hsni, h⟩
      cases h
      refine ⟨rfl, hlegacy, fun s => ?_⟩
      rcases extensionsBlock_some hblock with ⟨sessionLen, compressionLen, cipherLen, extensionsLen,
        hat⟩
      rw [reportsHost_iff hat]
      -- the loop starts with no name at all
      have hscan : Overrides (LastHost body stop start) none sni := scanExtensions_overrides hsni
      simpa using hscan s

/-! ## The record and handshake layers -/

/-- One TLS record at the start of `payload` with a ClientHello message of the given body. -/
structure FramesHello (payload body : Bytes) (recordLen : UInt16) (handshakeLen : Nat) : Prop where
  contentType : payload[0]? = some 0x16
  recordLength : At payload 3 (u16ToBeBytes recordLen)
  recordFits : 5 + recordLen.toNat ≤ payload.length
  handshakeType : payload[5]? = some 1
  handshakeLength : ∃ b c d, At payload 6 [b, c, d] ∧ handshakeLen = beNat [b, c, d]
  handshakeFits : handshakeLen + 4 ≤ recordLen.toNat
  bodyAt : At payload 9 body
  bodyLength : body.length = handshakeLen

/-- Everything the analyzer reports about a ClientHello is what the payload says. -/
theorem analyzeTlsClientHello_sound {payload : Bytes} {info : TlsClientHelloInfo}
    (h : analyzeTlsClientHello payload = ok (.tlsClientHello info)) :
    ∃ recordLen body, FramesHello payload body recordLen info.handshakeLen ∧
      At body 0 (u16ToBeBytes info.legacyVersion) ∧
      ∀ s, info.sni = some s ↔ ReportsHost body s := by
  rcases analyzeTlsClientHello_inv h (by simp) (by simp) with
    ⟨v1, v2, l1, l2, b, c, d, rest, n, rfl, hn, hfit, hinner, hbody⟩
  rcases analyzeClientHelloBody_sound hbody with ⟨hlen, hlegacy, hsni⟩
  have hrecord : (u16FromBeBytes l1 l2).toNat = n + 4 := by
    rw [toNat_u16FromBeBytes, hn]
  refine ⟨u16FromBeBytes l1 l2, rest.take (beNat [b, c, d]), ?_, hlegacy, hsni⟩
  rw [hlen]
  exact
    { contentType := rfl
      recordLength := by
        rw [u16ToBeBytes_fromBeBytes]
        simp [At.cons_iff, At.nil_iff]
      recordFits := by
        rw [hrecord]
        simp only [List.length_cons]
        omega
      handshakeType := rfl
      handshakeLength := ⟨b, c, d, by simp [At.cons_iff, At.nil_iff], rfl⟩
      handshakeFits := by
        rw [hrecord]
        omega
      bodyAt :=
        ⟨[0x16, v1, v2, l1, l2, 1, b, c, d], rest.drop (beNat [b, c, d]), by simp, rfl⟩
      bodyLength := by
        rw [List.length_take]
        omega }

/-! ## A ClientHello that names one host -/

def oneHostBody : Bytes :=
  [3, 3] ++ List.replicate 32 0 ++ [0, 0, 2, 0x13, 1, 1, 0, 0, 10, 0, 0, 0, 6, 0, 4, 0, 0, 1, 0x61]

def oneHostHello : Bytes :=
  [0x16, 3, 1, 0, 57, 1, 0, 0, 53] ++ oneHostBody

theorem scanExtensions_oneHostBody : scanExtensions oneHostBody 53 43 none = ok (some "a") := by
  have hnames : scanNames [0, 4, 0, 0, 1, 0x61] 4 2 none = ok (some "a") := by
    rw [scanNames, dif_pos (by decide)]
    decide
  have hserverName : scanServerName oneHostBody 47 0 6 none = ok (some "a") := hnames
  have hend : scanExtensions oneHostBody 53 53 (some "a") = ok (some "a") := by
    rw [scanExtensions, dif_neg (by decide)]
    rfl
  -- the block holds one extension, which ends where the block does
  calc
    scanExtensions oneHostBody 53 43 none
        = (scanServerName oneHostBody 47 0 6 none >>= fun sni =>
            scanExtensions oneHostBody 53 53 sni) := by
          rw [scanExtensions, dif_pos (by decide)]
          rfl
    _ = scanExtensions oneHostBody 53 53 (some "a") := by
          rw [hserverName, ok_bind]
    _ = ok (some "a") := hend

theorem analyzeTlsClientHello_oneHostHello :
    analyzeTlsClientHello oneHostHello =
      ok (.tlsClientHello { legacyVersion := 0x0303, sni := some "a", handshakeLen := 53 }) := by
  have hrun : analyzeTlsClientHello oneHostHello =
      (scanExtensions oneHostBody 53 43 none >>= fun sni =>
        ok (.tlsClientHello { legacyVersion := 0x0303, sni := sni, handshakeLen := 53 })) := by
    rfl
  rw [hrun, scanExtensions_oneHostBody, ok_bind]

theorem analyzeTlsClientHello_sound_oneHost :
    ∃ recordLen body, FramesHello oneHostHello body recordLen 53 ∧
      At body 0 (u16ToBeBytes 0x0303) ∧ ∀ s, some "a" = some s ↔ ReportsHost body s :=
  analyzeTlsClientHello_sound analyzeTlsClientHello_oneHostHello

end Core
end FlyDpi
