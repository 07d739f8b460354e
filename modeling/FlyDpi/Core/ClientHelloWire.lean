import FlyDpi.Core.Transport

/-!
# ClientHelloWire — decoding undoes encoding for TLS ClientHello messages

A well-formed ClientHello with an extensions block is described by its fields and written to the
wire by `ClientHello.record`.  The analyzer returns the version, the body length and the host name
of every such record, whatever its record version and whatever follows it.

The proof follows the nesting of the format: one server-name list, one extension, the extensions
block, the fixed part of the body, the handshake message, the record.
-/

namespace FlyDpi
namespace Core

open Lib Lib.Bytes Lib.Outcome

/-! ## Wire format -/

/-- A vector with a one-byte length prefix. -/
def vec8 (bs : Bytes) : Bytes :=
  UInt8.ofNat bs.length :: bs

/-- A vector with a two-byte length prefix. -/
def vec16 (bs : Bytes) : Bytes :=
  u16ToBeBytes (UInt16.ofNat bs.length) ++ bs

@[simp] theorem length_vec8 (bs : Bytes) : (vec8 bs).length = 1 + bs.length := by
  simp [vec8]
  omega

@[simp] theorem length_vec16 (bs : Bytes) : (vec16 bs).length = 2 + bs.length := by
  simp [vec16]

/-- The handshake message that carries a ClientHello body. -/
def helloMessage (body : Bytes) : Bytes :=
  1 :: (beBytes 3 body.length ++ body)

/-- The record that carries the handshake message. -/
def helloRecord (body : Bytes) (recordVersion : UInt16) : Bytes :=
  0x16 :: (u16ToBeBytes recordVersion ++ vec16 (helloMessage body))

structure ServerName where
  nameType : UInt8
  name : Bytes

namespace ServerName

def encode (e : ServerName) : Bytes :=
  e.nameType :: vec16 e.name

theorem length_encode (e : ServerName) : e.encode.length = 3 + e.name.length := by
  simp [encode]
  omega

/-- An entry that names a host: type 0 and not empty. -/
def IsHost (e : ServerName) : Prop :=
  e.nameType = 0 ∧ e.name ≠ []

instance (e : ServerName) : Decidable e.IsHost :=
  inferInstanceAs (Decidable (_ ∧ _))

end ServerName

/-- The host name of a server-name list: its first host entry, when that is valid UTF-8. -/
def hostName (entries : List ServerName) : Option String :=
  (entries.find? fun e => decide e.IsHost).bind fun e => fromUtf8 e.name

inductive Extension
  | serverName (entries : List ServerName)
  | other (extType : UInt16) (body : Bytes) (ne : extType ≠ 0)

namespace Extension

def extType : Extension → UInt16
  | serverName _ => 0
  | other t _ _ => t

def body : Extension → Bytes
  | serverName entries => vec16 (entries.flatMap ServerName.encode)
  | other _ b _ => b

def encode (e : Extension) : Bytes :=
  u16ToBeBytes e.extType ++ vec16 e.body

def isServerName : Extension → Bool
  | serverName _ => true
  | other _ _ _ => false

def host : Extension → Option String
  | serverName entries => hostName entries
  | other _ _ _ => none

theorem length_encode (e : Extension) : e.encode.length = 4 + e.body.length := by
  simp [encode]
  omega

end Extension

/-- The fields of a ClientHello that carries an extensions block. -/
structure HelloFields where
  legacyVersion : UInt16
  random : Bytes
  sessionId : Bytes
  cipherSuites : Bytes
  compressionMethods : Bytes
  extensions : List Extension

namespace HelloFields

def body (f : HelloFields) : Bytes :=
  u16ToBeBytes f.legacyVersion ++ (f.random ++ (vec8 f.sessionId ++ (vec16 f.cipherSuites ++
    (vec8 f.compressionMethods ++ vec16 (f.extensions.flatMap Extension.encode)))))

end HelloFields

/-- A well-formed ClientHello that fits one record. -/
structure ClientHello extends HelloFields where
  random_length : toHelloFields.random.length = 32
  sessionId_le : toHelloFields.sessionId.length ≤ 255
  compressionMethods_le : toHelloFields.compressionMethods.length ≤ 255
  oneServerName : toHelloFields.extensions.countP Extension.isServerName ≤ 1
  fits : toHelloFields.body.length + 4 ≤ 65535

namespace ClientHello

def record (ch : ClientHello) (recordVersion : UInt16) : Bytes :=
  helloRecord ch.body recordVersion

/-- The host name of the server-name extension, if there is one. -/
def sni (ch : ClientHello) : Option String :=
  ch.extensions.findSome? Extension.host

end ClientHello

/-! ## The record and the handshake header -/

theorem analyzeHandshake_helloMessage {body : Bytes} (hfits : body.length + 4 ≤ 65535) :
    analyzeHandshake (helloMessage body) = analyzeClientHelloBody body body.length := by
  have hlen : beNat (beBytes 3 body.length) = body.length := by
    rw [beNat_beBytes]
    exact Nat.mod_eq_of_lt (by omega)
  -- The analyzer reads the three length bytes one at a time.
  rcases List.length_eq_three.1 (length_beBytes 3 body.length) with ⟨a, b, c, habc⟩
  rw [habc] at hlen
  have hmessage : helloMessage body = 1 :: a :: b :: c :: body := by
    rw [helloMessage, habc]
    rfl
  rw [hmessage, analyzeHandshake_cons, if_neg (by simp), hlen, if_neg (by omega),
    List.take_length]

/-- A record that carries a ClientHello comes down to its body, whatever follows the record. -/
theorem analyzeTlsClientHello_helloRecord {body : Bytes} (hfits : body.length + 4 ≤ 65535)
    (recordVersion : UInt16) (trailing : Bytes) :
    analyzeTlsClientHello (helloRecord body recordVersion ++ trailing) =
      analyzeClientHelloBody body body.length := by
  have hmessage : (helloMessage body).length = body.length + 4 := by
    simp [helloMessage]
    omega
  -- The five header bytes are literal; what trails the record is cut off by its length field.
  have hrecord : helloRecord body recordVersion ++ trailing =
      0x16 :: UInt8.ofNat (recordVersion.toNat / 256) :: UInt8.ofNat recordVersion.toNat ::
        UInt8.ofNat ((helloMessage body).length / 256) ::
          UInt8.ofNat (helloMessage body).length :: (helloMessage body ++ trailing) := by
    have hsmall : (helloMessage body).length % 65536 = (helloMessage body).length :=
      Nat.mod_eq_of_lt (by omega)
    simp [helloRecord, vec16, u16ToBeBytes_eq, hsmall]
  have hlen : beNat [UInt8.ofNat ((helloMessage body).length / 256),
      UInt8.ofNat (helloMessage body).length] = (helloMessage body).length := by
    rw [beNat_pair]
    simp
    omega
  rw [hrecord, analyzeTlsClientHello_cons, if_neg (by simp), hlen, if_neg (by simp),
    List.take_left]
  exact analyzeHandshake_helloMessage hfits

/-! ## One server-name list -/

/-- The length prefix of a vector reads back as the length. -/
theorem toNat_ofNat_length {bs : Bytes} (h : bs.length < 65536) :
    (UInt16.ofNat bs.length).toNat = bs.length :=
  UInt16.toNat_ofNat_of_lt' h

theorem scanNames_encode {ext : Bytes} {listLen : Nat} {sni : Option String}
    (hlist : listLen < 65536) (hext : 2 + listLen ≤ ext.length) (entries : List ServerName)
    {np : Nat} (hnp : 2 ≤ np) (hat : At ext np (entries.flatMap ServerName.encode))
    (hlen : np + (entries.flatMap ServerName.encode).length = 2 + listLen) :
    scanNames ext listLen np sni = ok ((hostName entries).or sni) := by
  -- Induction on the entries: each unfolding of the loop consumes the encoding of one of them.
  induction entries generalizing np with
  | nil =>
      have hstop : ¬ np + 3 ≤ 2 + listLen := by
        simp at hlen
        omega
      rw [scanNames, dif_neg hstop]
      rfl
  | cons e es ih =>
      have hentry := e.length_encode
      simp only [List.flatMap_cons, List.length_append] at hlen
      have hname : (UInt16.ofNat e.name.length).toNat = e.name.length :=
        toNat_ofNat_length (by omega)
      simp only [List.flatMap_cons, ServerName.encode, vec16, At.append_iff, At.cons_iff,
        List.length_cons, List.length_append, length_u16ToBeBytes] at hat
      rcases hat with ⟨⟨htype, hnameLen, hbytes⟩, hrest⟩
      rw [scanNames, dif_pos (by omega), index_eq_ok_iff.2 htype, ok_bind,
        readU16Be_eq_ok_iff.2 hnameLen, ok_bind]
      simp only [hname]
      rw [reject_of_not (by omega), ok_bind]
      by_cases hhost : e.IsHost
      · -- The first host entry ends the loop.
        have hcond : e.nameType = 0 ∧ 0 < e.name.length :=
          ⟨hhost.1, List.length_pos_iff.2 hhost.2⟩
        have hslice : (slice ext (np + 3) (np + 3 + e.name.length) :
            Outcome TransportParseError Bytes) = ok e.name := hbytes.slice_eq
        rw [if_pos hcond, hslice, ok_bind]
        simp [hostName, hhost]
      · have hcond : ¬ (e.nameType = 0 ∧ 0 < e.name.length) := by
          intro h
          exact hhost ⟨h.1, List.length_pos_iff.1 h.2⟩
        have hpos : np + (2 + e.name.length + 1) = np + 3 + e.name.length := by omega
        rw [if_neg hcond]
        rw [hpos] at hrest
        rw [ih (by omega) hrest (by omega)]
        simp [hostName, hhost]

/-! ## One extension -/

theorem scanServerName_encode {body : Bytes} {pos : Nat} {sni : Option String} (e : Extension)
    (hsmall : e.body.length < 65536) (hat : At body pos e.body) :
    scanServerName body pos e.extType e.body.length sni = ok (e.host.or sni) := by
  unfold scanServerName
  cases e with
  | other extType b ne =>
      rw [if_neg (by simp [Extension.extType, ne])]
      rfl
  | serverName entries =>
      by_cases hlong : (Extension.serverName entries).body.length ≥ 5
      · have hslice : (slice body pos (pos + (Extension.serverName entries).body.length) :
            Outcome TransportParseError Bytes) = ok (Extension.serverName entries).body :=
          hat.slice_eq
        rw [if_pos ⟨rfl, hlong⟩, hslice, ok_bind]
        -- Inside the slice the list starts after its own length prefix.
        have hself := At.self (Extension.serverName entries).body
        simp only [Extension.body, vec16, At.append_iff, length_u16ToBeBytes] at hself
        have hbody : (Extension.serverName entries).body.length =
            2 + (entries.flatMap ServerName.encode).length := length_vec16 _
        have hlist : (UInt16.ofNat (entries.flatMap ServerName.encode).length).toNat =
            (entries.flatMap ServerName.encode).length := toNat_ofNat_length (by omega)
        have hread : (readU16Be (Extension.serverName entries).body 0 :
            Outcome TransportParseError UInt16) =
              ok (UInt16.ofNat (entries.flatMap ServerName.encode).length) :=
          readU16Be_eq_ok_iff.2 hself.1
        rw [hread, ok_bind]
        simp only [hlist]
        rw [reject_of_not (by omega), ok_bind]
        exact scanNames_encode (by omega) (by omega) entries (le_refl 2) hself.2 rfl
      · -- A list too short for an entry is empty.
        have hnil : entries = [] := by
          cases entries with
          | nil =>
              rfl
          | cons e es =>
              have hentry := e.length_encode
              simp [Extension.body] at hlong
              omega
        rw [if_neg (by simp [hlong])]
        subst hnil
        rfl

/-! ## The extensions block -/

/-- The value the loop leaves in `sni`: later extensions override earlier ones. -/
def lastHost (sni : Option String) (extensions : List Extension) : Option String :=
  extensions.foldl (fun acc e => e.host.or acc) sni

theorem scanExtensions_encode {body : Bytes} {extensionsEnd : Nat} (hbody : body.length < 65536)
    (hend : extensionsEnd ≤ body.length) (extensions : List Extension) {pos : Nat}
    {sni : Option String} (hat : At body pos (extensions.flatMap Extension.encode))
    (hlen : pos + (extensions.flatMap Extension.encode).length = extensionsEnd) :
    scanExtensions body extensionsEnd pos sni = ok (lastHost sni extensions) := by
  -- Induction on the extensions, for every `sni`: each iteration may have replaced it.
  induction extensions generalizing pos sni with
  | nil =>
      have hstop : ¬ pos + 4 ≤ extensionsEnd := by
        simp at hlen
        omega
      rw [scanExtensions, dif_neg hstop]
      rfl
  | cons e es ih =>
      have hentry := e.length_encode
      simp only [List.flatMap_cons, List.length_append] at hlen
      have hsmall : e.body.length < 65536 := by omega
      have hlenField := toNat_ofNat_length hsmall
      simp only [List.flatMap_cons, Extension.encode, vec16, At.append_iff, List.length_append,
        length_u16ToBeBytes] at hat
      rcases hat with ⟨⟨htype, hextLen, hbytes⟩, hrest⟩
      rw [scanExtensions, dif_pos (by omega), readU16Be_eq_ok_iff.2 htype, ok_bind,
        readU16Be_eq_ok_iff.2 hextLen, ok_bind]
      simp only [hlenField]
      have hpos : pos + (2 + (2 + e.body.length)) = pos + 4 + e.body.length := by omega
      rw [hpos] at hrest
      rw [reject_of_not (by omega), ok_bind, scanServerName_encode e hsmall hbytes, ok_bind,
        ih hrest (by omega)]
      rfl

/-- With no server-name extension the loop leaves `sni` as it was. -/
theorem lastHost_of_countP_eq_zero {extensions : List Extension} {sni : Option String}
    (h : extensions.countP Extension.isServerName = 0) : lastHost sni extensions = sni := by
  induction extensions generalizing sni with
  | nil =>
      rfl
  | cons e es ih =>
      cases e with
      | serverName entries =>
          simp [List.countP_cons, Extension.isServerName] at h
      | other t b ne =>
          have htail : es.countP Extension.isServerName = 0 := by
            simpa [List.countP_cons, Extension.isServerName] using h
          have hrest : lastHost sni es = sni := ih htail
          simpa [lastHost, Extension.host] using hrest

/-- With at most one server-name extension, last and first agree. -/
theorem lastHost_eq_findSome? {extensions : List Extension}
    (h : extensions.countP Extension.isServerName ≤ 1) :
    lastHost none extensions = extensions.findSome? Extension.host := by
  induction extensions with
  | nil =>
      rfl
  | cons e es ih =>
      cases e with
      | serverName entries =>
          -- The one server-name extension stands in front, so the tail changes nothing.
          have htail : es.countP Extension.isServerName = 0 := by
            simpa [List.countP_cons, Extension.isServerName] using h
          have hnone : es.findSome? Extension.host = none := by
            rw [List.findSome?_eq_none_iff]
            intro e he
            have hother := List.countP_eq_zero.1 htail e he
            cases e with
            | serverName entries => simp [Extension.isServerName] at hother
            | other t b ne => rfl
          calc
            lastHost none (Extension.serverName entries :: es)
                = lastHost (hostName entries) es := by
                    simp [lastHost, Extension.host]
            _ = hostName entries := lastHost_of_countP_eq_zero htail
            _ = (Extension.serverName entries :: es).findSome? Extension.host := by
                  cases hh : hostName entries <;> simp [Extension.host, hh, hnone]
      | other t b ne =>
          have htail : es.countP Extension.isServerName ≤ 1 := by
            simpa [List.countP_cons, Extension.isServerName] using h
          simpa [lastHost, Extension.host, List.findSome?_cons] using ih htail

/-! ## The message -/

/-- `extensionsBlock` from the compression methods on. -/
def blockBehindCipherSuites (body : Bytes) (pos : Nat) :
    Outcome TransportParseError (Option (Nat × Nat)) := do
  let compressionLen ← index body pos
  let pos := pos + 1
  reject (pos + compressionLen.toNat > body.length) .malformed
  let pos := pos + compressionLen.toNat
  reject (pos + 2 > body.length) .malformed
  let extensionsLen ← readU16Be body pos
  let pos := pos + 2
  reject (pos + extensionsLen.toNat > body.length) .malformed
  return some (pos, pos + extensionsLen.toNat)

/-- The fields up to the cipher suites only say where the rest begins. -/
theorem extensionsBlock_eq {body : Bytes} {session cipher : Nat}
    (hsessionAt : body[34]? = some (UInt8.ofNat session)) (hsessionLe : session ≤ 255)
    (hcipherAt : At body (35 + session) (u16ToBeBytes (UInt16.ofNat cipher)))
    (hcipherLe : cipher ≤ 65535) (hlength : 37 + session + cipher ≤ body.length) :
    extensionsBlock body =
      if body.length ≤ 37 + session + cipher then ok none
      else blockBehindCipherSuites body (37 + session + cipher) := by
  have hsession : (UInt8.ofNat session).toNat = session :=
    UInt8.toNat_ofNat_of_lt' (Nat.lt_succ_of_le hsessionLe)
  have hcipher : (UInt16.ofNat cipher).toNat = cipher :=
    UInt16.toNat_ofNat_of_lt' (Nat.lt_succ_of_le hcipherLe)
  have hpos : 35 + session + 2 + cipher = 37 + session + cipher := by omega
  unfold extensionsBlock
  rw [index_eq_ok_iff.2 hsessionAt, ok_bind]
  simp only [hsession]
  rw [reject_of_not (by omega), ok_bind, reject_of_not (by omega), ok_bind,
    readU16Be_eq_ok_iff.2 hcipherAt, ok_bind]
  simp only [hcipher, hpos]
  rw [reject_of_not (by omega), ok_bind]
  rfl

namespace ClientHello

variable (ch : ClientHello)

/-- Offset of the first extension in the body. -/
def extensionsStart : Nat :=
  40 + ch.sessionId.length + ch.cipherSuites.length + ch.compressionMethods.length

theorem length_body :
    ch.body.length =
      ch.extensionsStart + (ch.extensions.flatMap Extension.encode).length := by
  simp [HelloFields.body, extensionsStart, ch.random_length]
  omega

/-- Where the length fields and the extensions stand in the body. -/
theorem layout :
    At ch.body 0 (u16ToBeBytes ch.legacyVersion) ∧
    ch.body[34]? = some (UInt8.ofNat ch.sessionId.length) ∧
    At ch.body (35 + ch.sessionId.length) (u16ToBeBytes (UInt16.ofNat ch.cipherSuites.length)) ∧
    ch.body[37 + ch.sessionId.length + ch.cipherSuites.length]? =
      some (UInt8.ofNat ch.compressionMethods.length) ∧
    At ch.body
      (38 + ch.sessionId.length + ch.cipherSuites.length + ch.compressionMethods.length)
      (u16ToBeBytes (UInt16.ofNat (ch.extensions.flatMap Extension.encode).length)) ∧
    At ch.body ch.extensionsStart (ch.extensions.flatMap Extension.encode) := by
  -- Name the body, so that unfolding its layout leaves the buffer alone.
  obtain ⟨body, hbody⟩ : ∃ body, body = ch.body := ⟨_, rfl⟩
  have hat : At body 0 ch.body := by
    rw [hbody]
    exact At.self _
  rw [← hbody]
  simp only [HelloFields.body, vec8, vec16, At.append_iff, At.cons_iff, length_u16ToBeBytes,
    ch.random_length, List.length_cons, List.length_append] at hat
  rcases hat with ⟨hversion, _, ⟨hsession, _⟩, ⟨hcipher, _⟩, ⟨hcompression, _⟩, hextensionsLen,
    hextensions⟩
  refine ⟨hversion, hsession, ?_, ?_, ?_, ?_⟩
  · convert hcipher using 1
    omega
  · convert hcompression using 2
    omega
  · convert hextensionsLen using 1
    omega
  · convert hextensions using 1
    simp only [extensionsStart]
    omega

theorem extensionsBlock_body :
    extensionsBlock ch.body = ok (some (ch.extensionsStart, ch.body.length)) := by
  have hlength := ch.length_body
  have hfits := ch.fits
  have hstart : ch.extensionsStart =
      40 + ch.sessionId.length + ch.cipherSuites.length + ch.compressionMethods.length := rfl
  have hcompression :
      (UInt8.ofNat ch.compressionMethods.length).toNat = ch.compressionMethods.length :=
    UInt8.toNat_ofNat_of_lt' (Nat.lt_succ_of_le ch.compressionMethods_le)
  have hextensions : (UInt16.ofNat (ch.extensions.flatMap Extension.encode).length).toNat =
      (ch.extensions.flatMap Extension.encode).length := toNat_ofNat_length (by omega)
  rcases ch.layout with ⟨_, hsessionAt, hcipherAt, hcompressionAt, hextensionsAt, _⟩
  -- The source advances one cursor; these are its values in closed form.
  have hpos : 37 + ch.sessionId.length + ch.cipherSuites.length + 1 +
      ch.compressionMethods.length =
      38 + ch.sessionId.length + ch.cipherSuites.length + ch.compressionMethods.length := by omega
  have hpos' : 38 + ch.sessionId.length + ch.cipherSuites.length +
      ch.compressionMethods.length + 2 = ch.extensionsStart := by omega
  rw [extensionsBlock_eq hsessionAt ch.sessionId_le hcipherAt (by omega) (by omega),
    if_neg (by omega)]
  unfold blockBehindCipherSuites
  rw [index_eq_ok_iff.2 hcompressionAt, ok_bind]
  simp only [hcompression, hpos]
  rw [reject_of_not (by omega), ok_bind, reject_of_not (by omega), ok_bind,
    readU16Be_eq_ok_iff.2 hextensionsAt, ok_bind]
  simp only [hextensions, hpos', ← hlength]
  rw [reject_of_not (by omega), ok_bind]
  rfl

/-- The report on a ClientHello. -/
def info : TlsClientHelloInfo :=
  { legacyVersion := ch.legacyVersion
    sni := ch.sni
    handshakeLen := ch.body.length }

theorem analyzeClientHelloBody_body :
    analyzeClientHelloBody ch.body ch.body.length = ok (.tlsClientHello ch.info) := by
  have hlength := ch.length_body
  have hfits := ch.fits
  have hstart : ch.extensionsStart =
      40 + ch.sessionId.length + ch.cipherSuites.length + ch.compressionMethods.length := rfl
  rcases ch.layout with ⟨hversion, _, _, _, _, hextensions⟩
  have hscan : scanExtensions ch.body ch.body.length ch.extensionsStart none = ok ch.sni := by
    rw [scanExtensions_encode (by omega) (le_refl _) ch.extensions hextensions hlength.symm,
      lastHost_eq_findSome? ch.oneServerName]
    rfl
  unfold analyzeClientHelloBody
  rw [reject_of_not (by omega), ok_bind, readU16Be_eq_ok_iff.2 hversion, ok_bind,
    ch.extensionsBlock_body, ok_bind]
  simp only [hscan]
  rfl

/-- Every well-formed ClientHello with an extensions block is read as what it says. -/
theorem analyzeTlsClientHello_record (recordVersion : UInt16) (trailing : Bytes) :
    analyzeTlsClientHello (ch.record recordVersion ++ trailing) =
      ok (.tlsClientHello
        { legacyVersion := ch.legacyVersion
          sni := ch.sni
          handshakeLen := ch.body.length }) := by
  rw [record, analyzeTlsClientHello_helloRecord ch.fits]
  exact ch.analyzeClientHelloBody_body

end ClientHello

/-- Supported versions, a list of names with an empty entry in front of the host, and padding. -/
def namedHello : ClientHello where
  legacyVersion := 0x0303
  random := List.replicate 32 0x5a
  sessionId := [1, 2, 3, 4]
  cipherSuites := [0x13, 0x01, 0xc0, 0x2f]
  compressionMethods := [0]
  extensions :=
    [.other 43 [2, 3, 4] (by decide),
      .serverName
        [{ nameType := 0, name := [] }, { nameType := 0, name := [0x61, 0x2e, 0x62] }],
      .other 21 [0, 0, 0] (by decide)]
  random_length := by decide
  sessionId_le := by decide
  compressionMethods_le := by decide
  oneServerName := by decide
  fits := by decide

theorem namedHello_read :
    namedHello.sni = some "a.b" ∧
    analyzeTlsClientHello (namedHello.record 0x0301 ++ [0x17]) =
      ok (.tlsClientHello
        { legacyVersion := 0x0303, sni := namedHello.sni, handshakeLen := 78 }) :=
  ⟨by decide +kernel, ClientHello.analyzeTlsClientHello_record namedHello 0x0301 [0x17]⟩

end Core
end FlyDpi
