import FlyDpi.Core.ClientHelloSoundness

/-!
# RecordFinality — verdicts on a growing payload

The analyzer looks at the header of the first record and at the bytes inside the length it declares.
A verdict other than `Truncated` is not revised when more bytes arrive, and while bytes of the record
are missing there is no other verdict.
-/

namespace FlyDpi
namespace Core

open Lib Lib.Bytes Lib.Outcome

/-- The length that the record header declares. -/
def declaredRecordLen (payload : Bytes) : Nat :=
  beNat ((payload.drop 3).take 2)

/-- Five bytes make a record header. -/
theorem exists_recordHeader {payload : Bytes} (h : 5 ≤ payload.length) :
    ∃ t v1 v2 l1 l2 rest, payload = t :: v1 :: v2 :: l1 :: l2 :: rest := by
  match payload, h with
  | t :: v1 :: v2 :: l1 :: l2 :: rest, _ =>
      exact ⟨t, v1, v2, l1, l2, rest, rfl⟩

/-- The analyzer has a verdict as soon as the declared record is there. -/
theorem analyzeTlsClientHello_append {p : Bytes} (h : analyzeTlsClientHello p ≠ err .truncated)
    (q : Bytes) : analyzeTlsClientHello (p ++ q) = analyzeTlsClientHello p := by
  have hheader : 5 ≤ p.length := by
    by_contra hshort
    exact h (analyzeTlsClientHello_short (by omega))
  rcases exists_recordHeader hheader with ⟨t, v1, v2, l1, l2, rest, rfl⟩
  have happend : t :: v1 :: v2 :: l1 :: l2 :: rest ++ q =
      t :: v1 :: v2 :: l1 :: l2 :: (rest ++ q) :=
    rfl
  rw [happend, analyzeTlsClientHello_cons, analyzeTlsClientHello_cons]
  rw [analyzeTlsClientHello_cons] at h
  by_cases htype : t ≠ 0x16
  · rw [if_pos htype, if_pos htype]
  · rw [if_neg htype] at h
    rw [if_neg htype, if_neg htype]
    -- the record is complete, and its bytes are those of `p`
    have hfit : beNat [l1, l2] ≤ rest.length := by
      by_contra hmore
      exact h (if_pos (by omega))
    have hfit' : beNat [l1, l2] ≤ (rest ++ q).length := by
      rw [List.length_append]
      omega
    rw [if_neg (Nat.not_lt.2 hfit'), if_neg (Nat.not_lt.2 hfit),
      List.take_append_of_le_length hfit]

/-- While bytes of the record of an accepted ClientHello are missing, the analyzer waits. -/
theorem analyzeTlsClientHello_cut {payload : Bytes} {info : TlsClientHelloInfo}
    (h : analyzeTlsClientHello payload = ok (.tlsClientHello info)) {p : Bytes}
    (hpre : p <+: payload) (hlen : p.length < 5 + declaredRecordLen payload) :
    analyzeTlsClientHello p = err .truncated := by
  by_cases hshort : p.length < 5
  · exact analyzeTlsClientHello_short hshort
  rcases exists_recordHeader (Nat.le_of_not_lt hshort) with ⟨t, v1, v2, l1, l2, rest, rfl⟩
  rcases hpre with ⟨q, rfl⟩
  have happend : t :: v1 :: v2 :: l1 :: l2 :: rest ++ q =
      t :: v1 :: v2 :: l1 :: l2 :: (rest ++ q) :=
    rfl
  rw [happend, analyzeTlsClientHello_cons] at h
  have htype : ¬ t ≠ 0x16 := by
    intro hne
    rw [if_pos hne] at h
    cases h
  have hmissing : beNat [l1, l2] > rest.length := by
    have hdeclared : declaredRecordLen (t :: v1 :: v2 :: l1 :: l2 :: rest ++ q) = beNat [l1, l2] :=
      rfl
    rw [hdeclared] at hlen
    simp only [List.length_cons] at hlen
    omega
  rw [analyzeTlsClientHello_cons, if_neg htype, if_pos hmissing]

/-- A verdict other than `Truncated` is final under appended bytes; and every prefix of an accepted
ClientHello that ends before its record does is `Truncated`. -/
theorem tlsVerdict_final :
    (∀ p q : Bytes, analyzeTlsClientHello p ≠ panic → analyzeTlsClientHello (p ++ q) ≠ panic →
      analyzeTlsClientHello p ≠ err .truncated →
        analyzeTlsClientHello (p ++ q) = analyzeTlsClientHello p) ∧
    ∀ (p q : Bytes) (info : TlsClientHelloInfo),
      analyzeTlsClientHello (p ++ q) = ok (.tlsClientHello info) →
        ∀ start, start <+: p ++ q → start.length < 5 + declaredRecordLen (p ++ q) →
          analyzeTlsClientHello start = err .truncated :=
  ⟨fun _ q _ _ h => analyzeTlsClientHello_append h q,
    fun _ _ _ h _ hpre hlen => analyzeTlsClientHello_cut h hpre hlen⟩

/-- One ClientHello, with a byte behind it and without its last byte. -/
theorem tlsVerdict_final_oneHost :
    analyzeTlsClientHello (oneHostHello ++ [0]) = analyzeTlsClientHello oneHostHello ∧
    analyzeTlsClientHello (oneHostHello.take 61) = err .truncated := by
  have hok := analyzeTlsClientHello_oneHostHello
  have hlonger : analyzeTlsClientHello (oneHostHello ++ [0]) ≠ panic := by
    rw [analyzeTlsClientHello_append (by simp [hok]), hok]
    simp
  refine ⟨tlsVerdict_final.1 oneHostHello [0] (by simp [hok]) hlonger (by simp [hok]), ?_⟩
  refine tlsVerdict_final.2 oneHostHello [] _ (by rw [List.append_nil]; exact hok) _ ?_ (by decide)
  rw [List.append_nil]
  exact List.take_prefix 61 oneHostHello

end Core
end FlyDpi
