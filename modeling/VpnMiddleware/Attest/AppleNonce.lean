import VpnMiddleware.Attest.AppAttestVerifier
import VpnMiddleware.Core.Der

/-!
# The grammar of the Apple nonce extension

`SEQUENCE { [1] { OCTET STRING n } }` in DER, against the cursor parser, which
steps over the two outer lengths.
-/

namespace VpnMiddleware.AppleNonce

open VpnMiddleware.AppAttestVerifier VpnMiddleware.Der

/-- `SEQUENCE { [1] { OCTET STRING n } }`. -/
def encodeNonce (n : List UInt8) : List UInt8 :=
  tlv 0x30 (tlv 0xa1 (tlv 0x04 n))

/-- The layout that the parser looks for, with any two length bytes. -/
def layout (sequenceLength contextLength : UInt8) (n : List UInt8) :
    List UInt8 :=
  [0x30, sequenceLength, 0xa1, contextLength, 0x04, 0x20] ++ n

theorem encodeNonce_eq {n : List UInt8} (hlength : n.length = 32) :
    encodeNonce n = layout 0x24 0x22 n := by
  have hoctets : tlv 0x04 n = [0x04, 0x20] ++ n := by
    rw [tlv_of_short (by omega), hlength]
    rfl
  have hcontext : tlv 0xa1 ([0x04, 0x20] ++ n) =
      [0xa1, 0x22, 0x04, 0x20] ++ n := by
    rw [tlv_of_short (by simp [hlength])]
    simp [hlength]
  rw [encodeNonce, hoctets, hcontext, tlv_of_short (by simp [hlength])]
  simp [hlength, layout]

/-- The positions of `raw` that the cursor compares, up to the first that does
not match.  Past the end a read gives `undefined`, which matches nothing. -/
def positionsRead (raw : List UInt8) : List ℕ :=
  0 :: if raw[0]? ≠ some 0x30 then [] else
    2 :: if raw[2]? ≠ some 0xa1 then [] else
      4 :: if raw[4]? ≠ some 0x04 then [] else [5]

/-- The parser gives a nonce exactly for its encoding, and none where the
cursor meets the end of the value. -/
structure AcceptsExactly (value : List UInt8) : Prop where
  nonce : ∀ cert n, cert.appleNonce = some value →
    (extractAppleNonce cert = some n ↔ n.length = 32 ∧ value = encodeNonce n)
  inRange : ∀ cert, cert.appleNonce = some value →
    ∀ i ∈ positionsRead value, value.length ≤ i → extractAppleNonce cert = none

/-- The layout with other lengths than those of its content. -/
def HasOtherLengths (value : List UInt8) : Prop :=
  ∃ sequenceLength contextLength n, n.length = 32 ∧
    value = layout sequenceLength contextLength n ∧
    (sequenceLength ≠ 0x24 ∨ contextLength ≠ 0x22)

/-! ## What the parser accepts -/

section Parser

variable {cert : Certificate} {value n : List UInt8}

theorem extractAppleNonce_layout {sequenceLength contextLength : UInt8}
    (hvalue : cert.appleNonce = some (layout sequenceLength contextLength n))
    (hlength : n.length = 32) : extractAppleNonce cert = some n := by
  simp [extractAppleNonce, hvalue, layout, hlength, List.take_of_length_le]

private theorem exists_six_bytes (hlength : value.length = 6 + 32) :
    ∃ b0 b1 b2 b3 b4 b5 rest,
      value = b0 :: b1 :: b2 :: b3 :: b4 :: b5 :: rest ∧ rest.length = 32 := by
  rcases value with _ | ⟨b0, _ | ⟨b1, _ | ⟨b2, _ | ⟨b3, _ | ⟨b4, _ | ⟨b5, rest⟩⟩⟩⟩⟩⟩
  all_goals try simp at hlength
  exact ⟨b0, b1, b2, b3, b4, b5, rest, rfl, hlength⟩

theorem exists_layout (hvalue : cert.appleNonce = some value)
    (hnonce : extractAppleNonce cert = some n) :
    ∃ sequenceLength contextLength, n.length = 32 ∧
      value = layout sequenceLength contextLength n := by
  simp only [extractAppleNonce, hvalue, Option.bind_eq_bind,
    Option.bind_some] at hnonce
  split_ifs at hnonce with hsequence hcontext hoctets hlength htrailing
  obtain ⟨b0, b1, b2, b3, b4, b5, rest, rfl, hrest⟩ :=
    exists_six_bytes (not_not.mp htrailing).symm
  -- four of the six bytes in front of the nonce are known
  simp only [List.getElem?_cons_zero, List.getElem?_cons_succ, ne_eq,
    Option.some.injEq, not_not, List.drop_succ_cons,
    List.drop_zero] at hsequence hcontext hoctets hlength hnonce
  subst hsequence hcontext hoctets hlength
  obtain rfl : rest = n := by
    rw [← hnonce, List.take_of_length_le (by omega)]
  exact ⟨b1, b3, hrest, rfl⟩

theorem extractAppleNonce_eq_some_iff (hvalue : cert.appleNonce = some value) :
    extractAppleNonce cert = some n ↔ ∃ sequenceLength contextLength,
      n.length = 32 ∧ value = layout sequenceLength contextLength n := by
  constructor
  · exact exists_layout hvalue
  · rintro ⟨sequenceLength, contextLength, hlength, rfl⟩
    exact extractAppleNonce_layout hvalue hlength

theorem none_of_read_past_end (hvalue : cert.appleNonce = some value) {i : ℕ}
    (hread : i ∈ positionsRead value) (hpast : value.length ≤ i) :
    extractAppleNonce cert = none := by
  by_contra hsome
  obtain ⟨n, hnonce⟩ := Option.ne_none_iff_exists'.mp hsome
  obtain ⟨_, _, hlength, rfl⟩ := exists_layout hvalue hnonce
  have hbelow : i ≤ 5 := by
    simp [positionsRead, layout] at hread
    omega
  simp [layout, hlength] at hpast
  omega

end Parser

theorem layout_injective {a b a' b' : UInt8} {n n' : List UInt8}
    (heq : layout a b n = layout a' b' n') : a = a' ∧ b = b' ∧ n = n' := by
  simpa [layout] using heq

/-- The parser accepts exactly its grammar on every value but the layouts whose
outer lengths are wrong. -/
theorem acceptsExactly_iff (value : List UInt8) :
    AcceptsExactly value ↔ ¬ HasOtherLengths value := by
  constructor
  · rintro haccepts ⟨sequenceLength, contextLength, n, hlength, rfl, hother⟩
    obtain ⟨-, hencoded⟩ := (haccepts.nonce ⟨[], some _, none⟩ n rfl).mp
      (extractAppleNonce_layout rfl hlength)
    rw [encodeNonce_eq hlength] at hencoded
    obtain ⟨hsequence, hcontext, -⟩ := layout_injective hencoded
    exact hother.elim (fun hne => hne hsequence) fun hne => hne hcontext
  · intro hplain
    refine ⟨fun cert n hvalue => ?_, fun cert hvalue i hread hpast =>
      none_of_read_past_end hvalue hread hpast⟩
    rw [extractAppleNonce_eq_some_iff hvalue]
    constructor
    · rintro ⟨sequenceLength, contextLength, hlength, rfl⟩
      refine ⟨hlength, ?_⟩
      rw [encodeNonce_eq hlength]
      by_contra hne
      refine hplain ⟨sequenceLength, contextLength, n, hlength, rfl, ?_⟩
      by_contra hsame
      rw [not_or, not_not, not_not] at hsame
      exact hne (by rw [hsame.1, hsame.2])
    · rintro ⟨hlength, rfl⟩
      exact ⟨0x24, 0x22, hlength, encodeNonce_eq hlength⟩

/-- Two indefinite lengths in front of 32 bytes. -/
theorem indefinite_lengths_accepted :
    ¬ AcceptsExactly (layout 0x80 0x80 (List.replicate 32 0)) := by
  intro haccepts
  have hencoded := (haccepts.nonce ⟨[], some _, none⟩ (List.replicate 32 0)
    rfl).mp (extractAppleNonce_layout rfl (by decide))
  exact absurd hencoded.2 (by decide +kernel)

end VpnMiddleware.AppleNonce
