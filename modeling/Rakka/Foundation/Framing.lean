import Mathlib

/-! Length-prefixed frames in a stream of bytes: four bytes of length, most significant first,
and a body of that length. -/

namespace Foundation

def bigEndian32 (n : ℕ) : List UInt8 :=
  [.ofNat (n / 2 ^ 24), .ofNat (n / 2 ^ 16), .ofNat (n / 2 ^ 8), .ofNat n]

/-- The length at the front of a stream, with what follows it; `none` while bytes of it are
missing. -/
def readLength : List UInt8 → Option (ℕ × List UInt8)
  | a :: b :: c :: d :: rest =>
    some (a.toNat * 2 ^ 24 + b.toNat * 2 ^ 16 + c.toNat * 2 ^ 8 + d.toNat, rest)
  | _ => none

def lengthPrefixed (body : List UInt8) : List UInt8 := bigEndian32 body.length ++ body

lemma length_lengthPrefixed (body : List UInt8) :
    (lengthPrefixed body).length = body.length + 4 := by
  rw [lengthPrefixed, List.length_append, Nat.add_comm]
  rfl

lemma readLength_bigEndian32 {n : ℕ} (h : n < 2 ^ 32) (rest : List UInt8) :
    readLength (bigEndian32 n ++ rest) = some (n, rest) := by
  have hbytes : (UInt8.ofNat (n / 2 ^ 24)).toNat * 2 ^ 24 + (UInt8.ofNat (n / 2 ^ 16)).toNat * 2 ^ 16 +
      (UInt8.ofNat (n / 2 ^ 8)).toNat * 2 ^ 8 + (UInt8.ofNat n).toNat = n := by
    simp only [UInt8.toNat_ofNat']
    omega
  show some (_, rest) = some (n, rest)
  rw [hbytes]

lemma readLength_lengthPrefixed {body : List UInt8} (h : body.length < 2 ^ 32) (rest : List UInt8) :
    readLength (lengthPrefixed body ++ rest) = some (body.length, body ++ rest) := by
  rw [lengthPrefixed, List.append_assoc, readLength_bigEndian32 h]

lemma readLength_cut {body cut : List UInt8} (h : body.length < 2 ^ 32)
    (hcut : cut <+: lengthPrefixed body) (hproper : cut.length < (lengthPrefixed body).length) :
    readLength cut = none ∧ cut.length < 4 ∨ ∃ rest, readLength cut = some (body.length, rest) ∧
      rest.length < body.length ∧ 4 ≤ cut.length := by
  obtain ⟨missing, hmissing⟩ := hcut
  rw [length_lengthPrefixed] at hproper
  rcases cut with _ | ⟨a, _ | ⟨b, _ | ⟨c, _ | ⟨d, rest⟩⟩⟩⟩
  · exact .inl ⟨rfl, by simp⟩
  · exact .inl ⟨rfl, by simp⟩
  · exact .inl ⟨rfl, by simp⟩
  · exact .inl ⟨rfl, by simp⟩
  · right
    have hread := readLength_lengthPrefixed h []
    rw [List.append_nil, List.append_nil, ← hmissing] at hread
    have hlength : a.toNat * 2 ^ 24 + b.toNat * 2 ^ 16 + c.toNat * 2 ^ 8 + d.toNat = body.length :=
      congrArg Prod.fst (Option.some.inj hread)
    refine ⟨rest, ?_, ?_, by simp⟩
    · rw [readLength, hlength]
    · simp only [List.length_cons] at hproper
      omega

end Foundation
