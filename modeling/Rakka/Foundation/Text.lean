import Mathlib

/-! Text as lists of characters: blank text, ASCII case, the split at the last occurrence
of a separator, and unsigned decimal numbers. -/

namespace Foundation
open List

def u32Max : ℕ := 2 ^ 32 - 1

namespace Text

def isWhitespace (c : Char) : Bool :=
  (9 ≤ c.toNat && c.toNat ≤ 13) || (8192 ≤ c.toNat && c.toNat ≤ 8202) ||
    [32, 133, 160, 5760, 8232, 8233, 8239, 8287, 12288].contains c.toNat

def trim (text : String) : List Char :=
  ((text.toList.dropWhile isWhitespace).reverse.dropWhile isWhitespace).reverse

def isBlank (text : String) : Bool := (trim text).isEmpty

def toAsciiLowercase (text : List Char) : List Char := text.map Char.toLower

def startsWith (text : List Char) (start : String) : Bool := start.toList.isPrefixOf text

def contains (text : List Char) (part : String) : Bool := decide (part.toList <:+: text)

def rsplitOnce (separator : List Char) : List Char → Option (List Char × List Char)
  | [] => if separator = [] then some ([], []) else none
  | c :: text =>
    match rsplitOnce separator text with
    | some (before, after) => some (c :: before, after)
    | none =>
      if separator.isPrefixOf (c :: text) then some ([], (c :: text).drop separator.length) else none

def parseU32 (text : List Char) : Option ℕ :=
  let digits := if text.head? = some '+' then text.tail else text
  if digits ≠ [] ∧ digits.all Char.isDigit ∧ Nat.ofDigitChars 10 digits 0 ≤ u32Max then
    some (Nat.ofDigitChars 10 digits 0)
  else none

variable {c d : Char} {separator text front before after : List Char}

lemma rsplitOnce_of_notMem (h : c ∉ text) : rsplitOnce (c :: separator) text = none := by
  induction text with
  | nil => rfl
  | cons e text ih =>
    rw [mem_cons, not_or] at h
    simp [rsplitOnce, ih h.2, h.1]

lemma rsplitOnce_append_some (h : rsplitOnce separator text = some (before, after)) :
    rsplitOnce separator (front ++ text) = some (front ++ before, after) := by
  induction front with
  | nil => exact h
  | cons e front ih => simp [rsplitOnce, ih]

lemma rsplitOnce_last (hseparator : c ∉ separator) (hafter : c ∉ after) :
    rsplitOnce (c :: separator) (front ++ c :: (separator ++ after)) = some (front, after) := by
  have hnone : rsplitOnce (c :: separator) (separator ++ after) = none :=
    rsplitOnce_of_notMem (by simp [hseparator, hafter])
  have hhead : rsplitOnce (c :: separator) (c :: (separator ++ after)) = some ([], after) := by
    simp [rsplitOnce, hnone]
  rw [rsplitOnce_append_some hhead, append_nil]

/-- What stands after an occurrence that begins before a character keeps the character. -/
theorem mem_of_rsplitOnce (hd : d ∉ separator) (hnone : rsplitOnce (c :: separator) (d :: text) = none)
    (h : rsplitOnce (c :: separator) (front ++ d :: text) = some (before, after)) : d ∈ after := by
  induction front generalizing before with
  | nil =>
    rw [nil_append, hnone] at h
    cases h
  | cons e front ih =>
    rw [cons_append, rsplitOnce] at h
    cases hlater : rsplitOnce (c :: separator) (front ++ d :: text) with
    | some split =>
      rw [hlater] at h
      cases h
      exact ih hlater
    | none =>
      simp only [hlater] at h
      split_ifs at h with hstart
      cases h
      obtain ⟨rest, hrest⟩ := isPrefixOf_iff_prefix.mp hstart
      have htail : separator ++ rest = front ++ d :: text := (List.cons.inj hrest).2
      have hmem : d ∈ separator ++ rest := by simp [htail]
      rw [← hrest, drop_left]
      exact (mem_append.mp hmem).resolve_left hd

lemma rsplitOnce_append_cases (hd : d ∉ separator)
    (h : rsplitOnce (c :: separator) (front ++ d :: text) = some (before, after)) :
    (∃ inner, rsplitOnce (c :: separator) (d :: text) = some (inner, after)) ∨ d ∈ after := by
  cases hinner : rsplitOnce (c :: separator) (d :: text) with
  | none => exact .inr (mem_of_rsplitOnce hd hinner h)
  | some split =>
    rw [rsplitOnce_append_some hinner] at h
    cases h
    exact .inl ⟨_, rfl⟩

lemma parseU32_of_mem (hmem : c ∈ text) (hdigit : c.isDigit = false) (hplus : c ≠ '+') :
    parseU32 text = none := by
  rw [parseU32, if_neg]
  rintro ⟨-, hall, -⟩
  rw [all_eq_true] at hall
  split_ifs at hall with hsign
  · cases text with
    | nil => cases hmem
    | cons e text =>
      rcases mem_cons.mp hmem with rfl | htail
      · exact hplus (Option.some.inj hsign)
      · exact absurd (hall c htail) (by simp [hdigit])
  · exact absurd (hall c hmem) (by simp [hdigit])

lemma parseU32_toString {n : ℕ} (h : n ≤ u32Max) : parseU32 (toString n).toList = some n := by
  have hdigits : ∀ c ∈ (toString n).toList, c.isDigit = true := by
    intro c hc
    rw [Nat.toString_eq_ofList_toDigits, String.toList_ofList] at hc
    exact Nat.isDigit_of_mem_toDigits (by decide) (by decide) hc
  have hvalue : Nat.ofDigitChars 10 (toString n).toList 0 = n := by simp
  have hne : (toString n).toList ≠ [] := by simp
  have hsign : (toString n).toList.head? ≠ some '+' := by
    intro hhead
    exact absurd (hdigits '+' (mem_of_mem_head? hhead)) (by decide)
  simp only [parseU32, if_neg hsign, hvalue]
  rw [if_pos ⟨hne, all_eq_true.mpr hdigits, h⟩]

lemma append_cons_inj {rest rest' : List Char} (hfront : c ∉ front) (htext : c ∉ text)
    (h : front ++ c :: rest = text ++ c :: rest') : front = text ∧ rest = rest' := by
  induction front generalizing text with
  | nil =>
    cases text with
    | nil => exact ⟨rfl, (List.cons.inj h).2⟩
    | cons e text => exact absurd (List.cons.inj h).1 (by rintro rfl; simp at htext)
  | cons d front ih =>
    cases text with
    | nil => exact absurd (List.cons.inj h).1.symm (by rintro rfl; simp at hfront)
    | cons e text =>
      obtain ⟨rfl, htail⟩ := List.cons.inj h
      obtain ⟨rfl, hrest⟩ := ih (not_mem_of_not_mem_cons hfront)
        (not_mem_of_not_mem_cons htext) htail
      exact ⟨rfl, hrest⟩

end Text
end Foundation
