import HostInfo.Numeral
import HostInfo.Proofs.Texts

/-!
# Printed numbers

A number that is printed in decimal is read back at every width that holds it and refused at a
width that does not. What is printed has digits only, so no blank of either sort, no sign and no
bracket is among it.
-/

namespace HostInfo

/-! ## Digits and blanks -/

theorem Numeral.isDigit_iff {c : Char} : c.isDigit ↔ '0' ≤ c ∧ c ≤ '9' := by
  simp [Char.isDigit, Char.le_def]

namespace Text

theorem isBlank_of_isFieldBlank {c : Char} (h : isFieldBlank c) : isBlank c := by
  simp only [isFieldBlank, decide_eq_true_eq] at h
  rcases h with rfl | rfl | rfl | rfl | rfl <;> decide

theorem isBlank_eq_false_of_isDigit {c : Char} (h : c.isDigit) : isBlank c = false := by
  rw [Bool.eq_false_iff]
  intro hb
  have hd := Numeral.isDigit_iff.mp h
  simp only [isBlank, decide_eq_true_eq] at hb
  rcases hb with ⟨-, hb⟩ | rfl | rfl | rfl | rfl | ⟨hb, -⟩ | rfl | rfl | rfl | rfl | rfl
  · exact absurd (Char.le_trans hd.1 hb) (by decide)
  · exact absurd h (by decide)
  · exact absurd h (by decide)
  · exact absurd h (by decide)
  · exact absurd h (by decide)
  · exact absurd (Char.le_trans hb hd.2) (by decide)
  all_goals exact absurd h (by decide)

theorem isFieldBlank_eq_false_of_isBlank {c : Char} (h : isBlank c = false) :
    isFieldBlank c = false := by
  rw [Bool.eq_false_iff] at h ⊢
  exact fun hb => h (isBlank_of_isFieldBlank hb)

end Text

namespace Numeral

/-! ## What a printed number consists of -/

theorem toList_toString_nat (n : Nat) : (toString n).toList = digits n := Nat.toList_repr

theorem toList_toString_uint32 (n : UInt32) : (toString n).toList = digits n.toNat :=
  toList_toString_nat n.toNat

theorem toList_toString_uint64 (n : UInt64) : (toString n).toList = digits n.toNat :=
  toList_toString_nat n.toNat

theorem not_mem_digits {c : Char} (h : c.isDigit = false) (n : Nat) : c ∉ digits n := by
  intro hc
  rw [isDigit_of_mem_digits hc] at h
  exact Bool.noConfusion h

theorem isBlank_eq_false_of_mem_digits {n : Nat} {c : Char} (h : c ∈ digits n) :
    Text.isBlank c = false :=
  Text.isBlank_eq_false_of_isDigit (isDigit_of_mem_digits h)

theorem exists_of_mem_hex {n : Nat} {c : Char} (h : c ∈ Nat.toDigits 16 n) :
    ∃ d < 16, c = Nat.digitChar d := by
  induction n using Nat.strongRecOn with
  | ind n ih =>
      by_cases hn : n < 16
      · rw [Nat.toDigits_of_lt_base hn, List.mem_singleton] at h
        exact ⟨n, hn, h⟩
      · rw [Nat.toDigits_of_base_le (by decide) (by omega), List.mem_append] at h
        rcases h with h | h
        · exact ih (n / 16) (by omega) h
        · exact ⟨n % 16, Nat.mod_lt n (by decide), List.mem_singleton.mp h⟩

theorem isBlank_eq_false_of_mem_hex {n : Nat} {c : Char} (h : c ∈ Nat.toDigits 16 n) :
    Text.isBlank c = false := by
  have hdigit : ∀ d < 16, Text.isBlank (Nat.digitChar d) = false := by decide
  obtain ⟨d, hd, rfl⟩ := exists_of_mem_hex h
  exact hdigit d hd

theorem isField_digits (n : Nat) : Text.IsField (digits n) := by
  refine ⟨digits_ne_nil n, ?_⟩
  intro c hc
  exact Text.isFieldBlank_eq_false_of_isBlank (isBlank_eq_false_of_mem_digits hc)

/-! ## Reading it back -/

theorem digits_injective : Function.Injective digits := by
  intro m n h
  have hread := unsigned_digits n
  rw [← h, unsigned_digits] at hread
  exact Option.some.inj hread

theorem signed_digits (n : Nat) : signed? (digits n) = some (n : Int) := by
  have hu := unsigned_digits n
  have hm : ∀ c ∈ digits n, c.isDigit := fun _ h => isDigit_of_mem_digits h
  generalize digits n = s at hu hm
  unfold signed?
  split
  · exact absurd (hm '-' (by simp)) (by decide)
  · rw [hu]
    rfl

theorem uint32_digits (n : UInt32) : uint32? (digits n.toNat) = some n := by
  have hn : n.toNat < UInt32.size := n.toNat_lt_size
  simp [uint32?, unsigned_digits, hn]

theorem uint64_digits (n : UInt64) : uint64? (digits n.toNat) = some n := by
  have hn : n.toNat < UInt64.size := n.toNat_lt_size
  simp [uint64?, unsigned_digits, hn]

/-! ## What each width holds -/

theorem isSome_uint32_digits (n : Nat) : (uint32? (digits n)).isSome = decide (n < 2 ^ 32) := by
  rw [uint32?, unsigned_digits, Option.bind_some]
  split <;> simp_all [UInt32.size]

theorem isSome_uint64_digits (n : Nat) : (uint64? (digits n)).isSome = decide (n < 2 ^ 64) := by
  rw [uint64?, unsigned_digits, Option.bind_some]
  split <;> simp_all [UInt64.size]

theorem isSome_int32_digits (n : Nat) : (int32? (digits n)).isSome = decide (n < 2 ^ 31) := by
  rw [int32?, signed_digits, Option.bind_some]
  split <;> simp <;> omega

theorem isSome_int64_digits (n : Nat) : (int64? (digits n)).isSome = decide (n < 2 ^ 63) := by
  rw [int64?, signed_digits, Option.bind_some]
  split <;> simp <;> omega

end Numeral

end HostInfo
