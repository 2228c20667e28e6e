import Mathlib.Data.List.Basic
import HostInfo.Os.Kernel
import HostInfo.Os.Simulated

/-!
# Renaming the process

When a system takes a name for the process and what changes then. The running system takes every
name without NUL, the simulated one every name as long as it can rename at all and is not made to
fail.
-/

namespace HostInfo

/-! ## NUL in UTF-8 -/

namespace Utf8

theorem ofNat_ne_zero {n : Nat} (h : 0x80 ≤ n) (hn : n < 0x100) : (0 : UInt8) ≠ UInt8.ofNat n := by
  intro hzero
  have hnat := congrArg UInt8.toNat hzero
  rw [UInt8.toNat_ofNat', Nat.mod_eq_of_lt hn] at hnat
  have hpos : (0 : UInt8).toNat = 0 := rfl
  omega

/-- Only NUL has a zero byte: every byte of a longer form is at least 0x80. -/
theorem zero_mem_utf8EncodeChar_iff {c : Char} : 0 ∈ String.utf8EncodeChar c ↔ c = '\x00' := by
  constructor
  · intro h
    unfold String.utf8EncodeChar at h
    dsimp only at h
    split_ifs at h with h1 h2 h3
    · have hc := congrArg UInt8.toNat (List.mem_singleton.mp h)
      rw [UInt8.toNat_ofNat', Nat.mod_eq_of_lt (by omega)] at hc
      exact Char.ext (UInt32.toNat_inj.mp hc.symm)
    -- the longer forms: no byte is below its mark
    all_goals
      simp only [List.mem_cons, List.not_mem_nil, or_false] at h
      exfalso
      revert h
      simp only [imp_false, not_or]
    · exact ⟨ofNat_ne_zero (by omega) (by omega), ofNat_ne_zero (by omega) (by omega)⟩
    · exact ⟨ofNat_ne_zero (by omega) (by omega), ofNat_ne_zero (by omega) (by omega),
        ofNat_ne_zero (by omega) (by omega)⟩
    · exact ⟨ofNat_ne_zero (by omega) (by omega), ofNat_ne_zero (by omega) (by omega),
        ofNat_ne_zero (by omega) (by omega), ofNat_ne_zero (by omega) (by omega)⟩
  · rintro rfl
    decide

theorem zero_mem_encode_iff {s : String} : 0 ∈ encode s ↔ '\x00' ∈ s.toList := by
  unfold encode
  rw [List.mem_flatMap]
  constructor
  · rintro ⟨c, hc, hzero⟩
    rw [← zero_mem_utf8EncodeChar_iff.mp hzero]
    exact hc
  · intro h
    exact ⟨'\x00', h, zero_mem_utf8EncodeChar_iff.mpr rfl⟩

end Utf8

/-! ## The running system -/

namespace Kernel

theorem nulPosition_eq_none_iff {s : String} : nulPosition? s = none ↔ '\x00' ∉ s.toList := by
  rw [nulPosition?, List.idxOf?_eq_none_iff, Utf8.zero_mem_encode_iff]

theorem rename_eq_ok_iff {name : String} {k k' : Kernel} :
    rename name k = .ok k' ↔ '\x00' ∉ name.toList ∧ k' = { k with name := some name } := by
  rw [← nulPosition_eq_none_iff, rename]
  cases nulPosition? name with
  | none =>
      constructor
      · intro h
        cases h
        exact ⟨rfl, rfl⟩
      · rintro ⟨-, rfl⟩
        rfl
  | some n =>
      constructor
      · intro h
        cases h
      · rintro ⟨h, -⟩
        cases h

theorem kind_of_rename_eq_error {name : String} {k : Kernel} {e : Failure}
    (h : rename name k = .error e) : e.kind = .format := by
  unfold rename at h
  split at h
  · cases h
  · cases h
    rfl

end Kernel

/-! ## The simulated system -/

namespace Simulated

/-- The system can rename the process and is not made to fail at it. -/
def TakesNames (s : Simulated) : Prop := s.renames = true ∧ .rename ∉ s.faults

theorem rename_eq_ok_iff {name : String} {s s' : Simulated} :
    rename name s = .ok s' ↔ s.TakesNames ∧ s' = { s with applied := s.applied ++ [name] } := by
  unfold rename guarded TakesNames
  by_cases hfault : .rename ∈ s.faults
  · rw [if_pos hfault]
    constructor
    · intro h
      cases h
    · rintro ⟨⟨-, h⟩, -⟩
      exact absurd hfault h
  · rw [if_neg hfault]
    cases s.renames with
    | false =>
        constructor
        · intro h
          cases h
        · rintro ⟨⟨h, -⟩, -⟩
          cases h
    | true =>
        constructor
        · intro h
          cases h
          exact ⟨⟨rfl, hfault⟩, rfl⟩
        · rintro ⟨-, rfl⟩
          rfl

end Simulated

end HostInfo
