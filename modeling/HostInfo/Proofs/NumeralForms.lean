import HostInfo.Proofs.Numerals

/-!
# Which texts are numerals

What a numeral of each width looks like and which number it writes, said without the readers: at
least one ASCII digit, a sign in front where there may be one, and a number that the width holds.
Each reader takes exactly the numerals of its width, and gives the number that is written.
-/

namespace HostInfo.Numeral

/-- One or more ASCII digits. -/
def IsDigits (s : List Char) : Prop := s ≠ [] ∧ ∀ c ∈ s, '0' ≤ c ∧ c ≤ '9'

/-- The digits, behind an optional sign, write the number. Zeros in front do not count. -/
inductive Writes : List Char → Int → Prop
  | plain {ds : List Char} (h : IsDigits ds) : Writes ds (Nat.ofDigitChars 10 ds 0)
  | plus {ds : List Char} (h : IsDigits ds) : Writes ('+' :: ds) (Nat.ofDigitChars 10 ds 0)
  | minus {ds : List Char} (h : IsDigits ds) : Writes ('-' :: ds) (-Nat.ofDigitChars 10 ds 0)

inductive Width where
  | uint32
  | uint64
  | int32
  | int64
deriving DecidableEq, Repr

/-- The text is a numeral of this width and writes the number. Only a signed one may start with a
minus sign. -/
def Width.Reads : Width → List Char → Int → Prop
  | .uint32, s, i => Writes s i ∧ s.head? ≠ some '-' ∧ i < 2 ^ 32
  | .uint64, s, i => Writes s i ∧ s.head? ≠ some '-' ∧ i < 2 ^ 64
  | .int32, s, i => Writes s i ∧ -2 ^ 31 ≤ i ∧ i < 2 ^ 31
  | .int64, s, i => Writes s i ∧ -2 ^ 63 ≤ i ∧ i < 2 ^ 63

/-! ## Digits and signs -/

theorem natural?_eq_some_iff {s : List Char} {n : Nat} :
    natural? s = some n ↔ IsDigits s ∧ Nat.ofDigitChars 10 s 0 = n := by
  unfold natural? IsDigits
  simp only [List.all_eq_true, isDigit_iff]
  split
  · next h =>
      rw [Option.some.injEq]
      exact ⟨fun heq => ⟨h, heq⟩, fun hboth => hboth.2⟩
  · next h =>
      constructor
      · intro hnone
        cases hnone
      · rintro ⟨hdigits, -⟩
        exact absurd hdigits h

theorem IsDigits.ne_sign {c : Char} {s : List Char} (h : IsDigits (c :: s)) : c ≠ '+' ∧ c ≠ '-' := by
  have hc := h.2 c (List.mem_cons_self ..)
  constructor
  · rintro rfl
    exact absurd hc (by decide)
  · rintro rfl
    exact absurd hc (by decide)

theorem not_writes_nil (i : Int) : ¬ Writes [] i := by
  intro h
  cases h with
  | plain h => exact h.1 rfl

theorem writes_minus_iff {s : List Char} {i : Int} :
    Writes ('-' :: s) i ↔ IsDigits s ∧ -(Nat.ofDigitChars 10 s 0 : Int) = i := by
  constructor
  · intro h
    cases h with
    | plain h => exact absurd rfl h.ne_sign.2
    | minus h => exact ⟨h, rfl⟩
  · rintro ⟨h, rfl⟩
    exact .minus h

theorem writes_plus_iff {s : List Char} {i : Int} :
    Writes ('+' :: s) i ↔ IsDigits s ∧ (Nat.ofDigitChars 10 s 0 : Int) = i := by
  constructor
  · intro h
    cases h with
    | plain h => exact absurd rfl h.ne_sign.1
    | plus h => exact ⟨h, rfl⟩
  · rintro ⟨h, rfl⟩
    exact .plus h

theorem writes_cons_iff {c : Char} {s : List Char} {i : Int} (hplus : c ≠ '+') (hminus : c ≠ '-') :
    Writes (c :: s) i ↔ IsDigits (c :: s) ∧ (Nat.ofDigitChars 10 (c :: s) 0 : Int) = i := by
  constructor
  · intro h
    cases h with
    | plain h => exact ⟨h, rfl⟩
    | plus h => exact absurd rfl hplus
    | minus h => exact absurd rfl hminus
  · rintro ⟨h, rfl⟩
    exact .plain h

/-! ## The readers -/

theorem unsigned?_plus (s : List Char) : unsigned? ('+' :: s) = natural? s := rfl

theorem unsigned?_of_ne {s : List Char} (h : s.head? ≠ some '+') : unsigned? s = natural? s := by
  unfold unsigned?
  split
  · exact absurd rfl h
  · rfl

theorem signed?_minus (s : List Char) :
    signed? ('-' :: s) = (natural? s).map fun n => -Int.ofNat n := by
  change ((natural? s).bind _).map _ = _
  cases natural? s with
  | none => rfl
  | some n => rfl

theorem signed?_of_ne {s : List Char} (h : s.head? ≠ some '-') :
    signed? s = (unsigned? s).map Int.ofNat := by
  unfold signed?
  split
  · exact absurd rfl h
  · rfl

theorem unsigned?_eq_some_iff {s : List Char} {n : Nat} :
    unsigned? s = some n ↔ Writes s n ∧ s.head? ≠ some '-' := by
  cases s with
  | nil =>
      constructor
      · intro h
        exact absurd rfl (natural?_eq_some_iff.mp h).1.1
      · rintro ⟨h, -⟩
        exact absurd h (not_writes_nil n)
  | cons c s =>
      by_cases hplus : c = '+'
      · subst hplus
        rw [unsigned?_plus, natural?_eq_some_iff, writes_plus_iff, Int.ofNat_inj]
        simp
      · rw [unsigned?_of_ne (by simpa using hplus), natural?_eq_some_iff]
        by_cases hminus : c = '-'
        · subst hminus
          constructor
          · rintro ⟨h, -⟩
            exact absurd rfl h.ne_sign.2
          · rintro ⟨-, h⟩
            exact absurd rfl h
        · rw [writes_cons_iff hplus hminus, Int.ofNat_inj]
          simp [hminus]

theorem signed?_eq_some_iff {s : List Char} {i : Int} : signed? s = some i ↔ Writes s i := by
  by_cases hminus : s.head? = some '-'
  · obtain ⟨t, rfl⟩ := List.head?_eq_some_iff.mp hminus
    rw [writes_minus_iff, signed?_minus, Option.map_eq_some_iff]
    constructor
    · rintro ⟨n, hn, rfl⟩
      obtain ⟨hdigits, rfl⟩ := natural?_eq_some_iff.mp hn
      exact ⟨hdigits, rfl⟩
    · rintro ⟨hdigits, rfl⟩
      exact ⟨_, natural?_eq_some_iff.mpr ⟨hdigits, rfl⟩, rfl⟩
  · rw [signed?_of_ne hminus, Option.map_eq_some_iff]
    constructor
    · rintro ⟨n, hn, rfl⟩
      exact (unsigned?_eq_some_iff.mp hn).1
    · intro h
      cases h with
      | plain h => exact ⟨_, unsigned?_eq_some_iff.mpr ⟨.plain h, hminus⟩, rfl⟩
      | plus h => exact ⟨_, unsigned?_eq_some_iff.mpr ⟨.plus h, hminus⟩, rfl⟩
      | minus h => exact absurd rfl hminus

/-- Without a minus sign the number is not negative. -/
theorem Writes.exists_nat {s : List Char} {i : Int} (h : Writes s i) (hminus : s.head? ≠ some '-') :
    ∃ n : Nat, i = n := by
  cases h with
  | plain h => exact ⟨_, rfl⟩
  | plus h => exact ⟨_, rfl⟩
  | minus h => exact absurd rfl hminus

theorem uint32?_eq_some_iff {s : List Char} {n : UInt32} :
    uint32? s = some n ↔ Width.uint32.Reads s n.toNat := by
  rw [uint32?, Option.bind_eq_some_iff]
  constructor
  · rintro ⟨k, hk, h⟩
    split at h
    · next hlt =>
        obtain ⟨hwrites, hminus⟩ := unsigned?_eq_some_iff.mp hk
        cases h
        rw [UInt32.toNat_ofNatLT]
        exact ⟨hwrites, hminus, by exact_mod_cast hlt⟩
    · cases h
  · rintro ⟨hwrites, hminus, -⟩
    refine ⟨n.toNat, unsigned?_eq_some_iff.mpr ⟨hwrites, hminus⟩, ?_⟩
    rw [dif_pos n.toNat_lt_size, UInt32.ofNatLT_toNat]

theorem uint64?_eq_some_iff {s : List Char} {n : UInt64} :
    uint64? s = some n ↔ Width.uint64.Reads s n.toNat := by
  rw [uint64?, Option.bind_eq_some_iff]
  constructor
  · rintro ⟨k, hk, h⟩
    split at h
    · next hlt =>
        obtain ⟨hwrites, hminus⟩ := unsigned?_eq_some_iff.mp hk
        cases h
        rw [UInt64.toNat_ofNatLT]
        exact ⟨hwrites, hminus, by exact_mod_cast hlt⟩
    · cases h
  · rintro ⟨hwrites, hminus, -⟩
    refine ⟨n.toNat, unsigned?_eq_some_iff.mpr ⟨hwrites, hminus⟩, ?_⟩
    rw [dif_pos n.toNat_lt_size, UInt64.ofNatLT_toNat]

theorem int32?_eq_some_iff {s : List Char} {i : Int32} :
    int32? s = some i ↔ Width.int32.Reads s i.toInt := by
  rw [int32?, Option.bind_eq_some_iff]
  constructor
  · rintro ⟨k, hk, h⟩
    split at h
    · next hrange =>
        cases h
        rw [Int32.toInt_ofInt_of_le hrange.1 hrange.2]
        exact ⟨signed?_eq_some_iff.mp hk, hrange⟩
    · cases h
  · rintro ⟨hwrites, hrange⟩
    refine ⟨i.toInt, signed?_eq_some_iff.mpr hwrites, ?_⟩
    rw [if_pos hrange, Int32.ofInt_toInt]

theorem int64?_eq_some_iff {s : List Char} {i : Int64} :
    int64? s = some i ↔ Width.int64.Reads s i.toInt := by
  rw [int64?, Option.bind_eq_some_iff]
  constructor
  · rintro ⟨k, hk, h⟩
    split at h
    · next hrange =>
        cases h
        rw [Int64.toInt_ofInt_of_le hrange.1 hrange.2]
        exact ⟨signed?_eq_some_iff.mp hk, hrange⟩
    · cases h
  · rintro ⟨hwrites, hrange⟩
    refine ⟨i.toInt, signed?_eq_some_iff.mpr hwrites, ?_⟩
    rw [if_pos hrange, Int64.ofInt_toInt]

/-- Whether the text is a numeral of this width, by its reader. -/
def Width.isRead : Width → List Char → Bool
  | .uint32, s => (uint32? s).isSome
  | .uint64, s => (uint64? s).isSome
  | .int32, s => (int32? s).isSome
  | .int64, s => (int64? s).isSome

theorem isSome_iff_of_values {α : Type} {x : Option α} {value : α → Int} {P : Int → Prop}
    (h : ∀ a, x = some a ↔ P (value a)) (hvalue : ∀ i, P i → ∃ a, value a = i) :
    x.isSome ↔ ∃ i, P i := by
  rw [Option.isSome_iff_exists]
  constructor
  · rintro ⟨a, ha⟩
    exact ⟨value a, (h a).mp ha⟩
  · rintro ⟨i, hi⟩
    obtain ⟨a, rfl⟩ := hvalue i hi
    exact ⟨a, (h a).mpr hi⟩

/-- Every number that a width holds is a value of its type. -/
theorem Width.isRead_iff {w : Width} {s : List Char} : w.isRead s ↔ ∃ i, w.Reads s i := by
  cases w with
  | uint32 =>
      refine isSome_iff_of_values (fun _ => uint32?_eq_some_iff) ?_
      rintro i ⟨hwrites, hminus, hlt⟩
      obtain ⟨n, rfl⟩ := hwrites.exists_nat hminus
      exact ⟨UInt32.ofNatLT n (by exact_mod_cast hlt), by rw [UInt32.toNat_ofNatLT]⟩
  | uint64 =>
      refine isSome_iff_of_values (fun _ => uint64?_eq_some_iff) ?_
      rintro i ⟨hwrites, hminus, hlt⟩
      obtain ⟨n, rfl⟩ := hwrites.exists_nat hminus
      exact ⟨UInt64.ofNatLT n (by exact_mod_cast hlt), by rw [UInt64.toNat_ofNatLT]⟩
  | int32 =>
      refine isSome_iff_of_values (fun _ => int32?_eq_some_iff) ?_
      rintro i ⟨-, hle, hlt⟩
      exact ⟨Int32.ofInt i, Int32.toInt_ofInt_of_le hle hlt⟩
  | int64 =>
      refine isSome_iff_of_values (fun _ => int64?_eq_some_iff) ?_
      rintro i ⟨-, hle, hlt⟩
      exact ⟨Int64.ofInt i, Int64.toInt_ofInt_of_le hle hlt⟩

theorem not_exists_reads_iff {s : List Char} :
    (∀ i, ¬ Width.uint32.Reads s i) ↔ uint32? s = none := by
  rw [← not_exists, ← Width.isRead_iff, Width.isRead, Option.not_isSome_iff_eq_none]

theorem exists_uint32_of_reads {s : List Char} {i : Int} (h : Width.uint32.Reads s i) :
    ∃ n : UInt32, uint32? s = some n :=
  Option.isSome_iff_exists.mp (Width.isRead_iff.mpr ⟨i, h⟩)

end HostInfo.Numeral
