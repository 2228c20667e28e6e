import Mathlib.Tactic.Linarith
import Mathlib.Tactic.Ring
import HostInfo.Proofs.Numerals
import HostInfo.Proofs.Rounding
import HostInfo.Size

/-!
# Amounts of memory read back

The text of an amount is read as a number and a unit. What it says is off by at most half a tenth
of the unit, and by what a binary64 number loses of a large amount; a greater amount never reads as
less, whatever the units. The unit is chosen before the number is rounded: the number is below 1024
except just below the next unit, where it is 1024.0.
-/

namespace HostInfo

/-! ## Numbers with a point -/

namespace Numeral

/-- The number that digits write, with or without a point between them. -/
def decimal? (s : List Char) : Option ℚ :=
  match Text.cutFirst? '.' s with
  | none => (natural? s).map fun n : Nat => (n : ℚ)
  | some (whole, places) =>
    (natural? whole).bind fun w =>
      (natural? places).map fun p : Nat => (w : ℚ) + (p : ℚ) / 10 ^ places.length

/-- The characters of which such a number consists. -/
def isDecimal (c : Char) : Bool := c.isDigit || c = '.'

theorem decimal_digits (n : Nat) : decimal? (digits n) = some (n : ℚ) := by
  have hpoint : '.' ∉ digits n := not_mem_digits (by decide) n
  rw [decimal?, Text.cutFirst_eq_none_iff.mpr hpoint]
  simp [natural_digits]

theorem natural_padded (width n : Nat) : natural? (padded width n) = some n := by
  have hne : padded width n ≠ [] := by simp [padded, digits_ne_nil]
  have hall : (padded width n).all Char.isDigit := by
    rw [List.all_eq_true]
    intro c hc
    rcases List.mem_append.mp hc with hc | hc
    · rw [List.eq_of_mem_replicate hc]
      decide
    · exact isDigit_of_mem_digits hc
  have hvalue : Nat.ofDigitChars 10 (padded width n) 0 = n := by
    simp [padded, digits, Nat.ofDigitChars_append, Nat.ofDigitChars_replicate_zero]
  rw [natural?, if_pos ⟨hne, hall⟩, hvalue]

theorem length_padded {width n : Nat} (hwidth : 0 < width) (h : n < 10 ^ width) :
    (padded width n).length = width := by
  have hdigits : (digits n).length ≤ width :=
    (Nat.length_toDigits_le_iff (by decide) hwidth).mpr h
  simp [padded, hdigits]

theorem decimal_withPoint {places : Nat} (h : 0 < places) (n : Nat) :
    decimal? (withPoint places n) = some ((n : ℚ) / 10 ^ places) := by
  have hpoint : '.' ∉ digits (n / 10 ^ places) := not_mem_digits (by decide) _
  have hlength : (padded places (n % 10 ^ places)).length = places :=
    length_padded h (Nat.mod_lt n (Nat.pow_pos (by decide)))
  have hsplit : (n : ℚ) = (n / 10 ^ places : Nat) * 10 ^ places + (n % 10 ^ places : Nat) := by
    have hn := Nat.div_add_mod' n (10 ^ places)
    exact_mod_cast hn.symm
  rw [withPoint, if_neg (Nat.ne_of_gt h), decimal?, Text.cutFirst_append hpoint]
  dsimp only
  rw [natural_digits, Option.bind_some, natural_padded, Option.map_some, hlength, Option.some_inj]
  rw [hsplit, add_div, mul_div_cancel_right₀ _ (by positivity)]

theorem isDecimal_of_mem_digits {n : Nat} {c : Char} (h : c ∈ digits n) : isDecimal c := by
  simp [isDecimal, isDigit_of_mem_digits h]

theorem isDecimal_of_mem_withPoint {places n : Nat} {c : Char} (h : c ∈ withPoint places n) :
    isDecimal c := by
  unfold withPoint at h
  split at h
  · exact isDecimal_of_mem_digits h
  · rcases List.mem_append.mp h with h | h
    · exact isDecimal_of_mem_digits h
    · rcases List.mem_cons.mp h with rfl | h
      · decide
      · rcases List.mem_append.mp h with h | h
        · rw [List.eq_of_mem_replicate h]
          decide
        · exact isDecimal_of_mem_digits h

end Numeral

/-! ## Units -/

namespace SizeUnit

def all : List SizeUnit := [.byte, .kibi, .mebi, .gibi]

/-- The unit of which this is the label in one of the styles. -/
def ofLabel? (label : List Char) : Option SizeUnit :=
  all.find? fun u => label = (u.label .compact).toList ∨ label = (u.label .detail).toList

theorem ofLabel_label (style : Style) (u : SizeUnit) :
    ofLabel? (u.label style).toList = some u := by
  cases style <;> cases u <;> decide

theorem bytes_pos (u : SizeUnit) : 0 < u.bytes := by
  cases u <;> decide

theorem exists_bytes_eq (u : SizeUnit) : ∃ k ≤ 30, u.bytes = 2 ^ k := by
  cases u with
  | byte => exact ⟨0, by decide, rfl⟩
  | kibi => exact ⟨10, by decide, rfl⟩
  | mebi => exact ⟨20, by decide, rfl⟩
  | gibi => exact ⟨30, by decide, rfl⟩

/-- Greater amounts have the same unit or a greater one, which the smaller amount does not reach. -/
theorem fitting_of_le {m n : Nat} (h : m ≤ n) :
    fitting m = fitting n ∨
      m < 1024 * (fitting m).bytes ∧ 1024 * (fitting m).bytes ≤ (fitting n).bytes ∧
        (fitting n).bytes ≤ n := by
  unfold fitting
  split_ifs <;> simp [bytes] at * <;> omega

theorem fitting_eq_byte_iff {n : Nat} : fitting n = .byte ↔ n < 1024 := by
  unfold fitting
  split_ifs <;> simp [bytes] at * <;> omega

theorem bytes_fitting_le {n : Nat} (h : fitting n ≠ .byte) : (fitting n).bytes ≤ n := by
  unfold fitting at *
  split_ifs at * <;> trivial

theorem lt_of_fitting_ne_gibi {n : Nat} (h : fitting n ≠ .gibi) :
    n < 1024 * (fitting n).bytes := by
  unfold fitting at *
  split_ifs at * <;> simp [bytes] at * <;> omega

end SizeUnit

namespace Size

open Binary64 SizeUnit

/-! ## Tenths of a unit -/

/-- An amount in tenths of a unit, as it is rounded. -/
def tenths (u : SizeUnit) (n : Nat) : Nat := roundHalfEven (quantaOf n * 10) (u.bytes * one)

theorem unit_quanta_pos (u : SizeUnit) : 0 < u.bytes * one := Nat.mul_pos u.bytes_pos one_quanta_pos

theorem tenths_mono {m n : Nat} (h : m ≤ n) (u : SizeUnit) : tenths u m ≤ tenths u n :=
  roundHalfEven_mono (Nat.mul_le_mul_right 10 (quantaOf_mono h)) _

theorem tenths_mul {u : SizeUnit} {m : Nat} (h : m * u.bytes ≤ 2 ^ 53) :
    tenths u (m * u.bytes) = m * 10 := by
  have hquanta : quantaOf (m * u.bytes) * 10 = m * 10 * (u.bytes * one) := by
    rw [quantaOf_of_le h]
    ring
  rw [tenths, hquanta, roundHalfEven_mul (unit_quanta_pos u)]

theorem tenths_error {n : Nat} (h : n < 2 ^ 64) (u : SizeUnit) :
    2 * (tenths u n * u.bytes) ≤ 20 * (n + 1024) + u.bytes ∧
      20 * n ≤ 2 * (tenths u n * u.bytes) + u.bytes + 20 * 1024 := by
  have hupper := two_mul_roundHalfEven_le (quantaOf n * 10) (u.bytes * one)
  have hlower := le_two_mul_roundHalfEven (unit_quanta_pos u) (quantaOf n * 10)
  obtain ⟨hquanta, hquanta'⟩ := quantaOf_error h
  rw [← tenths] at hupper hlower
  constructor
  · refine Nat.le_of_mul_le_mul_right ?_ one_quanta_pos
    linarith
  · refine Nat.le_of_mul_le_mul_right ?_ one_quanta_pos
    linarith

theorem tenths_error_of_le {n : Nat} (h : n ≤ 2 ^ 53) (u : SizeUnit) :
    2 * (tenths u n * u.bytes) ≤ 20 * n + u.bytes ∧
      20 * n ≤ 2 * (tenths u n * u.bytes) + u.bytes := by
  have hupper := two_mul_roundHalfEven_le (quantaOf n * 10) (u.bytes * one)
  have hlower := le_two_mul_roundHalfEven (unit_quanta_pos u) (quantaOf n * 10)
  rw [← tenths, quantaOf_of_le h] at hupper hlower
  constructor
  · refine Nat.le_of_mul_le_mul_right ?_ one_quanta_pos
    linarith
  · refine Nat.le_of_mul_le_mul_right ?_ one_quanta_pos
    linarith

/-! ## Texts -/

/-- What the text of an amount says: a number and a unit. -/
structure Reading where
  number : ℚ
  unit : SizeUnit
deriving DecidableEq

def Reading.bytes (r : Reading) : ℚ := r.number * r.unit.bytes

/-- The number in front of a text, as it is written. -/
def numberOf (s : String) : List Char := s.toList.takeWhile Numeral.isDecimal

def ofText? (s : String) : Option Reading :=
  (Numeral.decimal? (numberOf s)).bind fun number =>
    (SizeUnit.ofLabel? (s.toList.dropWhile Numeral.isDecimal)).map fun unit => ⟨number, unit⟩

/-- What an amount is shown as. -/
def shown (n : Nat) : Reading := ⟨tenths (fitting n) n / 10, fitting n⟩

theorem toList_fixed {n : Nat} (h : n < 2 ^ 64) (u : SizeUnit) :
    ((Binary64.ofNat n / Binary64.ofNat u.bytes).fixed 1).toList =
      Numeral.withPoint 1 (tenths u n) := by
  obtain ⟨k, hk, hbytes⟩ := u.exists_bytes_eq
  obtain ⟨r, hr, hcount⟩ := exists_ofNat_div_two_pow h (k := k) (by omega)
  have hplaces : Quanta.inPlaces 1 r = tenths u n := by
    have hscale : r.count * 10 * 2 ^ k = quantaOf n * 10 := by
      rw [← hcount, Nat.mul_right_comm]
    rw [tenths, ← hscale, hbytes, Nat.mul_comm (2 ^ k) one,
      roundHalfEven_mul_mul_right (Nat.two_pow_pos k), Quanta.inPlaces, Nat.pow_one]
  rw [hbytes, hr, fixed, hplaces]
  simp

/-- Bytes are written as a whole number, all else with one place. -/
theorem toList_numberText (n : UInt64) :
    (numberText n).toList =
      if fitting n.toNat = .byte then Numeral.digits n.toNat
      else Numeral.withPoint 1 (tenths (fitting n.toNat) n.toNat) := by
  unfold numberText
  split
  · next hbyte => rw [if_pos hbyte, String.toList_ofList]
  · next hother =>
      rw [if_neg hother]
      exact toList_fixed n.toNat_lt (fitting n.toNat)

theorem isDecimal_of_mem_numberText {n : UInt64} {c : Char} (h : c ∈ (numberText n).toList) :
    Numeral.isDecimal c := by
  rw [toList_numberText] at h
  split at h
  · exact Numeral.isDecimal_of_mem_digits h
  · exact Numeral.isDecimal_of_mem_withPoint h

theorem number_shown_of_lt {n : Nat} (h : n < 1024) : (shown n).number = n := by
  have htenths : tenths .byte n = n * 10 := by
    have hexact := tenths_mul (u := .byte) (m := n) (by simp [bytes]; omega)
    rwa [bytes, Nat.mul_one] at hexact
  simp [shown, fitting_eq_byte_iff.mpr h, htenths]

theorem decimal_numberText (n : UInt64) :
    Numeral.decimal? (numberText n).toList = some (shown n.toNat).number := by
  rw [toList_numberText]
  split
  · next hbyte =>
      rw [Numeral.decimal_digits, number_shown_of_lt (fitting_eq_byte_iff.mp hbyte)]
  · rw [Numeral.decimal_withPoint Nat.one_pos, pow_one]
    rfl

theorem label_cases (style : Style) (u : SizeUnit) :
    ∃ c rest, (u.label style).toList = c :: rest ∧ Numeral.isDecimal c = false := by
  cases style <;> cases u <;> exact ⟨_, _, rfl, by decide⟩

theorem numberOf_text (style : Style) (n : UInt64) :
    numberOf (text style n) = (numberText n).toList := by
  obtain ⟨c, rest, hlabel, hc⟩ := label_cases style (fitting n.toNat)
  rw [numberOf, text, String.toList_append,
    List.takeWhile_append_of_pos fun _ => isDecimal_of_mem_numberText, hlabel,
    List.takeWhile_cons_of_neg (by simp [hc]), List.append_nil]

theorem ofText_text (style : Style) (n : UInt64) :
    ofText? (text style n) = some (shown n.toNat) := by
  obtain ⟨c, rest, hlabel, hc⟩ := label_cases style (fitting n.toNat)
  have hunit : (text style n).toList.dropWhile Numeral.isDecimal =
      ((fitting n.toNat).label style).toList := by
    rw [text, String.toList_append,
      List.dropWhile_append_of_pos fun _ => isDecimal_of_mem_numberText, hlabel,
      List.dropWhile_cons_of_neg (by simp [hc])]
  rw [ofText?, numberOf_text, decimal_numberText, hunit, Option.bind_some, ofLabel_label]
  rfl

/-! ## The error -/

/-- How far the text of an amount may be off. -/
structure Reading.Near (r : Reading) (n : Nat) : Prop where
  error_le : n ≤ 2 ^ 53 → |r.bytes - n| ≤ r.unit.bytes / 20
  /-- Larger numbers are rounded twice. -/
  error_le_of_lt : 2 ^ 53 < n → |r.bytes - n| ≤ r.unit.bytes / 20 + 1024
  exact : n < 1024 → r.bytes = n

theorem bytes_shown (n : Nat) :
    (shown n).bytes = (tenths (fitting n) n * (fitting n).bytes : Nat) / 10 := by
  rw [Reading.bytes, shown, Nat.cast_mul, div_mul_eq_mul_div]

theorem near_shown {n : Nat} (h : n < 2 ^ 64) : (shown n).Near n := by
  constructor
  · intro hle
    obtain ⟨hupper, hlower⟩ := tenths_error_of_le hle (fitting n)
    have hupper' : (2 : ℚ) * (tenths (fitting n) n * (fitting n).bytes : Nat) ≤
        20 * n + (fitting n).bytes := by exact_mod_cast hupper
    have hlower' : (20 : ℚ) * n ≤
        2 * (tenths (fitting n) n * (fitting n).bytes : Nat) + (fitting n).bytes := by
      exact_mod_cast hlower
    rw [bytes_shown, abs_le]
    constructor <;> simp only [shown] <;> linarith
  · intro _
    obtain ⟨hupper, hlower⟩ := tenths_error h (fitting n)
    have hupper' : (2 : ℚ) * (tenths (fitting n) n * (fitting n).bytes : Nat) ≤
        20 * (n + 1024) + (fitting n).bytes := by exact_mod_cast hupper
    have hlower' : (20 : ℚ) * n ≤
        2 * (tenths (fitting n) n * (fitting n).bytes : Nat) + (fitting n).bytes + 20 * 1024 := by
      exact_mod_cast hlower
    rw [bytes_shown, abs_le]
    constructor <;> simp only [shown] <;> linarith
  · intro hlt
    have hunit : (shown n).unit = .byte := fitting_eq_byte_iff.mpr hlt
    rw [Reading.bytes, number_shown_of_lt hlt, hunit]
    simp [bytes]

/-! ## The order -/

/-- What is shown in a unit is at most 1024 of it where the next unit is not reached. -/
theorem tenths_le {u : SizeUnit} {n : Nat} (h : n ≤ 1024 * u.bytes) : tenths u n ≤ 10240 := by
  have hunits : 1024 * u.bytes ≤ 2 ^ 53 := by
    cases u <;> decide
  calc tenths u n ≤ tenths u (1024 * u.bytes) := tenths_mono h u
    _ = 10240 := tenths_mul hunits

theorem ten_le_tenths {u : SizeUnit} {n : Nat} (h : u.bytes ≤ n) : 10 ≤ tenths u n := by
  have hunit : 1 * u.bytes ≤ 2 ^ 53 := by
    cases u <;> decide
  calc 10 = tenths u (1 * u.bytes) := (tenths_mul hunit).symm
    _ ≤ tenths u n := tenths_mono (by rwa [Nat.one_mul]) u

theorem bytes_shown_mono {m n : Nat} (h : m ≤ n) : (shown m).bytes ≤ (shown n).bytes := by
  have hle : tenths (fitting m) m * (fitting m).bytes ≤
      tenths (fitting n) n * (fitting n).bytes := by
    rcases fitting_of_le h with hsame | ⟨hm, hnext, hn⟩
    · rw [hsame]
      exact Nat.mul_le_mul_right _ (tenths_mono h _)
    · -- 1024 of the smaller unit stands between the two
      calc tenths (fitting m) m * (fitting m).bytes
          ≤ 10240 * (fitting m).bytes := Nat.mul_le_mul_right _ (tenths_le (Nat.le_of_lt hm))
        _ ≤ 10 * (fitting n).bytes := by omega
        _ ≤ tenths (fitting n) n * (fitting n).bytes :=
          Nat.mul_le_mul_right _ (ten_le_tenths hn)
  rw [bytes_shown, bytes_shown]
  have hcast : ((tenths (fitting m) m * (fitting m).bytes : Nat) : ℚ) ≤
      (tenths (fitting n) n * (fitting n).bytes : Nat) := by exact_mod_cast hle
  linarith

/-- **The text of an amount is near it and keeps the order.** Whatever the style, the text is read
as a number of some unit that is off by at most a twentieth of the unit, and above 2 ^ 53 by 1024
bytes more; below 1024 it is exact. A greater amount is never read as less, and both styles write
the same number. -/
theorem text_near_and_ordered :
    (∀ (style : Style) (n : UInt64),
      ∃ r, ofText? (text style n) = some r ∧ r.Near n.toNat) ∧
    (∀ (style style' : Style) (m n : UInt64), m ≤ n →
      ∃ r s, ofText? (text style m) = some r ∧ ofText? (text style' n) = some s ∧
        r.bytes ≤ s.bytes) ∧
    ∀ n : UInt64, numberOf (text .compact n) = numberOf (text .detail n) := by
  refine ⟨?_, ?_, ?_⟩
  · intro style n
    exact ⟨_, ofText_text style n, near_shown n.toNat_lt⟩
  · intro style style' m n h
    exact ⟨_, _, ofText_text style m, ofText_text style' n,
      bytes_shown_mono (UInt64.le_iff_toNat_le.mp h)⟩
  · intro n
    rw [numberOf_text, numberOf_text]

/-- On both sides of a unit, and where the amount itself is rounded. -/
theorem text_near_and_ordered_at_ends :
    (∃ r s, ofText? "1024.0K" = some r ∧ ofText? "1.0 MiB" = some s ∧ r.bytes ≤ s.bytes) ∧
    ∃ r, ofText? "17179869184.0G" = some r ∧ r.Near (2 ^ 64 - 1) := by
  obtain ⟨hnear, hordered, -⟩ := text_near_and_ordered
  have hbelow : text .compact 1048575 = "1024.0K" := by decide +kernel
  have habove : text .detail 1048576 = "1.0 MiB" := by decide +kernel
  have hlast : text .compact 18446744073709551615 = "17179869184.0G" := by decide +kernel
  constructor
  · rw [← hbelow, ← habove]
    exact hordered .compact .detail 1048575 1048576 (by decide)
  · rw [← hlast]
    exact hnear .compact 18446744073709551615

/-! ## The number in front of a unit -/

/-- In front of the middle units stands a number from 1 up to, but not including, 1024. -/
def Reading.Fits (r : Reading) : Prop :=
  r.unit = .kibi ∨ r.unit = .mebi → 1 ≤ r.number ∧ r.number < 1024

/-- The amount does not reach 1024 units, but is nearer to them than to 1023.9 units. -/
def JustBelow (u : SizeUnit) (n : Nat) : Prop := 20479 * u.bytes ≤ 20 * n ∧ n < 1024 * u.bytes

instance (u : SizeUnit) (n : Nat) : Decidable (JustBelow u n) :=
  inferInstanceAs (Decidable (_ ∧ _))

theorem tenths_lt_iff {u : SizeUnit} (hu : u = .kibi ∨ u = .mebi) {n : Nat}
    (h : n < 1024 * u.bytes) : tenths u n < 10240 ↔ 20 * n < 20479 * u.bytes := by
  have hexact : n ≤ 2 ^ 53 := by
    rcases hu with rfl | rfl <;> simp only [bytes] at h <;> omega
  obtain ⟨hupper, hlower⟩ := tenths_error_of_le hexact u
  -- no amount lies half-way between the last tenth and the next unit
  rcases hu with rfl | rfl
  · simp only [bytes] at *
    omega
  · simp only [bytes] at *
    omega

section JustBelow

variable {u : SizeUnit} {n : Nat}

theorem fitting_of_justBelow (hu : u = .kibi ∨ u = .mebi) (h : JustBelow u n) :
    fitting n = u := by
  obtain ⟨hlower, hupper⟩ := h
  unfold fitting
  rcases hu with rfl | rfl <;> split_ifs <;> simp [bytes] at * <;> omega

theorem shown_of_justBelow (hu : u = .kibi ∨ u = .mebi) (h : JustBelow u n) :
    shown n = ⟨1024, u⟩ := by
  have htenths : tenths u n = 10240 := by
    refine Nat.le_antisymm (tenths_le (Nat.le_of_lt h.2)) ?_
    rw [← Nat.not_lt, tenths_lt_iff hu h.2, Nat.not_lt]
    exact h.1
  rw [shown, fitting_of_justBelow hu h, htenths]
  norm_num

theorem fits_shown_iff : (shown n).Fits ↔ ∀ u, u = .kibi ∨ u = .mebi → ¬ JustBelow u n := by
  constructor
  · intro hfits u hu hbelow
    rw [shown_of_justBelow hu hbelow] at hfits
    exact absurd (hfits hu).2 (lt_irrefl _)
  · intro hnot (hunit : fitting n = .kibi ∨ fitting n = .mebi)
    have hother : fitting n ≠ .byte ∧ fitting n ≠ .gibi := by
      rcases hunit with h | h <;> simp [h]
    have hlt := lt_of_fitting_ne_gibi hother.2
    have hge : 10 ≤ tenths (fitting n) n := ten_le_tenths (bytes_fitting_le hother.1)
    have htenths : tenths (fitting n) n < 10240 := by
      rw [tenths_lt_iff hunit hlt, ← Nat.not_le]
      exact fun hle => hnot _ hunit ⟨hle, hlt⟩
    have hge' : (10 : ℚ) ≤ tenths (fitting n) n := by exact_mod_cast hge
    have htenths' : (tenths (fitting n) n : ℚ) < 10240 := by exact_mod_cast htenths
    constructor <;> simp only [shown] <;> linarith

end JustBelow

/-- **The number fits its unit unless the amount is just below the next one.** In front of the
middle units stands a number from 1 to 1024. It is 1024 exactly if the amount is nearer to the next
unit than to the last tenth before it, because the unit is chosen before the number is rounded. -/
theorem number_fits_iff (style : Style) (n : UInt64) :
    ∃ r, ofText? (text style n) = some r ∧
      (r.Fits ↔ ∀ u, u = .kibi ∨ u = .mebi → ¬ JustBelow u n.toNat) ∧
      ∀ u, u = .kibi ∨ u = .mebi → JustBelow u n.toNat → r = ⟨1024, u⟩ :=
  ⟨_, ofText_text style n, fits_shown_iff, fun _ hu h => shown_of_justBelow hu h⟩

/-- The last amount that fits and the first one that does not. -/
theorem number_fits_iff_around :
    (∃ r, ofText? "1023.9 KiB" = some r ∧ r.Fits) ∧
    ∃ r, ofText? "1024.0 KiB" = some r ∧ r = ⟨1024, .kibi⟩ := by
  have hlast : text .detail 1048524 = "1023.9 KiB" := by decide +kernel
  have hfirst : text .detail 1048525 = "1024.0 KiB" := by decide +kernel
  constructor
  · obtain ⟨r, hr, hfits, -⟩ := number_fits_iff .detail 1048524
    refine ⟨r, hlast ▸ hr, hfits.mpr ?_⟩
    rintro u (rfl | rfl) <;> decide
  · obtain ⟨r, hr, -, hrounded⟩ := number_fits_iff .detail 1048525
    exact ⟨r, hfirst ▸ hr, hrounded .kibi (.inl rfl) (by decide)⟩

/-- One byte below a mebibyte the number is that of the next unit. -/
theorem number_not_below_next :
    text .compact 1048575 = "1024.0K" ∧
    ¬ ∀ (style : Style) (n : UInt64), ∃ r, ofText? (text style n) = some r ∧ r.Fits := by
  refine ⟨by decide +kernel, ?_⟩
  intro h
  obtain ⟨r, hr, hfits⟩ := h .compact 1048575
  rw [ofText_text] at hr
  cases hr
  exact fits_shown_iff.mp hfits .kibi (.inl rfl) (by decide)

end Size

end HostInfo
