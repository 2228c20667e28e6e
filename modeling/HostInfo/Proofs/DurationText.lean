import Mathlib.Order.Bounds.Basic
import Mathlib.Tactic.SplitIfs
import HostInfo.Duration
import HostInfo.Proofs.Clock
import HostInfo.Proofs.Numerals
import HostInfo.Proofs.Rounding

/-!
# Lengths of time read back

The text of a duration is read as a list of numbers with their units. A whole number of seconds is
cut off at the last unit that is shown and nowhere else, so a longer duration never reads as a
shorter one. Milliseconds are divided in binary64, which never takes them over a whole second.
-/

namespace HostInfo.Duration

open Binary64

/-! ## Parts of a text -/

inductive TimeUnit where
  | day
  | hour
  | minute
  | second
deriving DecidableEq, Repr

namespace TimeUnit

def seconds : TimeUnit → Nat
  | .day => 86400
  | .hour => 3600
  | .minute => 60
  | .second => 1

def symbol : TimeUnit → Char
  | .day => 'd'
  | .hour => 'h'
  | .minute => 'm'
  | .second => 's'

def ofSymbol? (c : Char) : Option TimeUnit :=
  [day, hour, minute, second].find? (·.symbol = c)

theorem ofSymbol_symbol (u : TimeUnit) : ofSymbol? u.symbol = some u := by
  cases u <;> decide

theorem isDigit_symbol (u : TimeUnit) : u.symbol.isDigit = false := by
  cases u <;> decide

theorem symbol_ne_space (u : TimeUnit) : u.symbol ≠ ' ' := by
  cases u <;> decide

theorem seconds_pos (u : TimeUnit) : 0 < u.seconds := by
  cases u <;> decide

end TimeUnit

/-- A number with its unit. -/
structure Part where
  count : Nat
  unit : TimeUnit
deriving DecidableEq, Repr

def Part.seconds (p : Part) : Nat := p.count * p.unit.seconds

/-- What the parts add up to. -/
def total : List Part → Nat
  | [] => 0
  | p :: parts => p.seconds + total parts

/-- The parts in a text, behind the digits that were read already. Between parts there may be
spaces. -/
def partsFrom? : List Char → List Char → Option (List Part)
  | digits, [] => if digits = [] then some [] else none
  | digits, c :: s =>
    if c.isDigit then partsFrom? (digits ++ [c]) s
    else if digits = [] ∧ c = ' ' then partsFrom? [] s
    else
      (Numeral.natural? digits).bind fun n =>
        (TimeUnit.ofSymbol? c).bind fun unit => (partsFrom? [] s).map (⟨n, unit⟩ :: ·)

def parts? (text : String) : Option (List Part) := partsFrom? [] text.toList

/-! ## Reading what is written -/

def Part.chars (p : Part) : List Char := Numeral.digits p.count ++ [p.unit.symbol]

/-- What stands between two parts. -/
def gap : Style → List Char
  | .compact => []
  | .detail => [' ']

/-- The parts of a whole number of seconds. -/
def partsOf (n : Nat) : List Part :=
  if n < 60 then [⟨n, .second⟩]
  else if n < 3600 then [⟨n / 60, .minute⟩, ⟨n % 60, .second⟩]
  else if n < 86400 then [⟨n / 3600, .hour⟩, ⟨n % 3600 / 60, .minute⟩]
  else [⟨n / 86400, .day⟩, ⟨n % 86400 / 3600, .hour⟩]

theorem partsFrom_digits {digits : List Char} (h : ∀ c ∈ digits, c.isDigit) (before s : List Char) :
    partsFrom? before (digits ++ s) = partsFrom? (before ++ digits) s := by
  induction digits generalizing before with
  | nil => simp
  | cons c digits ih =>
      rw [List.cons_append, partsFrom?, if_pos (h c (List.mem_cons_self ..)),
        ih (fun d hd => h d (List.mem_cons_of_mem _ hd)), List.append_assoc, List.singleton_append]

theorem partsFrom_chars (p : Part) (s : List Char) :
    partsFrom? [] (p.chars ++ s) = (partsFrom? [] s).map (p :: ·) := by
  have hne : Numeral.digits p.count ≠ [] := Numeral.digits_ne_nil _
  rw [Part.chars, List.append_assoc,
    partsFrom_digits (fun _ => Numeral.isDigit_of_mem_digits), List.nil_append,
    List.singleton_append, partsFrom?, p.unit.isDigit_symbol, if_neg Bool.false_ne_true,
    if_neg (fun hspace => hne hspace.1), Numeral.natural_digits, Option.bind_some,
    TimeUnit.ofSymbol_symbol, Option.bind_some]

theorem partsFrom_gap (style : Style) (s : List Char) :
    partsFrom? [] (gap style ++ s) = partsFrom? [] s := by
  cases style with
  | compact => rfl
  | detail => simp [gap, partsFrom?]

/-- Parts one after the other. -/
def joined (style : Style) (parts : List Part) : List Char :=
  (gap style).intercalate (parts.map Part.chars)

theorem joined_singleton (style : Style) (p : Part) : joined style [p] = p.chars :=
  List.intercalate_singleton

theorem joined_cons_cons (style : Style) (p q : Part) (parts : List Part) :
    joined style (p :: q :: parts) = p.chars ++ (gap style ++ joined style (q :: parts)) := by
  rw [← List.append_assoc]
  exact List.intercalate_cons_cons

theorem toList_ofSeconds (style : Style) (n : Nat) :
    (ofSeconds style n).toList = joined style (partsOf n) := by
  unfold ofSeconds partsOf
  cases style with
  | compact =>
      split_ifs <;>
        simp [joined_singleton, joined_cons_cons, gap, Part.chars, TimeUnit.symbol,
          Numeral.digits]
  | detail =>
      split_ifs <;>
        simp [joined_singleton, joined_cons_cons, gap, Part.chars, TimeUnit.symbol,
          Numeral.digits]

theorem partsFrom_joined (style : Style) (parts : List Part) :
    partsFrom? [] (joined style parts) = some parts := by
  induction parts with
  | nil => rfl
  | cons p parts ih =>
      cases parts with
      | nil =>
          have hlast := partsFrom_chars p []
          rwa [List.append_nil, ← joined_singleton style] at hlast
      | cons q parts =>
          rw [joined_cons_cons, partsFrom_chars, partsFrom_gap, ih, Option.map_some]

theorem parts_ofSeconds (style : Style) (n : Nat) :
    parts? (ofSeconds style n) = some (partsOf n) := by
  rw [parts?, toList_ofSeconds, partsFrom_joined]

theorem filter_chars (p : Part) : p.chars.filter (· ≠ ' ') = p.chars := by
  have hdigits : ' ' ∉ Numeral.digits p.count := Numeral.not_mem_digits (by decide) _
  have hspace : ' ' ∉ p.chars := by simp [Part.chars, hdigits, p.unit.symbol_ne_space.symm]
  rw [List.filter_eq_self]
  intro c hc
  have hne : c ≠ ' ' := fun heq => hspace (heq ▸ hc)
  simpa using hne

/-- The wordier style has spaces between the parts and nowhere else. -/
theorem filter_joined_detail (parts : List Part) :
    (joined .detail parts).filter (· ≠ ' ') = joined .compact parts := by
  induction parts with
  | nil => rfl
  | cons p parts ih =>
      cases parts with
      | nil => rw [joined_singleton, joined_singleton, filter_chars]
      | cons q parts =>
          rw [joined_cons_cons, joined_cons_cons, List.filter_append, List.filter_append, ih,
            filter_chars]
          rfl

/-! ## What is cut off -/

/-- The smallest unit that is shown. -/
def lastUnit (n : Nat) : TimeUnit :=
  if n < 3600 then .second else if n < 86400 then .minute else .hour

theorem total_partsOf (n : Nat) :
    total (partsOf n) = n / (lastUnit n).seconds * (lastUnit n).seconds := by
  unfold partsOf lastUnit
  split_ifs <;> simp [total, Part.seconds, TimeUnit.seconds] <;> omega

theorem isGreatest_div_mul {u : Nat} (hu : 0 < u) (n : Nat) :
    IsGreatest {m | u ∣ m ∧ m ≤ n} (n / u * u) := by
  refine ⟨⟨Nat.dvd_mul_left u _, Nat.div_mul_le_self n u⟩, ?_⟩
  rintro m ⟨⟨k, rfl⟩, hle⟩
  rw [Nat.mul_comm u k]
  exact Nat.mul_le_mul_right u ((Nat.le_div_iff_mul_le hu).mpr (Nat.mul_comm u k ▸ hle))

/-- What the parts say about a number of seconds. -/
structure CutOff (parts : List Part) (n : Nat) : Prop where
  /-- They add up to the largest multiple of the smallest unit among them that is not above it. -/
  floor : ∃ p ∈ parts, (∀ q ∈ parts, p.unit.seconds ≤ q.unit.seconds) ∧
    IsGreatest {m | p.unit.seconds ∣ m ∧ m ≤ n} (total parts)
  hours : ∀ p ∈ parts, p.unit = .hour → p.count < 24
  sixtieths : ∀ p ∈ parts, p.unit = .minute ∨ p.unit = .second → p.count < 60
  leading : 60 ≤ n → ∃ p, parts.head? = some p ∧ 1 ≤ p.count

theorem exists_lastUnit (n : Nat) :
    ∃ p ∈ partsOf n, p.unit = lastUnit n ∧ ∀ q ∈ partsOf n, p.unit.seconds ≤ q.unit.seconds := by
  unfold partsOf lastUnit
  split_ifs <;> first | omega | simp [TimeUnit.seconds]

theorem cutOff_partsOf (n : Nat) : CutOff (partsOf n) n where
  floor := by
    obtain ⟨p, hp, hunit, hle⟩ := exists_lastUnit n
    refine ⟨p, hp, hle, ?_⟩
    rw [hunit, total_partsOf]
    exact isGreatest_div_mul (TimeUnit.seconds_pos _) n
  hours := by
    unfold partsOf
    split_ifs <;> simp <;> omega
  sixtieths := by
    unfold partsOf
    split_ifs <;> simp <;> omega
  leading := by
    intro h
    unfold partsOf
    split_ifs <;> simp <;> omega

theorem total_partsOf_mono {m n : Nat} (h : m ≤ n) : total (partsOf m) ≤ total (partsOf n) := by
  rw [total_partsOf, total_partsOf]
  unfold lastUnit
  split_ifs <;> simp [TimeUnit.seconds] <;> omega

/-! ## Seconds and milliseconds -/

theorem text_finite (style : Style) {q : Quanta} (h : q.count / one < 2 ^ 64) :
    text style (.finite false q) = ofSeconds style (q.count / one) := by
  have hknown : ¬ finite false q < 0 := Unsigned.not_lt_zero ⟨q, rfl⟩
  rw [text, if_neg hknown, toNat_toUInt64 h]

theorem text_ofNat (style : Style) {n : Nat} (h : n < 2 ^ 53) :
    text style (ofNat n) = ofSeconds style n := by
  obtain ⟨q, hq, hcount⟩ := ofNat_of_lt h
  have hwhole : q.count / one = n := by rw [hcount, Nat.mul_div_cancel n one_quanta_pos]
  rw [hq, text_finite style (by omega), hwhole]

/-- Up to 2 ^ 53 milliseconds the spacing around the quotient is below two milliseconds, so half of
it does not reach the next whole second. -/
theorem whole_seconds {n : Nat} (h : n ≤ 2 ^ 53) : nearest (n * one) 1000 / one = n / 1000 := by
  have hone := one_quanta_pos
  have hlt : n * one / 1000 < 2 ^ 44 * one := by
    refine Nat.div_lt_of_lt_mul ?_
    rw [← Nat.mul_assoc]
    exact Nat.mul_lt_mul_of_pos_right (by omega) hone
  have hgrain := grain_mul_two_pow_le hlt
  exact nearest_div_one h (by decide) (by omega)

theorem millisText_eq_ofSeconds {ms : UInt64} (h : 1000 ≤ ms.toNat) (h' : ms.toNat ≤ 2 ^ 53) :
    millisText ms = ofSeconds .compact (ms.toNat / 1000) := by
  have hseconds : 1000 ≤ ms := UInt64.le_iff_toNat_le.mpr h
  obtain ⟨r, hr, hcount⟩ := exists_ofNat_div (d := 1000) ms.toNat_lt (by decide) (by decide)
  have hwhole : r.count / one = ms.toNat / 1000 := by
    rw [hcount, quantaOf_of_le h', whole_seconds h']
  rw [millisText, if_pos hseconds]
  show text .compact (ofNat ms.toNat / ofNat 1000) = _
  rw [hr, text_finite .compact (by omega), hwhole]

/-- **No text misstates a time.** A whole number of seconds is cut off at the last unit that is
shown; the styles differ in spaces only, and a longer duration never reads as a shorter one.
Milliseconds are shown as the whole seconds in them. -/
theorem time_not_misstated :
    (∀ (style : Style) (n : Nat), n < 2 ^ 53 →
      ∃ parts, parts? (text style (ofNat n)) = some parts ∧ CutOff parts n) ∧
    (∀ n : Nat, n < 2 ^ 53 →
      (text .detail (ofNat n)).toList.filter (· ≠ ' ') = (text .compact (ofNat n)).toList) ∧
    (∀ (style style' : Style) (m n : Nat), m ≤ n → n < 2 ^ 53 →
      ∃ p q, parts? (text style (ofNat m)) = some p ∧ parts? (text style' (ofNat n)) = some q ∧
        total p ≤ total q) ∧
    ∀ ms : UInt64, 1000 ≤ ms.toNat → ms.toNat ≤ 2 ^ 53 →
      millisText ms = ofSeconds .compact (ms.toNat / 1000) ∧
        millisText ms = text .compact (ofNat (ms.toNat / 1000)) := by
  refine ⟨?_, ?_, ?_, ?_⟩
  · intro style n h
    rw [text_ofNat style h]
    exact ⟨_, parts_ofSeconds style n, cutOff_partsOf n⟩
  · intro n h
    rw [text_ofNat .detail h, text_ofNat .compact h, toList_ofSeconds, toList_ofSeconds,
      filter_joined_detail]
  · intro style style' m n hle h
    rw [text_ofNat style (Nat.lt_of_le_of_lt hle h), text_ofNat style' h]
    exact ⟨_, _, parts_ofSeconds style m, parts_ofSeconds style' n, total_partsOf_mono hle⟩
  · intro ms h h'
    rw [text_ofNat .compact (by omega)]
    exact ⟨millisText_eq_ofSeconds h h', millisText_eq_ofSeconds h h'⟩

/-- The last second before a day is shown in another unit, and the last millisecond before a
second where binary64 numbers are furthest apart. -/
theorem time_not_misstated_at_ends :
    (∃ parts, parts? "23h 59m" = some parts ∧ CutOff parts 86399) ∧
    (∃ p q, parts? "23h59m" = some p ∧ parts? "1d 0h" = some q ∧ total p ≤ total q) ∧
    millisText 9007199254739999 = "104249991d8h" := by
  obtain ⟨hcut, -, hordered, hmillis⟩ := time_not_misstated
  refine ⟨?_, ?_, ?_⟩
  · have h := hcut .detail 86399 (by decide)
    rwa [text_ofNat .detail (by decide)] at h
  · have h := hordered .compact .detail 86399 86400 (by decide) (by decide)
    rwa [text_ofNat .compact (by decide), text_ofNat .detail (by decide)] at h
  · rw [(hmillis 9007199254739999 (by decide) (by decide)).1]
    decide +kernel

end HostInfo.Duration
