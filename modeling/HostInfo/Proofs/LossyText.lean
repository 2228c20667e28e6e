import Mathlib.Data.List.Forall2
import Mathlib.Tactic.SplitIfs
import HostInfo.Text.Utf8

/-!
# Lossy reading of UTF-8

Which text bytes are, said without the reader: a character where its bytes are at the front, and
otherwise U+FFFD for the longest run of bytes with which a character could start, or for a single
byte if there is none. The reader gives exactly this text. Bytes of a text are read as that text.
-/

namespace HostInfo.Utf8

/-! ## Bytes that are not text -/

/-- Some character starts with these bytes. -/
def Begins (bytes : List UInt8) : Prop := ∃ c, bytes <+: String.utf8EncodeChar c

/-- In front of `rest` the bytes `bad` are as much of a character as there is, and it is not a
whole one; or they are a single byte with which no character starts. -/
structure Broken (bad rest : List UInt8) : Prop where
  nonempty : bad ≠ []
  no_char : ∀ c, ¬ String.utf8EncodeChar c <+: bad ++ rest
  begins : Begins bad ∨ bad.length = 1
  longest : ∀ bytes, bytes <+: bad ++ rest → Begins bytes → bytes <+: bad

/-- The characters as which the bytes are read. -/
inductive Lossy : List UInt8 → List Char → Prop
  | nil : Lossy [] []
  | char (c : Char) {bytes : List UInt8} {s : List Char} (hrest : Lossy bytes s) :
      Lossy (String.utf8EncodeChar c ++ bytes) (c :: s)
  | broken {bad bytes : List UInt8} {s : List Char} (hbad : Broken bad bytes)
      (hrest : Lossy bytes s) : Lossy (bad ++ bytes) ('\ufffd' :: s)

/-! ## Ranges of bytes -/

/-- Each byte is in the range of its place. -/
def Fits : List (Nat × Nat) → List UInt8 → Prop :=
  List.Forall₂ fun range b => range.1 ≤ b.toNat ∧ b.toNat ≤ range.2

/-- The bits of a code point, behind those that are known. -/
def assembled (bits : Nat) (bytes : List UInt8) : Nat :=
  bytes.foldl (fun n b => n * 64 + b.toNat % 64) bits

theorem follow_append (bits : Nat) (ranges : List (Nat × Nat)) (bytes : List UInt8) :
    (follow bits ranges bytes).1 ++ (follow bits ranges bytes).2.2 = bytes := by
  induction ranges generalizing bits bytes with
  | nil => rfl
  | cons range ranges ih =>
      cases bytes with
      | nil => rfl
      | cons b bytes =>
          rw [follow]
          split
          · rw [List.cons_append, ih]
          · rfl

theorem follow_of_fits {ranges : List (Nat × Nat)} {bytes : List UInt8} (h : Fits ranges bytes)
    (bits : Nat) (rest : List UInt8) :
    follow bits ranges (bytes ++ rest) = (bytes, some (assembled bits bytes), rest) := by
  induction h generalizing bits with
  | nil => cases rest <;> rfl
  | cons hb _ ih =>
      rw [List.cons_append, follow, if_pos hb, ih]
      rfl

theorem fits_of_follow {bits point : Nat} {ranges : List (Nat × Nat)} {bytes : List UInt8}
    (h : (follow bits ranges bytes).2.1 = some point) :
    Fits ranges (follow bits ranges bytes).1 ∧
      point = assembled bits (follow bits ranges bytes).1 := by
  induction ranges generalizing bits bytes with
  | nil =>
      rw [follow] at h
      exact ⟨.nil, (Option.some.inj h).symm⟩
  | cons range ranges ih =>
      cases bytes with
      | nil => cases h
      | cons b bytes =>
          rw [follow] at h ⊢
          split at h
          · next hb =>
              rw [if_pos hb]
              obtain ⟨hfits, hpoint⟩ := ih h
              exact ⟨.cons hb hfits, hpoint⟩
          · cases h

/-- No byte is taken that rules out the others. -/
theorem completes_follow {ranges : List (Nat × Nat)}
    (h : ∀ range ∈ ranges, range.1 ≤ range.2 ∧ range.2 < 256) (bits : Nat) (bytes : List UInt8) :
    ∃ more, Fits ranges ((follow bits ranges bytes).1 ++ more) := by
  induction ranges generalizing bits bytes with
  | nil => exact ⟨[], .nil⟩
  | cons range ranges ih =>
      have hranges := fun r hr => h r (List.mem_cons_of_mem _ hr)
      have hfirst : range.1 ≤ (UInt8.ofNat range.1).toNat ∧
          (UInt8.ofNat range.1).toNat ≤ range.2 := by
        have hrange := h range (List.mem_cons_self ..)
        rw [UInt8.toNat_ofNat_of_lt' (Nat.lt_of_le_of_lt hrange.1 hrange.2)]
        exact ⟨Nat.le_refl _, hrange.1⟩
      -- the lowest byte of each range that is left
      have hnone : ∃ more, Fits (range :: ranges) ([] ++ more) := by
        obtain ⟨more, hmore⟩ := ih hranges 0 []
        exact ⟨_, .cons hfirst hmore⟩
      cases bytes with
      | nil => exact hnone
      | cons b bytes =>
          rw [follow]
          split
          · next hb =>
              obtain ⟨more, hmore⟩ := ih hranges (bits * 64 + b.toNat % 64) bytes
              exact ⟨more, .cons hb hmore⟩
          · exact hnone

/-- Bytes that can be completed are taken. -/
theorem prefix_follow {ranges : List (Nat × Nat)} {front more bytes : List UInt8}
    (h : Fits ranges (front ++ more)) (hfront : front <+: bytes) (bits : Nat) :
    front <+: (follow bits ranges bytes).1 := by
  induction front generalizing ranges bytes bits with
  | nil => exact List.nil_prefix
  | cons b front ih =>
      obtain ⟨rest, rfl⟩ := hfront
      cases h with
      | cons hb hfits =>
          rw [List.cons_append, follow, if_pos hb]
          exact List.cons_prefix_cons.mpr ⟨rfl, ih hfits (List.prefix_append ..) _⟩

/-! ## Leading bytes -/

theorem lead_one {b : UInt8} (h : b.toNat < 0x80) : lead? b = some ⟨b.toNat, []⟩ := if_pos h

theorem lead_two {b : UInt8} (h : 0xc2 ≤ b.toNat) (h' : b.toNat < 0xe0) :
    lead? b = some ⟨b.toNat - 0xc0, [(0x80, 0xbf)]⟩ := by
  rw [lead?, if_neg (by omega), if_neg (by omega), if_pos h']

/-- The range of the byte behind a leading one: behind `first` it starts at `lo`, so that there is
no longer form than needed, and behind `last` it ends at `hi`. -/
def narrowed (b first last lo hi : Nat) : Nat × Nat :=
  if b = first then (lo, 0xbf) else if b = last then (0x80, hi) else (0x80, 0xbf)

theorem narrowed_iff {b first last lo hi : Nat} (hne : first ≠ last) (hlo : 0x80 ≤ lo)
    (hhi : hi ≤ 0xbf) (n : Nat) :
    ((narrowed b first last lo hi).1 ≤ n ∧ n ≤ (narrowed b first last lo hi).2) ↔
      (0x80 ≤ n ∧ n ≤ 0xbf) ∧ (b = first → lo ≤ n) ∧ (b = last → n ≤ hi) := by
  unfold narrowed
  split_ifs <;> simp only <;> omega

theorem narrowed_le {b first last lo hi : Nat} (hlo : lo ≤ 0xbf) (hhi : 0x80 ≤ hi ∧ hi ≤ 0xbf) :
    (narrowed b first last lo hi).1 ≤ (narrowed b first last lo hi).2 ∧
      (narrowed b first last lo hi).2 < 256 := by
  unfold narrowed
  split_ifs <;> simp only <;> omega

/-- Behind 0xed there is no surrogate. -/
theorem lead_three {b : UInt8} (h : 0xe0 ≤ b.toNat) (h' : b.toNat < 0xf0) :
    lead? b = some
      ⟨b.toNat - 0xe0, [narrowed b.toNat 0xe0 0xed 0xa0 0x9f, (0x80, 0xbf)]⟩ := by
  rw [lead?, if_neg (by omega), if_neg (by omega), if_neg (by omega), if_pos h', narrowed]

/-- Behind 0xf4 there is no code point above the last one. -/
theorem lead_four {b : UInt8} (h : 0xf0 ≤ b.toNat) (h' : b.toNat < 0xf5) :
    lead? b = some
      ⟨b.toNat - 0xf0, [narrowed b.toNat 0xf0 0xf4 0x90 0x8f, (0x80, 0xbf), (0x80, 0xbf)]⟩ := by
  rw [lead?, if_neg (by omega), if_neg (by omega), if_neg (by omega), if_neg (by omega), if_pos h',
    narrowed]

theorem lead_cases {b : UInt8} {lead : Lead} (h : lead? b = some lead) :
    (b.toNat < 0x80 ∧ lead = ⟨b.toNat, []⟩) ∨
    ((0xc2 ≤ b.toNat ∧ b.toNat < 0xe0) ∧ lead = ⟨b.toNat - 0xc0, [(0x80, 0xbf)]⟩) ∨
    ((0xe0 ≤ b.toNat ∧ b.toNat < 0xf0) ∧ lead =
      ⟨b.toNat - 0xe0, [narrowed b.toNat 0xe0 0xed 0xa0 0x9f, (0x80, 0xbf)]⟩) ∨
    ((0xf0 ≤ b.toNat ∧ b.toNat < 0xf5) ∧ lead =
      ⟨b.toNat - 0xf0, [narrowed b.toNat 0xf0 0xf4 0x90 0x8f, (0x80, 0xbf), (0x80, 0xbf)]⟩) := by
  by_cases h1 : b.toNat < 0x80
  · exact .inl ⟨h1, Option.some.inj (h.symm.trans (lead_one h1))⟩
  by_cases h2 : b.toNat < 0xc2
  · rw [lead?, if_neg h1, if_pos h2] at h
    cases h
  by_cases h3 : b.toNat < 0xe0
  · have hlead := lead_two (Nat.not_lt.mp h2) h3
    exact .inr (.inl ⟨⟨Nat.not_lt.mp h2, h3⟩, Option.some.inj (h.symm.trans hlead)⟩)
  by_cases h4 : b.toNat < 0xf0
  · have hlead := lead_three (Nat.not_lt.mp h3) h4
    exact .inr (.inr (.inl ⟨⟨Nat.not_lt.mp h3, h4⟩, Option.some.inj (h.symm.trans hlead)⟩))
  by_cases h5 : b.toNat < 0xf5
  · have hlead := lead_four (Nat.not_lt.mp h4) h5
    exact .inr (.inr (.inr ⟨⟨Nat.not_lt.mp h4, h5⟩, Option.some.inj (h.symm.trans hlead)⟩))
  · rw [lead?, if_neg h1, if_neg h2, if_neg h3, if_neg h4, if_neg h5] at h
    cases h

theorem lead_ranges {b : UInt8} {lead : Lead} (h : lead? b = some lead) :
    ∀ range ∈ lead.ranges, range.1 ≤ range.2 ∧ range.2 < 256 := by
  have htail : ∀ range ∈ [((0x80, 0xbf) : Nat × Nat)], range.1 ≤ range.2 ∧ range.2 < 256 := by
    decide
  rcases lead_cases h with ⟨-, rfl⟩ | ⟨-, rfl⟩ | ⟨-, rfl⟩ | ⟨-, rfl⟩
  · exact List.forall_mem_nil _
  · exact htail
  · exact List.forall_mem_cons.mpr ⟨narrowed_le (by decide) (by decide), htail⟩
  · exact List.forall_mem_cons.mpr
      ⟨narrowed_le (by decide) (by decide), List.forall_mem_cons.mpr ⟨by decide, htail⟩⟩

/-! ## Bytes of a character -/

/-- The bytes of a code point, as numbers. -/
def spelled (n : Nat) : List Nat :=
  if n < 0x80 then [n]
  else if n < 0x800 then [0xc0 + n / 64, 0x80 + n % 64]
  else if n < 0x10000 then [0xe0 + n / 4096, 0x80 + n / 64 % 64, 0x80 + n % 64]
  else [0xf0 + n / 262144, 0x80 + n / 4096 % 64, 0x80 + n / 64 % 64, 0x80 + n % 64]

theorem toNat_lt (c : Char) : c.toNat < 55296 ∨ 57343 < c.toNat ∧ c.toNat < 1114112 := c.valid

theorem map_toNat_utf8EncodeChar (c : Char) :
    (String.utf8EncodeChar c).map UInt8.toNat = spelled c.toNat := by
  have hlt := toNat_lt c
  have hval : c.val.toNat = c.toNat := rfl
  simp only [String.utf8EncodeChar, spelled, hval]
  split_ifs <;>
    simp only [List.map_cons, List.map_nil, UInt8.toNat_ofNat', List.cons.injEq, and_true] <;>
    omega

/-- The bytes of a character follow the ranges of its leading byte, and its code point is
assembled from them. -/
theorem lead_of_utf8EncodeChar {c : Char} {b : UInt8} {bytes : List UInt8}
    (h : String.utf8EncodeChar c = b :: bytes) :
    ∃ lead, lead? b = some lead ∧ Fits lead.ranges bytes ∧
      assembled lead.bits bytes = c.toNat := by
  have hlt := toNat_lt c
  have hspelled := map_toNat_utf8EncodeChar c
  rw [h, spelled, List.map_cons] at hspelled
  split_ifs at hspelled with h1 h2 h3
  · simp only [List.cons.injEq, List.map_eq_nil_iff] at hspelled
    obtain ⟨hb, rfl⟩ := hspelled
    exact ⟨_, lead_one (by omega), .nil, hb⟩
  · simp only [List.cons.injEq, List.map_eq_cons_iff, List.map_eq_nil_iff] at hspelled
    obtain ⟨hb, b1, _, rfl, hb1, rfl⟩ := hspelled
    refine ⟨_, lead_two (by omega) (by omega), .cons (by omega) .nil, ?_⟩
    simp only [assembled, List.foldl_cons, List.foldl_nil]
    omega
  · simp only [List.cons.injEq, List.map_eq_cons_iff, List.map_eq_nil_iff] at hspelled
    obtain ⟨hb, b1, _, rfl, hb1, b2, _, rfl, hb2, rfl⟩ := hspelled
    refine ⟨_, lead_three (by omega) (by omega),
      .cons ((narrowed_iff (by decide) (by decide) (by decide) _).mpr (by omega))
        (.cons (by omega) .nil), ?_⟩
    simp only [assembled, List.foldl_cons, List.foldl_nil]
    omega
  · simp only [List.cons.injEq, List.map_eq_cons_iff, List.map_eq_nil_iff] at hspelled
    obtain ⟨hb, b1, _, rfl, hb1, b2, _, rfl, hb2, b3, _, rfl, hb3, rfl⟩ := hspelled
    refine ⟨_, lead_four (by omega) (by omega),
      .cons ((narrowed_iff (by decide) (by decide) (by decide) _).mpr (by omega))
        (.cons (by omega) (.cons (by omega) .nil)), ?_⟩
    simp only [assembled, List.foldl_cons, List.foldl_nil]
    omega

theorem utf8EncodeChar_ofNat {n : Nat} (hvalid : n.isValidChar) {bytes : List UInt8}
    (h : spelled n = bytes.map UInt8.toNat) : String.utf8EncodeChar (Char.ofNat n) = bytes := by
  have hpoint : (Char.ofNat n).toNat = n := by
    rw [Char.ofNat, dif_pos hvalid]
    rfl
  refine (List.map_injective_iff.mpr fun _ _ => UInt8.toNat_inj.mp) ?_
  rw [map_toNat_utf8EncodeChar, hpoint, h]

theorem spelled_one {a : Nat} (ha : a < 0x80) : spelled a = [a] := if_pos ha

theorem spelled_two {a b : Nat} (ha : 0xc2 ≤ a ∧ a < 0xe0) (hb : 0x80 ≤ b ∧ b ≤ 0xbf) :
    spelled ((a - 0xc0) * 64 + b % 64) = [a, b] := by
  rw [spelled, if_neg (by omega), if_pos (by omega)]
  simp only [List.cons.injEq, and_true]
  omega

theorem spelled_three {a b c : Nat} (ha : 0xe0 ≤ a ∧ a < 0xf0) (hb : 0x80 ≤ b ∧ b ≤ 0xbf)
    (hshort : a = 0xe0 → 0xa0 ≤ b) (hc : 0x80 ≤ c ∧ c ≤ 0xbf) :
    spelled (((a - 0xe0) * 64 + b % 64) * 64 + c % 64) = [a, b, c] := by
  rw [spelled, if_neg (by omega), if_neg (by omega), if_pos (by omega)]
  simp only [List.cons.injEq, and_true]
  omega

theorem spelled_four {a b c d : Nat} (ha : 0xf0 ≤ a ∧ a < 0xf5) (hb : 0x80 ≤ b ∧ b ≤ 0xbf)
    (hshort : a = 0xf0 → 0x90 ≤ b) (hc : 0x80 ≤ c ∧ c ≤ 0xbf) (hd : 0x80 ≤ d ∧ d ≤ 0xbf) :
    spelled ((((a - 0xf0) * 64 + b % 64) * 64 + c % 64) * 64 + d % 64) = [a, b, c, d] := by
  rw [spelled, if_neg (by omega), if_neg (by omega), if_neg (by omega)]
  simp only [List.cons.injEq, and_true]
  omega

/-- Bytes that follow the ranges of a leading byte are those of a character. -/
theorem utf8EncodeChar_assembled {b : UInt8} {lead : Lead} {bytes : List UInt8}
    (hlead : lead? b = some lead) (hfits : Fits lead.ranges bytes) :
    String.utf8EncodeChar (Char.ofNat (assembled lead.bits bytes)) = b :: bytes := by
  rcases lead_cases hlead with ⟨h, rfl⟩ | ⟨h, rfl⟩ | ⟨h, rfl⟩ | ⟨h, rfl⟩
  · cases hfits
    exact utf8EncodeChar_ofNat (.inl (show b.toNat < 55296 by omega)) (spelled_one h)
  · obtain _ | ⟨hb, _ | _⟩ := hfits
    refine utf8EncodeChar_ofNat (.inl ?_) (spelled_two h hb)
    simp only [assembled, List.foldl_cons, List.foldl_nil]
    omega
  · obtain _ | ⟨hb, _ | ⟨hc, _ | _⟩⟩ := hfits
    obtain ⟨hb, hshort, hsurrogate⟩ :=
      (narrowed_iff (by decide) (by decide) (by decide) _).mp hb
    refine utf8EncodeChar_ofNat ?_ (spelled_three h hb hshort hc)
    simp only [assembled, List.foldl_cons, List.foldl_nil]
    omega
  · obtain _ | ⟨hb, _ | ⟨hc, _ | ⟨hd, _ | _⟩⟩⟩ := hfits
    obtain ⟨hb, hshort, hlast⟩ := (narrowed_iff (by decide) (by decide) (by decide) _).mp hb
    refine utf8EncodeChar_ofNat ?_ (spelled_four h hb hshort hc hd)
    simp only [assembled, List.foldl_cons, List.foldl_nil]
    omega

/-- What starts a character follows the ranges of a leading byte as far as it goes. -/
theorem lead_of_begins {b : UInt8} {bytes : List UInt8} (h : Begins (b :: bytes)) :
    ∃ lead more, lead? b = some lead ∧ Fits lead.ranges (bytes ++ more) := by
  obtain ⟨c, more, hmore⟩ := h
  obtain ⟨lead, hlead, hfits, -⟩ := lead_of_utf8EncodeChar hmore.symm
  exact ⟨lead, more, hlead, hfits⟩

/-- A character at the front is served by the ranges of its leading byte. -/
theorem lead_of_prefix {c : Char} {b : UInt8} {bytes : List UInt8}
    (h : String.utf8EncodeChar c <+: b :: bytes) :
    ∃ lead, lead? b = some lead ∧
      (follow lead.bits lead.ranges bytes).2.1 = some c.toNat := by
  rcases List.prefix_cons_iff.mp h with hnil | ⟨front, hc, rest, rfl⟩
  · exact absurd hnil String.utf8EncodeChar_ne_nil
  · obtain ⟨lead, hlead, hfits, hpoint⟩ := lead_of_utf8EncodeChar hc
    exact ⟨lead, hlead, by rw [follow_of_fits hfits, hpoint]⟩

/-! ## Pieces -/

/-- A byte with which no character starts stands alone. -/
theorem broken_of_lead_eq_none {b : UInt8} (hlead : lead? b = none) (rest : List UInt8) :
    Broken [b] rest where
  nonempty := List.cons_ne_nil _ _
  no_char c hc := by
    obtain ⟨lead, hsome, -⟩ := lead_of_prefix hc
    cases hlead.symm.trans hsome
  begins := .inr rfl
  longest front hfront hbegins := by
    rcases List.prefix_cons_iff.mp hfront with rfl | ⟨front, rfl, -⟩
    · exact List.nil_prefix
    · obtain ⟨lead, more, hsome, -⟩ := lead_of_begins hbegins
      cases hlead.symm.trans hsome

/-- Where the ranges of a leading byte are not served, the bytes taken could still have become a
character, and with one more they could not. -/
theorem broken_of_follow_eq_none {b : UInt8} {lead : Lead} {bytes : List UInt8}
    (hlead : lead? b = some lead) (h : (follow lead.bits lead.ranges bytes).2.1 = none) :
    Broken (b :: (follow lead.bits lead.ranges bytes).1)
      (follow lead.bits lead.ranges bytes).2.2 where
  nonempty := List.cons_ne_nil _ _
  no_char c hc := by
    rw [List.cons_append, follow_append] at hc
    obtain ⟨lead', hlead', hpoint⟩ := lead_of_prefix hc
    obtain rfl := Option.some.inj (hlead.symm.trans hlead')
    cases h.symm.trans hpoint
  begins := by
    obtain ⟨more, hfits⟩ := completes_follow (lead_ranges hlead) lead.bits bytes
    exact .inl ⟨_, more, (utf8EncodeChar_assembled hlead hfits).symm⟩
  longest front hfront hbegins := by
    rw [List.cons_append, follow_append] at hfront
    rcases List.prefix_cons_iff.mp hfront with rfl | ⟨front, rfl, hprefix⟩
    · exact List.nil_prefix
    · obtain ⟨lead', more, hlead', hfits⟩ := lead_of_begins hbegins
      obtain rfl := Option.some.inj (hlead.symm.trans hlead')
      exact List.cons_prefix_cons.mpr ⟨rfl, prefix_follow hfits hprefix _⟩

theorem piece_of_follow_eq_some {b : UInt8} {lead : Lead} {bytes : List UInt8} {point : Nat}
    (hlead : lead? b = some lead) (h : (follow lead.bits lead.ranges bytes).2.1 = some point) :
    piece b bytes = (.char (Char.ofNat point), (follow lead.bits lead.ranges bytes).2.2) := by
  simp only [piece, hlead]
  split
  · next hfollow =>
      rw [hfollow] at h ⊢
      obtain rfl := Option.some.inj h
      rfl
  · next hfollow =>
      rw [hfollow] at h
      cases h

theorem piece_of_follow_eq_none {b : UInt8} {lead : Lead} {bytes : List UInt8}
    (hlead : lead? b = some lead) (h : (follow lead.bits lead.ranges bytes).2.1 = none) :
    piece b bytes = (.broken (b :: (follow lead.bits lead.ranges bytes).1),
      (follow lead.bits lead.ranges bytes).2.2) := by
  simp only [piece, hlead]
  split
  · next hfollow =>
      rw [hfollow] at h
      cases h
  · next hfollow => rw [hfollow]

/-- The piece at the front is a character or as much of one as there is. -/
theorem piece_spec (b : UInt8) (bytes : List UInt8) :
    (∃ c rest, piece b bytes = (.char c, rest) ∧ b :: bytes = String.utf8EncodeChar c ++ rest) ∨
      ∃ bad rest, piece b bytes = (.broken bad, rest) ∧ b :: bytes = bad ++ rest ∧
        Broken bad rest := by
  cases hlead : lead? b with
  | none => exact .inr ⟨[b], bytes, by simp only [piece, hlead], rfl, broken_of_lead_eq_none hlead _⟩
  | some lead =>
      have happend := follow_append lead.bits lead.ranges bytes
      cases hfollow : (follow lead.bits lead.ranges bytes).2.1 with
      | some point =>
          obtain ⟨hfits, hpoint⟩ := fits_of_follow hfollow
          refine .inl ⟨_, _, piece_of_follow_eq_some hlead hfollow, ?_⟩
          rw [hpoint, utf8EncodeChar_assembled hlead hfits, List.cons_append, happend]
      | none =>
          refine .inr ⟨_, _, piece_of_follow_eq_none hlead hfollow, ?_,
            broken_of_follow_eq_none hlead hfollow⟩
          rw [List.cons_append, happend]

theorem piece_utf8EncodeChar {c : Char} {b : UInt8} {bytes : List UInt8}
    (h : String.utf8EncodeChar c = b :: bytes) (rest : List UInt8) :
    piece b (bytes ++ rest) = (.char c, rest) := by
  obtain ⟨lead, hlead, hfits, hpoint⟩ := lead_of_utf8EncodeChar h
  simp only [piece, hlead, follow_of_fits hfits, hpoint, Char.ofNat_toNat]

theorem Broken.isPrefix {bad bad' rest rest' : List UInt8} (h : Broken bad rest)
    (h' : Broken bad' rest') (heq : bad ++ rest = bad' ++ rest') : bad <+: bad' := by
  rcases h.begins with hbegins | hlength
  · exact h'.longest bad (heq ▸ List.prefix_append ..) hbegins
  · -- a single byte is at the front of all bytes that are not empty
    obtain ⟨b, rfl⟩ := List.length_eq_one_iff.mp hlength
    obtain ⟨b', front, rfl⟩ := List.exists_cons_of_ne_nil h'.nonempty
    obtain ⟨rfl, -⟩ := List.cons.inj heq
    exact List.cons_prefix_cons.mpr ⟨rfl, List.nil_prefix⟩

/-- What is not text at the front ends at one place. -/
theorem Broken.eq {bad bad' rest rest' : List UInt8} (h : Broken bad rest)
    (h' : Broken bad' rest') (heq : bad ++ rest = bad' ++ rest') : bad = bad' :=
  (h.isPrefix h' heq).eq_of_length_le (h'.isPrefix h heq.symm).length_le

theorem piece_broken {bad rest bytes : List UInt8} {b : UInt8} (hbad : Broken bad rest)
    (h : b :: bytes = bad ++ rest) : piece b bytes = (.broken bad, rest) := by
  rcases piece_spec b bytes with ⟨c, _, -, hc⟩ | ⟨bad', rest', hpiece, happend, hbad'⟩
  · exact absurd ⟨_, hc.symm.trans h⟩ (hbad.no_char c)
  · have heq := happend.symm.trans h
    obtain rfl := hbad'.eq hbad heq
    rw [hpiece, List.append_cancel_left heq]

/-! ## Lossy text -/

theorem toList_decodeLossy (bytes : List UInt8) :
    (decodeLossy bytes).toList = (pieces bytes).map fun p => p.char?.getD '\ufffd' :=
  String.toList_ofList

theorem toList_decodeLossy_cons {b : UInt8} {bytes rest : List UInt8} {p : Piece}
    (h : piece b bytes = (p, rest)) :
    (decodeLossy (b :: bytes)).toList =
      p.char?.getD '\ufffd' :: (decodeLossy rest).toList := by
  rw [toList_decodeLossy, toList_decodeLossy, pieces, h, List.map_cons]

/-- The reader gives a text as which the bytes are read. -/
theorem lossy_decodeLossy (bytes : List UInt8) : Lossy bytes (decodeLossy bytes).toList := by
  induction bytes using pieces.induct with
  | case1 =>
      rw [toList_decodeLossy, pieces]
      exact .nil
  | case2 b bytes _ ih =>
      rcases piece_spec b bytes with ⟨c, rest, hpiece, happend⟩ | ⟨bad, rest, hpiece, happend, hbad⟩
      · rw [hpiece] at ih
        rw [toList_decodeLossy_cons hpiece, happend]
        exact .char c ih
      · rw [hpiece] at ih
        rw [toList_decodeLossy_cons hpiece, happend]
        exact .broken hbad ih

/-- There is no other text as which the bytes are read. -/
theorem Lossy.eq_decodeLossy {bytes : List UInt8} {s : List Char} (h : Lossy bytes s) :
    s = (decodeLossy bytes).toList := by
  induction h with
  | nil => rw [toList_decodeLossy, pieces, List.map_nil]
  | @char c bytes s _ ih =>
      obtain ⟨b, front, hc⟩ := List.exists_cons_of_ne_nil (String.utf8EncodeChar_ne_nil (c := c))
      rw [hc, List.cons_append, toList_decodeLossy_cons (piece_utf8EncodeChar hc bytes), ih]
      rfl
  | @broken bad bytes s hbad _ ih =>
      obtain ⟨b, front, rfl⟩ := List.exists_cons_of_ne_nil hbad.nonempty
      have hpiece : piece b (front ++ bytes) = (.broken (b :: front), bytes) :=
        piece_broken hbad rfl
      rw [List.cons_append, toList_decodeLossy_cons hpiece, ih]
      rfl

/-- **The text as which bytes are read**, and no other. -/
theorem lossy_iff {bytes : List UInt8} {s : String} :
    Lossy bytes s.toList ↔ decodeLossy bytes = s := by
  constructor
  · exact fun h => (String.toList_injective h.eq_decodeLossy).symm
  · rintro rfl
    exact lossy_decodeLossy bytes

theorem lossy_flatMap (s : List Char) : Lossy (s.flatMap String.utf8EncodeChar) s := by
  induction s with
  | nil => exact .nil
  | cons c s ih => exact .char c ih

/-- The bytes of a text are read as this text. -/
@[simp] theorem decodeLossy_encode (s : String) : decodeLossy (encode s) = s :=
  lossy_iff.mp (lossy_flatMap s.toList)

/-- Bytes are only read as no text where there are none. -/
theorem decodeLossy_eq_empty_iff {bytes : List UInt8} : decodeLossy bytes = "" ↔ bytes = [] := by
  rw [← lossy_iff]
  constructor
  · rintro ⟨⟩
    rfl
  · rintro rfl
    exact .nil

end HostInfo.Utf8
