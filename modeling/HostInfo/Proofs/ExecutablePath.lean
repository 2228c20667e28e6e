import Mathlib.Tactic.SplitIfs
import HostInfo.Executable
import HostInfo.Files.Fixture
import HostInfo.Proofs.LossyText

/-!
# The path of the executable, whole or not at all

The target of the link, read as text, is given from the capacity on at which it fits together with
the byte at its end. Below there is an error and never a part of it.
-/

namespace HostInfo

@[simp] theorem Path.display_ofString (s : String) : (ofString s).display = s :=
  Utf8.decodeLossy_encode s

theorem Path.display_eq_iff {p : Path} {s : String} :
    p.display = s ↔ Utf8.Lossy p.bytes s.toList := Utf8.lossy_iff.symm

theorem Path.display_eq_empty_iff {p : Path} : p.display = "" ↔ p.bytes = [] :=
  Utf8.decodeLossy_eq_empty_iff

namespace Executable

/-- The link can be read, and its target is read as this text, which is not empty. -/
def Named (proc : Path) (files : Files) (text : String) : Prop :=
  ∃ target, files.readLink (proc.join "self/exe") = .ok target ∧
    Utf8.Lossy target.bytes text.toList ∧ text ≠ ""

/-- The link cannot be read, or its target is empty. -/
def Nameless (proc : Path) (files : Files) : Prop :=
  (∃ e, files.readLink (proc.join "self/exe") = .error e) ∨
    ∃ target, files.readLink (proc.join "self/exe") = .ok target ∧ target.bytes = []

/-- There is no path, and the system or the files are to blame. -/
def Refused (answer : Except Failure String) : Prop := ∃ e, answer = .error e ∧ e.kind = .io

variable {proc : Path} {files : Files}

/-! ## The answer at one capacity -/

theorem query_of_error {e : SystemError} (h : files.readLink (proc.join "self/exe") = .error e)
    (capacity : Nat) : query proc files capacity = .error (.read (proc.join "self/exe") e) := by
  simp only [query, h, Except.mapError]
  rfl

theorem query_of_ok {target : Path} (h : files.readLink (proc.join "self/exe") = .ok target)
    (capacity : Nat) :
    query proc files capacity =
      if target.display = "" then
        .error (.read (proc.join "self/exe")
          (.custom .invalidData "link resolves to an empty path"))
      else if capacity - 1 < target.display.utf8ByteSize then
        .error (.read (proc.join "self/exe") (.custom .invalidInput
          ("path of " ++ toString target.display.utf8ByteSize ++
            " bytes does not fit in a buffer of " ++ toString capacity)))
      else .ok target.display := by
  simp only [query, h, Except.mapError, bind, Except.bind]
  split_ifs <;> rfl

/-- The text of a target. -/
theorem named_display {target : Path}
    (h : files.readLink (proc.join "self/exe") = .ok target) (hne : target.bytes ≠ []) :
    Named proc files target.display :=
  ⟨target, h, Path.display_eq_iff.mp rfl, fun hempty => hne (Path.display_eq_empty_iff.mp hempty)⟩

theorem named_or_nameless (proc : Path) (files : Files) :
    (∃ text, Named proc files text) ∨ Nameless proc files := by
  cases h : files.readLink (proc.join "self/exe") with
  | error e => exact .inr (.inl ⟨e, h⟩)
  | ok target =>
      by_cases hempty : target.bytes = []
      · exact .inr (.inr ⟨target, h, hempty⟩)
      · exact .inl ⟨_, named_display h hempty⟩

theorem Named.unique {text other : String} (h : Named proc files text)
    (hother : Named proc files other) : text = other := by
  obtain ⟨target, hread, hlossy, -⟩ := h
  obtain ⟨_, hread', hlossy', -⟩ := hother
  cases hread.symm.trans hread'
  exact (Path.display_eq_iff.mpr hlossy).symm.trans (Path.display_eq_iff.mpr hlossy')

/-- The capacity is spent on the text and one byte more. -/
theorem Named.query_eq {text : String} (h : Named proc files text) (capacity : Nat) :
    query proc files capacity =
      if capacity ≤ text.utf8ByteSize then
        .error (.read (proc.join "self/exe") (.custom .invalidInput
          ("path of " ++ toString text.utf8ByteSize ++
            " bytes does not fit in a buffer of " ++ toString capacity)))
      else .ok text := by
  obtain ⟨target, hread, hlossy, hne⟩ := h
  obtain rfl := Path.display_eq_iff.mpr hlossy
  have hpos : target.display.utf8ByteSize ≠ 0 := fun h => hne (String.utf8ByteSize_eq_zero_iff.mp h)
  -- without a capacity there is no room for the last byte either
  have hroom : capacity - 1 < target.display.utf8ByteSize ↔
      capacity ≤ target.display.utf8ByteSize := by omega
  rw [query_of_ok hread, if_neg hne]
  simp only [hroom]

theorem Named.query_of_lt {text : String} (h : Named proc files text) {capacity : Nat}
    (hlt : text.utf8ByteSize < capacity) : query proc files capacity = .ok text := by
  rw [h.query_eq, if_neg (Nat.not_le.mpr hlt)]

theorem Named.refused_of_le {text : String} (h : Named proc files text) {capacity : Nat}
    (hle : capacity ≤ text.utf8ByteSize) : Refused (query proc files capacity) := by
  rw [h.query_eq, if_pos hle]
  exact ⟨_, rfl, rfl⟩

theorem Nameless.refused (h : Nameless proc files) (capacity : Nat) :
    Refused (query proc files capacity) := by
  rcases h with ⟨e, hread⟩ | ⟨target, hread, hempty⟩
  · exact ⟨_, query_of_error hread capacity, rfl⟩
  · rw [query_of_ok hread, if_pos (Path.display_eq_empty_iff.mpr hempty)]
    exact ⟨_, rfl, rfl⟩

/-! ## All capacities -/

/-- An answer is the text of the link, and fits. -/
theorem query_eq_ok_iff {capacity : Nat} {text : String} :
    query proc files capacity = .ok text ↔
      Named proc files text ∧ text.utf8ByteSize < capacity := by
  constructor
  · intro h
    rcases named_or_nameless proc files with ⟨name, hname⟩ | hnameless
    · rw [hname.query_eq] at h
      split_ifs at h with hle
      cases h
      exact ⟨hname, Nat.not_le.mp hle⟩
    · obtain ⟨e, herror, -⟩ := hnameless.refused capacity
      cases h.symm.trans herror
  · rintro ⟨hname, hlt⟩
    exact hname.query_of_lt hlt

theorem Named.eq_of_ofString {text s : String} (h : Named proc files text)
    (hread : files.readLink (proc.join "self/exe") = .ok (.ofString s)) : text = s := by
  obtain ⟨target, hread', hlossy, -⟩ := h
  cases hread.symm.trans hread'
  rw [← Path.display_eq_iff.mpr hlossy, Path.display_ofString]

/-- **The path is given whole or not at all.** The target of a link is read as one text. With a
text that is not empty, the answer is that text if its bytes and one more fit the capacity, and an
error if not; without one it is always an error. So a greater capacity changes no answer, no two
answers differ, every answer fits with the byte at its end, and a target that is a text is given
as it is. -/
theorem whole_or_refused (proc : Path) (files : Files) :
    (∀ text, Named proc files text → ∀ capacity,
      (text.utf8ByteSize + 1 ≤ capacity → query proc files capacity = .ok text) ∧
      (capacity ≤ text.utf8ByteSize → Refused (query proc files capacity))) ∧
    (Nameless proc files → ∀ capacity, Refused (query proc files capacity)) ∧
    ((∃! text, Named proc files text) ∨ Nameless proc files) ∧
    ∀ capacity text, query proc files capacity = .ok text →
      (∀ larger, capacity ≤ larger → query proc files larger = .ok text) ∧
      (∀ other s, query proc files other = .ok s → s = text) ∧
      text.utf8ByteSize + 1 ≤ capacity ∧
      ∀ s, files.readLink (proc.join "self/exe") = .ok (.ofString s) → text = s := by
  refine ⟨fun text h capacity => ⟨h.query_of_lt, h.refused_of_le⟩, Nameless.refused, ?_, ?_⟩
  · refine (named_or_nameless proc files).imp_left ?_
    rintro ⟨text, h⟩
    exact ⟨text, h, fun _ hother => hother.unique h⟩
  · intro capacity text h
    obtain ⟨hname, hlt⟩ := query_eq_ok_iff.mp h
    refine ⟨fun larger hle => hname.query_of_lt (Nat.lt_of_lt_of_le hlt hle), ?_, hlt,
      fun s => hname.eq_of_ofString⟩
    intro other s hs
    exact (query_eq_ok_iff.mp hs).1.unique hname

/-- A link to bytes that are no text: a byte that starts a character and does not go on, two of
the three bytes of a character, and a byte that is in none. -/
def brokenLink : Fixture :=
  Fixture.empty.addLink (.ofString "/proc/self/exe") ⟨[0xc3, 0x28, 0xe2, 0x82, 0x2f, 0xff]⟩

/-- Six bytes that are read as eleven: enough room for the eleven and one more, for the eleven
only, for more than the six, and none. -/
theorem whole_or_refused_brokenLink :
    let proc := Path.ofString "/proc"
    query proc brokenLink.files 12 = .ok "\ufffd(\ufffd/\ufffd" ∧
    (∀ capacity, query proc brokenLink.files (12 + capacity) = .ok "\ufffd(\ufffd/\ufffd") ∧
    Refused (query proc brokenLink.files 11) ∧
    Refused (query proc brokenLink.files 7) ∧
    Refused (query proc brokenLink.files 0) ∧
    Refused (query proc Fixture.empty.files 12) := by
  intro proc
  obtain ⟨hnamed, -, -, hall⟩ := whole_or_refused proc brokenLink.files
  have hname : Named proc brokenLink.files "\ufffd(\ufffd/\ufffd" :=
    ⟨⟨[0xc3, 0x28, 0xe2, 0x82, 0x2f, 0xff]⟩, rfl, Path.display_eq_iff.mp (by decide +kernel),
      by decide⟩
  have hsize : "\ufffd(\ufffd/\ufffd".utf8ByteSize = 11 := by decide
  have hfits := (hnamed _ hname 12).1 (by omega)
  refine ⟨hfits, fun capacity => (hall _ _ hfits).1 _ (Nat.le_add_right ..), ?_, ?_, ?_, ?_⟩
  · exact (hnamed _ hname 11).2 (by omega)
  · exact (hnamed _ hname 7).2 (by omega)
  · exact (hnamed _ hname 0).2 (Nat.zero_le _)
  · exact (whole_or_refused proc Fixture.empty.files).2.1 (.inl ⟨_, rfl⟩) 12

end Executable

end HostInfo
