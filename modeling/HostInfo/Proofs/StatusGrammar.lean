import HostInfo.Proofs.FieldForms
import HostInfo.Proofs.StatusLine

/-!
# The grammar of a status line

Which texts are status lines, said without the reader: how a line is parted, and which fields of
which form stand behind the command. The reader accepts exactly these lines and takes from them
the process id, the command as it stands and the values that the fields of their names write.
Every other line is refused with the first thing that is wrong with it. Fields behind those of the
format make no difference, as long as none of them moves the end of the command.
-/

namespace HostInfo.StatLine

open FieldScan Numeral Text

/-- The fields behind the command. -/
def format : Format :=
  [("state", .character)] ++
  ["ppid", "pgrp", "session", "tty_nr", "tpgid"].map (·, .number .int32) ++
  [("flags", .number .uint32)] ++
  ["minflt", "cminflt", "majflt", "cmajflt", "utime", "stime"].map (·, .number .uint64) ++
  ["cutime", "cstime", "priority", "nice", "num_threads", "itrealvalue"].map
    (·, .number .int64) ++
  ["starttime", "vsize", "rss", "rsslim", "startcode", "endcode", "startstack"].map
    (·, .number .uint64)

/-- The line is parted at its first opening parenthesis and, behind that, at the last closing one
that a space follows. -/
structure Parted (line before command tail : List Char) : Prop where
  line_eq : line = before ++ '(' :: (command ++ ')' :: ' ' :: tail)
  opens_first : '(' ∉ before
  closes_last : ¬ [')', ' '] <:+: tail

/-- A process id in front of the command, and fields of the format behind it. -/
def Accepted (line : List Char) : Prop :=
  ∃ before command tail, Parted line before command tail ∧
    (∃ pid, Width.uint32.Reads (trim before) pid) ∧ Follows format (fields tail)

/-- The values stand in the fields of their names. -/
structure Values (fields : List (List Char)) (stat : StatLine) : Prop where
  state : fields.head? = some [stat.state]
  parent : Holds format fields "ppid" stat.parent.toInt
  userTicks : Holds format fields "utime" stat.userTicks.toNat
  systemTicks : Holds format fields "stime" stat.systemTicks.toNat
  threads : Holds format fields "num_threads" stat.threads.toInt
  startTime : Holds format fields "starttime" stat.startTime.toNat
  virtualBytes : Holds format fields "vsize" stat.virtualBytes.toNat
  residentPages : Holds format fields "rss" stat.residentPages.toNat

/-- The line is accepted, and this is what it says. -/
def Describes (line : List Char) (stat : StatLine) : Prop :=
  ∃ before tail, Parted line before stat.command.toList tail ∧
    Width.uint32.Reads (trim before) stat.pid.toNat ∧
    Follows format (fields tail) ∧ Values (fields tail) stat

/-- The first thing that is wrong with the line, in the order of the line. -/
inductive Refused (line : List Char) : String → Prop
  | unopened (h : '(' ∉ line) : Refused line "missing '(' in stat"
  | unnumbered {before rest : List Char} (hline : line = before ++ '(' :: rest)
      (hfirst : '(' ∉ before) (h : ∀ pid, ¬ Width.uint32.Reads (trim before) pid) :
      Refused line "invalid pid"
  | unclosed {before rest : List Char} {pid : Int} (hline : line = before ++ '(' :: rest)
      (hfirst : '(' ∉ before) (hpid : Width.uint32.Reads (trim before) pid)
      (h : ¬ [')', ' '] <:+: rest) : Refused line "unterminated comm in stat"
  | field {before command tail : List Char} {pid : Int} {m : String}
      (hparted : Parted line before command tail) (hpid : Width.uint32.Reads (trim before) pid)
      (h : FirstFault format (fields tail) m) : Refused line m

/-! ## The fields -/

theorem columns_format : format.columns = columns := rfl

theorem nodup_format : (format.map Prod.fst).Nodup := by decide +kernel

theorem readsFrom_iff {fields : List (List Char)} {stat : StatLine} :
    ReadsFrom fields stat ↔ Values fields stat := by
  have huint64 := fun s a => @uint64?_eq_some_iff s a
  have hint32 := fun s a => @int32?_eq_some_iff s a
  have hint64 := fun s a => @int64?_eq_some_iff s a
  constructor
  · intro h
    constructor
    · exact List.head?_eq_getElem?.trans h.state
    · exact (holds_iff_bind (i := 1) hint32 nodup_format rfl).mpr h.parent
    · exact (holds_iff_bind (i := 11) huint64 nodup_format rfl).mpr h.userTicks
    · exact (holds_iff_bind (i := 12) huint64 nodup_format rfl).mpr h.systemTicks
    · exact (holds_iff_bind (i := 17) hint64 nodup_format rfl).mpr h.threads
    · exact (holds_iff_bind (i := 19) huint64 nodup_format rfl).mpr h.startTime
    · exact (holds_iff_bind (i := 20) huint64 nodup_format rfl).mpr h.virtualBytes
    · exact (holds_iff_bind (i := 21) huint64 nodup_format rfl).mpr h.residentPages
  · intro h
    constructor
    · exact List.head?_eq_getElem?.symm.trans h.state
    · exact (holds_iff_bind (i := 1) hint32 nodup_format rfl).mp h.parent
    · exact (holds_iff_bind (i := 11) huint64 nodup_format rfl).mp h.userTicks
    · exact (holds_iff_bind (i := 12) huint64 nodup_format rfl).mp h.systemTicks
    · exact (holds_iff_bind (i := 17) hint64 nodup_format rfl).mp h.threads
    · exact (holds_iff_bind (i := 19) huint64 nodup_format rfl).mp h.startTime
    · exact (holds_iff_bind (i := 20) huint64 nodup_format rfl).mp h.virtualBytes
    · exact (holds_iff_bind (i := 21) huint64 nodup_format rfl).mp h.residentPages

theorem ReadsFrom.of_take {fields fields' : List (List Char)} {stat : StatLine}
    (h : ReadsFrom fields stat) (htake : fields.take 26 = fields'.take 26) :
    ReadsFrom fields' stat := by
  have hsame : ∀ i, i < 26 → fields[i]? = fields'[i]? := fun i hi => getElem?_of_take htake hi
  constructor
  · exact (hsame 0 (by decide)).symm.trans h.state
  · rw [← hsame 1 (by decide)]; exact h.parent
  · rw [← hsame 11 (by decide)]; exact h.userTicks
  · rw [← hsame 12 (by decide)]; exact h.systemTicks
  · rw [← hsame 17 (by decide)]; exact h.threads
  · rw [← hsame 19 (by decide)]; exact h.startTime
  · rw [← hsame 20 (by decide)]; exact h.virtualBytes
  · rw [← hsame 21 (by decide)]; exact h.residentPages

section Scan

variable {pid : UInt32} {command : String}

theorem unique_scan (fields : List (List Char)) (a b : StatLine)
    (ha : a.pid = pid ∧ a.command = command ∧ ReadsFrom fields a)
    (hb : b.pid = pid ∧ b.command = command ∧ ReadsFrom fields b) : a = b := by
  obtain ⟨hpid, hcommand, hreads⟩ := ha
  obtain ⟨hpid', hcommand', hreads'⟩ := hb
  exact hreads.unique hreads' (hpid.trans hpid'.symm) (hcommand.trans hcommand'.symm)

theorem runOn_scan_eq_ok_iff {tail : List Char} {stat : StatLine} :
    (scan pid command).runOn tail = .ok stat ↔
      Follows format (fields tail) ∧
        stat.pid = pid ∧ stat.command = command ∧ Values (fields tail) stat := by
  rw [runOn_eq, (covers_scan pid command).value_eq_ok_iff unique_scan, ← columns_format,
    fault_columns_eq_none_iff, readsFrom_iff]

theorem exists_runOn_scan {tail : List Char} (h : Follows format (fields tail)) :
    ∃ stat, (scan pid command).runOn tail = .ok stat := by
  rw [← fault_columns_eq_none_iff, columns_format] at h
  obtain ⟨stat, hstat, -⟩ := (covers_scan pid command).exists_value h
  exact ⟨stat, hstat⟩

theorem runOn_scan_eq_error_iff {tail : List Char} {m : String} :
    (∃ e, (scan pid command).runOn tail = .error e ∧ e.message = m) ↔
      FirstFault format (fields tail) m := by
  rw [← fault_columns_eq_some_iff, columns_format]
  simp only [runOn_eq, (covers_scan pid command).value_eq_error_iff]

theorem runOn_scan_congr {tail tail' : List Char}
    (htake : (fields tail).take 26 = (fields tail').take 26) :
    (scan pid command).runOn tail = (scan pid command).runOn tail' := by
  rw [runOn_eq, runOn_eq]
  refine (covers_scan pid command).value_congr unique_scan ?_ htake
  rintro fields fields' stat hsame ⟨hpid, hcommand, hreads⟩
  exact ⟨hpid, hcommand, hreads.of_take hsame⟩

end Scan

/-! ## The parts of a line -/

section Line

variable {text : String} {before rest command tail : List Char}

theorem ofText_of_unopened (h : '(' ∉ trimEnd text.toList) : ofText text = .error .noCommand := by
  rw [ofText, ofChars, cutFirst_eq_none_iff.mpr h]

theorem ofText_of_unnumbered (hline : trimEnd text.toList = before ++ '(' :: rest)
    (hfirst : '(' ∉ before) (h : uint32? (trim before) = none) :
    ofText text = .error .badPid := by
  rw [ofText, ofChars, hline, cutFirst_append hfirst]
  simp only [h]

theorem ofText_of_unclosed (hline : trimEnd text.toList = before ++ '(' :: rest)
    (hfirst : '(' ∉ before) {pid : UInt32} (hpid : uint32? (trim before) = some pid)
    (h : ¬ [')', ' '] <:+: rest) : ofText text = .error .openCommand := by
  rw [ofText, ofChars, hline, cutFirst_append hfirst]
  simp only [hpid, (cutLast_eq_none_iff (List.cons_ne_nil ')' [' '])).mpr h]

theorem ofText_of_parted (h : Parted (trimEnd text.toList) before command tail) {pid : UInt32}
    (hpid : uint32? (trim before) = some pid) :
    ofText text = (scan pid (String.ofList command)).runOn tail := by
  have hcut : cutLast? [')', ' '] (command ++ ')' :: ' ' :: tail) = some (command, tail) :=
    (cutLast_eq_some_iff (by decide)).mpr ⟨rfl, h.closes_last⟩
  rw [ofText, ofChars, h.line_eq, cutFirst_append h.opens_first]
  simp only [hpid, hcut]

/-- There are four ways in which a line can be parted, and the reader takes the same one. -/
theorem line_cases (line : List Char) :
    '(' ∉ line ∨
    (∃ before rest, line = before ++ '(' :: rest ∧ '(' ∉ before ∧ uint32? (trim before) = none) ∨
    (∃ before rest pid, line = before ++ '(' :: rest ∧ '(' ∉ before ∧
      uint32? (trim before) = some pid ∧ ¬ [')', ' '] <:+: rest) ∨
    ∃ before command tail pid, Parted line before command tail ∧
      uint32? (trim before) = some pid := by
  cases hopen : cutFirst? '(' line with
  | none => exact .inl (cutFirst_eq_none_iff.mp hopen)
  | some parts =>
      obtain ⟨before, rest⟩ := parts
      obtain ⟨hline, hfirst⟩ := cutFirst_eq_some hopen
      cases hpid : uint32? (trim before) with
      | none => exact .inr (.inl ⟨before, rest, hline, hfirst, hpid⟩)
      | some pid =>
          cases hclose : cutLast? [')', ' '] rest with
          | none =>
              have hnot := (cutLast_eq_none_iff (List.cons_ne_nil ')' [' '])).mp hclose
              exact .inr (.inr (.inl ⟨before, rest, pid, hline, hfirst, hpid, hnot⟩))
          | some parts =>
              obtain ⟨command, tail⟩ := parts
              obtain ⟨rfl, hlast⟩ := (cutLast_eq_some_iff (by decide)).mp hclose
              exact .inr (.inr (.inr ⟨before, command, tail, pid, ⟨hline, hfirst, hlast⟩, hpid⟩))

end Line

/-! ## What the reader says of a text -/

theorem ofText_eq_ok_iff {text : String} {stat : StatLine} :
    ofText text = .ok stat ↔ Describes (trimEnd text.toList) stat := by
  constructor
  · intro hok
    rcases line_cases (trimEnd text.toList) with h | ⟨before, rest, hline, hfirst, hpid⟩ |
      ⟨before, rest, pid, hline, hfirst, hpid, hopen⟩ | ⟨before, command, tail, pid, hparted, hpid⟩
    · rw [ofText_of_unopened h] at hok
      cases hok
    · rw [ofText_of_unnumbered hline hfirst hpid] at hok
      cases hok
    · rw [ofText_of_unclosed hline hfirst hpid hopen] at hok
      cases hok
    · rw [ofText_of_parted hparted hpid, runOn_scan_eq_ok_iff] at hok
      obtain ⟨hfollows, rfl, hcommand, hvalues⟩ := hok
      have hchars : stat.command.toList = command := by rw [hcommand, String.toList_ofList]
      exact ⟨before, tail, hchars ▸ hparted, uint32?_eq_some_iff.mp hpid, hfollows, hvalues⟩
  · rintro ⟨before, tail, hparted, hpid, hfollows, hvalues⟩
    rw [ofText_of_parted hparted (uint32?_eq_some_iff.mpr hpid), runOn_scan_eq_ok_iff]
    exact ⟨hfollows, rfl, String.ofList_toList.symm, hvalues⟩

theorem exists_ofText_iff {text : String} :
    (∃ stat, ofText text = .ok stat) ↔ Accepted (trimEnd text.toList) := by
  constructor
  · rintro ⟨stat, hok⟩
    obtain ⟨before, tail, hparted, hpid, hfollows, -⟩ := ofText_eq_ok_iff.mp hok
    exact ⟨before, _, tail, hparted, ⟨_, hpid⟩, hfollows⟩
  · rintro ⟨before, command, tail, hparted, ⟨i, hi⟩, hfollows⟩
    obtain ⟨pid, hpid⟩ := exists_uint32_of_reads hi
    rw [ofText_of_parted hparted hpid]
    exact exists_runOn_scan hfollows

theorem ofText_eq_error_iff {text : String} {m : String} :
    (∃ e, ofText text = .error e ∧ e.message = m) ↔ Refused (trimEnd text.toList) m := by
  constructor
  · rintro ⟨e, he, rfl⟩
    rcases line_cases (trimEnd text.toList) with h | ⟨before, rest, hline, hfirst, hpid⟩ |
      ⟨before, rest, pid, hline, hfirst, hpid, hopen⟩ | ⟨before, command, tail, pid, hparted, hpid⟩
    · rw [ofText_of_unopened h] at he
      cases he
      exact .unopened h
    · rw [ofText_of_unnumbered hline hfirst hpid] at he
      cases he
      exact .unnumbered hline hfirst (not_exists_reads_iff.mpr hpid)
    · rw [ofText_of_unclosed hline hfirst hpid hopen] at he
      cases he
      exact .unclosed hline hfirst (uint32?_eq_some_iff.mp hpid) hopen
    · rw [ofText_of_parted hparted hpid] at he
      exact .field hparted (uint32?_eq_some_iff.mp hpid) (runOn_scan_eq_error_iff.mp ⟨e, he, rfl⟩)
  · intro h
    cases h with
    | unopened h => exact ⟨_, ofText_of_unopened h, rfl⟩
    | unnumbered hline hfirst h =>
        exact ⟨_, ofText_of_unnumbered hline hfirst (not_exists_reads_iff.mp h), rfl⟩
    | unclosed hline hfirst hi h =>
        obtain ⟨pid, hpid⟩ := exists_uint32_of_reads hi
        exact ⟨_, ofText_of_unclosed hline hfirst hpid h, rfl⟩
    | field hparted hi h =>
        obtain ⟨pid, hpid⟩ := exists_uint32_of_reads hi
        rw [ofText_of_parted hparted hpid]
        exact runOn_scan_eq_error_iff.mpr h

/-! ## Further fields -/

theorem take_fields_append {tail kept extra : List Char} {c : Char} {n : Nat}
    (hlength : n ≤ (fields tail).length) (hc : isFieldBlank c) (hkept : kept <+: c :: extra) :
    (fields (tail ++ kept)).take n = (fields tail).take n := by
  cases kept with
  | nil => rw [List.append_nil]
  | cons d kept =>
      obtain ⟨rfl, -⟩ := List.cons_prefix_cons.mp hkept
      rw [fields_append_blank hc, List.take_append_of_le_length hlength]

/-- What starts with a blank and does not move the end of the command makes no difference behind
the fields of the format. -/
theorem ofText_append {text : String} {head tail extra : List Char} {c : Char}
    (hline : trimEnd text.toList = head ++ ')' :: ' ' :: tail) (hopen : '(' ∈ head)
    (hlength : 26 ≤ (fields tail).length) (hc : isFieldBlank c)
    (hlast : ¬ [')', ' '] <:+: tail ++ c :: extra) :
    ofText (String.ofList (trimEnd text.toList ++ c :: extra)) = ofText text := by
  obtain ⟨before, command, rfl, hfirst⟩ : ∃ before command,
      head = before ++ '(' :: command ∧ '(' ∉ before := by
    cases hcut : cutFirst? '(' head with
    | none => exact absurd hopen (cutFirst_eq_none_iff.mp hcut)
    | some parts => exact ⟨parts.1, parts.2, cutFirst_eq_some hcut⟩
  obtain ⟨kept, hkept, htrim⟩ := exists_trimEnd_append (trimEnd_trimEnd text.toList) (c :: extra)
  have hparted : Parted (trimEnd text.toList) before command tail := by
    refine ⟨by rw [hline]; simp, hfirst, ?_⟩
    exact fun h => hlast (h.trans (List.prefix_append tail _).isInfix)
  have hparted' : Parted (trimEnd (String.ofList (trimEnd text.toList ++ c :: extra)).toList)
      before command (tail ++ kept) := by
    refine ⟨by rw [String.toList_ofList, htrim, hline]; simp, hfirst, ?_⟩
    exact fun h => hlast (h.trans (List.prefix_append_right_inj tail |>.mpr hkept).isInfix)
  cases hpid : uint32? (trim before) with
  | none =>
      rw [ofText_of_unnumbered hparted.line_eq hfirst hpid,
        ofText_of_unnumbered hparted'.line_eq hfirst hpid]
  | some pid =>
      rw [ofText_of_parted hparted hpid, ofText_of_parted hparted' hpid]
      exact runOn_scan_congr (take_fields_append hlength hc hkept)

/-- **The reader of status lines accepts exactly its grammar.** A text is accepted if its line has a
process id, a command and the 26 fields of the format. What is read are the id, the command from the
first opening parenthesis to the last closing one that a space follows, and the values in the fields
of their names. Any other text is refused with the first thing that is wrong with it. Further fields
change neither, as long as none of them closes the command anew. -/
theorem status_grammar (text : String) :
    ((∃ stat, ofText text = .ok stat) ↔ Accepted (trimEnd text.toList)) ∧
    (∀ stat, ofText text = .ok stat ↔ Describes (trimEnd text.toList) stat) ∧
    (∀ m, (∃ e, ofText text = .error e ∧ e.message = m) ↔ Refused (trimEnd text.toList) m) ∧
    ∀ head tail extra c, trimEnd text.toList = head ++ ')' :: ' ' :: tail → '(' ∈ head →
      26 ≤ (fields tail).length → isFieldBlank c → ¬ [')', ' '] <:+: tail ++ c :: extra →
      ofText (String.ofList (trimEnd text.toList ++ c :: extra)) = ofText text := by
  refine ⟨exists_ofText_iff, fun stat => ofText_eq_ok_iff, fun m => ofText_eq_error_iff, ?_⟩
  intro head tail extra c hline hopen hlength hc hlast
  exact ofText_append hline hopen hlength hc hlast

/-- Fields with a sign, with zeros in front and at the end of what they may be. -/
def extremeFields : String :=
  "S +1 -2147483648\t007 -0 0 0 0 0 0 0 9 5 0 -1 0 0 1\x0c0 100 4096 3 0 0 0 +0"

/-- A command with blanks, brackets and a state of its own, between blanks that are not ASCII. -/
def extremeLine : String := "\u00a042\t(a) (b) R) " ++ extremeFields ++ "\u3000"

theorem status_grammar_extreme :
    Describes (trimEnd extremeLine.toList) ⟨42, "a) (b) R", 'S', 1, 9, 5, 1, 100, 4096, 3⟩ ∧
    Refused (trimEnd "42 (a) (b) R) S 1 2147483648".toList) "invalid pgrp: '2147483648'" ∧
    ofText (String.ofList (trimEnd extremeLine.toList ++ ' ' :: "9 (x)y".toList)) =
      ofText extremeLine := by
  obtain ⟨-, hdescribes, -, hextra⟩ := status_grammar extremeLine
  obtain ⟨-, -, hrefused, -⟩ := status_grammar "42 (a) (b) R) S 1 2147483648"
  have hline : trimEnd extremeLine.toList =
      "\u00a042\t(a) (b) R".toList ++ ')' :: ' ' :: extremeFields.toList := by decide +kernel
  refine ⟨(hdescribes _).mp (by decide +kernel), ?_, ?_⟩
  · exact (hrefused _).mp ⟨.badField "pgrp" "2147483648", by decide +kernel, by decide⟩
  · exact hextra _ _ _ _ hline (by decide) (by decide +kernel) (by decide) (by decide +kernel)

end HostInfo.StatLine
