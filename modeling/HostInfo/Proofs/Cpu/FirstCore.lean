import HostInfo.Proofs.Cpu.Info

/-!
# The first core of the list

The list of processors is read in one pass. It falls into the lines in front of the first model
line, that line, the lines up to the second model line, and the rest. Of the first part and of the
rest only the number of model lines is kept: the model is on the first model line, and the speed is
the last number on a speed line of the part between.
-/

namespace HostInfo

/-! ## Texts without blanks at their ends -/

namespace Text

/-- The second text is what is left of the first without the blanks at its ends. -/
structure Trimmed (s t : List Char) : Prop where
  parts : ∃ front back, s = front ++ t ++ back ∧ (∀ c ∈ front, isBlank c) ∧ ∀ c ∈ back, isBlank c
  head : ∀ c ∈ t.head?, isBlank c = false
  last : ∀ c ∈ t.getLast?, isBlank c = false

theorem exists_append_of_trimEnd (s : List Char) :
    ∃ back, s = trimEnd s ++ back ∧ ∀ c ∈ back, isBlank c := by
  induction s using List.reverseRecOn with
  | nil => exact ⟨[], rfl, by simp⟩
  | append_singleton s c ih =>
      cases hc : isBlank c with
      | true =>
          obtain ⟨back, hs, hback⟩ := ih
          refine ⟨back ++ [c], ?_, ?_⟩
          · rw [trimEnd_concat_blank hc, ← List.append_assoc, ← hs]
          · simpa [or_imp, forall_and, hc] using hback
      | false => exact ⟨[], by rw [trimEnd_concat hc, List.append_nil], by simp⟩

theorem trimmed_trim (s : List Char) : Trimmed s (trim s) where
  parts := by
    obtain ⟨back, hs, hback⟩ := exists_append_of_trimEnd s
    refine ⟨(trimEnd s).takeWhile isBlank, back, ?_, ?_, hback⟩
    · rw [trim, trimStart, List.takeWhile_append_dropWhile, ← hs]
    · exact fun c hc => List.mem_takeWhile_imp hc
  head c hc := by
    have hnot := List.head?_dropWhile_not isBlank (trimEnd s)
    rw [← trimStart, ← trim, Option.mem_def.mp hc] at hnot
    simpa using hnot
  last _ hc := isBlank_getLast_trim hc

end Text

namespace Cpu.Info

/-! ## What the parts say -/

/-- The lines fall into those in front of the first model line, that line, those between it and the
second model line, and the rest. -/
structure Parted (lines before : List (List Char)) (first : List Char)
    (block after : List (List Char)) : Prop where
  lines_eq : lines = before ++ first :: (block ++ after)
  before : ∀ l ∈ before, isModelLine l = false
  first : isModelLine first = true
  block : ∀ l ∈ block, isModelLine l = false
  after : ∀ l ∈ after.head?, isModelLine l = true

/-- The text behind the first colon of a line, without blanks around it. -/
inductive HasValue : List Char → List Char → Prop
  | behind {name v t : List Char} (hname : ':' ∉ name) (ht : Text.Trimmed v t) :
      HasValue (name ++ ':' :: v) t
  | missing {line : List Char} (h : ':' ∉ line) : HasValue line []

/-- The number on a line about the clock speed, if one can be read there. -/
def speedOn? (line : List Char) : Option Binary64 :=
  if isSpeedLine line then Binary64.ofChars? (value line) else none

/-- The whole part, kept within 32 bits; what is not a number counts as zero. -/
def IsWholePart : Binary64 → UInt32 → Prop
  | .nan, n => n = 0
  | .infinite negative, n => n.toNat = if negative then 0 else 2 ^ 32 - 1
  | .finite negative q, n =>
    n.toNat = if negative then 0 else min (q.count / Binary64.one) (2 ^ 32 - 1)

/-- The whole part of the last number on a speed line among these; zero if there is none. -/
inductive LastSpeed (block : List (List Char)) : UInt32 → Prop
  | on {front back : List (List Char)} {line : List Char} {x : Binary64} {n : UInt32}
      (hblock : block = front ++ line :: back) (hx : speedOn? line = some x)
      (hback : ∀ l ∈ back, speedOn? l = none) (hn : IsWholePart x n) : LastSpeed block n
  | nowhere (h : ∀ l ∈ block, speedOn? l = none) : LastSpeed block 0

theorem hasValue_value (line : List Char) : HasValue line (value line) := by
  unfold value
  cases hcut : Text.cutFirst? ':' line with
  | none => exact .missing (Text.cutFirst_eq_none_iff.mp hcut)
  | some parts =>
      obtain ⟨name, v⟩ := parts
      obtain ⟨rfl, hname⟩ := Text.cutFirst_eq_some hcut
      exact .behind hname (Text.trimmed_trim v)

/-- A whole number cut off at the ends of the 32-bit range. -/
theorem toNat_clamped (i : Int) :
    (UInt32.ofNat (if i < 0 then 0 else if 2 ^ 32 - 1 < i then 2 ^ 32 - 1 else i).toNat).toNat =
      min i.toNat (2 ^ 32 - 1) := by
  rw [UInt32.toNat_ofNat_of_lt']
  · split_ifs <;> omega
  · change _ < 2 ^ 32
    split_ifs <;> omega

theorem isWholePart_toUInt32 (x : Binary64) : IsWholePart x x.toUInt32 := by
  cases x with
  | nan => rfl
  | infinite negative => cases negative <;> rfl
  | finite negative q =>
      refine (toNat_clamped _).trans ?_
      cases negative with
      | true =>
          rw [if_pos rfl, if_pos rfl, Int.toNat_neg_natCast, Nat.zero_min]
      | false =>
          rw [if_neg Bool.false_ne_true, if_neg Bool.false_ne_true, Int.toNat_natCast]

/-! ## One more line -/

theorem addLine_of_model {info : Info} {line : List Char} (h : isModelLine line = true)
    (hcores : info.cores ≠ 0) : addLine info line = { info with cores := info.cores + 1 } := by
  rw [addLine, if_pos h, if_neg hcores]

theorem addLine_first {line : List Char} (h : isModelLine line = true) :
    addLine unknown line = ⟨1, String.ofList (value line), 0⟩ := by
  rw [addLine, if_pos h]
  rfl

theorem addLine_of_speed {info : Info} {line : List Char} (h : isModelLine line = false)
    (hcores : info.cores = 1) :
    addLine info line =
      { info with speed := ((speedOn? line).map Binary64.toUInt32).getD info.speed } := by
  unfold addLine speedOn?
  rw [if_neg (by simp [h])]
  by_cases hspeed : isSpeedLine line
  · rw [if_pos ⟨hspeed, hcores⟩, if_pos hspeed]
    cases Binary64.ofChars? (value line) <;> rfl
  · rw [if_neg fun hboth => hspeed hboth.1, if_neg hspeed]
    rfl

/-- A line that is neither of a model nor of a speed that counts is passed over. -/
theorem addLine_eq_self {info : Info} {line : List Char} (h : isModelLine line = false)
    (hpassed : info.cores ≠ 1 ∨ speedOn? line = none) : addLine info line = info := by
  rcases hpassed with hcores | hnone
  · rw [addLine, if_neg (by simp [h]), if_neg fun hboth => hcores hboth.2]
  · by_cases hcores : info.cores = 1
    · rw [addLine_of_speed h hcores, hnone]
      rfl
    · rw [addLine, if_neg (by simp [h]), if_neg fun hboth => hcores hboth.2]

/-! ## The parts one after the other -/

theorem foldl_before {lines : List (List Char)} (h : ∀ l ∈ lines, isModelLine l = false) :
    lines.foldl addLine unknown = unknown := by
  induction lines with
  | nil => rfl
  | cons line lines ih =>
      have hline : addLine unknown line = unknown :=
        addLine_eq_self (h line (List.mem_cons_self ..)) (.inl Nat.zero_ne_one)
      rw [List.foldl_cons, hline, ih fun l hl => h l (List.mem_cons_of_mem _ hl)]

/-- Behind the first model line each number that can be read takes the place of the one before. -/
theorem foldl_block {block : List (List Char)} (h : ∀ l ∈ block, isModelLine l = false)
    (model : String) :
    ∃ speed, block.foldl addLine ⟨1, model, 0⟩ = ⟨1, model, speed⟩ ∧ LastSpeed block speed := by
  -- from the end, where the number stands that counts
  induction block using List.reverseRecOn with
  | nil => exact ⟨0, rfl, .nowhere (by simp)⟩
  | append_singleton block line ih =>
      obtain ⟨speed, hfold, hlast⟩ := ih fun l hl => h l (List.mem_append_left _ hl)
      rw [List.foldl_concat, hfold, addLine_of_speed (h line (by simp)) rfl]
      cases hx : speedOn? line with
      | some x => exact ⟨_, rfl, .on rfl hx (by simp) (isWholePart_toUInt32 x)⟩
      | none =>
          refine ⟨speed, rfl, ?_⟩
          cases hlast with
          | @on front back _ _ _ hblock hx' hback hn =>
              have hblock' := congrArg (· ++ [line]) hblock
              simp only [List.append_assoc, List.cons_append] at hblock'
              refine .on hblock' hx' ?_ hn
              simpa [or_imp, forall_and, hx] using hback
          | nowhere hnone => exact .nowhere (by simpa [or_imp, forall_and, hx] using hnone)

/-- From the second model line on only the number of cores changes. -/
theorem foldl_after (lines : List (List Char)) {info : Info} (h : 2 ≤ info.cores) :
    lines.foldl addLine info = { info with cores := info.cores + lines.countP isModelLine } := by
  induction lines generalizing info with
  | nil => rfl
  | cons line lines ih =>
      rw [List.foldl_cons, List.countP_cons]
      cases hline : isModelLine line with
      | true =>
          rw [addLine_of_model hline (by omega), ih (Nat.le_succ_of_le h)]
          simp only [Info.mk.injEq, and_self, and_true, if_true]
          omega
      | false =>
          rw [addLine_eq_self hline (.inl (by omega)), ih h]
          simp

theorem cores_front {front : List (List Char)} (h : front.countP isModelLine = 1) :
    (front.foldl addLine unknown).cores = 1 := by
  rw [cores_foldl, h]
  rfl

/-- What stands in front of the second model line settles everything but the number of cores. -/
theorem foldl_second {front rest : List (List Char)} {second : List Char}
    (hfront : front.countP isModelLine = 1) (hsecond : isModelLine second = true) :
    (front ++ second :: rest).foldl addLine unknown =
      { front.foldl addLine unknown with cores := 2 + rest.countP isModelLine } := by
  have hcores := cores_front hfront
  have hstep : addLine (front.foldl addLine unknown) second =
      { front.foldl addLine unknown with cores := 2 } := by
    rw [addLine_of_model hsecond (by omega), hcores]
  rw [List.foldl_append, List.foldl_cons, hstep, foldl_after _ (Nat.le_refl 2)]

/-! ## The whole list -/

theorem exists_parted {lines : List (List Char)} (h : ∃ l ∈ lines, isModelLine l = true) :
    ∃ before first block after, Parted lines before first block after := by
  obtain ⟨first, hfind⟩ := Option.isSome_iff_exists.mp (List.find?_isSome.mpr h)
  obtain ⟨hfirst, before, rest, rfl, hbefore⟩ := List.find?_eq_some_iff_append.mp hfind
  let listed (l : List Char) : Bool := !isModelLine l
  refine ⟨before, first, rest.takeWhile listed, rest.dropWhile listed, ?_, ?_, hfirst, ?_, ?_⟩
  · rw [List.takeWhile_append_dropWhile]
  · exact fun l hl => by simpa using hbefore l hl
  · exact fun l hl => by simpa [listed] using List.mem_takeWhile_imp hl
  · intro l hl
    have hnot := List.head?_dropWhile_not listed rest
    rw [Option.mem_def.mp hl] at hnot
    simpa [listed] using hnot

theorem Parted.foldl {lines before block after : List (List Char)} {first : List Char}
    (h : Parted lines before first block after) :
    ∃ speed, LastSpeed block speed ∧ lines.foldl addLine unknown =
      ⟨1 + after.countP isModelLine, String.ofList (value first), speed⟩ := by
  obtain ⟨speed, hblock, hspeed⟩ := foldl_block h.block (String.ofList (value first))
  have hfront : (before ++ first :: block).foldl addLine unknown =
      ⟨1, String.ofList (value first), speed⟩ := by
    rw [List.foldl_append, List.foldl_cons, foldl_before h.before, addLine_first h.first, hblock]
  refine ⟨speed, hspeed, ?_⟩
  rw [h.lines_eq, ← List.cons_append, ← List.append_assoc]
  cases after with
  | nil =>
      rw [List.append_nil, hfront]
      rfl
  | cons second rest =>
      have hsecond : isModelLine second = true := h.after second rfl
      have hcount : (before ++ first :: block).countP isModelLine = 1 := by
        have hcores := cores_foldl (before ++ first :: block) unknown
        rw [hfront] at hcores
        exact (hcores.trans (Nat.zero_add _)).symm
      rw [foldl_second hcount hsecond, hfront, List.countP_cons_of_pos hsecond]
      simp only [Info.mk.injEq, and_self, and_true]
      omega

/-! ## A carriage return at the end -/

theorem isPrefixOf_withoutReturn {mark : List Char} (h : '\r' ∉ mark) (line : List Char) :
    mark.isPrefixOf (Text.withoutReturn line) = mark.isPrefixOf line := by
  unfold Text.withoutReturn
  split
  · next hlast =>
      obtain ⟨front, rfl⟩ := List.getLast?_eq_some_iff.mp hlast
      rw [List.dropLast_concat, Bool.eq_iff_iff, List.isPrefixOf_iff_prefix,
        List.isPrefixOf_iff_prefix, List.prefix_concat_iff]
      constructor
      · exact .inr
      · rintro (rfl | hprefix)
        · exact absurd (by simp) h
        · exact hprefix
  · rfl

theorem value_withoutReturn (line : List Char) : value (Text.withoutReturn line) = value line := by
  unfold Text.withoutReturn
  split
  · next hlast =>
      obtain ⟨front, rfl⟩ := List.getLast?_eq_some_iff.mp hlast
      rw [List.dropLast_concat, value, value]
      by_cases hcolon : ':' ∈ front
      · obtain ⟨name, v, rfl, hname⟩ := List.eq_append_cons_of_mem hcolon
        have htrim : Text.trim (v ++ ['\r']) = Text.trim v := by
          rw [Text.trim, Text.trimEnd_concat_blank (by decide), Text.trim]
        rw [List.append_assoc, List.cons_append, Text.cutFirst_append hname,
          Text.cutFirst_append hname]
        exact htrim.symm
      · have hnone : ':' ∉ front ++ ['\r'] := by simp [hcolon]
        rw [Text.cutFirst_eq_none_iff.mpr hcolon, Text.cutFirst_eq_none_iff.mpr hnone]
  · rfl

theorem addLine_withoutReturn (info : Info) (line : List Char) :
    addLine info (Text.withoutReturn line) = addLine info line := by
  have hmodel : isModelLine (Text.withoutReturn line) = isModelLine line :=
    isPrefixOf_withoutReturn (by decide) line
  have hspeed : isSpeedLine (Text.withoutReturn line) = isSpeedLine line :=
    isPrefixOf_withoutReturn (by decide) line
  rw [addLine, addLine, hmodel, hspeed, value_withoutReturn]

theorem foldl_lines (s : List Char) (info : Info) :
    ((s.splitOn '\n').map Text.withoutReturn).foldl addLine info =
      (Text.lines s).foldl addLine info := by
  obtain ⟨front, last, hpieces⟩ :=
    (List.eq_nil_or_concat' (s.splitOn '\n')).resolve_left (List.splitOn_ne_nil '\n' s)
  have hlast : Text.lines s = front.map Text.withoutReturn ++ [last].filter (· ≠ []) := by
    rw [Text.lines, hpieces, List.dropLast_concat, List.getLast?_concat]
    rfl
  rw [hlast, hpieces, List.map_append, List.foldl_append, List.foldl_append, List.map_singleton,
    List.foldl_cons, List.foldl_nil, addLine_withoutReturn]
  -- an empty last piece is no line, and an empty line changes nothing
  cases last with
  | nil => exact addLine_eq_self rfl (.inr rfl)
  | cons c last => rfl

/-! ## Text behind the list -/

theorem ofText_append {text : String} (h : text.toList.getLast? = some '\n')
    (hsettled : 2 ≤ (ofText text).cores) (more : String) :
    ofText (text ++ more) = { ofText text with
      cores := (ofText text).cores + (Text.lines more.toList).countP isModelLine } := by
  have hlines : Text.lines (text ++ more).toList =
      Text.lines text.toList ++ Text.lines more.toList := by
    rw [String.toList_append, Text.lines_append h]
  rw [ofText, hlines, List.foldl_append]
  exact foldl_after _ hsettled

theorem ofText_append_feed {text : String} (hsettled : 2 ≤ (ofText text).cores) (more : String) :
    ofText (text ++ "\n" ++ more) = { ofText text with
      cores := (ofText text).cores + (Text.lines more.toList).countP isModelLine } := by
  have hlines : Text.lines (text ++ "\n" ++ more).toList =
      (text.toList.splitOn '\n').map Text.withoutReturn ++ Text.lines more.toList := by
    rw [String.toList_append, String.toList_append, List.append_assoc]
    exact Text.lines_append_feed _ _
  rw [ofText, hlines, List.foldl_append, foldl_lines]
  exact foldl_after _ hsettled

/-! ## What the reader says of a text -/

/-- A line about the clock speed, behind these lines, that does not count: it is not one of the
first core, or no number can be read on it. -/
structure SpeedPassed (before : List (List Char)) (line : List Char) : Prop where
  isSpeedLine : isSpeedLine line = true
  passed : before.countP isModelLine ≠ 1 ∨ Binary64.ofChars? (value line) = none

/-- Two lists that are the same up to the second model line, which both have. -/
def SameFirst (lines lines' : List (List Char)) : Prop :=
  ∃ front second rest second' rest', lines = front ++ second :: rest ∧
    lines' = front ++ second' :: rest' ∧ front.countP isModelLine = 1 ∧
    isModelLine second = true ∧ isModelLine second' = true

theorem isModelLine_of_isSpeedLine {line : List Char} (h : isSpeedLine line = true) :
    isModelLine line = false := by
  obtain ⟨rest, rfl⟩ := List.isPrefixOf_iff_prefix.mp h
  rfl

theorem SpeedPassed.addLine_eq {before : List (List Char)} {line : List Char}
    (h : SpeedPassed before line) :
    addLine (before.foldl addLine unknown) line = before.foldl addLine unknown := by
  refine addLine_eq_self (isModelLine_of_isSpeedLine h.isSpeedLine) ?_
  refine h.passed.imp ?_ ?_
  · intro hcount hcores
    rw [cores_foldl] at hcores
    exact hcount ((Nat.zero_add _).symm.trans hcores)
  · intro hnone
    rw [speedOn?, if_pos h.isSpeedLine, hnone]

theorem SameFirst.settles {lines lines' : List (List Char)} (h : SameFirst lines lines') :
    (lines.foldl addLine unknown).model = (lines'.foldl addLine unknown).model ∧
    (lines.foldl addLine unknown).speed = (lines'.foldl addLine unknown).speed := by
  obtain ⟨front, second, rest, second', rest', rfl, rfl, hfront, hsecond, hsecond'⟩ := h
  rw [foldl_second hfront hsecond, foldl_second hfront hsecond']
  exact ⟨rfl, rfl⟩

/-- **Model and speed are those of the first core.** The cores are the model lines. Without one
nothing is known; otherwise the model is the text behind the colon of the first model line, and the
speed the last that can be read between it and the second. A speed line elsewhere, or one on which
no number can be read, makes no difference, nor does what stands behind the second model line,
except for the number of cores. -/
theorem first_core_only (text : String) :
    (ofText text).cores = (Text.lines text.toList).countP isModelLine ∧
    ((∀ l ∈ Text.lines text.toList, isModelLine l = false) → ofText text = unknown) ∧
    ((∃ l ∈ Text.lines text.toList, isModelLine l = true) →
      ∃ before first block after, Parted (Text.lines text.toList) before first block after ∧
        HasValue first (ofText text).model.toList ∧ LastSpeed block (ofText text).speed) ∧
    (∀ (other : String) (before after : List (List Char)) (line : List Char),
      Text.lines text.toList = before ++ line :: after →
      Text.lines other.toList = before ++ after → SpeedPassed before line →
      ofText other = ofText text) ∧
    (∀ other : String, SameFirst (Text.lines text.toList) (Text.lines other.toList) →
      (ofText text).model = (ofText other).model ∧ (ofText text).speed = (ofText other).speed) ∧
    (2 ≤ (Text.lines text.toList).countP isModelLine → ∀ more : String,
      ofText (text ++ "\n" ++ more) = { ofText text with
        cores := (ofText text).cores + (Text.lines more.toList).countP isModelLine } ∧
      (text.toList.getLast? = some '\n' → ofText (text ++ more) = { ofText text with
        cores := (ofText text).cores + (Text.lines more.toList).countP isModelLine })) := by
  refine ⟨cores_ofText text, foldl_before, ?_, ?_, ?_, ?_⟩
  · intro hlisted
    obtain ⟨before, first, block, after, hparted⟩ := exists_parted hlisted
    obtain ⟨speed, hspeed, hfold⟩ := hparted.foldl
    refine ⟨before, first, block, after, hparted, ?_, ?_⟩
    · rw [ofText, hfold, String.toList_ofList]
      exact hasValue_value first
    · rw [ofText, hfold]
      exact hspeed
  · intro other before after line htext hother hpassed
    rw [ofText, ofText, htext, hother, List.foldl_append, List.foldl_append, List.foldl_cons,
      hpassed.addLine_eq]
  · exact fun other hsame => hsame.settles
  · intro htwo more
    rw [← cores_ofText] at htwo
    exact ⟨ofText_append_feed htwo more, fun hfeed => ofText_append hfeed htwo more⟩

/-- A speed in front of the first core, one behind the second and a line without a number, and a
model with a colon in it. -/
def mixedList : String :=
  "cpu MHz: 9\n" ++
  "model name: A: B \r\n" ++
  "cpu MHz: 1200.9\n" ++
  "cpu MHz: fast\n" ++
  "model name\n" ++
  "cpu MHz: 7\n"

/-- The same without the line that has no number. -/
def readableList : String :=
  "cpu MHz: 9\n" ++
  "model name: A: B \r\n" ++
  "cpu MHz: 1200.9\n" ++
  "model name\n" ++
  "cpu MHz: 7\n"

theorem lines_mixedList :
    Text.lines mixedList.toList =
      ["cpu MHz: 9".toList, "model name: A: B ".toList, "cpu MHz: 1200.9".toList,
        "cpu MHz: fast".toList, "model name".toList, "cpu MHz: 7".toList] := by
  decide +kernel

theorem lines_readableList :
    Text.lines readableList.toList =
      ["cpu MHz: 9".toList, "model name: A: B ".toList, "cpu MHz: 1200.9".toList,
        "model name".toList, "cpu MHz: 7".toList] := by
  decide +kernel

theorem first_core_only_mixed :
    (∃ before first block after, Parted (Text.lines mixedList.toList) before first block after ∧
      HasValue first "A: B".toList ∧ LastSpeed block 1200) ∧
    ofText mixedList = ⟨2, "A: B", 1200⟩ ∧
    ofText "cpu MHz: 9" = unknown ∧
    ofText readableList = ofText mixedList ∧
    ((ofText "model name:A\nmodel name").model = (ofText "model name:A\nmodel name:B\nC").model ∧
      (ofText "model name:A\nmodel name").speed =
        (ofText "model name:A\nmodel name:B\nC").speed) ∧
    ofText (mixedList ++ "model name: C\n") = { ofText mixedList with
      cores := (ofText mixedList).cores +
        (Text.lines "model name: C\n".toList).countP isModelLine } := by
  obtain ⟨-, -, hparted, hpassed, -, happend⟩ := first_core_only mixedList
  have hsecond : SameFirst (Text.lines "model name:A\nmodel name".toList)
      (Text.lines "model name:A\nmodel name:B\nC".toList) :=
    ⟨["model name:A".toList], "model name".toList, [], "model name:B".toList, ["C".toList],
      by decide +kernel, by decide +kernel, by decide, by decide, by decide⟩
  have hfast : SpeedPassed
      ["cpu MHz: 9".toList, "model name: A: B ".toList, "cpu MHz: 1200.9".toList]
      "cpu MHz: fast".toList :=
    ⟨by decide, .inr (by decide +kernel)⟩
  have hmixed : ofText mixedList = ⟨2, "A: B", 1200⟩ := by decide +kernel
  rw [lines_mixedList] at hparted hpassed happend ⊢
  rw [hmixed] at hparted
  refine ⟨hparted ⟨_, .tail _ (.head _), by decide⟩, hmixed, ?_, ?_, ?_, ?_⟩
  · exact (first_core_only "cpu MHz: 9").2.1 (by decide +kernel)
  · exact hpassed readableList _ _ _ rfl lines_readableList hfast
  · exact (first_core_only "model name:A\nmodel name").2.2.2.2.1 _ hsecond
  · exact (happend (by decide) _).2 (by decide +kernel)

end Cpu.Info

end HostInfo
