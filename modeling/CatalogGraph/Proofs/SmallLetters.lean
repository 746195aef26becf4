import Mathlib.Data.List.DropRight
import CatalogGraph.Text.Blank
import CatalogGraph.Text.Case

/-!
# Texts in small letters

A text in small letters stays as it is when it is lowercased again (`lowerFrom_lowerFrom`), and it
does not matter whether the white space around a text goes before or after lowercasing
(`trimChars_lowerFrom`).

The small form of a character depends on the characters around it, because of the capital sigma. But
white space and parentheses end a word wherever they stand, so a text can be lowercased in pieces
between them (`lowerFrom_append_boundary`).
-/

namespace CatalogGraph.Text

variable {c d : Char} {s t : String} {before cs ds rest : List Char}

/-! ## ASCII case -/

theorem toNat_toLower (c : Char) :
    c.toLower.toNat = if 65 ≤ c.toNat ∧ c.toNat ≤ 90 then c.toNat + 32 else c.toNat := by
  unfold Char.toLower
  split
  · rename_i h
    have hlow := h.1
    have hhigh := h.2
    simp only [UInt32.le_iff_toNat_le, ge_iff_le] at hlow hhigh
    have hA : ('A' : Char).val.toNat = 65 := rfl
    have hZ : ('Z' : Char).val.toNat = 90 := rfl
    have hshift : (('a' : Char).val - ('A' : Char).val).toNat = 32 := rfl
    have hcapital : 65 ≤ c.toNat ∧ c.toNat ≤ 90 := ⟨hlow, hhigh⟩
    rw [if_pos hcapital]
    change (c.val + (('a' : Char).val - ('A' : Char).val)).toNat = c.val.toNat + 32
    rw [UInt32.toNat_add]
    omega
  · rename_i h
    rw [if_neg]
    rintro ⟨hlow, hhigh⟩
    exact h ⟨UInt32.le_iff_toNat_le.2 hlow, UInt32.le_iff_toNat_le.2 hhigh⟩

theorem toLower_of_beyond (h : 0x80 ≤ c.toNat) : c.toLower = c := by
  refine Char.toNat_inj.1 ?_
  rw [toNat_toLower, if_neg]
  omega

theorem toNat_toLower_lt_iff : c.toLower.toNat < 0x80 ↔ c.toNat < 0x80 := by
  rw [toNat_toLower]
  split <;> omega

theorem toLower_toLower (c : Char) : c.toLower.toLower = c.toLower := by
  refine Char.toNat_inj.1 ?_
  rw [toNat_toLower, if_neg]
  rw [toNat_toLower]
  split <;> omega

/-- Nothing but a mark itself has the mark as its small form. -/
theorem toLower_eq_mark_iff (hd : d.toNat < 65 ∨ 90 < d.toNat ∧ d.toNat < 97) :
    c.toLower = d ↔ c = d := by
  rw [← Char.toNat_inj, ← Char.toNat_inj, toNat_toLower]
  split <;> omega

/-- The small form of a character does not depend on its ASCII case. -/
theorem lowerChar_of_toLower_eq (h : c.toLower = d.toLower) : lowerChar c = lowerChar d := by
  by_cases hc : c.toNat < 0x80
  · have hd : d.toNat < 0x80 := by rwa [← toNat_toLower_lt_iff, ← h, toNat_toLower_lt_iff]
    rw [lowerChar, lowerChar, if_pos hc, if_pos hd, h]
  · have hd : ¬ d.toNat < 0x80 := by rwa [← toNat_toLower_lt_iff, ← h, toNat_toLower_lt_iff]
    rw [toLower_of_beyond (Nat.le_of_not_lt hc), toLower_of_beyond (Nat.le_of_not_lt hd)] at h
    rw [h]

theorem sameIgnoringAsciiCase_iff :
    sameIgnoringAsciiCase s t = true ↔ s.toList.map Char.toLower = t.toList.map Char.toLower := by
  simp [sameIgnoringAsciiCase]

theorem sameIgnoringAsciiCase_comm (s t : String) :
    sameIgnoringAsciiCase s t = sameIgnoringAsciiCase t s := by
  rw [Bool.eq_iff_iff, sameIgnoringAsciiCase_iff, sameIgnoringAsciiCase_iff]
  exact eq_comm

/-! ## The tables -/

namespace Ranges

variable {ranges others : Ranges}

theorem exists_of_holds (h : ranges.holds c = true) :
    ∃ range ∈ ranges, range.1 ≤ c.toNat ∧ c.toNat ≤ range.2 := by
  obtain ⟨range, hrange, hin⟩ := List.any_eq_true.1 h
  simp only [Bool.and_eq_true, decide_eq_true_eq] at hin
  exact ⟨range, hrange, hin⟩

/-- What holds of every code point of the ranges holds of every character in them. -/
theorem forall_of_holds {p : Char → Bool}
    (hall : (ranges.all fun range =>
      (List.range' range.1 (range.2 + 1 - range.1)).all fun n => p (Char.ofNat n)) = true)
    (hc : ranges.holds c = true) : p c = true := by
  obtain ⟨range, hrange, hin⟩ := exists_of_holds hc
  have hcode : c.toNat ∈ List.range' range.1 (range.2 + 1 - range.1) :=
    List.mem_range'_1.2 (by omega)
  have h := List.all_eq_true.1 (List.all_eq_true.1 hall range hrange) c.toNat hcode
  rwa [Char.ofNat_toNat] at h

/-- Whether each of the ranges lies before or behind each of the others. -/
def apart (ranges others : Ranges) : Bool :=
  ranges.all fun range => others.all fun other =>
    Nat.blt range.2 other.1 || Nat.blt other.2 range.1

theorem not_holds_of_apart (hapart : ranges.apart others = true) (hc : ranges.holds c = true) :
    others.holds c = false := by
  refine Bool.eq_false_iff.2 fun hother => ?_
  obtain ⟨range, hrange, hin⟩ := exists_of_holds hc
  obtain ⟨other, hmem, hbetween⟩ := exists_of_holds hother
  have h := List.all_eq_true.1 (List.all_eq_true.1 hapart range hrange) other hmem
  simp only [Bool.or_eq_true, Nat.blt_eq] at h
  omega

end Ranges

namespace CaseRun

/-- The code point of the small form of a letter of the run. -/
def smallCode (run : CaseRun) (n : Nat) : Nat := ((n : Int) + run.shift).toNat

/-- The code points of the run. -/
def letters (run : CaseRun) : List Nat :=
  List.range' run.first ((run.last - run.first) / run.step + 1) run.step

variable {run : CaseRun} {n : Nat}

theorem bounds_of_holds (h : run.holds n = true) : run.first ≤ n ∧ n ≤ run.last := by
  simp only [holds, Bool.and_eq_true, decide_eq_true_eq] at h
  exact h.1

theorem mem_letters_of_holds (h : run.holds n = true) : n ∈ run.letters := by
  have hbounds := bounds_of_holds h
  simp only [holds, Bool.and_eq_true, beq_iff_eq] at h
  have hsplit := Nat.mod_add_div (n - run.first) run.step
  refine List.mem_range'.2 ⟨(n - run.first) / run.step, ?_, by omega⟩
  have hle : (n - run.first) / run.step ≤ (run.last - run.first) / run.step :=
    Nat.div_le_div_right (by omega)
  omega

end CaseRun

/-- The numbers as the bits of one number, in which a number is found without going through all. -/
def bits (ns : List Nat) : Nat := ns.foldr (fun n rest => rest ||| 1 <<< n) 0

theorem testBit_bits (ns : List Nat) (m : Nat) : (bits ns).testBit m = decide (m ∈ ns) := by
  induction ns with
  | nil => simp [bits]
  | cons n rest ih =>
    have hstep : bits (n :: rest) = bits rest ||| 1 <<< n := rfl
    rw [hstep, Nat.testBit_or, ih, Nat.one_shiftLeft, Nat.testBit_two_pow]
    simp [eq_comm, Bool.or_comm]

theorem not_mem_of_bits {ns ms : List Nat} (h : bits ns &&& bits ms = 0) {n : Nat} (hn : n ∈ ns) :
    n ∉ ms := by
  intro hm
  have hboth := congrArg (Nat.testBit · n) h
  simp [Nat.testBit_and, testBit_bits, hn, hm] at hboth

/-- The small form of a letter belongs to no run, so it is the small form of itself. -/
theorem not_holds_smallCode {run other : CaseRun} {n : Nat} (hrun : run ∈ capitalRuns)
    (hother : other ∈ capitalRuns) (h : run.holds n = true) :
    other.holds (run.smallCode n) = false := by
  have hapart : bits (capitalRuns.flatMap fun run => run.letters.map run.smallCode) &&&
      bits (capitalRuns.flatMap CaseRun.letters) = 0 := by
    decide +kernel
  have hsmall : run.smallCode n ∈ capitalRuns.flatMap fun run => run.letters.map run.smallCode :=
    List.mem_flatMap.2
      ⟨run, hrun, List.mem_map_of_mem (CaseRun.mem_letters_of_holds h)⟩
  refine Bool.eq_false_iff.2 fun hholds => not_mem_of_bits hapart hsmall ?_
  exact List.mem_flatMap.2 ⟨other, hother, CaseRun.mem_letters_of_holds hholds⟩

/-- The ranges in which the runs lie. -/
def capitalRanges : Ranges := capitalRuns.map fun run => (run.first, run.last)

/-- The ranges in which the small forms of the runs lie. -/
def smallRanges : Ranges :=
  capitalRuns.map fun run => (run.smallCode run.first, run.smallCode run.last)

theorem holds_capitalRanges {run : CaseRun} (hrun : run ∈ capitalRuns)
    (h : run.holds c.toNat = true) : capitalRanges.holds c = true := by
  have hbounds := CaseRun.bounds_of_holds h
  exact List.any_eq_true.2 ⟨_, List.mem_map_of_mem hrun, by simpa using hbounds⟩

theorem holds_smallRanges {run : CaseRun} {n : Nat} (hrun : run ∈ capitalRuns)
    (h : run.holds n = true) (hc : c.toNat = run.smallCode n) : smallRanges.holds c = true := by
  have hbounds := CaseRun.bounds_of_holds h
  refine List.any_eq_true.2 ⟨_, List.mem_map_of_mem hrun, ?_⟩
  simp only [hc, CaseRun.smallCode, Bool.and_eq_true, decide_eq_true_eq]
  omega

/-- White space has no case and is not passed over where the end of a word is looked for. Small
forms are no white space and not the dotted capital I, and only that of the Kelvin sign is in
ASCII. -/
theorem ranges_apart :
    (blankRanges.apart casedRanges = true ∧ blankRanges.apart caseIgnorableRanges = true ∧
      blankRanges.apart capitalRanges = true) ∧
    (smallRanges.apart blankRanges = true ∧ smallRanges.apart [(0x130, 0x130)] = true ∧
      smallRanges.apart [(0, 0x6A), (0x6C, 0x7F)] = true) := by
  decide +kernel

/-- A character beyond ASCII is its own small form, or its small form is read off a run. -/
theorem smallOfRuns_cases (c : Char) :
    (smallOfRuns c = c ∧ ∀ run ∈ capitalRuns, run.holds c.toNat = false) ∨
      ∃ run ∈ capitalRuns, run.holds c.toNat = true ∧
        ((smallOfRuns c).toNat = run.smallCode c.toNat ∨ (smallOfRuns c).toNat = 0) := by
  unfold smallOfRuns
  split
  · rename_i run hfind
    refine Or.inr ⟨run, List.mem_of_find?_eq_some hfind,
      List.find?_some (p := fun run : CaseRun => run.holds c.toNat) hfind, ?_⟩
    rw [toNat_ofNat]
    split
    · exact Or.inl rfl
    · exact Or.inr rfl
  · rename_i hfind
    exact Or.inl ⟨rfl, by simpa using hfind⟩

theorem smallOfRuns_of_not_holds (h : ∀ run ∈ capitalRuns, run.holds c.toNat = false) :
    smallOfRuns c = c := by
  rcases smallOfRuns_cases c with ⟨hsame, -⟩ | ⟨run, hrun, hholds, -⟩
  · exact hsame
  · rw [h run hrun] at hholds
    cases hholds

theorem smallRanges_holds_smallOfRuns (c : Char) :
    smallOfRuns c = c ∨ smallOfRuns c = '\x00' ∨ smallRanges.holds (smallOfRuns c) = true := by
  rcases smallOfRuns_cases c with ⟨hsame, -⟩ | ⟨run, hrun, hholds, hcode | hzero⟩
  · exact .inl hsame
  · exact .inr (.inr (holds_smallRanges hrun hholds hcode))
  · exact .inr (.inl (Char.toNat_inj.1 hzero))

/-! ## Small characters -/

/-- A character that lowercasing leaves as it is. -/
def isSmall (c : Char) : Bool := c != '\u03A3' && lowerChar c == [c]

theorem isSmall_iff : isSmall c = true ↔ c ≠ '\u03A3' ∧ lowerChar c = [c] := by
  simp [isSmall]

theorem isSmall_toLower (hc : c.toNat < 0x80) : isSmall c.toLower = true := by
  have hlower := toNat_toLower_lt_iff.2 hc
  refine isSmall_iff.2 ⟨?_, ?_⟩
  · intro hsigma
    rw [hsigma] at hlower
    exact absurd hlower (by decide)
  · rw [lowerChar, if_pos hlower, toLower_toLower]

/-- A character beyond ASCII that belongs to no run and is not the dotted capital I is small. -/
theorem isSmall_of_not_holds (hbeyond : ¬ c.toNat < 0x80) (hdotted : c ≠ '\u0130')
    (h : ∀ run ∈ capitalRuns, run.holds c.toNat = false) : isSmall c = true := by
  refine isSmall_iff.2 ⟨?_, ?_⟩
  · rintro rfl
    have hsame := smallOfRuns_of_not_holds h
    exact absurd hsame (by decide)
  · rw [lowerChar, if_neg hbeyond, if_neg hdotted, smallOfRuns_of_not_holds h]

/-- The small forms of the dotted capital I and of the capital sigma are small. -/
theorem isSmall_special : ['i', '\u0307', '\u03C2', '\u03C3'].all isSmall = true := by
  decide +kernel

theorem isSmall_smallOfRuns (hbeyond : ¬ c.toNat < 0x80) (hdotted : c ≠ '\u0130') :
    isSmall (smallOfRuns c) = true := by
  rcases smallOfRuns_cases c with ⟨hsame, hnone⟩ | ⟨run, hrun, hholds, hcode⟩
  · rw [hsame]
    exact isSmall_of_not_holds hbeyond hdotted hnone
  · by_cases hascii : (smallOfRuns c).toNat < 0x80
    · -- A small form in ASCII is behind the capital letters.
      have hsmall : (smallOfRuns c).toLower = smallOfRuns c := by
        have hbehind := toNat_smallOfRuns c (Nat.le_of_not_lt hbeyond)
        refine Char.toNat_inj.1 ?_
        rw [toNat_toLower, if_neg (by omega)]
      rw [← hsmall]
      exact isSmall_toLower hascii
    · have hcode : (smallOfRuns c).toNat = run.smallCode c.toNat := by omega
      refine isSmall_of_not_holds hascii ?_ fun other hother => ?_
      · intro hI
        obtain ⟨-, -, hdottedRange, -⟩ := ranges_apart
        have hrange := Ranges.not_holds_of_apart hdottedRange (holds_smallRanges hrun hholds hcode)
        rw [hI] at hrange
        exact absurd hrange (by decide)
      · rw [hcode]
        exact not_holds_smallCode hrun hother hholds

theorem isSmall_of_mem_lowerChar (h : d ∈ lowerChar c) : isSmall d = true := by
  unfold lowerChar at h
  split at h
  · rename_i hascii
    rw [List.mem_singleton.1 h]
    exact isSmall_toLower hascii
  · rename_i hbeyond
    split at h
    · exact List.all_eq_true.1 isSmall_special d (List.mem_append_left ['\u03C2', '\u03C3'] h)
    · rename_i hdotted
      rw [List.mem_singleton.1 h]
      exact isSmall_smallOfRuns hbeyond hdotted

/-! ## White space and parentheses -/

/-- A character that ends a word and that lowercasing leaves as it is. -/
def isBoundary (c : Char) : Bool := lowerChar c == [c] && !isCased c && !isCaseIgnorable c

theorem isBoundary_of_isBlank (h : isBlank c = true) : isBoundary c = true := by
  by_cases hascii : c.toNat < 0x80
  · have hall : (!decide (c.toNat < 0x80) || isBoundary c) = true :=
      Ranges.forall_of_holds (p := fun c => !decide (c.toNat < 0x80) || isBoundary c)
        (by decide) h
    simpa [hascii] using hall
  · obtain ⟨⟨hcasedRanges, hignorableRanges, hcapitalRanges⟩, -⟩ := ranges_apart
    have hcased : isCased c = false := by
      rw [isCased, if_neg hascii]
      exact Ranges.not_holds_of_apart hcasedRanges h
    have hignorable : isCaseIgnorable c = false := by
      rw [isCaseIgnorable, if_neg hascii]
      exact Ranges.not_holds_of_apart hignorableRanges h
    have hsame : smallOfRuns c = c := smallOfRuns_of_not_holds fun run hrun =>
      Bool.eq_false_iff.2 fun hholds => by
        have hcapital := Ranges.not_holds_of_apart hcapitalRanges h
        rw [holds_capitalRanges hrun hholds] at hcapital
        cases hcapital
    have hdotted : c ≠ '\u0130' := by
      rintro rfl
      exact absurd h (by decide)
    rw [isBoundary, lowerChar, if_neg hascii, if_neg hdotted, hsame, hcased, hignorable]
    simp

theorem lowerChar_of_isBoundary (h : isBoundary c = true) : lowerChar c = [c] := by
  simp only [isBoundary, Bool.and_eq_true, beq_iff_eq] at h
  exact h.1.1

theorem ne_sigma_of_isBoundary (h : isBoundary c = true) : c ≠ '\u03A3' := by
  rintro rfl
  exact absurd h (by decide)

/-- An ASCII character is white space exactly when its small form is. -/
theorem isBlank_toLower (hc : c.toNat < 0x80) : isBlank c.toLower = isBlank c := by
  by_cases hcapital : 65 ≤ c.toNat ∧ c.toNat ≤ 90
  · have hlower : c.toLower.toNat = c.toNat + 32 := by rw [toNat_toLower, if_pos hcapital]
    have hapart : Ranges.apart [(65, 122)] blankRanges = true := by decide
    have hbetween {d : Char} (hlow : 65 ≤ d.toNat) (hhigh : d.toNat ≤ 122) : isBlank d = false :=
      Ranges.not_holds_of_apart hapart (by simp [Ranges.holds, hlow, hhigh])
    rw [hbetween (by omega) (by omega), hbetween (by omega) (by omega)]
  · have hsame : c.toLower = c := Char.toNat_inj.1 (by rw [toNat_toLower, if_neg hcapital])
    rw [hsame]

theorem isBlank_smallOfRuns (h : isBlank c = false) : isBlank (smallOfRuns c) = false := by
  rcases smallRanges_holds_smallOfRuns c with hsame | hzero | hrange
  · rwa [hsame]
  · rw [hzero]
    decide
  · obtain ⟨-, hblankRanges, -⟩ := ranges_apart
    exact Ranges.not_holds_of_apart hblankRanges hrange

/-- Lowercasing makes no white space. -/
theorem isBlank_of_mem_lowerChar (hc : isBlank c = false) (h : d ∈ lowerChar c) :
    isBlank d = false := by
  unfold lowerChar at h
  split at h
  · rename_i hascii
    rw [List.mem_singleton.1 h, isBlank_toLower hascii, hc]
  · split at h
    · have hall : ['i', '\u0307'].all (fun d => !isBlank d) = true := by decide
      simpa using List.all_eq_true.1 hall d h
    · rw [List.mem_singleton.1 h]
      exact isBlank_smallOfRuns hc

/-! ## Small forms in a text -/

/-- The small form of a character between the characters `before` and `rest`. -/
def smallForm (before : List Char) (c : Char) (rest : List Char) : List Char :=
  if c = '\u03A3' then
    [if meetsCased before && !meetsCased rest then '\u03C2' else '\u03C3']
  else lowerChar c

theorem lowerFrom_cons (before : List Char) (c : Char) (rest : List Char) :
    lowerFrom before (c :: rest) = smallForm before c rest ++ lowerFrom (c :: before) rest := rfl

theorem smallForm_of_ne (h : c ≠ '\u03A3') : smallForm before c rest = lowerChar c := if_neg h

theorem smallForm_of_isBoundary (h : isBoundary c = true) : smallForm before c rest = [c] := by
  rw [smallForm_of_ne (ne_sigma_of_isBoundary h), lowerChar_of_isBoundary h]

theorem smallForm_of_ascii (h : c.toNat < 0x80) : smallForm before c rest = [c.toLower] := by
  rw [smallForm_of_ne, lowerChar, if_pos h]
  rintro rfl
  exact absurd h (by decide)

/-- What holds of both small sigmas and of all characters of the small form in isolation holds of
all characters of the small form in a text. -/
theorem forall_mem_smallForm {p : Char → Prop} (hsigma : c = '\u03A3' → p '\u03C2' ∧ p '\u03C3')
    (hother : ∀ d ∈ lowerChar c, p d) (h : d ∈ smallForm before c rest) : p d := by
  unfold smallForm at h
  split at h
  · rename_i hc
    rw [List.mem_singleton.1 h]
    split
    · exact (hsigma hc).1
    · exact (hsigma hc).2
  · exact hother d h

theorem isSmall_of_mem_smallForm (h : d ∈ smallForm before c rest) : isSmall d = true :=
  forall_mem_smallForm (p := fun d => isSmall d = true)
    (fun _ => ⟨List.all_eq_true.1 isSmall_special _ (by decide),
      List.all_eq_true.1 isSmall_special _ (by decide)⟩) (fun _ => isSmall_of_mem_lowerChar) h

theorem isBlank_of_mem_smallForm (hc : isBlank c = false) (h : d ∈ smallForm before c rest) :
    isBlank d = false :=
  forall_mem_smallForm (p := fun d => isBlank d = false)
    (fun _ => ⟨by decide, by decide⟩) (fun _ => isBlank_of_mem_lowerChar hc) h

theorem smallForm_ne_nil (before : List Char) (c : Char) (rest : List Char) :
    smallForm before c rest ≠ [] := by
  unfold smallForm lowerChar
  split
  · exact List.cons_ne_nil _ _
  · split
    · exact List.cons_ne_nil _ _
    · split <;> exact List.cons_ne_nil _ _

/-! ## Lowercasing twice -/

theorem isSmall_of_mem_lowerFrom (h : d ∈ lowerFrom before cs) : isSmall d = true := by
  induction cs generalizing before with
  | nil => cases h
  | cons c rest ih =>
    rw [lowerFrom_cons, List.mem_append] at h
    exact h.elim isSmall_of_mem_smallForm ih

theorem lowerFrom_of_isSmall (h : ∀ c ∈ cs, isSmall c = true) : lowerFrom before cs = cs := by
  induction cs generalizing before with
  | nil => rfl
  | cons c rest ih =>
    obtain ⟨hsigma, hsame⟩ := isSmall_iff.1 (h c List.mem_cons_self)
    rw [lowerFrom_cons, smallForm_of_ne hsigma, hsame,
      ih fun d hd => h d (List.mem_cons_of_mem c hd), List.singleton_append]

/-- A text in small letters stays as it is. -/
theorem lowerFrom_lowerFrom (before outer cs : List Char) :
    lowerFrom outer (lowerFrom before cs) = lowerFrom before cs :=
  lowerFrom_of_isSmall fun _ => isSmall_of_mem_lowerFrom

/-! ## Lowercasing in pieces -/

theorem meetsCased_cons (c : Char) (rest : List Char) :
    meetsCased (c :: rest) = if isCaseIgnorable c then meetsCased rest else isCased c := by
  unfold meetsCased
  by_cases h : isCaseIgnorable c = true
  · rw [if_pos h, List.dropWhile_cons_of_pos h]
  · rw [if_neg h, List.dropWhile_cons_of_neg h]

/-- What lies behind the end of a word is not looked at. -/
theorem meetsCased_append_boundary (h : isBoundary c = true) (cs rest : List Char) :
    meetsCased (cs ++ c :: rest) = meetsCased cs := by
  induction cs with
  | nil =>
    simp only [isBoundary, Bool.and_eq_true, Bool.not_eq_true'] at h
    rw [List.nil_append, meetsCased_cons, h.2, h.1.2]
    rfl
  | cons d others ih => rw [List.cons_append, meetsCased_cons, meetsCased_cons, ih]

theorem lowerFrom_before_boundary (h : isBoundary c = true) (before more cs : List Char) :
    lowerFrom (before ++ c :: more) cs = lowerFrom before cs := by
  induction cs generalizing before with
  | nil => rfl
  | cons d rest ih =>
    have hform : smallForm (before ++ c :: more) d rest = smallForm before d rest := by
      unfold smallForm
      rw [meetsCased_append_boundary h]
    rw [lowerFrom_cons, lowerFrom_cons, hform, ← List.cons_append, ih]

theorem lowerFrom_boundary (h : isBoundary c = true) (before rest : List Char) :
    lowerFrom before (c :: rest) = c :: lowerFrom [] rest := by
  rw [lowerFrom_cons, smallForm_of_isBoundary h, ← List.nil_append (c :: before),
    lowerFrom_before_boundary h, List.singleton_append]

/-- The two sides of the end of a word do not affect each other. -/
theorem lowerFrom_append_boundary (h : isBoundary c = true) (before cs rest : List Char) :
    lowerFrom before (cs ++ c :: rest) = lowerFrom before cs ++ c :: lowerFrom [] rest := by
  induction cs generalizing before with
  | nil => exact lowerFrom_boundary h before rest
  | cons d others ih =>
    have hform : smallForm before d (others ++ c :: rest) = smallForm before d others := by
      unfold smallForm
      rw [meetsCased_append_boundary h]
    rw [List.cons_append, lowerFrom_cons, lowerFrom_cons, hform, ih, List.append_assoc]

/-- The last characters of a text come out last. -/
theorem suffix_lowerFrom_append (before cs ds : List Char) :
    lowerFrom (cs.reverse ++ before) ds <:+ lowerFrom before (cs ++ ds) := by
  induction cs generalizing before with
  | nil => exact List.suffix_rfl
  | cons c rest ih =>
    rw [List.cons_append, lowerFrom_cons, List.reverse_cons, List.append_assoc]
    exact (ih (c :: before)).trans (List.suffix_append _ _)

/-! ## White space around a text -/

theorem trimEndChars_concat (cs : List Char) (c : Char) :
    trimEndChars (cs ++ [c]) = if isBlank c then trimEndChars cs else cs ++ [c] :=
  List.rdropWhile_concat isBlank cs c

theorem trimEndChars_append_of_not_blank (h : isBlank c = false) (cs rest : List Char) :
    trimEndChars (cs ++ c :: rest) = cs ++ c :: trimEndChars rest := by
  induction rest using List.reverseRecOn with
  | nil =>
    rw [trimEndChars_concat, if_neg (by simp [h])]
    rfl
  | append_singleton others d ih =>
    rw [← List.cons_append, ← List.append_assoc, trimEndChars_concat, trimEndChars_concat, ih]
    split
    · rfl
    · simp

/-- White space can be removed at either end first. -/
theorem trimStartChars_trimEndChars (cs : List Char) :
    trimStartChars (trimEndChars cs) = trimEndChars (trimStartChars cs) := by
  induction cs using List.reverseRecOn with
  | nil => rfl
  | append_singleton others c ih =>
    have hstart : trimStartChars (others ++ [c]) =
        if (trimStartChars others).isEmpty then trimStartChars [c]
        else trimStartChars others ++ [c] := List.dropWhile_append
    rw [trimEndChars_concat, hstart]
    split
    · rename_i hblank
      rw [ih]
      split
      · rename_i hempty
        rw [List.isEmpty_iff.1 hempty, trimStartChars, List.dropWhile_cons_of_pos hblank]
        rfl
      · rw [trimEndChars_concat, if_pos hblank]
    · rename_i hblank
      rw [hstart]
      split
      · rw [trimStartChars, List.dropWhile_cons_of_neg hblank]
        exact ((trimEndChars_concat [] c).trans (if_neg hblank)).symm
      · rw [trimEndChars_concat, if_neg hblank]

theorem trimChars_trimEndChars (cs : List Char) : trimChars (trimEndChars cs) = trimChars cs := by
  rw [trimChars, trimStartChars_trimEndChars]
  exact List.rdropWhile_idempotent isBlank _

theorem trimChars_trimChars (cs : List Char) : trimChars (trimChars cs) = trimChars cs := by
  rw [trimChars.eq_def cs, trimChars_trimEndChars, trimChars]
  exact congrArg trimEndChars (List.dropWhile_idempotent isBlank cs)

theorem trimStartChars_lowerFrom (cs : List Char) :
    trimStartChars (lowerFrom [] cs) = lowerFrom [] (trimStartChars cs) := by
  induction cs with
  | nil => rfl
  | cons c rest ih =>
    by_cases hc : isBlank c = true
    · rw [lowerFrom_boundary (isBoundary_of_isBlank hc), trimStartChars, trimStartChars,
        List.dropWhile_cons_of_pos hc, List.dropWhile_cons_of_pos hc]
      exact ih
    · obtain ⟨d, more, hform⟩ := List.exists_cons_of_ne_nil (smallForm_ne_nil [] c rest)
      have hmem : d ∈ smallForm [] c rest := by
        rw [hform]
        exact List.mem_cons_self
      have hd : isBlank d = false := isBlank_of_mem_smallForm (by simpa using hc) hmem
      rw [trimStartChars, trimStartChars, List.dropWhile_cons_of_neg hc, lowerFrom_cons, hform,
        List.cons_append, List.dropWhile_cons_of_neg (by simp [hd])]

theorem trimEndChars_lowerFrom (before cs : List Char) :
    trimEndChars (lowerFrom before cs) = lowerFrom before (trimEndChars cs) := by
  induction cs using List.reverseRecOn with
  | nil => rfl
  | append_singleton others c ih =>
    rw [trimEndChars_concat]
    split
    · rename_i hc
      rw [lowerFrom_append_boundary (isBoundary_of_isBlank hc), lowerFrom, trimEndChars_concat,
        if_pos hc, ih]
    · rename_i hc
      -- The last character of the small form is no white space.
      obtain ⟨front, hfront⟩ := suffix_lowerFrom_append before others [c]
      obtain ⟨more, d, hform⟩ := (List.eq_nil_or_concat' _).resolve_left
        (smallForm_ne_nil (others.reverse ++ before) c [])
      have hmem : d ∈ smallForm (others.reverse ++ before) c [] := by
        rw [hform]
        exact List.mem_append_right more List.mem_cons_self
      have hd : isBlank d = false := isBlank_of_mem_smallForm (by simpa using hc) hmem
      rw [lowerFrom_cons, lowerFrom, List.append_nil, hform, ← List.append_assoc] at hfront
      rw [← hfront, trimEndChars_concat, if_neg (by simp [hd])]

/-- White space around a text can be removed before or after the text is lowercased. -/
theorem trimChars_lowerFrom (cs : List Char) :
    trimChars (lowerFrom [] cs) = lowerFrom [] (trimChars cs) := by
  rw [trimChars, trimStartChars_lowerFrom, trimEndChars_lowerFrom, trimChars]

/-! ## Where small ASCII characters come from -/

/-- An ASCII character that is the small form of ASCII characters only. The dotted capital I and the
Kelvin sign have small forms with `i` and `k`. -/
def isPlain (c : Char) : Bool := c.toNat < 0x80 && c != '\x00' && c != 'i' && c != 'k'

theorem toLower_eq_of_mem_lowerChar (hd : isPlain d = true) (h : d ∈ lowerChar c) :
    c.toLower = d := by
  simp only [isPlain, Bool.and_eq_true, decide_eq_true_eq, bne_iff_ne] at hd
  obtain ⟨⟨⟨hascii, hzero⟩, hi⟩, hk⟩ := hd
  unfold lowerChar at h
  split at h
  · exact (List.mem_singleton.1 h).symm
  · rename_i hbeyond
    exfalso
    split at h
    · rcases List.mem_pair.1 h with rfl | rfl
      · exact hi rfl
      · exact absurd hascii (by decide)
    · have hform := List.mem_singleton.1 h
      rcases smallRanges_holds_smallOfRuns c with hsame | hnul | hrange
      · rw [hform, hsame] at hascii
        exact hbeyond hascii
      · exact hzero (hform.trans hnul)
      · rw [← hform] at hrange
        -- The Kelvin sign is the only one of the runs with an ASCII small form.
        obtain ⟨-, -, -, hasciiRanges⟩ := ranges_apart
        have hkelvin := Ranges.not_holds_of_apart hasciiRanges hrange
        have hk : d.toNat ≠ 0x6B := fun e => hk (Char.toNat_inj.1 e)
        simp only [Ranges.holds, List.any_cons, List.any_nil, Bool.or_false, Bool.or_eq_false_iff,
          Bool.and_eq_false_iff, decide_eq_false_iff_not] at hkelvin
        omega

theorem toLower_eq_of_mem_smallForm (hd : isPlain d = true) (h : d ∈ smallForm before c rest) :
    c.toLower = d := by
  refine forall_mem_smallForm (p := fun d => isPlain d = true → c.toLower = d) (fun _ => ⟨?_, ?_⟩)
    (fun _ h hd => toLower_eq_of_mem_lowerChar hd h) h hd
  · intro hd
    exact absurd hd (by decide)
  · intro hd
    exact absurd hd (by decide)

/-- Lowercasing makes no marks. -/
theorem mem_of_mem_lowerFrom (hd : isPlain d = true)
    (hmark : d.toNat < 65 ∨ 90 < d.toNat ∧ d.toNat < 97) (h : d ∈ lowerFrom before cs) :
    d ∈ cs := by
  induction cs generalizing before with
  | nil => cases h
  | cons c rest ih =>
    rw [lowerFrom_cons, List.mem_append] at h
    rcases h with hform | hrest
    · rw [(toLower_eq_mark_iff hmark).1 (toLower_eq_of_mem_smallForm hd hform)]
      exact List.mem_cons_self
    · exact List.mem_cons_of_mem c (ih hrest)

theorem lowerFrom_of_ascii (h : ∀ c ∈ cs, c.toNat < 0x80) :
    lowerFrom before cs = cs.map Char.toLower := by
  induction cs generalizing before with
  | nil => rfl
  | cons c rest ih =>
    rw [lowerFrom_cons, smallForm_of_ascii (h c List.mem_cons_self),
      ih fun d hd => h d (List.mem_cons_of_mem c hd), List.map_cons, List.singleton_append]

/-- The start of a text in small letters, if it is plain, is spelled in the text. -/
theorem exists_spelling_of_prefix_lowerFrom (hplain : ∀ d ∈ ds, isPlain d = true)
    (h : ds <+: lowerFrom before cs) :
    ∃ spelling rest, cs = spelling ++ rest ∧ spelling.map Char.toLower = ds := by
  induction ds generalizing before cs with
  | nil => exact ⟨[], cs, rfl, rfl⟩
  | cons d others ih =>
    cases cs with
    | nil => exact absurd (List.prefix_nil.1 h) (List.cons_ne_nil _ _)
    | cons c rest =>
      have hd := hplain d List.mem_cons_self
      obtain ⟨e, more, hform⟩ := List.exists_cons_of_ne_nil (smallForm_ne_nil before c rest)
      rw [lowerFrom_cons, hform, List.cons_append, List.cons_prefix_cons] at h
      obtain ⟨rfl, htail⟩ := h
      have hmem : d ∈ smallForm before c rest := by
        rw [hform]
        exact List.mem_cons_self
      have hlower : c.toLower = d := toLower_eq_of_mem_smallForm hd hmem
      have hascii : c.toNat < 0x80 := by
        rw [← toNat_toLower_lt_iff, hlower]
        simp only [isPlain, Bool.and_eq_true, decide_eq_true_eq] at hd
        exact hd.1.1.1
      rw [smallForm_of_ascii hascii] at hform
      obtain ⟨-, rfl⟩ := List.cons.inj hform
      obtain ⟨spelling, behind, rfl, hspelling⟩ :=
        ih (fun d hd => hplain d (List.mem_cons_of_mem _ hd)) htail
      exact ⟨c :: spelling, behind, rfl, by rw [List.map_cons, hlower, hspelling]⟩

end CatalogGraph.Text
