import CatalogGraph.Text.CaseTable

/-!
# Small letters

Three ways of writing a text in small letters: ASCII letters only, character by character, and as
a text, where a capital sigma at the end of a word becomes the final small sigma.

One capital letter, the dotted capital I, has a small form of two characters; so a text can grow
when it is lowercased.
-/

namespace CatalogGraph.Text

/-- The text with its ASCII capital letters made small. -/
def asciiLower (s : String) : String := String.ofList (s.toList.map Char.toLower)

/-- The text with its ASCII small letters made capital. -/
def asciiUpper (s : String) : String := String.ofList (s.toList.map Char.toUpper)

/-- Two texts that differ at most in the case of ASCII letters. -/
def sameIgnoringAsciiCase (s t : String) : Bool :=
  s.toList.map Char.toLower == t.toList.map Char.toLower

/-! ## Characters -/

/-- The small form of a character beyond ASCII that has one of a single character. -/
def smallOfRuns (c : Char) : Char :=
  match capitalRuns.find? fun run => run.holds c.toNat with
  | some run => Char.ofNat (Int.toNat (c.toNat + run.shift))
  | none => c

/-- The small form of a character; only the dotted capital I has one of two characters. -/
def lowerChar (c : Char) : List Char :=
  if c.toNat < 0x80 then [c.toLower]
  else if c = '\u0130' then ['i', '\u0307']
  else [smallOfRuns c]

/-- A capital, small or title letter. -/
def isCased (c : Char) : Bool :=
  if c.toNat < 0x80 then c.isAlpha else casedRanges.holds c

/-- A character that is passed over when the end of a word is looked for. -/
def isCaseIgnorable (c : Char) : Bool :=
  if c.toNat < 0x80 then ['\x27', '.', ':', '^', '\x60'].contains c else caseIgnorableRanges.holds c

/-! ## Texts -/

/-- Whether a letter with case comes next, once ignorable characters are passed over. -/
def meetsCased (cs : List Char) : Bool :=
  match cs.dropWhile isCaseIgnorable with
  | [] => false
  | c :: _ => isCased c

/-- The small forms of the characters; `before` holds the characters already passed, the nearest
first. A capital sigma after a letter and before none is final. -/
def lowerFrom (before : List Char) : List Char → List Char
  | [] => []
  | c :: rest =>
    (if c = '\u03A3' then
      [if meetsCased before && !meetsCased rest then '\u03C2' else '\u03C3']
    else lowerChar c) ++ lowerFrom (c :: before) rest

/-- The text in small letters. -/
def lower (s : String) : String := String.ofList (lowerFrom [] s.toList)

/-! ## Small forms keep parentheses -/

theorem toNat_ofNat (n : Nat) : (Char.ofNat n).toNat = if n.isValidChar then n else 0 := by
  by_cases h : n.isValidChar
  · rw [Char.ofNat, dif_pos h, if_pos h]
    rfl
  · rw [Char.ofNat, dif_neg h, if_neg h]
    rfl

theorem le_of_mem_capitalRuns {run : CaseRun} (h : run ∈ capitalRuns) :
    (0x61 : Int) ≤ run.first + run.shift := by
  have hall :
      capitalRuns.all (fun run => decide ((0x61 : Int) ≤ run.first + run.shift)) = true := by
    decide +kernel
  simpa using List.all_eq_true.1 hall run h

/-- The small form of a character beyond ASCII is no ASCII mark or digit. -/
theorem toNat_smallOfRuns (c : Char) (h : 0x80 ≤ c.toNat) :
    0x61 ≤ (smallOfRuns c).toNat ∨ (smallOfRuns c).toNat = 0 := by
  unfold smallOfRuns
  split
  · rename_i run hfind
    have hmem := List.mem_of_find?_eq_some hfind
    have hholds := List.find?_some hfind
    simp only [CaseRun.holds, Bool.and_eq_true, decide_eq_true_eq] at hholds
    have hle := le_of_mem_capitalRuns hmem
    rw [toNat_ofNat]
    split
    · left
      omega
    · right
      rfl
  · left
    omega

theorem toLower_eq_paren (c : Char) : c.toLower = '(' ↔ c = '(' := by
  unfold Char.toLower
  split
  · rename_i h
    constructor
    · intro e
      have hval := congrArg (fun c => c.val.toNat) e
      have hlow := h.1
      have hhigh := h.2
      simp only [UInt32.le_iff_toNat_le, ge_iff_le] at hlow hhigh
      have hA : ('A' : Char).val.toNat = 65 := rfl
      have hZ : ('Z' : Char).val.toNat = 90 := rfl
      have hshift : (('a' : Char).val - ('A' : Char).val).toNat = 32 := rfl
      have hparen : ('(' : Char).val.toNat = 40 := rfl
      simp only [UInt32.toNat_add] at hval
      omega
    · rintro rfl
      exact absurd h.1 (by decide)
  · rfl

theorem count_lowerChar (c : Char) : (lowerChar c).count '(' = [c].count '(' := by
  unfold lowerChar
  split
  · by_cases hc : c = '('
    · subst hc
      decide
    · have hl : c.toLower ≠ '(' := fun e => hc ((toLower_eq_paren c).1 e)
      simp [hl, hc]
  · rename_i hbeyond
    have hc : c ≠ '(' := by
      rintro rfl
      exact hbeyond (by decide)
    split
    · rename_i hI
      subst hI
      decide
    · have hs : smallOfRuns c ≠ '(' := by
        intro e
        have h := toNat_smallOfRuns c (by omega)
        rw [e] at h
        have hparen : ('(' : Char).toNat = 40 := rfl
        omega
      simp [hs, hc]

/-- Lowercasing keeps the number of opening parentheses. -/
theorem count_lowerFrom (before cs : List Char) :
    (lowerFrom before cs).count '(' = cs.count '(' := by
  induction cs generalizing before with
  | nil => rfl
  | cons c rest ih =>
    rw [lowerFrom, List.count_append, ih, ← List.singleton_append (l := rest), List.count_append]
    congr 1
    split
    · rename_i hsigma
      subst hsigma
      split <;> decide
    · exact count_lowerChar c

end CatalogGraph.Text
