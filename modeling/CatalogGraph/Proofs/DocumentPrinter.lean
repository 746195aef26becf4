import CatalogGraph.Proofs.DocumentReader

/-!
# Printing definitions

Definitions are written one block after the other, with a line for each member and another one for
its description. What is written is read back as the same definitions (`read_printed`), if all names
in it fit the grammar and no carriage return ends the line inside a description. If one does, the
document is refused.
-/

namespace CatalogGraph.Syntax

open Schema

/-! ## Texts of definitions -/

def requiredText (required : Bool) : String := if required then "!" else ""

def Written.text : Written → String
  | .named name required => name ++ requiredText required
  | .list inner required => "[" ++ inner.text ++ "]" ++ requiredText required

def Parameter.text (p : Parameter) : String := p.name ++ ": " ++ p.type.text

def parametersText (ps : List Parameter) : String :=
  if ps = [] then "" else "(" ++ String.intercalate ", " (ps.map Parameter.text) ++ ")"

def typeText : Option Written → String
  | none => ""
  | some type => ": " ++ type.text

/-- The lines of a member: its description, if it has one, and the member itself. -/
def Member.lines (m : Member) : List String :=
  (m.description.map descriptionLine).toList ++
    [memberLine (m.name ++ parametersText m.parameters ++ typeText m.type)]

def Heading.text : Heading → String
  | .schema => "schema"
  | .type name => "type " ++ name
  | .input name => "input " ++ name
  | .enum name => "enum " ++ name

def Definition.text (d : Definition) : String :=
  String.join (d.description.map quotedLine).toList ++
    block d.heading.text (d.members.flatMap Member.lines)

theorem Definition.text_bare (heading : Heading) (members : List Member) :
    (⟨none, heading, members⟩ : Definition).text =
      block heading.text (members.flatMap Member.lines) :=
  String.empty_append

/-- The definitions as a document, with an empty line between them. -/
def printed : List Definition → String
  | [] => ""
  | d :: rest => d.text ++ String.join (rest.map fun other => "\n" ++ other.text)

/-! ## Definitions that can be read -/

def Parameter.Legible (p : Parameter) : Prop :=
  Name.isValid p.name = true ∧ Name.isValid p.type.target = true

instance (p : Parameter) : Decidable p.Legible := inferInstanceAs (Decidable (_ ∧ _))

/-- All names in a member fit the grammar. -/
structure Member.Legible (m : Member) : Prop where
  name : Name.isValid m.name = true
  parameters : ∀ p ∈ m.parameters, p.Legible
  type : ∀ type ∈ m.type, Name.isValid type.target = true

instance (m : Member) : Decidable m.Legible :=
  decidable_of_iff (Name.isValid m.name = true ∧ (∀ p ∈ m.parameters, p.Legible) ∧
      ∀ type ∈ m.type, Name.isValid type.target = true)
    ⟨fun ⟨hname, hparameters, htype⟩ => ⟨hname, hparameters, htype⟩,
      fun h => ⟨h.name, h.parameters, h.type⟩⟩

/-- All names in a definition fit the grammar, and its block takes its members. -/
structure Definition.Legible (d : Definition) : Prop where
  name : ∀ name ∈ d.heading.name?, Name.isValid name = true
  members : ∀ m ∈ d.members, m.Legible
  proper : d.Proper

instance (d : Definition) : Decidable d.Legible :=
  decidable_of_iff ((∀ name ∈ d.heading.name?, Name.isValid name = true) ∧
      (∀ m ∈ d.members, m.Legible) ∧ d.members.all d.heading.takes = true)
    ⟨fun ⟨hname, hmembers, hproper⟩ => ⟨hname, hmembers, hproper⟩,
      fun h => ⟨h.name, h.members, h.proper⟩⟩

/-- Whether a description stays on its line. -/
def fitsDescription (returns : Bool) (description : Option String) : Bool :=
  description.all (fitsLine returns)

def Definition.fits (returns : Bool) (d : Definition) : Bool :=
  fitsDescription returns d.description &&
    d.members.all fun m => fitsDescription returns m.description

/-- A reader for which carriage returns do not end lines reads every description. -/
theorem fitsDescription_false (description : Option String) :
    fitsDescription false description = true := by
  cases description with
  | none => rfl
  | some text => simp [fitsDescription, fitsLine, isReturn]

/-! ## What is written is read -/

variable {returns fits : Bool} {rest : String} {found : List Lexeme}

theorem reads_required (required : Bool) (hrest : Reads returns fits rest found) :
    Reads returns fits (requiredText required ++ rest) (requiredLexemes required ++ found) := by
  cases required with
  | true =>
    have hmark : Reads returns true "!" [.mark '!'] := rfl
    exact hmark.append hrest
  | false => exact Reads.empty.append hrest

theorem stops_required (required : Bool) (hrest : Stops rest) :
    Stops (requiredText required ++ rest) := by
  cases required with
  | true => exact Stops.append ⟨'!', rfl, by decide⟩ rest
  | false => simpa [requiredText] using hrest

-- What follows a type is part of these statements, as a name that ends it is only read to its end
-- with the character after it.
theorem reads_written {type : Written} (htype : Name.isValid type.target = true)
    (hstops : Stops rest) (hrest : Reads returns fits rest found) :
    Reads returns fits (type.text ++ rest) (type.lexemes ++ found) := by
  induction type generalizing rest found with
  | named name required =>
    rw [Written.text, String.append_assoc]
    exact Reads.after_name htype (stops_required required hstops) (reads_required required hrest)
  | list inner required ih =>
    have hopen : Reads returns true "[" [.mark '['] := rfl
    have hclose : Reads returns true "]" [.mark ']'] := rfl
    have hafter := hclose.append (reads_required required hrest)
    have hinner := ih htype (Stops.append ⟨']', rfl, by decide⟩ _) hafter
    have hall := hopen.append hinner
    simpa only [Written.text, Written.lexemes, String.append_assoc, List.append_assoc,
      List.cons_append, List.nil_append, Bool.true_and] using hall

theorem reads_parameter {p : Parameter} (hp : p.Legible) (hstops : Stops rest)
    (hrest : Reads returns fits rest found) :
    Reads returns fits (p.text ++ rest) (p.lexemes ++ found) := by
  have hcolon : Reads returns true ": " [.mark ':'] := rfl
  have htype := hcolon.append (reads_written hp.2 hstops hrest)
  have hname := Reads.after_name hp.1 (Stops.append ⟨':', rfl, by decide⟩ _) htype
  simpa only [Parameter.text, Parameter.lexemes, String.append_assoc, List.cons_append,
    List.nil_append, Bool.true_and] using hname

theorem reads_intercalate {ps : List Parameter} (hps : ∀ p ∈ ps, p.Legible) (hstops : Stops rest)
    (hrest : Reads returns fits rest found) :
    Reads returns fits (String.intercalate ", " (ps.map Parameter.text) ++ rest)
      (ps.flatMap Parameter.lexemes ++ found) := by
  induction ps with
  | nil => simpa using hrest
  | cons p ps ih =>
    have hp := hps p List.mem_cons_self
    have hafter := ih fun other hother => hps other (List.mem_cons_of_mem p hother)
    cases ps with
    | nil => simpa using reads_parameter hp hstops hrest
    | cons next ps =>
      have hcomma : Reads returns true ", " [] := rfl
      have hfirst := reads_parameter hp (Stops.append ⟨',', rfl, by decide⟩ _)
        (hcomma.append hafter)
      rw [List.map_cons, List.map_cons, String.intercalate_cons_cons, List.flatMap_cons]
      simpa only [List.map_cons, String.append_assoc, List.append_assoc, List.nil_append,
        Bool.true_and] using hfirst

theorem reads_parameters {ps : List Parameter} (hps : ∀ p ∈ ps, p.Legible)
    (hrest : Reads returns fits rest found) :
    Reads returns fits (parametersText ps ++ rest) (parametersLexemes ps ++ found) := by
  unfold parametersText parametersLexemes
  split
  · simpa using hrest
  · have hopen : Reads returns true "(" [.mark '('] := rfl
    have hclose : Reads returns true ")" [.mark ')'] := rfl
    have hinside := reads_intercalate hps (Stops.append ⟨')', rfl, by decide⟩ _)
      (hclose.append hrest)
    simpa only [String.append_assoc, List.append_assoc, List.cons_append, List.nil_append,
      Bool.true_and] using hopen.append hinside

theorem reads_type {type : Option Written}
    (htype : ∀ written ∈ type, Name.isValid written.target = true)
    (hstops : Stops rest) (hrest : Reads returns fits rest found) :
    Reads returns fits (typeText type ++ rest) (typeLexemes type ++ found) := by
  cases type with
  | none => simpa [typeText, typeLexemes] using hrest
  | some type =>
    have hcolon : Reads returns true ": " [.mark ':'] := rfl
    have hwritten := hcolon.append (reads_written (htype type rfl) hstops hrest)
    simpa only [typeText, typeLexemes, String.append_assoc, List.cons_append, List.nil_append,
      Bool.true_and] using hwritten

theorem stops_after_name (ps : List Parameter) (type : Option Written) (hstops : Stops rest) :
    Stops (parametersText ps ++ (typeText type ++ rest)) := by
  unfold parametersText
  split
  · cases type with
    | none => simpa [typeText] using hstops
    | some type =>
      have htext : Stops (typeText (some type)) := Stops.append ⟨':', rfl, by decide⟩ _
      simpa using htext.append rest
  · have hopen : Stops ("(" ++ String.intercalate ", " (ps.map Parameter.text) ++ ")") :=
      (Stops.append ⟨'(', rfl, by decide⟩ _).append _
    exact hopen.append _

/-- A member is read from its lines if its description stays on its line. -/
theorem reads_member {m : Member} (hm : m.Legible) :
    Reads returns (fitsDescription returns m.description) (String.join m.lines) m.lexemes := by
  have hindent : Reads returns true "  " [] := rfl
  have hline : Reads returns true "\n" [] := rfl
  have hstops : Stops "\n" := ⟨'\n', rfl, by decide⟩
  have hafter := reads_parameters hm.parameters (reads_type hm.type hstops hline)
  have hname := Reads.after_name hm.name (stops_after_name m.parameters m.type hstops) hafter
  have hmember := hindent.append hname
  unfold Member.lines Member.lexemes
  cases m.description with
  | none =>
    simpa [memberLine, descriptionLexemes, String.append_assoc, fitsDescription] using hmember
  | some text =>
    have hall := (reads_descriptionLine text).append hmember
    simpa [memberLine, descriptionLexemes, String.append_assoc, fitsDescription] using hall

theorem reads_heading {heading : Heading}
    (hheading : ∀ name ∈ heading.name?, Name.isValid name = true)
    (hstops : Stops rest) (hrest : Reads returns fits rest found) :
    Reads returns fits (heading.text ++ rest) (heading.lexemes ++ found) := by
  have hnamed (keyword : String) {name : String} (hkeyword : Name.isValid keyword = true)
      (hname : Name.isValid name = true) :
      Reads returns fits (keyword ++ " " ++ name ++ rest)
        (.name keyword :: .name name :: found) := by
    have hspace : Reads returns true " " [] := rfl
    have hafter := hspace.append (Reads.after_name hname hstops hrest)
    have hall := Reads.after_name hkeyword (Stops.append ⟨' ', rfl, by decide⟩ _) hafter
    simpa only [String.append_assoc, List.nil_append, Bool.true_and] using hall
  cases heading with
  | schema => exact Reads.after_name (by decide) hstops hrest
  | type name => exact hnamed "type" (by decide) (hheading name rfl)
  | input name => exact hnamed "input" (by decide) (hheading name rfl)
  | enum name => exact hnamed "enum" (by decide) (hheading name rfl)

theorem join_flatMap {α : Type} (lines : α → List String) (items : List α) :
    String.join (items.flatMap lines) =
      String.join (items.map fun item => String.join (lines item)) := by
  induction items with
  | nil => rfl
  | cons item items ih =>
    rw [List.flatMap_cons, String.join_append, ih, List.map_cons, String.join_cons]

theorem reads_definition {d : Definition} (hd : d.Legible) :
    Reads returns (d.fits returns) d.text d.lexemes := by
  have hopen : Reads returns true " \x7b\n" [.mark '\x7b'] := rfl
  have hclose : Reads returns true "\x7d\n" [.mark '\x7d'] := rfl
  have hmember : ∀ m ∈ d.members,
      Reads returns (fitsDescription returns m.description) (String.join m.lines) m.lexemes :=
    fun m hm => reads_member (hd.members m hm)
  have hmembers := Reads.flatMap hmember
  rw [← join_flatMap] at hmembers
  have hblock := hopen.append (hmembers.append hclose)
  have hheading := reads_heading hd.name (Stops.append ⟨' ', rfl, by decide⟩ _) hblock
  unfold Definition.text Definition.lexemes Definition.fits
  cases d.description with
  | none =>
    simpa [block, descriptionLexemes, String.append_assoc, fitsDescription] using hheading
  | some text =>
    have hall := (reads_quotedLine text).append hheading
    simpa [block, descriptionLexemes, String.append_assoc, fitsDescription] using hall

theorem reads_printed {defs : List Definition} (hdefs : ∀ d ∈ defs, d.Legible) :
    Reads returns (defs.all (Definition.fits returns)) (printed defs)
      (defs.flatMap Definition.lexemes) := by
  cases defs with
  | nil => exact Reads.empty
  | cons d rest =>
    have hline : Reads returns true "\n" [] := rfl
    have hothers : ∀ other ∈ rest, Reads returns (other.fits returns) ("\n" ++ other.text)
        other.lexemes := fun other hother =>
      hline.append (reads_definition (hdefs other (List.mem_cons_of_mem d hother)))
    have hd : Reads returns (d.fits returns) d.text d.lexemes :=
      reads_definition (hdefs d List.mem_cons_self)
    rw [List.all_cons, List.flatMap_cons]
    exact hd.append (Reads.flatMap hothers)

/-- The document of definitions is read as these definitions. -/
theorem read_printed {defs : List Definition} (hdefs : ∀ d ∈ defs, d.Legible) :
    read returns (printed defs) =
      if defs.all (Definition.fits returns) then some defs else none :=
  (reads_printed hdefs).read_eq fun d hd => (hdefs d hd).proper

end CatalogGraph.Syntax
