/-!
# Command lines

A command line is a list of arguments. A switch is an argument that starts with a hyphen: two
hyphens and a long name, or one hyphen and letters that are short names. A switch may take a value,
which is the rest of its argument or the next argument. All other arguments are words, and so is
everything after two hyphens that stand alone.

A level says which switches there are and how many words. The first word at a level with commands
names a command, and what follows it belongs to the level of that command.
-/

namespace CatalogGraph.CommandLine

/-- A switch: its names, which values it takes if it takes one, and whether it may be repeated. -/
structure Switch where
  long : String
  short : Option Char
  value : Option (String → Bool)
  repeats : Bool

namespace Switch

/-- A switch without a value. -/
def flag (long : String) (short : Option Char) : Switch := ⟨long, short, none, false⟩

/-- A switch with a value for which the test holds. -/
def option (long : String) (short : Option Char) (accepts : String → Bool) : Switch :=
  ⟨long, short, some accepts, false⟩

/-- A switch that may be given many times, each time with any value. -/
def list (long : String) (short : Option Char) : Switch := ⟨long, short, some fun _ => true, true⟩

end Switch

/-- What an argument, or an argument and its value, say. -/
inductive Mention where
  | switch (long value : String)
  | word (w : String)
deriving DecidableEq, Repr

/-- What may be given at a level: switches, switches that end the reading at once, commands, and a
number of words, or any number of them. -/
structure Level where
  switches : List Switch
  urgent : List String
  commands : List String
  words : Option Nat

/-- What comes of reading a level. -/
inductive Reading where
  /-- The arguments do not fit the level. -/
  | misused
  /-- An urgent switch was given. -/
  | urgent (long : String)
  | ended (mentions : List Mention)
  /-- A command was named; the rest is for its level. -/
  | command (mentions : List Mention) (name : String) (rest : List String)

namespace Level

/-! ## Forms of arguments -/

/-- What an argument looks like. -/
inductive Form where
  | long (name : String) (value : Option String)
  | short (letters : List Char)
  /-- Two hyphens alone. -/
  | divider
  | word
deriving DecidableEq, Repr

/-- The form of an argument. A hyphen alone is a word. -/
def form (arg : String) : Form :=
  match arg.toList with
  | ['-', '-'] => .divider
  | '-' :: '-' :: cs =>
    let name := String.ofList (cs.takeWhile (· ≠ '='))
    match cs.dropWhile (· ≠ '=') with
    | [] => .long name none
    | _ :: value => .long name (some (String.ofList value))
  | '-' :: c :: cs => .short (c :: cs)
  | _ => .word

/-! ## Reading switches -/

variable (level : Level)

/-- The mentions with a switch added to them, if it may be given so. -/
def give? (mentions : List Mention) (s : Switch) (value : String) : Option (List Mention) :=
  let accepted := match s.value with
    | none => true
    | some accepts => accepts value
  let before := mentions.any fun
    | .switch long _ => long == s.long
    | .word _ => false
  if accepted && (s.repeats || !before) then some (mentions ++ [.switch s.long value]) else none

/-- What comes of reading one argument of switches. -/
inductive Step where
  | misused
  | urgent (long : String)
  | given (mentions : List Mention)
  /-- The switch takes the next argument as its value. -/
  | wants (mentions : List Mention) (s : Switch)

/-- Gives a switch that stands alone. -/
def giveFlag (mentions : List Mention) (s : Switch) : Step :=
  if level.urgent.contains s.long then .urgent s.long
  else
    match give? mentions s "" with
    | some mentions => .given mentions
    | none => .misused

/-- Gives a switch with its value. -/
def giveValue (mentions : List Mention) (s : Switch) (value : String) : Step :=
  match give? mentions s value with
  | some mentions => .given mentions
  | none => .misused

/-- Reads a switch by its long name. -/
def readLong (mentions : List Mention) (name : String) (value : Option String) : Step :=
  match level.switches.find? fun s => s.long == name with
  | none => .misused
  | some s =>
    match s.value.isSome, value with
    | true, some v => giveValue mentions s v
    | true, none => .wants mentions s
    | false, some _ => .misused
    | false, none => level.giveFlag mentions s

/-- Reads switches by their short names; behind one with a value stands the value. -/
def readShort (mentions : List Mention) : List Char → Step
  | [] => .given mentions
  | c :: cs =>
    match level.switches.find? fun s => s.short == some c with
    | none => .misused
    | some s =>
      if s.value.isSome then
        match cs with
        | [] => .wants mentions s
        | '=' :: value => giveValue mentions s (String.ofList value)
        | value => giveValue mentions s (String.ofList value)
      else
        match level.giveFlag mentions s with
        | .given mentions => readShort mentions cs
        | step => step

/-! ## Reading a level -/

/-- The mentions with a word added to them, if there is room for it. -/
def word? (mentions : List Mention) (w : String) : Option (List Mention) :=
  let count := mentions.countP fun
    | .word _ => true
    | .switch _ _ => false
  if level.words.all fun limit => count < limit then some (mentions ++ [.word w]) else none

/-- Reads words only. -/
def readWords (mentions : List Mention) : List String → Reading
  | [] => .ended mentions
  | w :: rest =>
    match level.word? mentions w with
    | some mentions => readWords mentions rest
    | none => .misused

/-- Reads the arguments of a level behind what was mentioned before. -/
def readFrom (mentions : List Mention) : List String → Reading
  | [] => .ended mentions
  | arg :: rest =>
    let step := match form arg with
      | .long name value => level.readLong mentions name value
      | .short letters => level.readShort mentions letters
      | .divider => .given mentions
      | .word => (level.word? mentions arg).elim .misused .given
    if form arg = .divider then level.readWords mentions rest
    else if form arg = .word ∧ level.commands.contains arg then .command mentions arg rest
    else
      match step with
      | .misused => .misused
      | .urgent long => .urgent long
      | .given mentions => readFrom mentions rest
      | .wants mentions s =>
        match rest with
        | [] => .misused
        | value :: rest =>
          if form value ≠ .word then .misused
          else
            match give? mentions s value with
            | some mentions => readFrom mentions rest
            | none => .misused

/-- Reads the arguments of a level. -/
def read (args : List String) : Reading := level.readFrom [] args

end Level

namespace Mention

/-! ## What was mentioned -/

/-- The values of a switch. -/
def values (mentions : List Mention) (long : String) : List String :=
  mentions.filterMap fun
    | .switch name value => if name = long then some value else none
    | .word _ => none

/-- The value of a switch. -/
def value? (mentions : List Mention) (long : String) : Option String := (values mentions long).head?

/-- Whether a switch was given. -/
def has (mentions : List Mention) (long : String) : Bool := !(values mentions long).isEmpty

/-- The words. -/
def words (mentions : List Mention) : List String :=
  mentions.filterMap fun
    | .word w => some w
    | .switch _ _ => none

end Mention

end CatalogGraph.CommandLine
