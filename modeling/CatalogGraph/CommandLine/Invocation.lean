import CatalogGraph.CommandLine.Switch
import CatalogGraph.Joins.Detection
import CatalogGraph.Text.Digits

/-!
# Invocations

What the program is asked to do: one of its commands with its arguments, the file of the settings,
the connection, and whether it tells more than usual. Those three may be given at every level of the
command line; what is given nearer to the end counts.
-/

namespace CatalogGraph.CommandLine

/-- How a schema is printed. -/
inductive Format where
  | sdl
  | json
deriving DecidableEq, Repr

/-- The name of a format. -/
def Format.name : Format → String
  | .sdl => "sdl"
  | .json => "json"

/-- Something that the program does. -/
inductive Command where
  /-- Print the schema of everything that is exposed. -/
  | schema (fixture : Option String) (format : Format) (refresh : Bool)
  /-- Print the rows of a table, or the query for them. -/
  | query (catalog schema table : String) (limit : Option Int) (filters : List String)
      (fixture : Option String) (dryRun : Bool)
  /-- Print the join candidates of a catalog. -/
  | joins (catalog : String) (strategy : Option Joins.Strategy) (fixture : Option String)
      (json refresh : Bool)
  | cacheStats
  | cacheClear (catalog : Option String)
  /-- Rewrite names to fit the schema grammar. -/
  | sanitize (names : List String)
  /-- Give rewritten names back. -/
  | restore (names : List String)

/-- A command and what goes for every command. -/
structure Invocation where
  config : Option String
  connection : Option String
  verbose : Bool
  command : Command

/-- What a command line asks for. -/
inductive Demand where
  | run (invocation : Invocation)
  | version
  | help
  /-- The command line makes no sense. -/
  | misused

/-! ## Switches -/

/-- Any text is a value. -/
def anyText (_ : String) : Bool := true

/-- A path is not empty. -/
def isPath (value : String) : Bool := value ≠ ""

/-- The whole number that a value gives, within sixty-four bits. -/
def integer? (value : String) : Option Int := Text.integerIn? (.signed 64) value

/-- The format of a name. -/
def format? (value : String) : Option Format :=
  [Format.sdl, Format.json].find? fun f => f.name == value

/-- The strategy of a name; on the command line names have hyphens. -/
def strategy? (value : String) : Option Joins.Strategy :=
  if value = "same-schema" then some .sameSchema
  else if value = "global" then some .global
  else none

/-- The switches of every level. -/
def commonSwitches : List Switch :=
  [.option "config" (some 'c') isPath, .option "connection" none anyText,
   .flag "verbose" (some 'v'), .flag "help" (some 'h')]

/-- The switch that names a file with a fixed catalog tree. -/
def fixtureSwitch : Switch := .option "fixture" none isPath

/-- The switch by which the cache is not read. -/
def refreshSwitch : Switch := .flag "refresh" none

/-- A level with switches of its own beside the common ones. -/
def level (switches : List Switch) (commands : List String) (words : Option Nat) : Level :=
  ⟨commonSwitches ++ switches, ["help", "version"], commands, words⟩

/-- The first level. -/
def topLevel : Level :=
  level [.flag "version" (some 'V')]
    ["schema", "query", "joins", "cache", "sanitize", "restore", "help"] (some 0)

/-- The level of each command. -/
def levelOf? : String → Option Level
  | "schema" =>
    some (level
      [fixtureSwitch, .option "format" (some 'f') fun v => (format? v).isSome, refreshSwitch] []
      (some 0))
  | "query" =>
    some (level
      [.option "limit" (some 'l') fun v => (integer? v).isSome, .list "filter" (some 'f'),
       fixtureSwitch, .flag "dry-run" none] [] (some 3))
  | "joins" =>
    some (level
      [.option "strategy" (some 's') fun v => (strategy? v).isSome, fixtureSwitch,
       .flag "json" none, refreshSwitch] [] (some 1))
  | "cache" => some (level [] ["stats", "clear", "help"] (some 0))
  | "stats" => some (level [] [] (some 0))
  | "clear" => some (level [.option "catalog" none anyText] [] (some 0))
  | "sanitize" => some (level [] [] none)
  | "restore" => some (level [] [] none)
  | _ => none

/-! ## Reading -/

/-- The command of a name, of what was mentioned at its level. -/
def command? (name : String) (mentions : List Mention) : Option Command :=
  let fixture := Mention.value? mentions "fixture"
  let refresh := Mention.has mentions "refresh"
  match name, Mention.words mentions with
  | "schema", _ =>
    some (.schema fixture (((Mention.value? mentions "format").bind format?).getD .sdl) refresh)
  | "query", [catalog, schema, table] =>
    some (.query catalog schema table ((Mention.value? mentions "limit").bind integer?)
      (Mention.values mentions "filter") fixture (Mention.has mentions "dry-run"))
  | "joins", [catalog] =>
    some (.joins catalog ((Mention.value? mentions "strategy").bind strategy?) fixture
      (Mention.has mentions "json") refresh)
  | "stats", _ => some .cacheStats
  | "clear", _ => some (.cacheClear (Mention.value? mentions "catalog"))
  | "sanitize", names => some (.sanitize names)
  | "restore", names => some (.restore names)
  | _, _ => none

/-- A command with the common switches of all levels, those of the last level first. -/
def invocation (levels : List (List Mention)) (command : Command) : Invocation :=
  let last? (long : String) : Option String := levels.findSome? fun m => Mention.value? m long
  ⟨last? "config", last? "connection", levels.any fun m => Mention.has m "verbose", command⟩

/-- The demand of an urgent switch. -/
def urgentDemand (long : String) : Demand := if long = "version" then .version else .help

/-- Reads the arguments of a command without commands below it. -/
def demandOf (above : List (List Mention)) (name : String) (args : List String) : Demand :=
  match (levelOf? name).map (Level.read · args) with
  | some (.ended mentions) =>
    match command? name mentions with
    | some command => .run (invocation (mentions :: above) command)
    | none => .misused
  | some (.urgent long) => urgentDemand long
  | _ => .misused

/-- Reads a command line. -/
def demand (args : List String) : Demand :=
  match topLevel.read args with
  | .misused | .ended _ => .misused
  | .urgent long => urgentDemand long
  | .command _ "help" _ => .help
  | .command mentions "cache" rest =>
    match (levelOf? "cache").map (Level.read · rest) with
    | some (.command _ "help" _) => .help
    | some (.command inner name rest) => demandOf [inner, mentions] name rest
    | some (.urgent long) => urgentDemand long
    | _ => .misused
  | .command mentions name rest => demandOf [mentions] name rest

end CatalogGraph.CommandLine
