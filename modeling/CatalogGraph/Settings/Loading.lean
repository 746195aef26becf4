import CatalogGraph.Files.Tree
import CatalogGraph.Settings.Basic
import CatalogGraph.Settings.Environment
import CatalogGraph.Toml.Document

/-!
# Loading settings

Settings are read from a TOML document and looked over before they are used. The document is the
one that a variable names, or else the one in the folder of the program, or else the one of the
user; where there is none of them nothing is set.
-/

namespace CatalogGraph

open Files

namespace Settings

/-! ## Faults -/

/-- Why there are no settings, or a setting has no value. -/
inductive Fault where
  | fileNotFound (path : String)
  | unreadable
  | malformed
  | missingVariable (name : String)
  | connectionNotFound (name : String)
  | invalid (reason : String)
deriving DecidableEq, Repr

/-- The text of a fault. What a malformed or unreadable file suffers from is not told. -/
def Fault.message : Fault → String
  | .fileNotFound path => "Config file not found: " ++ path
  | .unreadable => "Failed to read config file: "
  | .malformed => "Failed to parse config file: "
  | .missingVariable name => "Missing environment variable: " ++ name
  | .connectionNotFound name => "Connection not found: " ++ name
  | .invalid reason => "Invalid configuration: " ++ reason

/-! ## Documents -/

/-- Whether the settings can be used. -/
def check (s : Settings) : Except Fault Settings :=
  if s.defaultLimit < 0 then
    .error (.invalid ("query.default_limit must not be negative, got " ++
      Text.signedDecimal s.defaultLimit))
  else if s.worker.timeoutSeconds = 0 then
    .error (.invalid "worker.timeout_seconds must be positive")
  else .ok s

/-- The settings of a TOML document. -/
def ofText (document : String) : Except Fault Settings :=
  match Toml.parse? document with
  | none => .error .malformed
  | some members =>
    match recordType.decode (.object (Toml.membersJson recordType.shape members)) with
    | .error _ => .error .malformed
    | .ok s => s.check

/-- The settings in the file at the end of a path. -/
def ofFile (t : Tree) (path : String) : Except Fault Settings :=
  match t.find path with
  | .missing => .error (.fileNotFound path)
  | .file (.text document) => ofText document
  | _ => .error .unreadable

/-! ## Places of the user -/

/-- The home folder of the user where no variable names one. -/
def fallbackHome : String := "/root"

/-- The home folder of the user. -/
def home (env : Environment) : String :=
  match Dictionary.find? env "HOME" with
  | none | some "" => fallbackHome
  | some path => path

/-- A folder of the user: the one that a variable names by an absolute path, or one in the home
folder. -/
def userFolder (env : Environment) (named folder : String) : String :=
  match Dictionary.find? env named with
  | none => Tree.join (home env) folder
  | some path => if path.toList.head? = some '/' then path else Tree.join (home env) folder

/-- The variable that names the file of the settings. -/
def fileVariable : String := "CATALOGQL_CONFIG"

/-- The file of the settings in the folder of the program. -/
def localFile : String := "catalogql.toml"

/-- The file of the settings of the user. -/
def userFile (env : Environment) : String :=
  Tree.join (userFolder env "XDG_CONFIG_HOME" ".config") "catalogql/config.toml"

/-- The settings from the first of the three places that has some. -/
def load (t : Tree) (env : Environment) : Except Fault Settings :=
  match Dictionary.find? env fileVariable with
  | some path => ofFile t path
  | none =>
    if t.exists? localFile then ofFile t localFile
    else if t.exists? (userFile env) then ofFile t (userFile env)
    else .ok standard

/-! ## Values of settings -/

/-- A text with the values of its variables. -/
def expand (env : Environment) (s : String) : Except Fault String :=
  (env.expand s).mapError Fault.missingVariable

/-- The connection string with the values of its variables. -/
def Connection.resolved (c : Connection) (env : Environment) : Except Fault String :=
  expand env c.connectionString

/-- The connection of a name. -/
def connection (s : Settings) (name : String) : Except Fault Connection :=
  match Dictionary.find? s.connections name with
  | some c => .ok c
  | none => .error (.connectionNotFound name)

/-- The path of the cache, if one is set: variables are replaced, then a tilde at its start. -/
def Cache.resolvedPath (c : Cache) (env : Environment) : Except Fault (Option String) :=
  match c.path with
  | none => .ok none
  | some path =>
    match expand env path with
    | .error e => .error e
    | .ok path =>
      match path.toList with
      | '~' :: '/' :: rest => .ok (some (Tree.join (home env) (String.ofList rest)))
      | _ => .ok (some path)

/-- The path of the cache where none is set. -/
def standardCachePath (env : Environment) : String :=
  Tree.join (userFolder env "XDG_CACHE_HOME" ".cache") "catalogql/cache.db"

/-- The path of the cache. -/
def cachePath (s : Settings) (env : Environment) : Except Fault String :=
  (s.cache.resolvedPath env).map (·.getD (standardCachePath env))

end Settings

end CatalogGraph
