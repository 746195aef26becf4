import CatalogGraph.CommandLine.Run

/-!
# What a run looks at

Before a run is made, the files and variables that it looks at are found out, so that they can be
looked up for it. The settings are the first of them: as long as they are not known, only the files
that may hold them are.
-/

namespace CatalogGraph.CommandLine

/-- The variables that are looked at whatever is asked for. -/
def usualVariables : List String :=
  ["HOME", "XDG_CONFIG_HOME", "XDG_CACHE_HOME", Settings.fileVariable, Worker.pathVariable]

/-- The file with the catalog tree that a command is given. -/
def Command.fixturePath? : Command → Option String
  | .schema fixture .. | .joins _ _ fixture .. => fixture
  | .query _ _ _ _ _ fixture _ => fixture
  | _ => none

/-- The file of the cache that a command uses. -/
def Command.databasePath? (command : Command) (s : Settings) (env : Environment) : Option String :=
  match command with
  | .sanitize _ | .restore _ => none
  | _ => if command.fixturePath?.isSome then none else (s.cachePath env).toOption

namespace Invocation

/-- The files that may hold the settings. -/
def settingsPaths (i : Invocation) (env : Environment) : List String :=
  match i.config with
  | some path => [path]
  | none =>
    match Dictionary.find? env Settings.fileVariable with
    | some path => [path]
    | none => [Settings.localFile, Settings.userFile env]

/-- The files that are read as texts. -/
def textPaths (i : Invocation) (env : Environment) : List String :=
  i.settingsPaths env ++ i.command.fixturePath?.toList

/-- The file of the cache, as far as the settings are known. -/
def databasePath? (i : Invocation) (world : World) : Option String :=
  (i.settings world).toOption.bind fun s => i.command.databasePath? s world.env

/-- The variables that the settings refer to, as far as the settings are known. -/
def variableNames (i : Invocation) (world : World) : List String :=
  (i.settingsPaths world.env).flatMap fun path =>
    match world.tree.find path with
    | .file (.text document) => Environment.referredNames document.toList
    | _ => []

end Invocation

end CatalogGraph.CommandLine
