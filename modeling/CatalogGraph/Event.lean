import CatalogGraph.Text.Digits

/-!
# Events

What happens besides the results is told as events: a level, a message and named details. Whoever
runs the program decides which of them are shown.
-/

namespace CatalogGraph

/-- How much an event matters. -/
inductive Level where
  | debug
  | info
  | warn
deriving DecidableEq, Repr

/-- The word for a level. -/
def Level.text : Level → String
  | .debug => "DEBUG"
  | .info => "INFO"
  | .warn => "WARN"

/-- Something that happened. -/
structure Event where
  level : Level
  message : String
  details : List (String × String)
deriving DecidableEq, Repr

/-- The event on one line: its level, its message and its details. -/
def Event.line (e : Event) : String :=
  e.level.text ++ " " ++ e.message ++
    String.join (e.details.map fun (name, value) => " " ++ name ++ "=" ++ value)

end CatalogGraph
