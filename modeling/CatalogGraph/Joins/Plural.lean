import CatalogGraph.Text.Case
import CatalogGraph.Text.Word

/-!
# Plurals

The plural of an English word in small letters. Some words have no plural of their own, a few have
an irregular one, and for the others the first rule that fits decides.

A rule fits a word that ends in one of its stems followed by one of its endings. The plural is the
stem with the letters before it, and the plural ending of the rule; of the word only the letters
that reach to the stem without a gap are kept.
-/

namespace CatalogGraph.Joins

open Text

/-! ## Rules -/

/-- A stem: a letter from each of some sets, and letters that are given. -/
structure Stem where
  leading : List (Char → Bool)
  letters : String

/-- A rule: stems, the endings that may follow them, and the ending of the plural. -/
structure Rule where
  stems : List Stem
  endings : List String
  plural : String

/-- Stems of given letters. -/
def plain (letters : List String) : List Stem := letters.map fun s => ⟨[], s⟩

/-- The set of the given letters. -/
def within (letters : String) (c : Char) : Bool := letters.toList.contains c

/-- The set of all characters but the given letters. -/
def outside (letters : String) (c : Char) : Bool := !letters.toList.contains c

/-- The rules; an earlier one goes before a later one. -/
def rules : List Rule :=
  [⟨plain ["eaux"], [""], ""⟩,
   ⟨plain ["child"], ["ren", ""], "ren"⟩,
   ⟨plain ["person", "people"], [""], "ople"⟩,
   ⟨plain ["mice", "mouse", "lice", "louse"], [""], "ice"⟩,
   ⟨plain ["matr", "cod", "mur", "sil", "vert", "ind", "append"], ["ix", "ex"], "ices"⟩,
   ⟨plain ["x", "ch", "ss", "sh", "zz"], [""], "es"⟩,
   ⟨plain ["xes", "ches", "sses", "shes", "zzes"], [""], ""⟩,
   ⟨[⟨[outside "ch", within "ieo", within "ln"], ""⟩], ["ey"], "ies"⟩,
   ⟨plain ["qu"] ++ [⟨[outside "aeiouy"], ""⟩], ["y"], "ies"⟩,
   ⟨plain ["ar", "l", "ea", "eo", "oa", "hoo"], ["f"], "ves"⟩,
   ⟨plain ["kni", "wi", "li"], ["fe"], "ves"⟩,
   ⟨plain [""], ["sis"], "ses"⟩,
   ⟨plain ["apheli", "hyperbat", "periheli", "asyndet", "noumen", "phenomen", "criteri", "organ",
      "prolegomen", "hedr", "automat"], ["a", "on"], "a"⟩,
   ⟨plain ["agend", "addend", "millenni", "dat", "extrem", "bacteri", "desiderat", "strat",
      "candelabr", "errat", "ov", "symposi", "curricul", "automat", "quor"], ["a", "um"], "a"⟩,
   ⟨plain ["her", "at", "gr"], ["o"], "oes"⟩,
   ⟨plain ["seraph", "cherub"], ["im", ""], "im"⟩,
   ⟨plain ["alumn", "alg", "vertebr"], ["a", "ae"], "ae"⟩,
   ⟨plain ["alumn", "syllab", "octop", "vir", "radi", "nucle", "fung", "cact", "stimul",
      "termin", "bacill", "foc", "uter", "loc", "strat"], ["us", "i"], "i"⟩,
   ⟨[⟨[outside "l"], "ias"⟩, ⟨[within "aeiou"], "las"⟩, ⟨[within "emjzr"], "as"⟩, ⟨[within "iu"],
      "am"⟩], [""], ""⟩,
   ⟨plain ["emu", "enu"], ["s", ""], "s"⟩,
   ⟨plain ["alias", "tlas", "gas", "ris"] ++ [⟨[outside "aou"], "us"⟩], [""], "es"⟩,
   ⟨plain ["ax", "test"], ["is"], "es"⟩,
   ⟨[⟨[outside "aeiou"], "ese"⟩], [""], ""⟩,
   ⟨plain [""], ["s"], "s"⟩]

/-! ## Words without a rule -/

/-- Words that are their own plural. -/
def uncountable : List String :=
  ["accommodation", "adulthood", "advertising", "advice", "aggression", "aid", "air", "aircraft",
   "alcohol", "anger", "applause", "arithmetic", "assistance", "athletics", "bacon", "baggage",
   "beef", "biology", "blood", "botany", "bread", "butter", "carbon", "cardboard", "cash",
   "chalk", "chaos", "chess", "crossroads", "countryside", "dancing", "deer", "dignity", "dirt",
   "dust", "economics", "education", "electricity", "engineering", "enjoyment", "envy",
   "equipment", "ethics", "evidence", "evolution", "fame", "fiction", "flour", "flu", "food",
   "fuel", "fun", "furniture", "gallows", "garbage", "garlic", "genetics", "gold", "golf",
   "gossip", "grammar", "gratitude", "grief", "guilt", "gymnastics", "happiness", "hardware",
   "harm", "hate", "hatred", "health", "heat", "help", "homework", "honesty", "honey",
   "hospitality", "housework", "humour", "hunger", "hydrogen", "ice", "importance", "inflation",
   "information", "innocence", "iron", "irony", "jam", "jewelry", "judo", "karate", "knowledge",
   "lack", "laughter", "lava", "leather", "leisure", "lightning", "linguine", "linguini",
   "linguistics", "literature", "litter", "livestock", "logic", "loneliness", "luck", "luggage",
   "macaroni", "machinery", "magic", "management", "mankind", "marble", "mathematics",
   "mayonnaise", "measles", "methane", "milk", "money", "mud", "music", "mumps", "nature",
   "news", "nitrogen", "nonsense", "nurture", "nutrition", "obedience", "obesity", "oxygen",
   "pasta", "patience", "physics", "poetry", "pollution", "poverty", "pride", "psychology",
   "publicity", "punctuation", "quartz", "racism", "relaxation", "reliability", "research",
   "respect", "revenge", "rice", "rubbish", "rum", "safety", "scenery", "seafood", "seaside",
   "series", "shame", "sheep", "shopping", "sleep", "smoke", "smoking", "snow", "soap",
   "software", "soil", "spaghetti", "species", "steam", "stuff", "stupidity", "sunshine",
   "symmetry", "tennis", "thirst", "thunder", "timber", "traffic", "transportation", "trust",
   "underwear", "unemployment", "unity", "validity", "veal", "vegetation", "vegetarianism",
   "vengeance", "violence", "vitality", "warmth", "wealth", "weather", "welfare", "wheat",
   "wildlife", "wisdom", "yoga", "zinc", "zoology"]

/-- Words with an irregular plural. -/
def irregular : List (String × String) :=
  [("ox", "oxen"), ("man", "men"), ("woman", "women"), ("die", "dice"), ("yes", "yeses"),
   ("foot", "feet"), ("eave", "eaves"), ("goose", "geese"), ("tooth", "teeth"), ("quiz", "quizzes")]

/-- Words of table names with an irregular plural; the plural is its own plural. -/
def irregularTables : List (String × String) :=
  [("person", "people"), ("child", "children"), ("criterion", "criteria"), ("datum", "data"),
   ("index", "indices"), ("matrix", "matrices"), ("vertex", "vertices"), ("analysis", "analyses")]

/-! ## Applying rules -/

/-- The characters before a given end. -/
def dropEnd? (ending cs : List Char) : Option (List Char) :=
  if ending.isSuffixOf cs then some (cs.take (cs.length - ending.length)) else none

/-- The characters before letters of the given sets at the end, the last set first. -/
def dropSets? : List (Char → Bool) → List Char → Option (List Char)
  | [], reversed => some reversed
  | _ :: _, [] => none
  | set :: sets, c :: reversed => if set c then dropSets? sets reversed else none

/-- The characters before a stem at the end. -/
def Stem.drop? (stem : Stem) (cs : List Char) : Option (List Char) := do
  let before ← dropEnd? stem.letters.toList cs
  let reversed ← dropSets? stem.leading.reverse before.reverse
  return reversed.reverse

/-- The longest run of word characters at the end. -/
def lastRun (cs : List Char) : List Char := (cs.reverse.takeWhile isWordChar).reverse

/-- What of a word is kept before an ending, where the word has a stem before it. -/
def Stem.kept? (stem : Stem) (ending cs : List Char) : Option (List Char) := do
  let body ← dropEnd? ending cs
  let before ← stem.drop? body
  return body.drop (before.length - (lastRun before).length)

/-- The longer of two findings, the first of two equally long ones. -/
def longer (a b : Option (List Char)) : Option (List Char) :=
  match a, b with
  | none, b => b
  | a, none => a
  | some x, some y => if x.length < y.length then some y else some x

/-- The plural that a rule makes of a word. -/
def Rule.apply? (rule : Rule) (cs : List Char) : Option (List Char) :=
  let kept := rule.endings.flatMap fun ending =>
    rule.stems.map fun stem => stem.kept? ending.toList cs
  (kept.foldl longer none).map (· ++ rule.plural.toList)

/-- The plural of a word in small letters by the general rules. -/
def inflect (word : String) : String :=
  if uncountable.contains word then word
  else
    match irregular.find? fun entry => entry.1 == word with
    | some entry => entry.2
    | none =>
      match rules.findSome? fun rule => rule.apply? word.toList with
      | some plural => String.ofList plural
      | none => word ++ "s"

/-- The plural of a word. -/
def pluralize (word : String) : String :=
  if word = "" then ""
  else
    let small := lower word
    match irregularTables.find? fun entry => entry.1 == small || entry.2 == small with
    | some entry => entry.2
    | none => inflect small

end CatalogGraph.Joins
