import SchemaScaffold.Inflection.Pattern

/-!
# The inflection rules of English nouns

* `irregulars`: singular and plural of the words that follow no rule.
* `uncountables`: words that have one form only.
* `pluralRules`, `singularRules`: patterns with replacement templates; a later rule goes before an
  earlier one. `sharedRules` ends both lists.

A template names the whole match as `$0` and the groups that took part in it as `$1` and `$2`.
-/

namespace SchemaScaffold.Inflection

open Pattern

/-- A pattern and the template that replaces what it matches. -/
structure Rule where
  pattern : Pattern
  template : String
  deriving Repr, DecidableEq

/-- Pairs of a singular and a plural, in order; a later pair overrides an earlier one. -/
def irregulars : List (String × String) :=
  [("I", "we"), ("me", "us"), ("he", "they"), ("she", "they"), ("them", "them"),
   ("myself", "ourselves"), ("yourself", "yourselves"), ("itself", "themselves"),
   ("herself", "themselves"), ("himself", "themselves"), ("themself", "themselves"),
   ("is", "are"), ("was", "were"), ("has", "have"), ("this", "these"), ("that", "those"),
   ("my", "our"), ("its", "their"), ("his", "their"), ("her", "their"), ("echo", "echoes"),
   ("dingo", "dingoes"), ("volcano", "volcanoes"), ("tornado", "tornadoes"),
   ("torpedo", "torpedoes"), ("genus", "genera"), ("viscus", "viscera"), ("stigma", "stigmata"),
   ("stoma", "stomata"), ("dogma", "dogmata"), ("lemma", "lemmata"), ("schema", "schemata"),
   ("anathema", "anathemata"), ("ox", "oxen"), ("axe", "axes"), ("die", "dice"),
   ("yes", "yeses"), ("foot", "feet"), ("eave", "eaves"), ("goose", "geese"),
   ("tooth", "teeth"), ("quiz", "quizzes"), ("human", "humans"), ("proof", "proofs"),
   ("carve", "carves"), ("valve", "valves"), ("looey", "looies"), ("thief", "thieves"),
   ("groove", "grooves"), ("pickaxe", "pickaxes"), ("passerby", "passersby"),
   ("canvas", "canvases")]

/-- Words that are the same in singular and plural. -/
def uncountables : List String :=
  ["adulthood", "advice", "agenda", "aid", "aircraft", "alcohol", "ammo", "analytics", "anime",
   "athletics", "audio", "bison", "blood", "bream", "buffalo", "butter", "carp", "cash",
   "chassis", "chess", "clothing", "cod", "commerce", "cooperation", "corps", "debris",
   "diabetes", "digestion", "elk", "energy", "equipment", "excretion", "expertise", "firmware",
   "flounder", "fun", "gallows", "garbage", "graffiti", "hardware", "headquarters", "health",
   "herpes", "highjinks", "homework", "housework", "information", "jeans", "justice", "kudos",
   "labour", "literature", "machinery", "mackerel", "mail", "media", "mews", "moose", "music",
   "mud", "manga", "news", "only", "personnel", "pike", "plankton", "pliers", "police",
   "pollution", "premises", "rain", "research", "rice", "salmon", "scissors", "series",
   "sewage", "shambles", "shrimp", "software", "staff", "swine", "tennis", "traffic",
   "transportation", "trout", "tuna", "wealth", "welfare", "whiting", "wildebeest", "wildlife",
   "you"]

/-- The rule for words that end as described, in a row of parts. -/
def ending (parts : List Pattern) (template : String) : Rule :=
  ⟨all (parts ++ [.finish]), template⟩

/-- One character of the text's. -/
def among (chars : String) : Pattern := .oneOf chars.toList

/-- One character that is none of the text's. -/
def except (chars : String) : Pattern := .noneOf chars.toList

/-- Stems of Latin words that end in `us` or `i`. -/
def latinUsStems : Pattern :=
  anyWord ["alumn", "syllab", "vir", "radi", "nucle", "fung", "cact", "stimul", "termin",
    "bacill", "foc", "uter", "loc", "strat"]

/-- Stems of Latin words that end in `a` or `ae`. -/
def latinAeStems : Pattern := anyWord ["alumn", "alg", "vertebr"]

/-- Stems of Latin words that end in `a` or `um`. -/
def latinUmStems : List String :=
  ["agend", "addend", "millenni", "dat", "extrem", "bacteri", "desiderat", "strat",
   "candelabr", "errat", "ov", "symposi", "curricul"]

/-- Stems of Greek words that end in `a` or `on`. -/
def greekOnStems : Pattern :=
  anyWord ["apheli", "hyperbat", "periheli", "asyndet", "noumen", "phenomen", "criteri",
    "organ", "prolegomen", "hedr", "automat"]

/-- Titmouse, mouse or louse, up to the part that changes. -/
def mouseStems : Pattern := any [.seq (optional (word "tit")) (word "m"), word "l"]

/-- The rules that end both lists. -/
def sharedRules : List Rule :=
  [ending [word "pok", .oneOf ['e', 'é'], word "mon"] "$0",
   ending [except "aeiou", word "ese"] "$0",
   ending [word "deer"] "$0",
   ending [word "fish"] "$0",
   ending [word "measles"] "$0",
   ending [word "o", among "iu", word "s"] "$0",
   ending [word "pox"] "$0",
   ending [word "sheep"] "$0"]

/-- The rules that form a plural; the last one that matches is taken. -/
def pluralRules : List Rule :=
  [ending [optional (word "s")] "s",
   ending [.nonAscii] "$0",
   ending [.group (.seq (except "aeiou") (word "ese"))] "$1",
   ending [.group (anyWord ["ax", "test"]), word "is"] "$1es",
   ending [.group (any [word "alias", .seq (except "aou") (word "us"),
     all [word "t", among "lm", word "as"], word "gas", word "ris"])] "$1es",
   ending [.group (all [word "e", among "mn", word "u"]), optional (word "s")] "$1s",
   ending [.group (any [.seq (except "l") (word "ias"), .seq (among "aeiou") (word "las"),
     .seq (among "ejzr") (word "as"), .seq (among "iu") (word "am")])] "$1",
   ending [.group latinUsStems, anyWord ["us", "i"]] "$1i",
   ending [.group latinAeStems, anyWord ["a", "ae"]] "$1ae",
   ending [.group (anyWord ["seraph", "cherub"]), optional (word "im")] "$1im",
   ending [.group (anyWord ["her", "at", "gr"]), word "o"] "$1oes",
   ending [.group (anyWord (latinUmStems ++ ["automat", "quor"])), anyWord ["a", "um"]] "$1a",
   ending [.group greekOnStems, anyWord ["a", "on"]] "$1a",
   ending [word "sis"] "ses",
   ending [any [.seq (.group (anyWord ["kni", "wi", "li"])) (word "fe"),
     .seq (.group (anyWord ["ar", "l", "ea", "eo", "oa", "hoo"])) (word "f")]] "$1$2ves",
   ending [.group (any [except "aeiouy", word "qu"]), word "y"] "$1ies",
   ending [.group (all [except "ch", among "ieo", among "ln"]), word "ey"] "$1ies",
   ending [.group (anyWord ["x", "ch", "ss", "sh", "zz"])] "$1es",
   ending [.group (anyWord ["matr", "cod", "mur", "sil", "vert", "ind", "append"]),
     anyWord ["ix", "ex"]] "$1ices",
   ending [.wordBoundary, .group mouseStems, anyWord ["ice", "ouse"]] "$1ice",
   ending [.group (word "pe"), anyWord ["rson", "ople"]] "$1ople",
   ending [.group (word "child"), optional (word "ren")] "$1ren",
   ending [word "eaux"] "$0",
   ending [word "m", among "ae", word "n"] "men",
   ending [.start, word "thou"] "you"] ++ sharedRules

/-- The rules that form a singular; the last one that matches is taken. -/
def singularRules : List Rule :=
  [ending [word "s"] "",
   ending [.group (word "ss")] "$1",
   ending [.group (any [word "wi", word "kni",
     .seq (any [word "after", word "half", word "high", word "low", word "mid", word "non",
       word "night", .nonWord, .start]) (word "li")]), word "ves"] "$1fe",
   ending [.group (any [word "ar",
     .seq (any [word "wo", among "ae"]) (word "l"), .seq (among "eo") (among "ao")]),
     word "ves"] "$1f",
   ending [word "ies"] "y",
   ending [.group (anyWord ["dg", "ss", "ois", "lk", "ok", "wn", "mb", "th", "ch", "ec", "oal",
     "is", "ck", "ix", "sser", "ts", "wb"]), word "ies"] "$1ie",
   ending [.wordBoundary, .group (any [word "l",
     .seq (optional (anyWord ["neck", "cross", "hog", "aun"])) (word "t"), word "coll",
     word "faer", word "food", word "gen", word "goon", word "group", word "hipp", word "junk",
     word "vegg", .seq (optional (word "pork")) (word "p"), word "charl", word "calor",
     word "cut"]), word "ies"] "$1ie",
   ending [.wordBoundary, .group (anyWord ["mon", "smil"]), word "ies"] "$1ey",
   ending [.wordBoundary, .group mouseStems, word "ice"] "$1ouse",
   ending [.group (anyWord ["seraph", "cherub"]), word "im"] "$1",
   ending [.group (any [word "x", word "ch", word "ss", word "sh", word "zz", word "tto",
     word "go", word "cho", word "alias", .seq (except "aou") (word "us"),
     all [word "t", among "lm", word "as"], word "gas",
     .seq (anyWord ["her", "at", "gr"]) (word "o"), .seq (among "aeiou") (word "ris")]),
     optional (word "es")] "$1",
   ending [.group (anyWord ["analy", "diagno", "parenthe", "progno", "synop", "the", "empha",
     "cri", "ne"]), anyWord ["sis", "ses"]] "$1sis",
   ending [.group (any [word "movie", word "twelve", word "abuse",
     all [word "e", among "mn", word "u"]]), word "s"] "$1",
   ending [.group (word "test"), anyWord ["is", "es"]] "$1is",
   ending [.group latinUsStems, anyWord ["us", "i"]] "$1us",
   ending [.group (anyWord (latinUmStems ++ ["quor"])), word "a"] "$1um",
   ending [.group greekOnStems, word "a"] "$1on",
   ending [.group latinAeStems, word "ae"] "$1a",
   ending [.group (anyWord ["cod", "mur", "sil", "vert", "ind"]), word "ices"] "$1ex",
   ending [.group (anyWord ["matr", "append"]), word "ices"] "$1ix",
   ending [.group (word "pe"), .group (anyWord ["rson", "ople"])] "$1rson",
   ending [.group (word "child"), word "ren"] "$1",
   ending [.group (word "eau"), optional (word "x")] "$1",
   ending [word "men"] "man"] ++ sharedRules

end SchemaScaffold.Inflection
