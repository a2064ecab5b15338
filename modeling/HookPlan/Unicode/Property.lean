import HookPlan.Unicode.Table.Age
import HookPlan.Unicode.Table.Break
import HookPlan.Unicode.Table.Category
import HookPlan.Unicode.Table.Letter
import HookPlan.Unicode.Table.Script
import HookPlan.Unicode.Table.Sign

/-!
# Properties of characters

Characters are named by a property that they have or by a property and its value. Names are
compared without regard to case, spaces, dashes, underscores and a leading "is".

* `Property.named`: the characters with a property, in a category or in a script.
* `Property.valued`: the characters with a value of a property.
* `wordRanges`, `digitRanges`: the characters of words and of numbers.
-/

namespace HookPlan.Unicode

namespace Property

/-- Why a name means no set of characters. -/
inductive Fault where
  | unknownProperty
  | unknownValue
  deriving Repr, DecidableEq

/-- The form of a name that is compared. -/
def normalize (name : List Char) : String :=
  let isPrefixed := match name with
    | i :: s :: _ => (i == 'i' || i == 'I') && (s == 's' || s == 'S')
    | _ => false
  let kept := (if isPrefixed then name.drop 2 else name).filter fun c =>
    c.toNat < 0x80 && c != ' ' && c != '_' && c != '-'
  let name := String.ofList (kept.map Char.toLower)
  if isPrefixed && name == "c" then "isc" else name

/-- Categories that are unions of others: their names, and the names of their parts. -/
def compoundCategories : List (List String × List String) := [
  (["c", "other"], ["cc", "cf", "cn", "co"]),
  (["l", "letter"], ["lu", "ll", "lt", "lm", "lo"]),
  (["lc", "casedletter"], ["lu", "ll", "lt"]),
  (["m", "mark", "combiningmark"], ["mn", "mc", "me"]),
  (["n", "number"], ["nd", "nl", "no"]),
  (["p", "punctuation", "punct"], ["pc", "pd", "ps", "pe", "pi", "pf", "po"]),
  (["s", "symbol"], ["sm", "sc", "sk", "so"]),
  (["z", "separator"], ["zs", "zl", "zp"])]

/-- The characters of a category, or of several of them. -/
def category? (name : String) : Option Ranges :=
  if name == "any" then some Ranges.all
  else if name == "ascii" then some [(0, 0x7F)]
  else if name == "assigned" then (Row.find? categoryRows "cn").map (Ranges.compl ·.ranges)
  else
    match compoundCategories.find? (·.1.contains name) with
    | some (_, parts) => some (Row.union (parts.filterMap (Row.find? categoryRows)))
    | none => (Row.find? categoryRows name).map (·.ranges)

/-- Categories whose names are also short names of properties that are no sets. -/
def isCategoryFirst (name : String) : Bool := name == "cf" || name == "sc" || name == "lc"

/-- The properties that have other values than yes and no. -/
def valuedProperties : List (List String) := [
  ["gc", "generalcategory"], ["sc", "script"], ["scx", "scriptextensions"], ["age"],
  ["gcb", "graphemeclusterbreak"], ["wb", "wordbreak"], ["sb", "sentencebreak"]]

/-- The characters with a property that is either there or not. -/
def binary? (name : String) : Option Ranges :=
  ([caseRows, identifierRows, signRows].findSome? (Row.find? · name)).map (·.ranges)

def script? (name : String) : Option Ranges := (Row.find? scriptRows name).map (·.ranges)

/-- The characters in use with a script. -/
def sharedScript? (name : String) : Option Ranges :=
  ((Row.find? sharedRows name) <|> (Row.find? scriptRows name)).map (·.ranges)

/-- The characters that a version of the standard has. -/
def age? (name : String) : Option Ranges :=
  if (Row.find? ageRows name).isNone then none
  else
    let earlier := ageRows.takeWhile fun r => !r.names.contains name
    some (Row.union (earlier ++ (Row.find? ageRows name).toList))

/-- The characters that one name stands for. -/
def named (name : List Char) : Except Fault Ranges :=
  let n := normalize name
  let sets := [category? n, script? n]
  let all := if isCategoryFirst n then sets else binary? n :: sets
  if !isCategoryFirst n && valuedProperties.any (·.contains n) then .error .unknownProperty
  else
    match all.findSome? id with
    | some r => .ok r
    | none => .error .unknownProperty

/-- The characters with a value of a property. -/
def valued (property value : List Char) : Except Fault Ranges :=
  let p := normalize property
  let v := normalize value
  let among (r : Option Ranges) : Except Fault Ranges :=
    match r with
    | some r => .ok r
    | none => .error .unknownValue
  match valuedProperties.find? (·.contains p) with
  | some ("gc" :: _) => among (category? v)
  | some ("sc" :: _) => among (script? v)
  | some ("scx" :: _) => among (sharedScript? v)
  | some ("age" :: _) => among (age? v)
  | some ("gcb" :: _) => among ((Row.find? graphemeRows v).map (·.ranges))
  | some ("wb" :: _) => among ((Row.find? wordRows v).map (·.ranges))
  | some ("sb" :: _) => among ((Row.find? sentenceRows v).map (·.ranges))
  | _ => .error .unknownProperty

end Property

/-- The characters of words: letters with their marks, digits, connectors and joiners. -/
def wordRanges : Ranges :=
  let rows (table : List Row) (names : List String) := names.filterMap (Row.find? table)
  Row.union (rows identifierRows ["alphabetic"]
    ++ rows categoryRows ["mn", "mc", "me", "nd", "pc"] ++ rows signRows ["joincontrol"])

/-- The characters of words, for looking them up. -/
def wordTable : Array (Nat × Nat) := wordRanges.toArray

def isWordChar (c : Char) : Bool := Ranges.tableContains wordTable c.toNat

/-- Decimal digits of all scripts. -/
def digitRanges : Ranges := Row.union ((Row.find? categoryRows "nd").toList)

def letterTable : Array (Nat × Nat) := (Row.union ((Row.find? identifierRows "alphabetic").toList)).toArray

/-- Letters of all scripts. -/
def isLetter (c : Char) : Bool := Ranges.tableContains letterTable c.toNat

def numberTable : Array (Nat × Nat) :=
  (Row.union (["nd", "nl", "no"].filterMap (Row.find? categoryRows))).toArray

/-- Numbers of all scripts. -/
def isNumber (c : Char) : Bool := Ranges.tableContains numberTable c.toNat

/-- White space. -/
def spaceRanges : Ranges := [(0x09, 0x0d), (0x20, 0x20), (0x85, 0x85), (0xa0, 0xa0),
  (0x1680, 0x1680), (0x2000, 0x200a), (0x2028, 0x2029), (0x202f, 0x202f), (0x205f, 0x205f),
  (0x3000, 0x3000)]

end HookPlan.Unicode
