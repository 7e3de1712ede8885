import FlowCheck.Pattern.Syntax
import FlowCheck.Unicode.Property
import FlowCheck.Unicode.Script

/-!
# Properties by name

The sets of characters that `\p` can name: general categories, scripts, and the properties that a
character has or has not.  Names are compared without regard to case, blanks, hyphens, underscores
and a leading `is`.
-/

namespace FlowCheck
namespace Pattern
namespace Query

open Unicode

/-- Why a query names no set. -/
inductive Unknown where
  | property
  | value
deriving DecidableEq

/-! ## Names -/

/-- The letters that count in a name. -/
def lettersOf (cs : List Char) : List Char :=
  (cs.filter fun c => c.toNat < 128 && c != ' ' && c != '_' && c != '-').map Char.toLower

/-- A name as it is compared. -/
def normal (name : String) : String :=
  let cs := name.toList
  if (cs.take 2).map Char.toLower = ['i', 's'] then
    let rest := lettersOf (cs.drop 2)
    if rest = ['c'] then "isc" else String.ofList rest
  else String.ofList (lettersOf cs)

/-! ## General categories -/

/-- The categories by their names; the short name comes first. -/
def categories : List (List String × List Category) :=
  [(["c", "other"], [.Cc, .Cf, .Co]), (["cc", "control", "cntrl"], [.Cc]),
    (["cf", "format"], [.Cf]), (["co", "privateuse"], [.Co]),
    (["l", "letter"], [.Lu, .Ll, .Lt, .Lm, .Lo]), (["lc", "casedletter"], [.Lu, .Ll, .Lt]),
    (["ll", "lowercaseletter"], [.Ll]), (["lm", "modifierletter"], [.Lm]),
    (["lo", "otherletter"], [.Lo]), (["lt", "titlecaseletter"], [.Lt]),
    (["lu", "uppercaseletter"], [.Lu]), (["m", "mark", "combiningmark"], [.Mn, .Mc, .Me]),
    (["mc", "spacingmark"], [.Mc]), (["me", "enclosingmark"], [.Me]),
    (["mn", "nonspacingmark"], [.Mn]), (["n", "number"], [.Nd, .Nl, .No]),
    (["nd", "decimalnumber", "digit"], [.Nd]), (["nl", "letternumber"], [.Nl]),
    (["no", "othernumber"], [.No]),
    (["p", "punctuation", "punct"], [.Pc, .Pd, .Ps, .Pe, .Pi, .Pf, .Po]),
    (["pc", "connectorpunctuation"], [.Pc]), (["pd", "dashpunctuation"], [.Pd]),
    (["pe", "closepunctuation"], [.Pe]), (["pf", "finalpunctuation"], [.Pf]),
    (["pi", "initialpunctuation"], [.Pi]), (["po", "otherpunctuation"], [.Po]),
    (["ps", "openpunctuation"], [.Ps]), (["s", "symbol"], [.Sm, .Sc, .Sk, .So]),
    (["sc", "currencysymbol"], [.Sc]), (["sk", "modifiersymbol"], [.Sk]),
    (["sm", "mathsymbol"], [.Sm]), (["so", "othersymbol"], [.So]),
    (["z", "separator"], [.Zs, .Zl, .Zp]), (["zl", "lineseparator"], [.Zl]),
    (["zp", "paragraphseparator"], [.Zp]), (["zs", "spaceseparator"], [.Zs])]

def rangesOf (cs : List Category) : Ranges := cs.flatMap Category.ranges

def assigned : Ranges := rangesOf Category.all

/-- The characters of a category.  The surrogates are a category without characters, which no
pattern can name. -/
def category? (name : String) : Option (Except Unknown Ranges) :=
  if name = "any" then some (.ok (Ranges.complement []))
  else if name = "assigned" then some (.ok assigned)
  else if name = "ascii" then some (.ok [(0, 127)])
  else if name = "cn" ∨ name = "unassigned" then some (.ok (Ranges.complement assigned))
  else if name = "cs" ∨ name = "surrogate" then some (.error .value)
  else (categories.find? fun c => c.1.contains name).map fun c =>
    if c.1.contains "c" then .ok (rangesOf c.2 ++ Ranges.complement assigned)
    else .ok (rangesOf c.2)

/-! ## Scripts -/

/-- Two more codes, kept for older texts. -/
def oldCodes : List (String × String) := [("qaac", "Coptic"), ("qaai", "Inherited")]

/-- The script that a compared name or code stands for. -/
def scriptName? (name : String) : Option String :=
  ((scripts.find? fun s => normal s.1 == name).map (·.1)) <|>
    ((scriptCodes.find? fun s => normal s.1 == name).map (·.2)) <|>
    oldCodes.lookup name

def script? (name : String) : Option Ranges := (scriptName? name).bind fun s => scripts.lookup s

/-- The characters that a script is used with. -/
def scriptUse? (name : String) : Option Ranges := do
  let s ← scriptName? name
  let own ← scripts.lookup s
  pure ((own.diff ((scriptShared.lookup s).getD [])) ++ (scriptExtras.lookup s).getD [])

/-! ## Queries -/

/-- Names of categories that are also abbreviations of other properties. -/
def categoriesFirst : List String := ["cf", "sc", "lc"]

/-- The set that a name alone stands for. -/
def byName (name : String) : Except Unknown Ranges :=
  let name := normal name
  let property := if categoriesFirst.contains name then none else Unicode.Property.ranges? name
  match property, category? name, script? name with
  | some r, _, _ => .ok r
  | none, some r, _ => r
  | none, none, some r => .ok r
  | none, none, none => .error .property

/-- The values of properties that a character has or has not. -/
def truthValues : List String := ["y", "yes", "t", "true", "n", "no", "f", "false"]

/-- The set of the characters whose property has a value.  Only categories and scripts can be asked
for in this way. -/
def byValue (property value : String) : Except Unknown Ranges :=
  let property := normal property
  let value := normal value
  if property = "gc" ∨ property = "generalcategory" then (category? value).getD (.error .value)
  else if property = "sc" ∨ property = "script" then
    (script? value).elim (.error .value) .ok
  else if property = "scx" ∨ property = "scriptextensions" then
    (scriptUse? value).elim (.error .value) .ok
  else if (Unicode.Property.ranges? property).isSome && !truthValues.contains value then
    .error .value
  else .error .property

def ranges : Query → Except Unknown Ranges
  | name s => byName s
  | value property v => byValue property v

end Query
end Pattern
end FlowCheck
