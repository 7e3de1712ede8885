import FlowCheck.Number.Shortest

/-!
# JSON values

`Json` is the free-form value of documents, settings and request data.  Integers and doubles
are told apart, as their texts `1` and `1.0` are.  An object is a list of members in the order
of their keys; `Json.object` brings any list of members into that order, a later member taking
the place of an earlier one of the same key.

Two values are the same (`Json.same`) when they have the same shape and the same leaves; doubles
are compared as numbers, so the two zeros are the same.  What counts as the same number is a
parameter of the recursion (`Json.sameBy`).
-/

namespace FlowCheck

/-- An integer or a finite double. -/
inductive Number where
  | int (n : Int)
  | real (x : Binary64)
deriving DecidableEq

namespace Number

/-- The nearest double. -/
def toBinary64 : Number → Binary64
  | .int n => .ofInt n
  | .real x => x

/-- An integer is never the same as a double. -/
def same : Number → Number → Bool
  | .int m, .int n => m == n
  | .real x, .real y => x.eq y
  | _, _ => false

/-- The exact order of a number and an integer. -/
def compareInt (x : Number) (i : Int) : Ordering :=
  match x with
  | .int n => compare n i
  | .real x => compare x.units (i * Binary64.unitsPerOne)

def text : Number → String
  | .int n => toString n
  | .real x => DecimalForm.json.render x

end Number

/-- A JSON value. -/
inductive Json where
  | null
  | bool (b : Bool)
  | num (n : Number)
  | str (s : String)
  | arr (items : List Json)
  | obj (members : List (String × Json))
deriving Inhabited

/-- The members of an object, in the order of their keys. -/
abbrev Members := List (String × Json)

namespace Members

/-- Puts a member in its place, replacing one of the same key. -/
def insert (key : String) (value : Json) : Members → Members
  | [] => [(key, value)]
  | (k, v) :: rest =>
    if key = k then (key, value) :: rest
    else if key < k then (key, value) :: (k, v) :: rest
    else (k, v) :: insert key value rest

/-- The members in order; of two with one key the later is kept. -/
def ofList (members : List (String × Json)) : Members :=
  members.foldl (fun acc m => insert m.1 m.2 acc) []

/-- The value of a key. -/
def get? (members : Members) (key : String) : Option Json := members.lookup key

def has (members : Members) (key : String) : Bool := (get? members key).isSome

end Members

namespace Json

/-- An object of the given members. -/
def object (members : List (String × Json)) : Json := .obj (Members.ofList members)

def int (n : Int) : Json := .num (.int n)

/-- The member `key` of an object. -/
def get? (key : String) : Json → Option Json
  | .obj members => Members.get? members key
  | _ => none

/-- A value that counts as not given: `null`, or an empty text, list or object. -/
def isAbsent : Json → Bool
  | .null => true
  | .str s => s.isEmpty
  | .arr items => items.isEmpty
  | .obj members => members.isEmpty
  | _ => false

/-- The kinds of JSON value, integers apart from other numbers. -/
inductive Kind where
  | null | boolean | integer | number | string | array | object
deriving DecidableEq

def Kind.name : Kind → String
  | .null => "null"
  | .boolean => "boolean"
  | .integer => "integer"
  | .number => "number"
  | .string => "string"
  | .array => "array"
  | .object => "object"

def kind : Json → Kind
  | .null => .null
  | .bool _ => .boolean
  | .num (.int _) => .integer
  | .num (.real _) => .number
  | .str _ => .string
  | .arr _ => .array
  | .obj _ => .object

/-! ## Sameness -/

mutual

/-- Same shape and same leaves, two numbers being the same when they pass the test. -/
def sameBy (test : Number → Number → Bool) : Json → Json → Bool
  | .null, .null => true
  | .bool a, .bool b => a == b
  | .num m, .num n => test m n
  | .str s, .str t => s == t
  | .arr xs, .arr ys => sameItemsBy test xs ys
  | .obj ms, .obj ns => sameMembersBy test ms ns
  | _, _ => false

def sameItemsBy (test : Number → Number → Bool) : List Json → List Json → Bool
  | [], [] => true
  | x :: xs, y :: ys => sameBy test x y && sameItemsBy test xs ys
  | _, _ => false

def sameMembersBy (test : Number → Number → Bool) : Members → Members → Bool
  | [], [] => true
  | (k, x) :: ms, (l, y) :: ns => k == l && sameBy test x y && sameMembersBy test ms ns
  | _, _ => false

end

/-- Same shape and same leaves, doubles compared as numbers. -/
def same (a b : Json) : Bool := a.sameBy Number.same b

end Json

end FlowCheck
