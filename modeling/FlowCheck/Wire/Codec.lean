import FlowCheck.Wire.Problem

/-!
# Types and their JSON form

A `Codec` reads a value of some type from JSON and writes it back.  Numbers are read in the
range of their type, lists and tables item by item, and an optional value may be `null`.

A value is read either from its own place in a document or from the members that a record has
set aside for a block it shares (`Site`).  The two differ only in the wording for surplus items
and in what may stand beside a variant's name.
-/

namespace FlowCheck
namespace Wire

/-- Where a value is read from. -/
inductive Site where
  | inPlace
  | setAside
deriving DecidableEq

/-- A type's JSON form. -/
structure Codec (α : Type) where
  read : Site → Json → Except Problem α
  write : α → Json

namespace Codec

/-! ## Leaves -/

def text : Codec String where
  read _ j := match j with
    | .str s => .ok s
    | j => .error (.wrongType j "a string")
  write s := .str s

def flag : Codec Bool where
  read _ j := match j with
    | .bool b => .ok b
    | j => .error (.wrongType j "a boolean")
  write b := .bool b

/-- A natural number below `bound`; a double is never one. -/
def readNatural (name : String) (bound : Nat) (j : Json) : Except Problem Nat :=
  match j with
  | .num (.int n) => if 0 ≤ n ∧ n < bound then .ok n.toNat else .error (.outOfRange n name)
  | j => .error (.wrongType j name)

def word16 : Codec UInt16 where
  read _ j := (readNatural "u16" UInt16.size j).map UInt16.ofNat
  write n := .int n.toNat

def word32 : Codec UInt32 where
  read _ j := (readNatural "u32" UInt32.size j).map UInt32.ofNat
  write n := .int n.toNat

/-- A count, as wide as the machine's words. -/
def count : Codec UInt64 where
  read _ j := (readNatural "usize" UInt64.size j).map UInt64.ofNat
  write n := .int n.toNat

/-- A double; an integer stands for the nearest one. -/
def real : Codec Binary64 where
  read _ j := match j with
    | .num n => .ok n.toBinary64
    | j => .error (.wrongType j "f64")
  write x := .num (.real x)

/-- Any value at all. -/
def any : Codec Json where
  read _ j := .ok j
  write j := j

/-! ## Containers -/

/-- `null` stands for no value. -/
def optional {α : Type} (c : Codec α) : Codec (Option α) where
  read site j := match j with
    | .null => .ok none
    | j => (c.read site j).map some
  write
    | none => .null
    | some a => c.write a

def list {α : Type} (c : Codec α) : Codec (List α) where
  read site j := match j with
    | .arr items => items.mapM (c.read site)
    | j => .error (.wrongType j "a sequence")
  write xs := .arr (xs.map c.write)

/-- A table by key, kept in the order of the keys. -/
def table {α : Type} (c : Codec α) : Codec (List (String × α)) where
  read site j := match j with
    | .obj members => members.mapM fun m => (c.read site m.2).map fun a => (m.1, a)
    | j => .error (.wrongType j "a map")
  write entries := .obj (entries.map fun e => (e.1, c.write e.2))

/-! ## Variants -/

/-- What may stand beside the name of a variant that carries nothing. -/
def isUnit (site : Site) : Json → Bool
  | .null => true
  | .obj [] => site == .setAside
  | _ => false

def readVariant {α : Type} (names : List (String × α)) (name : String) : Except Problem α :=
  match names.lookup name with
  | some a => .ok a
  | none => .error (.unknownVariant name (names.map (·.1)))

/-- One of a list of named values, written as its name.  An object whose only member has the name
of the value and carries nothing stands for it as well. -/
def variant {α : Type} (names : List (String × α)) (nameOf : α → String) : Codec α where
  read site j := match j with
    | .str name => readVariant names name
    | .obj [(name, carried)] => do
      let a ← readVariant names name
      if isUnit site carried then pure a else throw (.wrongType carried "unit")
    | .obj _ => .error .notSingleMember
    | j => .error (.wrongType j "string or map")
  write a := .str (nameOf a)

end Codec

end Wire
end FlowCheck
