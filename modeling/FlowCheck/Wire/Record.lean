import FlowCheck.Wire.Codec

/-!
# Records

A `Record` lists the members of a structure once, for reading and for writing.  A structure is
read from an object by the names of its members, or from an array by their order.

In an object unknown members are skipped.  When several members are wrong, the one whose key
comes first is reported; a missing member is reported only when every given one is right.  In
an array the first wrong item is reported, and only trailing members with a default may be left
out.
-/

namespace FlowCheck
namespace Wire

/-- What reading some members of an object came to. -/
inductive Reading (α : Type) where
  | value (a : α)
  | wrong (key : String) (problem : Problem)
  | missing (member : String)

namespace Reading

/-- Two readings of one object: the first wrong key counts, then the first missing member. -/
def both {α β γ : Type} (f : α → β → γ) : Reading α → Reading β → Reading γ
  | .value a, .value b => .value (f a b)
  | .wrong k p, .wrong l q => if l < k then .wrong l q else .wrong k p
  | .wrong k p, _ => .wrong k p
  | _, .wrong l q => .wrong l q
  | .missing m, _ => .missing m
  | _, .missing m => .missing m

def toExcept {α : Type} : Reading α → Except Problem α
  | .value a => .ok a
  | .wrong _ p => .error p
  | .missing m => .error (.missing m)

end Reading

/-- Why an array does not stand for a structure. -/
inductive ItemProblem where
  | wrong (problem : Problem)
  /-- The item for a member without a default is not there. -/
  | short (length : Nat)

/-- A member of the structure `ρ`. -/
structure Member (ρ α : Type) where
  name : String
  /-- Another name, behind `name` in the order of keys. -/
  otherName : Option String
  get : ρ → α
  codec : Codec α
  /-- The value that stands for a member left out. -/
  absent : Option α
  /-- Whether a value is left out of the written form. -/
  omits : α → Bool

namespace Member

variable {ρ α : Type}

/-- The keys and values given for the member, in the order of the keys. -/
def given (m : Member ρ α) (members : Members) : List (String × Json) :=
  (m.name :: m.otherName.toList).filterMap fun k => (members.get? k).map fun j => (k, j)

def readFrom (m : Member ρ α) (site : Site) (members : Members) : Reading α :=
  match m.given members with
  | [] => match m.absent with
    | some a => .value a
    | none => .missing m.name
  | (key, j) :: rest => match m.codec.read site j, rest with
    | .error p, _ => .wrong key p
    | .ok a, [] => .value a
    | .ok _, (other, _) :: _ => .wrong other (.duplicate m.name)

/-- The member's value from the item at position `index`. -/
def readItem (m : Member ρ α) (site : Site) (index : Nat) :
    List Json → Except ItemProblem (α × List Json)
  | [] => match m.absent with
    | some a => .ok (a, [])
    | none => .error (.short index)
  | j :: rest => match m.codec.read site j with
    | .ok a => .ok (a, rest)
    | .error p => .error (.wrong p)

def writeFrom (m : Member ρ α) (r : ρ) : List (String × Json) :=
  if m.omits (m.get r) then [] else [(m.name, m.codec.write (m.get r))]

end Member

/-- Some members of the structure `ρ`, which together make an `α`. -/
structure Record (ρ α : Type) where
  size : Nat
  readMembers : Site → Members → Reading α
  readItems : Site → List Json → Except ItemProblem (α × List Json)
  writeMembers : ρ → List (String × Json)

namespace Record

variable {ρ α β : Type}

/-- No members yet. -/
def start (make : α) : Record ρ α where
  size := 0
  readMembers _ _ := .value make
  readItems _ items := .ok (make, items)
  writeMembers _ := []

/-- One more member. -/
def member (r : Record ρ (α → β)) (m : Member ρ α) : Record ρ β where
  size := r.size + 1
  readMembers site members :=
    (r.readMembers site members).both (fun f a => f a) (m.readFrom site members)
  readItems site items := do
    let (f, items) ← r.readItems site items
    let (a, items) ← m.readItem site r.size items
    pure (f a, items)
  writeMembers x := r.writeMembers x ++ m.writeFrom x

/-! ## Kinds of member -/

/-- A member that has to be given. -/
def required (r : Record ρ (α → β)) (name : String) (get : ρ → α) (codec : Codec α) :
    Record ρ β :=
  r.member ⟨name, none, get, codec, none, fun _ => false⟩

/-- A member with a default, always written. -/
def defaulted (r : Record ρ (α → β)) (name : String) (get : ρ → α) (codec : Codec α)
    (default : α) : Record ρ β :=
  r.member ⟨name, none, get, codec, some default, fun _ => false⟩

/-- A list that is empty by default and always written. -/
def list (r : Record ρ (List α → β)) (name : String) (get : ρ → List α) (codec : Codec α) :
    Record ρ β :=
  r.defaulted name get codec.list []

/-- A list that is empty by default and then not written. -/
def briefList (r : Record ρ (List α → β)) (name : String) (get : ρ → List α)
    (codec : Codec α) : Record ρ β :=
  r.member ⟨name, none, get, codec.list, some [], List.isEmpty⟩

/-- A table that is empty by default and then not written. -/
def briefTable (r : Record ρ (List (String × α) → β)) (name : String)
    (get : ρ → List (String × α)) (codec : Codec α) : Record ρ β :=
  r.member ⟨name, none, get, codec.table, some [], List.isEmpty⟩

/-- An optional member, not written when there is none. -/
def optional (r : Record ρ (Option α → β)) (name : String) (get : ρ → Option α)
    (codec : Codec α) : Record ρ β :=
  r.member ⟨name, none, get, codec.optional, some none, Option.isNone⟩

/-- An optional member with another name, under which it is read as well. -/
def optionalAlso (r : Record ρ (Option α → β)) (name other : String) (get : ρ → Option α)
    (codec : Codec α) : Record ρ β :=
  r.member ⟨name, some other, get, codec.optional, some none, Option.isNone⟩

/-- A text that is empty by default and always written. -/
def text (r : Record ρ (String → β)) (name : String) (get : ρ → String) : Record ρ β :=
  r.defaulted name get .text ""

/-- A text that is empty by default and then not written. -/
def briefText (r : Record ρ (String → β)) (name : String) (get : ρ → String) : Record ρ β :=
  r.member ⟨name, none, get, .text, some "", String.isEmpty⟩

/-- A text that may be missing. -/
def optionalText (r : Record ρ (Option String → β)) (name : String) (get : ρ → Option String) :
    Record ρ β :=
  r.optional name get .text

/-- A flag that is off by default and always written. -/
def flag (r : Record ρ (Bool → β)) (name : String) (get : ρ → Bool) : Record ρ β :=
  r.defaulted name get .flag false

/-! ## Whole structures -/

/-- The wording for more items than there are members. -/
def surplus (r : Record ρ α) : Site → String
  | .inPlace => "fewer elements in array"
  | .setAside => toString r.size ++
    (if r.size = 1 then " element in sequence" else " elements in sequence")

def read (r : Record ρ α) (name : String) (site : Site) (j : Json) : Except Problem α :=
  match j with
  | .obj members => (r.readMembers site members).toExcept
  | .arr items => match r.readItems site items with
    | .ok (a, []) => .ok a
    | .ok (_, _ :: _) => .error (.wrongLength items.length (r.surplus site))
    | .error (.wrong p) => .error p
    | .error (.short n) => .error (.wrongLength n
        ("struct " ++ name ++ " with " ++ toString r.size ++
          (if r.size = 1 then " element" else " elements")))
  | j => .error (.wrongType j ("struct " ++ name))

def write (r : Record ρ α) (x : ρ) : Json := .object (r.writeMembers x)

/-- The JSON form of the structure with these members. -/
def codec (r : Record ρ ρ) (name : String) : Codec ρ where
  read := r.read name
  write := r.write

end Record

end Wire
end FlowCheck
