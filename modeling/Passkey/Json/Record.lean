import Passkey.Json.Value

/-!
# Typed JSON values

Readers that give a value its type: records, lists, choices between names, and bounded integers. A
record is an object, whose unknown members are passed over, or an array of the members in their
declared order, which may end early.
-/

namespace Passkey.Json

/-- The known members of a record that are there. -/
structure Record where
  members : List (String × Json)
  deriving Repr

/-- The members of an object with their names as text. -/
def namedMembers? (members : List (Bytes × Json)) : Option (List (String × Json)) :=
  members.mapM fun (raw, j) => (textOfRaw? raw).map (·, j)

/-- The members with these names. In an object none may be repeated; an array may not have more
items than there are names. -/
def record? (names : List String) : Json → Option Record
  | .object members => do
    let known := (← namedMembers? members).filter (names.contains ·.1)
    if (known.map (·.1)).Nodup then some ⟨known⟩ else none
  | .array items => if items.length ≤ names.length then some ⟨names.zip items⟩ else none
  | _ => none

namespace Record

/-- The member with this name. -/
def get? (r : Record) (name : String) : Option Json :=
  (r.members.find? (·.1 = name)).map (·.2)

/-- A member that must be there. -/
def required? {α : Type} (r : Record) (name : String) (read : Json → Option α) : Option α :=
  r.get? name >>= read

/-- A member that takes a default if it is not there. -/
def withDefault? {α : Type} (r : Record) (name : String) (default : α) (read : Json → Option α) :
    Option α :=
  match r.get? name with
  | none => some default
  | some j => read j

/-- A value, or nothing where it is null. -/
def nullable? {α : Type} (read : Json → Option α) : Json → Option (Option α)
  | .null => some none
  | j => (read j).map some

/-- A member that may be absent or null. -/
def optional? {α : Type} (r : Record) (name : String) (read : Json → Option α) :
    Option (Option α) :=
  r.withDefault? name none (nullable? read)

end Record

/-- The items of an array, each of the same type. -/
def list? {α : Type} (read : Json → Option α) : Json → Option (List α)
  | .array items => items.mapM read
  | _ => none

/-- An integer in a range. -/
def intIn? (least greatest : Int) (j : Json) : Option Int := do
  let n ← j.int?
  if least ≤ n ∧ n ≤ greatest then some n else none

/-- A natural number of 64 bits. -/
def word64? (j : Json) : Option Nat := (j.intIn? 0 0xffffffffffffffff).map Int.toNat

/-- A choice between names: the name as a string, or as the one member of an object that holds
null. -/
def choice? {α : Type} (name : α → String) (choices : List α) (j : Json) : Option α := do
  let text ← match j with
    | .string raw => textOfRaw? raw
    | .object [(raw, .null)] => textOfRaw? raw
    | _ => none
  choices.find? (name · = text)

/-- An object with those of the members that are there. -/
def ofMembers (members : List (String × Option Json)) : Json :=
  .object (members.filterMap fun (name, value) => value.map (escape name, ·))

/-- An array. -/
def ofList {α : Type} (write : α → Json) (items : List α) : Json := .array (items.map write)

end Passkey.Json
