import Passkey.Json.Record

/-!
# Building reports

Accounts of values in JSON, for logs and for whoever looks into a failed ceremony. Byte strings are
shown in hexadecimal.
-/

namespace Passkey.Report

/-- An object with these members. -/
def obj (members : List (String × Json)) : Json :=
  .ofMembers (members.map fun (name, j) => (name, some j))

/-- A text. -/
def str (s : String) : Json := .ofText s

/-- A natural number. -/
def num (n : Nat) : Json := .ofInt n

/-- A byte string. -/
def hex (bs : Bytes) : Json := str bs.toHex

/-- A value that may be missing. -/
def opt {α : Type} (write : α → Json) : Option α → Json
  | some a => write a
  | none => .null

/-- A list. -/
def arr {α : Type} (write : α → Json) (items : List α) : Json := .ofList write items

/-- An error with further members. -/
def failure (name : String) (members : List (String × Json)) : Json :=
  obj (("error", str name) :: members)

/-- An error with its wording. -/
def failureText (name message : String) : Json := failure name [("message", str message)]

/-- The result of a call inside a report: the value, or the error. -/
def result {ε α : Type} (error : ε → Json) (write : α → Json) : Except ε α → Json
  | .ok a => write a
  | .error e => error e

end Passkey.Report
