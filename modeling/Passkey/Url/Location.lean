import Passkey.Url.Host

/-!
# Locations

Reads the scheme and the host off an absolute location the way a browser does, which forgives much:
blanks around, line breaks within, slashes of either kind, and any number of them.
-/

namespace Passkey.Url

/-- The kinds of schemes: files, those whose locations name machines of the network, and others. -/
inductive SchemeKind where
  | file
  | network
  | other
  deriving DecidableEq, Repr

/-- The kind of a scheme. -/
def SchemeKind.ofScheme (scheme : String) : SchemeKind :=
  if scheme = "file" then .file
  else if ["http", "https", "ws", "wss", "ftp"].contains scheme then .network
  else .other

/-- What is asked about a location. -/
structure Location where
  scheme : String
  host : Option Host
  deriving DecidableEq, Repr

namespace Location

/-- Drops controls and blanks around a text, and tabs and line breaks within. -/
def clean (text : List Char) : List Char :=
  let isOuter (c : Char) : Bool := c ≤ ' '
  let inner := ((text.dropWhile isOuter).reverse.dropWhile isOuter).reverse
  inner.filter fun c => c != '\t' && c != '\n' && c != '\r'

/-- Cuts the scheme off a text: a letter, then letters, digits and three signs, up to a colon. -/
def scheme? (text : List Char) : Option (String × List Char) :=
  let isIn (c : Char) : Bool := c.isAlphanum || "+-.".toList.contains c
  match text.takeWhile isIn, text.dropWhile isIn with
  | c :: name, ':' :: rest =>
    if c.isAlpha then some (String.ofList ((c :: name).map Char.toLower), rest) else none
  | _, _ => none

/-- Whether a character divides the parts of a path. -/
def isSlash (k : SchemeKind) (c : Char) : Bool := c == '/' || (k != .other && c == '\\')

/-- Whether a character ends what comes before the path. -/
def endsAuthority (k : SchemeKind) (c : Char) : Bool := isSlash k c || c == '?' || c == '#'

/-- The text of a host, which ends at a colon outside brackets. -/
def hostText (inBrackets : Bool) : List Char → List Char
  | [] => []
  | c :: rest =>
    if c == ':' && !inBrackets then []
    else c :: hostText (if c == '[' then true else if c == ']' then false else inBrackets) rest

/-- Whether a text is a port: a number below 2^16, which may be missing. The end of the text before
the path is the end of the port, and so is a backslash. -/
def isPort (text : List Char) : Bool :=
  let number := text.takeWhile (· != '\\')
  match Ipv4.numeral? 10 number with
  | some n => n < 0x10000
  | none => false

/-- The host of a location that starts with a user, a host and a port. -/
def authorityHost? (k : SchemeKind) (text : List Char) : Except UrlError (Option Host) := do
  let authority := text.takeWhile (!endsAuthority k ·)
  let machine := (authority.reverse.takeWhile (· != '@')).reverse
  let hasUser := machine.length < authority.length
  let user := authority.take (authority.length - machine.length - 1)
  let goesOn := authority.length < text.length
  if hasUser ∧ user.isEmpty ∧ machine.isEmpty ∧ goesOn then .error .emptyHost
  let name := hostText false machine
  let port := machine.drop name.length
  let host ← if k = .other then Host.ofOpaque? name
    else if name.isEmpty then .error .emptyHost
    else Host.ofNetwork? name
  let isEmpty := host = .domain []
  if isEmpty ∧ !port.isEmpty then .error .emptyHost
  if !isPort (port.drop 1) then .error .invalidPort
  if isEmpty ∧ !user.isEmpty ∧ user ≠ [':'] then .error .emptyHost
  return if isEmpty then none else some host

/-- Whether a text names a drive: a letter, and a colon or a bar. -/
def isDrive (text : List Char) : Bool :=
  match text with
  | [letter, mark] => letter.isAlpha && (mark == ':' || mark == '|')
  | _ => false

/-- Whether a part of a path stays where it is. -/
def isStay (part : List Char) : Bool :=
  [".", "%2e"].contains (String.ofList (part.map Char.toLower))

/-- Whether a part of a path goes up. -/
def isUp (part : List Char) : Bool :=
  ["..", ".%2e", "%2e.", "%2e%2e"].contains (String.ofList (part.map Char.toLower))

/-- Whether a path names a drive at its top. `depth` is how far down it has gone. -/
def namesDrive (depth : Nat) : List (List Char) → Bool
  | [] => false
  | part :: rest =>
    if isStay part then namesDrive depth rest
    else if isUp part then namesDrive (depth - 1) rest
    else (depth == 0 && isDrive part) || namesDrive (depth + 1) rest

/-- The host of a file: none on this machine, which holds the drives. -/
def fileHost? (text : List Char) : Except UrlError (Option Host) := do
  match text with
  | first :: second :: text =>
    if !isSlash .file first || !isSlash .file second then return none
    let name := text.takeWhile (!endsAuthority .file ·)
    if name.isEmpty ∨ isDrive name then return none
    let host ← Host.ofNetwork? name
    let path := (text.drop name.length).takeWhile fun c => c != '?' && c != '#'
    let parts := (path.drop 1).splitBy fun a b => !isSlash .file a && !isSlash .file b
    let drive := namesDrive 0 (parts.filter fun part => !part.all (isSlash .file ·))
    return if host = .domain "localhost".toList ∨ drive then none else some host
  | _ => return none

/-- Reads a location. -/
def ofText? (text : String) : Except UrlError Location := do
  match scheme? (clean text.toList) with
  | none => .error .relativeWithoutBase
  | some (scheme, rest) =>
    let host ← match SchemeKind.ofScheme scheme, rest with
      | .network, _ => authorityHost? .network (rest.dropWhile (isSlash .network))
      | .file, _ => fileHost? rest
      | .other, '/' :: '/' :: rest => authorityHost? .other rest
      | .other, _ => .ok none
    return ⟨scheme, host⟩

end Location

end Passkey.Url
