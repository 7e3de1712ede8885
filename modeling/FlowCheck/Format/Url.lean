import FlowCheck.Format.Host

/-!
# URLs

A URL is a scheme, a colon, and what the scheme makes of the rest.  The web's schemes have an
authority whatever number of slashes stands in front of it, and take a backslash for a slash; files
may have a host; other schemes have an authority behind two slashes.  Blanks at both ends and line
ends and tabs anywhere mean nothing.

## Main definitions

* `Url.scheme?` : the scheme of a URL, if the text is one
* `Url.problem?` : why a text is no address on the web
-/

namespace FlowCheck
namespace Url

/-! ## Schemes -/

def isSchemeChar (c : Char) : Bool := c.isAlphanum || c == '+' || c == '-' || c == '.'

/-- The scheme in lower case, and what follows its colon. -/
def splitScheme? (cs : List Char) : Option (String × List Char) :=
  match cs.span isSchemeChar with
  | (c :: scheme, ':' :: rest) =>
    if c.isAlpha then some (String.ofList ((c :: scheme).map Char.toLower), rest) else none
  | _ => none

/-- The schemes of the web, apart from files. -/
def webSchemes : List String := ["http", "https", "ws", "wss", "ftp"]

/-! ## Authorities -/

/-- Where an authority ends: a backslash counts in the schemes that take it for a slash. -/
def isEnd (special : Bool) (c : Char) : Bool :=
  c == '/' || c == '?' || c == '#' || (special && c == '\\')

/-- The user in front of the last `@`, and what follows it. -/
def splitUser (cs : List Char) : Option (List Char) × List Char :=
  match cs.reverse.span (· != '@') with
  | (host, _ :: user) => (some user.reverse, host.reverse)
  | (_, []) => (none, cs)

/-- A user with a name or a password. -/
def namesUser (user : List Char) : Bool := !user.isEmpty && user != [':']

/-- The host, and the port behind the first colon outside brackets. -/
def splitPort (inBrackets : Bool) : List Char → List Char × Option (List Char)
  | [] => ([], none)
  | c :: cs =>
    if c = ':' ∧ !inBrackets then ([], some cs)
    else
      let (host, port) := splitPort (if c = '[' then true else if c = ']' then false
        else inBrackets) cs
      (c :: host, port)

/-- Digits for at most 65535, or nothing; a backslash ends a port in any scheme. -/
def isPort (cs : List Char) : Bool :=
  let digits := cs.takeWhile (· != '\\')
  digits.isEmpty || (Numeral.natural? digits).any (· ≤ 65535)

/-- The authority in front of a path. -/
def isAuthority (special : Bool) (cs : List Char) : Bool :=
  let authority := cs.takeWhile fun c => !isEnd special c
  let rest := cs.dropWhile fun c => !isEnd special c
  let (user, hostAndPort) := splitUser authority
  let (host, port) := splitPort false hostAndPort
  if user = some [] && hostAndPort.isEmpty && !rest.isEmpty then false
  else if host.isEmpty then !special && port.isNone && !user.any namesUser
  else (if special then Host.isValid host else Host.isOpaque host) && port.all isPort

/-! ## Files -/

def isSlash (c : Char) : Bool := c == '/' || c == '\\'

/-- A drive is a letter and a colon or a bar. -/
def isDrive : List Char → Bool
  | [c, d] => c.isAlpha && (d == ':' || d == '|')
  | _ => false

/-- What follows the scheme of a file: a host only behind two slashes. -/
def isFile : List Char → Bool
  | a :: b :: cs =>
    if isSlash a && isSlash b then
      let host := cs.takeWhile fun c => !isEnd true c
      host.isEmpty || isDrive host || Host.isValid host
    else true
  | _ => true

/-! ## URLs -/

/-- The characters that count: not those up to the blank at both ends, and no tabs or line ends. -/
def significant (cs : List Char) : List Char :=
  let isPadding := fun c : Char => c.toNat ≤ 32
  let cs := ((cs.dropWhile isPadding).reverse.dropWhile isPadding).reverse
  cs.filter fun c => c != '\t' && c != '\n' && c != '\r'

/-- What follows the colon fits the scheme. -/
def isRest (scheme : String) (rest : List Char) : Bool :=
  if scheme = "file" then isFile rest
  else if webSchemes.contains scheme then isAuthority true (rest.dropWhile isSlash)
  else match rest with
    | '/' :: '/' :: rest => isAuthority false rest
    | _ => true

/-- The scheme of a URL; none when the text is no URL. -/
def scheme? (text : String) : Option String := do
  let (scheme, rest) ← splitScheme? (significant text.toList)
  if isRest scheme rest then some scheme else none

/-- Why a text is no address on the web. -/
inductive Problem where
  | invalid
  /-- A URL of a scheme that is not read with a browser. -/
  | otherScheme
deriving DecidableEq

def Problem.message : Problem → String
  | invalid => "invalid URL format"
  | otherScheme => "URL must start with http:// or https://"

def problem? (text : String) : Option Problem :=
  match scheme? text with
  | none => some .invalid
  | some scheme => if scheme = "http" ∨ scheme = "https" then none else some .otherScheme

end Url
end FlowCheck
