import FeatureFlags.Url.PercentEncoding

/-!
# URLs

A URL in its normal form: every part is held as it is written. The path is a list of segments, or a
plain text to which nothing can be added.
-/
namespace FeatureFlags

namespace Url

/-- Who is asked, where, and at which port; the port is left out where the scheme implies it. -/
structure Authority where
  username : List Char
  password : List Char
  host : List Char
  port : Option Nat

inductive Path where
  | plain (text : List Char)
  | segments (list : List (List Char))

end Url

structure Url where
  scheme : List Char
  authority : Option Url.Authority
  /-- Whether a dot stands in front of the path, which could be taken for an authority otherwise. -/
  hasDot : Bool
  path : Url.Path
  query : Option (List Char)
  fragment : Option (List Char)

namespace Url

/-- The port that a scheme implies. -/
def defaultPort? (scheme : List Char) : Option Nat :=
  match String.ofList scheme with
  | "http" | "ws" => some 80
  | "https" | "wss" => some 443
  | "ftp" => some 21
  | _ => none

def isFileScheme (scheme : List Char) : Bool := String.ofList scheme == "file"

/-- Schemes with rules of their own: an authority, a path that is never empty, and backslashes that
count as slashes. -/
def isSpecialScheme (scheme : List Char) : Bool :=
  (defaultPort? scheme).isSome || isFileScheme scheme

def isSpecial (u : Url) : Bool := isSpecialScheme u.scheme

/-- Whether segments can be added to the path. -/
def isBase (u : Url) : Bool :=
  match u.path with
  | .plain _ => false
  | .segments _ => true

def Authority.chars (a : Authority) : List Char :=
  let password := if a.password.isEmpty then [] else ':' :: a.password
  let user := a.username ++ password
  let credentials := if user.isEmpty then [] else user ++ ['@']
  let port := match a.port with
    | some n => ':' :: Nat.toDigits 10 n
    | none => []
  credentials ++ a.host ++ port

def Path.chars : Path → List Char
  | plain text => text
  | segments list => list.flatMap ('/' :: ·)

/-- A path that starts with two slashes would be taken for an authority where there is none. -/
def needsDot : Option Authority → Path → Bool
  | none, .segments ([] :: _ :: _) => true
  | _, _ => false

def chars (u : Url) : List Char :=
  u.scheme ++ [':'] ++
  (match u.authority with
    | some a => '/' :: '/' :: a.chars
    | none => if u.hasDot then ['/', '.'] else []) ++
  u.path.chars ++
  (match u.query with
    | some q => '?' :: q
    | none => []) ++
  (match u.fragment with
    | some f => '#' :: f
    | none => [])

def text (u : Url) : String := String.ofList u.chars

end Url

end FeatureFlags
