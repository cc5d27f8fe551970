import TestSignal.Target.Authority

namespace TestSignal

namespace Target

/-!
# Targets of requests

A request names its target by a path, before which a scheme and an authority may
stand, and behind which a query and a fragment may follow.  A target is read
three times over: the path that one reading leaves is a target again for the
next, so a second scheme or authority is dropped like the first.  What the last
reading finds goes back in front of the path in its written form and counts as part
of it.
-/

structure Reference where
  /-- The scheme in lower case, empty if there is none. -/
  scheme : List Char
  /-- The authority as it stands, empty if there is none. -/
  authority : List Char
  path : List Char
  deriving DecidableEq

/-! ## Reading a target -/

/-- Characters of a target that do not count: tabs and line ends. -/
def isIgnored (c : Char) : Bool := c == '\t' || c == '\n' || c == '\r'

def isSchemeChar (c : Char) : Bool := c.isAlphanum || c == '+' || c == '-' || c == '.'

/-- Splits off a scheme such as `http:`, which begins with a letter. -/
def splitScheme (target : List Char) : List Char × List Char :=
  match Text.cut ':' target with
  | (first :: rest, after) =>
      if target.contains ':' && first.isAlpha && rest.all isSchemeChar then
        ((first :: rest).map Char.toLower, after)
      else ([], target)
  | ([], _) => ([], target)

def endsPath (c : Char) : Bool := c == '?' || c == '#'

/-- Splits off the authority that two slashes introduce. -/
def splitAuthority : List Char → List Char × List Char
  | '/' :: '/' :: rest =>
      let isInside (c : Char) : Bool := c != '/' && !endsPath c
      (rest.takeWhile isInside, rest.dropWhile isInside)
  | target => ([], target)

namespace Reference

/-- Reads a target without its query and fragment, and without what comes before its text. -/
def read (target : List Char) : Except Flaw Reference := do
  let kept := (target.filter fun c => !isIgnored c).dropWhile fun c => c.toNat ≤ ' '.toNat
  let (scheme, behindScheme) := splitScheme kept
  let (authority, rest) := splitAuthority behindScheme
  checkAuthority authority
  return { scheme, authority, path := rest.takeWhile fun c => !endsPath c }

/-- The written form: scheme, authority and path, as far as they are there. -/
def written (reference : Reference) : Except Flaw (List Char) := do
  let authority ← (Authority.ofChars reference.authority).written
  let place :=
    if authority.isEmpty then reference.path
    else '/' :: '/' :: authority ++ reference.path
  return if reference.scheme.isEmpty then place else reference.scheme ++ ':' :: place

end Reference

/-! ## What a target asks for -/

def hexPair? (a b : Char) : Option Nat := do
  let high ← Text.hexValue? a
  let low ← Text.hexValue? b
  return high * 16 + low

/-- Replaces every percent sign with two hexadecimal digits by the character they code. -/
def decoded : List Char → List Char
  | '%' :: a :: b :: rest =>
      match hexPair? a b with
      | some code => Char.ofNat code :: decoded rest
      | none => '%' :: decoded (a :: b :: rest)
  | c :: rest => c :: decoded rest
  | [] => []

/-- Makes two neighbouring slashes one. -/
def mergeSlashes : List Char → List Char
  | '/' :: '/' :: rest => '/' :: mergeSlashes rest
  | c :: rest => c :: mergeSlashes rest
  | [] => []

end Target

/-- What a target asks for. -/
structure Target where
  /-- The path, with exactly one slash in front. -/
  path : List Char
  /-- Whether the host that is named could be looked up together with its user. -/
  hasGoodHost : Bool
  deriving DecidableEq

namespace Target

/-- Reads the target of a request. -/
def ofText (text : String) : Except Flaw Target := do
  let outer ← Reference.read text.toList
  let inner ← Reference.read outer.path
  let last ← Reference.read inner.path
  let written ← last.written
  let host ← (Authority.ofChars outer.authority).written
  let isGoodName :=
    match checkName (host.takeWhile (· != ':')) with
    | .ok _ => true
    | .error _ => false
  return { path := '/' :: (decoded written).dropWhile (· == '/'), hasGoodHost := isGoodName }

end Target

end TestSignal
