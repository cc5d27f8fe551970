import TestSignal.Target.Address

namespace TestSignal

namespace Target

/-!
# Authorities

The authority of a target names a host: perhaps a user with a password before an
at sign, then a name or an address in brackets, then perhaps a port.  Its written
form has the host in lower case and the user in encoded characters, and leaves out
what is empty, and a port of zero.
-/

structure Authority where
  user : List Char
  password : List Char
  host : List Char
  /-- The text of the port, empty if there is none. -/
  port : List Char
  deriving DecidableEq

/-- The host and the port of an authority, which follow its user. -/
def place (authority : List Char) : List Char := Text.afterLast '@' authority

namespace Authority

def ofChars (authority : List Char) : Authority :=
  let place := place authority
  let owner := authority.take (authority.length - place.length - 1)
  let (user, password) := Text.cut ':' owner
  if place.contains '[' then
    let (host, behind) := Text.cut ']' (Text.cut '[' place).2
    { user, password, host, port := (Text.cut ':' behind).2 }
  else
    let (host, port) := Text.cut ':' place
    { user, password, host, port := port }

end Authority

/-! ## Checks that every authority passes -/

/--
The characters above ASCII that become a delimiter of targets when they are
normalised for comparison, alone or among others.
-/
def disguises : List Nat :=
  [0x2047, 0x2048, 0x2049, 0x2100, 0x2101, 0x2105, 0x2106, 0x2A74, 0xFE13, 0xFE16, 0xFE55,
    0xFE56, 0xFE5F, 0xFE6B, 0xFF03, 0xFF0F, 0xFF1A, 0xFF1F, 0xFF20]

/-- Brackets stand around an address that begins the place, and only a port follows. -/
def checkBrackets (authority : List Char) : Except Flaw Unit :=
  if authority.contains '[' != authority.contains ']' then .error .brackets
  else if !authority.contains '[' then .ok ()
  else
    let place := place authority
    match place with
    | '[' :: bracketed =>
        let (host, behind) := Text.cut ']' bracketed
        if behind.isEmpty || behind.head? = some ':' then checkBracketed host
        else .error .brackets
    | _ => if place.contains '[' then .error .brackets else checkBracketed (Text.cut ':' place).1

/-- Checks an authority as it stands in a target. -/
def checkAuthority (authority : List Char) : Except Flaw Unit := do
  checkBrackets authority
  if authority.any fun c => disguises.contains c.toNat then
    throw (.disguisedDelimiter (String.ofList authority))

/-! ## Checks of a host that is looked up -/

/-- The full stops of other scripts separate labels too. -/
def isLabelSeparator (c : Char) : Bool :=
  c == '.' || c.toNat == 0x3002 || c.toNat == 0xFF0E || c.toNat == 0xFF61

def isLabel (label : List Char) : Bool := !label.isEmpty && label.length < 64

/-- Checks the labels of a name; a full stop may end it. -/
def checkName (name : List Char) : Except Flaw Unit :=
  if name.isEmpty then .ok ()
  else if name.all fun c => c.toNat < 128 then
    let labels := Text.pieces (· == '.') name
    if !labels.dropLast.all isLabel then .error .label
    else if 64 ≤ (labels.getLastD []).length then .error .lastLabel
    else .ok ()
  else
    let labels := Text.pieces isLabelSeparator name
    let kept := if labels.getLastD [] = [] then labels.dropLast else labels
    if kept.all isLabel then .ok () else .error .label

/-- The number of a port; zero if there is none. -/
def portNumber (port : List Char) : Except Flaw Nat :=
  if !port.all Char.isDigit then .error (.portText (String.ofList port))
  else
    let number := Reading.digitsValue port
    if number ≤ 65535 then .ok number else .error .portRange

/-- The host in lower case, a zone excepted. -/
def Authority.loweredHost (authority : Authority) : List Char :=
  (authority.host.takeWhile (· != '%')).map Char.toLower ++
    authority.host.dropWhile (· != '%')

/-- Whether a character of a user or a password is written as itself. -/
def isPlain (c : Char) : Bool :=
  c.isAlphanum || "-._~%!$&'()*+,;=".toList.contains c

/-- Writes what is not plain by the bytes of its UTF-8 form. -/
def encoded (text : List Char) : List Char :=
  text.flatMap fun c =>
    if isPlain c then [c]
    else
      (String.singleton c).toUTF8.toList.flatMap fun byte =>
        '%' :: Text.hexDigits 2 byte.toNat

/-- The written form of an authority that can be looked up. -/
def Authority.written (authority : Authority) : Except Flaw (List Char) := do
  let host := authority.loweredHost
  checkName host
  let port ← portNumber authority.port
  let place := if host.contains ':' then '[' :: host ++ [']'] else host
  let place := if port = 0 then place else place ++ ':' :: (toString port).toList
  let user := encoded authority.user
  if user.isEmpty then return place
  else if authority.password.isEmpty then return user ++ '@' :: place
  else return user ++ ':' :: encoded authority.password ++ '@' :: place

end Target

end TestSignal
