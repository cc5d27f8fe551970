import TestSignal.Number.Reading
import TestSignal.Target.Flaw
import TestSignal.Text.Hex
import TestSignal.Text.Split

namespace TestSignal

namespace Target

/-!
# Addresses in brackets

Instead of a name a host can be given by an address in brackets: eight groups of
hexadecimal digits between colons, of which one run of zeros may be left out, or
the address of a future version behind a `v`.  The last two groups can be written
as four numbers, and a zone can follow behind a percent sign.
-/

/-! ## Four numbers -/

/-- A number up to 255, without leading zeros. -/
def isOctet (text : List Char) : Bool :=
  match text with
  | [] => false
  | ['0'] => true
  | first :: _ =>
      first != '0' && text.length ≤ 3 && text.all Char.isDigit &&
        Reading.digitsValue text ≤ 255

def isFourNumbers (text : List Char) : Bool :=
  let numbers := Text.pieces (· == '.') text
  numbers.length = 4 && numbers.all isOctet

/-! ## Groups -/

def isGroup (text : List Char) : Bool :=
  !text.isEmpty && text.length ≤ 4 && text.all Text.isHexDigit

/-- The text before the first two colons and the text after them, if there are any. -/
def aroundGap : List Char → Option (List Char × List Char)
  | ':' :: ':' :: rest => some ([], rest)
  | c :: rest => (aroundGap rest).map fun (before, after) => (c :: before, after)
  | [] => none

/-- The groups between single colons; the empty text has none. -/
def groups (text : List Char) : List (List Char) :=
  if text.isEmpty then [] else Text.pieces (· == ':') text

/-- Writes four numbers at the end of an address as two groups of zeros. -/
def withoutNumbers (text : List Char) : Option (List Char) :=
  let last := Text.afterLast ':' text
  if last.contains '.' then
    if isFourNumbers last then some (text.take (text.length - last.length) ++ "0:0".toList)
    else none
  else some text

/-- Eight groups, or at most seven around a gap. -/
def areGroups (text : List Char) : Bool :=
  match aroundGap text with
  | some (before, after) =>
      let all := groups before ++ groups after
      all.length ≤ 7 && all.all isGroup
  | none =>
      let all := groups text
      all.length = 8 && all.all isGroup

/-- A zone behind a percent sign is not empty and holds no other. -/
def hasGoodZone (text : List Char) : Bool :=
  !text.contains '%' || (!(Text.cut '%' text).2.isEmpty && !(Text.cut '%' text).2.contains '%')

def isGroupAddress (text : List Char) : Bool :=
  hasGoodZone text &&
    match withoutNumbers (Text.cut '%' text).1 with
    | some text => areGroups text
    | none => false

/-! ## What may stand in brackets -/

/-- An address of a future version: digits of the version, a point, and some text. -/
def isFutureAddress : List Char → Bool
  | 'v' :: rest =>
      !(rest.takeWhile Text.isHexDigit).isEmpty &&
        match rest.dropWhile Text.isHexDigit with
        | '.' :: _ :: _ => true
        | _ => false
  | _ => false

/-- Checks what stands in brackets. -/
def checkBracketed (host : List Char) : Except Flaw Unit :=
  if host.head? = some 'v' then
    if isFutureAddress host then .ok () else .error .futureAddress
  else if isFourNumbers host then .error .bracketedNumbers
  else if isGroupAddress host then .ok ()
  else .error (.noAddress (String.ofList host))

end Target

end TestSignal
