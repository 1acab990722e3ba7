-- Numeric addresses that a service can listen on.
import Stride.Text.Scan
import Stride.Text.Split

namespace Stride

/-- A number below 256 without zeros in front. -/
def isOctet (s : List Char) : Bool :=
  !s.isEmpty && s.length ≤ 3 && s.all Char.isDigit && (s.length = 1 || s.head? != some '0')
    && Nat.ofDigitChars 10 s 0 < 256

def isFourOctets (s : List Char) : Bool :=
  let octets := splitAtChar '.' s
  octets.length = 4 && octets.all isOctet

/-- A group of one to four hexadecimal digits. -/
def isHexGroup (s : List Char) : Bool :=
  !s.isEmpty && s.length ≤ 4 && s.all fun c => (hexValue? c).isSome

/-- How many groups a list of parts has; the last part may be written as
four octets, which count as two. -/
def groupCount? (parts : List (List Char)) : Option Nat :=
  match parts.reverse with
  | [] => some 0
  | last :: before =>
    if !before.all isHexGroup then none
    else if isHexGroup last then some parts.length
    else if isFourOctets last then some (parts.length + 1)
    else none

/-- The groups of a side of a double colon; nothing has no groups. -/
def sideCount? (s : List Char) : Option Nat :=
  if s.isEmpty then some 0 else groupCount? (splitAtChar ':' s)

/-- What stands before and behind the first double colon. -/
def splitDoubleColon? : List Char → Option (List Char × List Char)
  | [] => none
  | ':' :: ':' :: rest => some ([], rest)
  | c :: rest => (splitDoubleColon? rest).map fun (before, behind) => (c :: before, behind)

/-- Eight groups, or fewer with a double colon for those left out. -/
def isEightGroups (s : List Char) : Bool :=
  match splitDoubleColon? s with
  | none => groupCount? (splitAtChar ':' s) == some 8
  | some (before, behind) =>
    match sideCount? before, sideCount? behind with
    | some m, some n => before.all (· != '.') && m + n < 8
    | _, _ => false

/-- A host that a service can listen on: four octets, or eight groups in
brackets, perhaps with a zone number. -/
def isHostAddress (host : String) : Bool :=
  match host.toList with
  | '[' :: rest =>
    match rest.reverse with
    | ']' :: inside =>
      let inside := inside.reverse
      let zone := inside.dropWhile (· != '%')
      let digits := zone.drop 1
      isEightGroups (inside.takeWhile (· != '%'))
        && (zone.isEmpty || !digits.isEmpty && digits.all Char.isDigit
          && Nat.ofDigitChars 10 digits 0 < 1 <<< 32)
    | _ => false
  | host => isFourOctets host

end Stride
