-- Media types, as far as it takes to know JSON from other types.
import Stride.Text.Scan

namespace Stride

/-- A character of a name in a media type. -/
def isTokenChar (c : Char) : Bool :=
  c.isAlphanum || "!#$%&'*+-.^_`|~".toList.contains c

/-- A character that may stand between quotes. -/
def isQuotedChar (c : Char) : Bool := ' ' ≤ c && c.toNat < 0x7F && c != '"'

/-- The parameters behind a semicolon: `name=value` or `name="value"`,
divided by semicolons; blanks may stand before a name and behind a quoted
value. The fuel bounds how many there are. -/
def areParameters : Nat → List Char → Bool
  | 0, _ => false
  | fuel + 1, s =>
    match s.dropWhile (· == ' ') with
    | [] => true
    | s =>
      let name := s.takeWhile isTokenChar
      match name, s.dropWhile isTokenChar with
      | [], _ => false
      | _, '=' :: '"' :: rest =>
        match rest.dropWhile isQuotedChar with
        | '"' :: rest =>
          match rest.dropWhile (· == ' ') with
          | [] => true
          | ';' :: rest => areParameters fuel rest
          | _ => false
        | _ => false
      | _, '=' :: rest =>
        match rest.dropWhile isTokenChar with
        | [] => true
        | ';' :: rest' => !(rest.takeWhile isTokenChar).isEmpty && areParameters fuel rest'
        | _ => false
      | _, _ => false

/-- The name before the last `+`, and the one behind it. -/
def splitSuffix (subtype : List Char) : List Char × Option (List Char) :=
  let suffix := (subtype.reverse.takeWhile (· != '+')).reverse
  let before := subtype.take (subtype.length - suffix.length - 1)
  if suffix.length = subtype.length ∨ before.isEmpty then (subtype, none)
  else (before, some suffix)

/-- `application/json`, or a type of `application` with the suffix `+json`,
in any case. -/
def isJsonType (mediaType : String) : Bool :=
  let s := mediaType.toList.map Char.toLower
  match readWord? "application/".toList s with
  | none => false
  | some s =>
    let subtype := s.takeWhile isTokenChar
    let (name, suffix) := splitSuffix subtype
    let json := ['j', 's', 'o', 'n']
    let parameters := match s.dropWhile isTokenChar with
      | [] => true
      | ';' :: rest => !subtype.isEmpty && areParameters (rest.length + 1) rest
      | _ => false
    (name == json || suffix == some json) && parameters

end Stride
