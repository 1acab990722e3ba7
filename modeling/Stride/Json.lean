-- JSON documents, as data. A text that is no JSON is read as far as it is
-- JSON: where the reading stops, the document holds `unreadable`. So the
-- first problem of a text can be told, whether it lies in the characters or
-- in what they say.
import Stride.Json.Number

namespace Stride

/-- A string or a key without text is one that holds half of a surrogate
pair: it can be passed over and not be kept. -/
inductive Json where
  | null
  | bool (value : Bool)
  | number (value : Json.Number)
  | string (text : Option String)
  | array (items : List Json)
  | object (members : List (Option String × Json))
  | unreadable

namespace Json

/-- A string that can be kept. -/
def text (s : String) : Json := .string (some s)

/-- JSON has no infinities and no NaN; they are written `null`. -/
def ofBinary64 (x : Binary64) : Json :=
  match Number.ofBinary64? x with
  | some n => .number n
  | none => .null

def ofNat (n : Nat) : Json := .number ⟨false, Nat.toDigits 10 n, [], none⟩

/-- An object of the given keys in their order. -/
def ofFields (fields : List (String × Json)) : Json :=
  .object (fields.map fun (key, value) => (some key, value))

mutual

/-- Nothing in the document is cut short. -/
def isReadable : Json → Bool
  | .unreadable => false
  | .array items => areReadable items
  | .object members => haveReadable members
  | _ => true

def areReadable : List Json → Bool
  | [] => true
  | item :: rest => item.isReadable && areReadable rest

def haveReadable : List (Option String × Json) → Bool
  | [] => true
  | (_, value) :: rest => value.isReadable && haveReadable rest

end

end Json

end Stride
