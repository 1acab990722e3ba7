-- Taking data from a JSON document, item by item in the order of the text,
-- so that the first problem is the one that is told.
import Stride.Json.Write
import Stride.Json.Read
import Stride.Text.Printable

namespace Stride.Json

/-! ## Problems -/

inductive Problem where
  /-- The text is no JSON, or holds a number or a string that cannot be kept. -/
  | malformed
  | missingField (name : String)
  | duplicateField (name : String)
  | wrongType (found wanted : String)
  | wrongValue (found wanted : String)
  | wrongLength (count : Nat) (wanted : String)
  /-- The data does not say anything that is known. -/
  | unknown (message : String)
deriving DecidableEq, Repr

namespace Problem

/-- What is said of data of the wrong shape; a malformed text is not told
apart further. -/
def message? : Problem → Option String
  | malformed => none
  | missingField name => some ("missing field `" ++ name ++ "`")
  | duplicateField name => some ("duplicate field `" ++ name ++ "`")
  | wrongType found wanted => some ("invalid type: " ++ found ++ ", expected " ++ wanted)
  | wrongValue found wanted => some ("invalid value: " ++ found ++ ", expected " ++ wanted)
  | wrongLength count wanted =>
    some ("invalid length " ++ count.repr ++ ", expected " ++ wanted)
  | unknown message => some message

end Problem

abbrev Decoder (α : Type) := Json → Except Problem α

def isOutOfRange (n : Number) : Bool := !n.toBinary64.isFinite

def describeNumber (n : Number) : String :=
  match n.toInteger?, Number.ofBinary64? n.toBinary64 with
  | some i, _ => "integer `" ++ i.repr ++ "`"
  | none, some shown => "floating point `" ++ String.ofList shown.text ++ "`"
  | none, none => "number"

/-- The problem of a value where another type is wanted. -/
def mismatch (wanted : String) : Json → Problem
  | .null => .wrongType "null" wanted
  | .bool b => .wrongType ("boolean `" ++ (if b then "true" else "false") ++ "`") wanted
  | .number n =>
    if isOutOfRange n then .malformed else .wrongType (describeNumber n) wanted
  | .string (some s) => .wrongType ("string " ++ quotePrintable s) wanted
  | .string none => .malformed
  | .array _ => .wrongType "sequence" wanted
  | .object _ => .wrongType "map" wanted
  | .unreadable => .malformed

/-! ## Plain data -/

def decodeBinary64 : Decoder Binary64
  | .number n => if isOutOfRange n then .error .malformed else .ok n.toBinary64
  | j => .error (mismatch "f64" j)

def decodeString : Decoder String
  | .string (some s) => .ok s
  | j => .error (mismatch "a string" j)

/-- A whole number below 256. -/
def decodeByte : Decoder Nat
  | .number n =>
    match n.toInteger? with
    | some i =>
      if 0 ≤ i ∧ i < 256 then .ok i.toNat
      else .error (.wrongValue (describeNumber n) "u8")
    | none => .error (mismatch "u8" (.number n))
  | j => .error (mismatch "u8" j)

/-- Null stands for nothing. -/
def decodeOption {α : Type} (decode : Decoder α) : Decoder (Option α)
  | .null => .ok none
  | j => (decode j).map some

def decodeList {α : Type} (decode : Decoder α) : Decoder (List α)
  | .array items => items.mapM decode
  | j => .error (mismatch "a sequence" j)

/-! ## Records -/

/-- A field and what its value changes in the record that is read. -/
structure Field (σ : Type) where
  name : String
  required : Bool
  decode : Json → σ → Except Problem σ

namespace Field

variable {σ : Type}

/-- Members in the order of the text. A key that no field has is passed
over. Gives the record and the names that were there. -/
def decodeMembers (fields : List (Field σ)) :
    List (Option String × Json) → σ → List String → Except Problem (σ × List String)
  | [], record, seen => .ok (record, seen)
  | (none, _) :: _, _, _ => .error .malformed
  | (some key, value) :: rest, record, seen =>
    match fields.find? (·.name == key) with
    | none => if value.isReadable then decodeMembers fields rest record seen else .error .malformed
    | some field =>
      if seen.contains key then .error (.duplicateField key)
      else match field.decode value record with
        | .ok record => decodeMembers fields rest record (key :: seen)
        | .error problem => .error problem

/-- Items in the order of the fields; fields that are not required may be
left out at the end. -/
def decodeItems (wanted : String) :
    List (Field σ) → Nat → List Json → σ → Except Problem σ
  | [], _, [], record => .ok record
  | [], _, _ :: _, _ => .error .malformed
  | field :: fields, count, [], record =>
    if field.required then .error (.wrongLength count wanted)
    else decodeItems wanted fields (count + 1) [] record
  | field :: fields, count, item :: items, record =>
    match field.decode item record with
    | .ok record => decodeItems wanted fields (count + 1) items record
    | .error problem => .error problem

/-- A record is an object with its fields as keys, or an array of its
fields in their order. -/
def decodeRecord (name : String) (fields : List (Field σ)) (empty : σ) : Decoder σ
  | .object members =>
    match decodeMembers fields members empty [] with
    | .error problem => .error problem
    | .ok (record, seen) =>
      match fields.find? fun field => field.required && !seen.contains field.name with
      | some field => .error (.missingField field.name)
      | none => .ok record
  | .array items =>
    let elements := if fields.length = 1 then " element" else " elements"
    decodeItems (name ++ " with " ++ fields.length.repr ++ elements) fields 0 items empty
  | j => .error (mismatch name j)

end Field

/-! ## Whole texts -/

/-- The text must hold one document and nothing else. -/
def decodeText {α : Type} (decode : Decoder α) (text : String) : Except Problem α :=
  let (document, ends) := read text.toList
  match decode document with
  | .error problem => .error problem
  | .ok a => if ends then .ok a else .error .malformed

end Stride.Json
