-- The calculations that were saved, newest first, and the unit system that
-- was chosen, as they stand in a file.
import Stride.Record

namespace Stride

structure History where
  units : UnitSystem
  records : List CalculationRecord
deriving DecidableEq

/-- Why a history stays as it is. -/
inductive Refusal where
  | notSuccessful
  | noSuchCalculation (number : Nat)
  | notWritten (path : String)
deriving DecidableEq, Repr

def Refusal.message : Refusal → String
  | .notSuccessful => "Only successful calculations can be saved"
  | .noSuchCalculation number => "No saved calculation #" ++ number.repr
  | .notWritten path => "Failed to write " ++ path

namespace History

def empty : History := ⟨.metric, []⟩

def calculations (h : History) : List Calculation := h.records.map CalculationRecord.toCalculation

/-- Puts a successful calculation in front. -/
def push (h : History) (c : Calculation) : Except Refusal History :=
  if c.isOk then .ok { h with records := c.toRecord :: h.records } else .error .notSuccessful

/-- Takes out a calculation by its number, from one on. -/
def remove (h : History) (number : Nat) : Except Refusal (Calculation × History) :=
  match number with
  | 0 => .error (.noSuchCalculation 0)
  | index + 1 =>
    match h.records[index]? with
    | some record => .ok (record.toCalculation, { h with records := h.records.eraseIdx index })
    | none => .error (.noSuchCalculation number)

/-! ## The file -/

def fileName : String := ".pacecalc.json"

def toJson (h : History) : Json :=
  .ofFields [("format", .text h.units.name), ("results", .array (h.records.map (·.toJson)))]

/-- A unit system is written as its name, or as an object of that name. -/
def decodeUnits : Json.Decoder UnitSystem := fun j =>
  let named := fun name =>
    match [UnitSystem.metric, .imperial].find? (·.name == name) with
    | some units => .ok units
    | none => .error (.unknown (UnitSystem.unknownMessage name))
  match j with
  | .string (some name) => named name
  | .object [(some name, .null)] => named name
  | j => .error (Json.mismatch "a unit system" j)

def fields : List (Json.Field History) :=
  [⟨"format", false, fun j h => (decodeUnits j).map fun x => { h with units := x }⟩,
    ⟨"results", false, fun j h =>
      (Json.decodeList CalculationRecord.decode j).map fun x => { h with records := x }⟩]

def decode : Json.Decoder History := Json.Field.decodeRecord "saved calculations" fields empty

def toContent (h : History) : ByteArray := h.toJson.pretty.toUTF8

/-- What a file holds; content that cannot be read counts as none. -/
def ofContent (content : ByteArray) : History :=
  match String.fromUTF8? content with
  | none => empty
  | some text =>
    match Json.decodeText decode text with
    | .ok h => h
    | .error _ => empty

end History

end Stride
