-- The calculator as a service: requests and what is answered.
import Stride.Listing
import Stride.Page
import Stride.Text.Form
import Stride.Text.MediaType

namespace Stride.Service

structure Request where
  method : String
  /-- The path, and perhaps a query behind a question mark. -/
  target : String
  contentType : Option String
  body : String

structure Response where
  status : Nat
  body : Option Json := none

/-! ## Answers -/

def version : String := "0.3.1"

def health : Json :=
  .ofFields [("status", .text "ok"), ("service", .text "pacecalc"), ("version", .text version)]

/-- The calculation with what it was read from. There is no result and no
message where there is nothing to say. -/
def calculationJson (units : UnitSystem) (input : String) (c : Calculation) : Json :=
  let field := fun name (value : Option String) =>
    value.toList.map fun text => (name, Json.text text)
  .ofFields
    ([("input", .text input), ("units", .text units.name), ("parts", c.partsJson units)]
      ++ field "result" (c.result.map (Value.render units))
      ++ [("ok", .bool c.isOk), ("error", .bool c.isError)] ++ field "message" c.message?
      ++ [("plain", c.toRecord.toJson)])

def refuse (message : String) : Response := ⟨400, some (.ofFields [("error", .text message)])⟩

/-- The unit system that is asked for, or the service's own. -/
def withUnits (fallback : UnitSystem) (name : Option String) (answer : UnitSystem → Json) :
    Response :=
  match name with
  | none => ⟨200, some (answer fallback)⟩
  | some name =>
    match UnitSystem.ofName? name with
    | some units => ⟨200, some (answer units)⟩
    | none => refuse (UnitSystem.unknownMessage name)

/-! ## The three paths -/

structure Question where
  input : String
  units : Option String

def Question.fields : List (Json.Field Question) :=
  [⟨"input", true, fun j q => (Json.decodeString j).map fun x => { q with input := x }⟩,
    ⟨"units", false, fun j q =>
      (Json.decodeOption Json.decodeString j).map fun x => { q with units := x }⟩]

def Question.decode : Json.Decoder Question :=
  Json.Field.decodeRecord "a question" fields ⟨"", none⟩

/-- Only the document at the start of a body counts. -/
def tokenize (units : UnitSystem) (r : Request) : Response :=
  if (r.contentType.map isJsonType).getD false then
    match Question.decode (Json.read r.body.toList).1 with
    | .ok q =>
      withUnits units q.units fun units =>
        calculationJson units q.input (.ofExpression units q.input)
    | .error .malformed => ⟨400, none⟩
    | .error _ => ⟨422, none⟩
  else ⟨415, none⟩

def listSamples (units : UnitSystem) (query : List Char) : Response :=
  let names := (parseQuery query).filter (·.1 == "units")
  match names with
  | [] => withUnits units none samplesJson
  | [(_, name)] => withUnits units (some name) samplesJson
  | _ => ⟨400, none⟩
where
  samplesJson (units : UnitSystem) : Json :=
    .array ((samples units).map fun (input, c) => calculationJson units input c)

/-- Answers to `HEAD` are those to `GET` without a body. -/
def answer (units : UnitSystem) (r : Request) : Response :=
  let path := r.target.toList.takeWhile (· != '?')
  let query := (r.target.toList.dropWhile (· != '?')).drop 1
  let get := fun (response : Response) =>
    match r.method with
    | "GET" => response
    | "HEAD" => { response with body := none }
    | _ => ⟨405, none⟩
  if r.method = "OPTIONS" then ⟨200, none⟩
  else match String.ofList path with
    | "/health" => get ⟨200, some health⟩
    | "/samples" => get (listSamples units query)
    | "/tokenize" => if r.method = "POST" then tokenize units r else ⟨405, none⟩
    | _ => ⟨404, none⟩

end Stride.Service
