import BattleMaps.Text.Utf8

/-!
# Requests over the network

Services are reached by requests that are answered with bytes, with a refusal, or not at all. The
connection itself is a parameter, like every service.

## Main definitions

* `HttpRequest`, `HttpFault`: requests and failures
* `Connection`: whatever answers requests
* `Multipart`: a form as the body of a request
-/

namespace BattleMaps

structure HttpRequest where
  url : String
  method : String := "GET"
  headers : List (String × String) := []
  body : Option Bytes := none
  -- How many seconds to wait.
  timeout : Float

def HttpRequest.header? (r : HttpRequest) (name : String) : Option String := r.headers.lookup name

inductive HttpFault where
  -- It was refused, with a status and a text.
  | refused (status : Int) (body : Bytes)
  | unreachable (reason : String)
deriving DecidableEq

abbrev Connection (σ : Type) := HttpRequest → σ → Except HttpFault Bytes × σ

/-! ## Forms -/

/-- A form with named fields; the boundary separates them and must not occur in any. -/
structure Multipart where
  boundary : String
  -- The fields by their names, in order.
  fields : List (String × String)
deriving DecidableEq, Repr

namespace Multipart

def fieldLines (boundary : String) (field : String × String) : List String :=
  [s!"--{boundary}", s!"Content-Disposition: form-data; name=\"{field.1}\"", "", field.2]

def body (m : Multipart) : Bytes :=
  Text.Utf8.encode <| "\r\n".intercalate <|
    m.fields.flatMap (fieldLines m.boundary) ++ [s!"--{m.boundary}--", ""]

def mediaType (m : Multipart) : String := s!"multipart/form-data; boundary={m.boundary}"

end Multipart

end BattleMaps
