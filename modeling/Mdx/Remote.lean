import Mdx.Log
import Mdx.Wire.Basic

/-!
# Remote documents

The state of a document that is fetched over the network. Every fetch has a ticket, and only the
newest ticket may change the state; a failed fetch leaves the last good content in place.
-/

namespace Mdx

namespace Remote

/-- Why a fetch brought no document. -/
inductive FetchError where
  | status (code : Nat)
  | transport (reason : String)
  | invalidFormat
  deriving DecidableEq, Repr

def FetchError.message : FetchError → String
  | .status code => "Failed to fetch MDX: " ++ toString code
  | .transport reason => "Failed to fetch MDX: " ++ reason
  | .invalidFormat => "Invalid MDX response format"

/-- A response of the server. -/
structure Response where
  status : Nat
  body : String
  deriving DecidableEq, Repr

/-- The status says that the request succeeded. -/
def Response.isOk (r : Response) : Bool :=
  200 ≤ r.status && r.status < 300

/-- What a fetch ends with. -/
abbrev Outcome := Except FetchError Response

/-- The value has a field `tree` with something in it. -/
def hasTree (value : Json) : Bool :=
  match value.field? "tree" with
  | none | some .null | some (.bool false) => false
  | some _ => true

/-- The document in a response. -/
def Response.document (r : Response) : Except FetchError Wire.Document :=
  if r.isOk then
    match Json.read? r.body with
    | none => .error .invalidFormat
    | some value =>
      if hasTree value then
        match Wire.Document.ofJson? value with
        | some document => .ok document
        | none => .error .invalidFormat
      else .error .invalidFormat
  else .error (.status r.status)

/-- The document in the outcome of a fetch. -/
def document (outcome : Outcome) : Except FetchError Wire.Document :=
  match outcome with
  | .ok response => response.document
  | .error error => .error error

end Remote

/-- The state of a remote document. -/
structure Remote where
  url : String
  /-- The last document that was fetched. -/
  content : Option Wire.Document := none
  /-- Why the last fetch failed. -/
  error : Option Remote.FetchError := none
  loading : Bool := false
  /-- The newest ticket, or a later number where there is none that counts. -/
  latest : UInt64 := 0

namespace Remote

/-- Names one fetch. -/
structure Ticket where
  number : UInt64
  deriving DecidableEq, Repr

/-- Starts a fetch; earlier tickets do not count any more. -/
def start (r : Remote) : Ticket × Remote :=
  let number := r.latest + 1
  (⟨number⟩, { r with latest := number, loading := true, error := none })

/-- What the delivery of an outcome leads to. -/
structure Delivery where
  accepted : Bool
  state : Remote
  log : List Log

/-- Delivers the outcome of a fetch. Under a ticket that does not count it changes nothing. -/
def complete (r : Remote) (ticket : Ticket) (outcome : Outcome) : Delivery :=
  if ticket.number = r.latest then
    match document outcome with
    | .ok content =>
      { accepted := true
        state := { r with loading := false, content := some content, error := none }
        log := [] }
    | .error error =>
      { accepted := true
        state := { r with loading := false, error := some error }
        log := [.warn ("Fetching " ++ r.url ++ " failed: " ++ error.message)] }
  else
    { accepted := false
      state := r
      log := [.debug ("Discarding stale response for " ++ r.url)] }

/-- Fetches at once. -/
def refetch (r : Remote) (fetch : String → Outcome) : Delivery :=
  let (ticket, r) := r.start
  r.complete ticket (fetch r.url)

/-- Drops content and error; no ticket counts any more. -/
def clear (r : Remote) : Remote :=
  { r with content := none, error := none, loading := false, latest := r.latest + 1 }

end Remote

end Mdx
