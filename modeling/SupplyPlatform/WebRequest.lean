import SupplyPlatform.Database
import SupplyPlatform.Lib.Strings

namespace SupplyPlatform

open Strings

/-- A request as the gateway and the token runtime read it. `query` is `URL.Query()`, the pairs in
the order in which the query string has them; `requestID` is what the context holds. -/
structure WebRequest where
  method : String
  path : String
  query : List (String × String)
  xRequestID : String
  xForwardedFor : String
  authorization : String
  remoteAddr : String
  requestID : Option String
  deriving DecidableEq

structure AuditEvent where
  eventName : String
  requestID : String
  tokenID : String
  subjectID : String
  route : String
  resultCode : String
  clientIP : String
  createdAt : Time
  deriving DecidableEq

/-- What `writeError` sends. -/
structure ErrorResponse where
  status : Nat
  requestID : String
  code : String
  message : String
  deriving DecidableEq

namespace WebRequest

/-- `values[name]`, whose existence is that it is not empty. -/
def values (r : WebRequest) (name : String) : List String :=
  (r.query.filter (fun pair => pair.1 = name)).map Prod.snd

/-- `Values.Get`: the first value of `name`. -/
def get (r : WebRequest) (name : String) : String := (r.values name).headD ""

/-- The names of the query, those over which `range` goes. -/
def names (r : WebRequest) : List String := r.query.map Prod.fst

def ensureRequestID (r : WebRequest) (now : Time) : WebRequest × String :=
  match r.requestID with
  | some id => if id ≠ "" then (r, id) else fresh
  | none => fresh
where
  fresh : WebRequest × String :=
    let given := trimSpace r.xRequestID
    let id := if given = "" then "req-" ++ toString now else given
    ({ r with requestID := some id }, id)

end WebRequest

/-- `net.SplitHostPort`, the host only; `none` is an error. -/
def splitHostPort (hostport : String) : Option String :=
  let cs := hostport.toList
  match cs.reverse.dropWhile (· ≠ ':') with
  | [] => none
  | _ :: before =>
    let i := before.length
    match cs with
    | '[' :: tail =>
      let host := tail.takeWhile (· ≠ ']')
      let rest := tail.dropWhile (· ≠ ']')
      -- the first closing bracket stands right before the last colon
      if rest = [] ∨ host.length + 2 ≠ i then none
      else if '[' ∈ tail ∨ ']' ∈ rest.drop 1 then none
      else some (String.ofList host)
    | _ =>
      let host := cs.take i
      if ':' ∈ host ∨ '[' ∈ cs ∨ ']' ∈ cs then none else some (String.ofList host)

/-- `extractClientIP` of the token runtime. -/
def TokenRuntime.extractClientIP (r : WebRequest) : String :=
  if trimSpace r.xForwardedFor ≠ "" then
    trimSpace (firstPart (trimSpace r.xForwardedFor) ',')
  else (splitHostPort r.remoteAddr).getD r.remoteAddr

/-- `extractClientIP` of the gateway, which takes X-Forwarded-For from a trusted proxy only. -/
def Gateway.extractClientIP (trustedProxies : List String) (r : WebRequest) : String :=
  match splitHostPort r.remoteAddr with
  | none => r.remoteAddr
  | some host =>
    if host ∈ trustedProxies ∧ trimSpace r.xForwardedFor ≠ "" then
      trimSpace (firstPart (trimSpace r.xForwardedFor) ',')
    else host

end SupplyPlatform
