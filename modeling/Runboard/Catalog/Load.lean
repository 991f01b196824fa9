import Runboard.Catalog.Endpoint
import Runboard.Log
import Runboard.Url.Parser

namespace Runboard.Catalog

structure Response where
  status : Nat
  body : ByteArray

/-- Asks for what is at an address; without an answer there is a text that says why. -/
abbrev Transport := Url → Except String Response

/-- The transport that reaches nobody. Only addresses of the web are asked for at all. -/
def Transport.offline : Transport := fun url =>
  if url.isWeb then .error ("error sending request for url (" ++ url.text ++ ")")
  else .error ("builder error for url (" ++ url.text ++ ")")

inductive LoadError
  | url (e : Url.Error)
  | network (text : String)
  | status (code : Nat)
  | content (fault : Fault)
deriving DecidableEq, Repr

namespace LoadError

/-- The wording of an error, as far as it has one. -/
def message? : LoadError → Option String
  | .url e => some ("invalid catalog url: " ++ e.message)
  | .network text => some ("network error: " ++ text)
  | .status code => some ("http status " ++ toString code)
  | .content fault => fault.message?.map ("catalog is not a valid endpoint list: " ++ ·)

/-- The wordings of an error and its cause, as far as they have one. -/
def chain (e : LoadError) : List String :=
  e.message?.toList ++
    match e with
    | .content fault => fault.message?.toList
    | _ => []

end LoadError

/-- The endpoints of a text, or the error of loading it. -/
def read (bytes : ByteArray) : Except LoadError (List Endpoint) := (ofBytes bytes).mapError .content

structure Loaded where
  result : Except LoadError (List Endpoint)
  log : List Log.Entry

def ofResponse (response : Response) : Except LoadError (List Endpoint) :=
  if 200 ≤ response.status && response.status < 300 then read response.body
  else .error (.status response.status)

def load (transport : Transport) (address : String) : Loaded :=
  match Url.ofText address with
  | .error e => ⟨.error (.url e), []⟩
  | .ok url =>
    let start : Log.Entry := ⟨.info, .catalog, "Loading endpoints from " ++ url.text⟩
    match transport url with
    | .error text => ⟨.error (.network text), [start]⟩
    | .ok response =>
      match ofResponse response with
      | .error e => ⟨.error e, [start]⟩
      | .ok endpoints =>
        ⟨.ok endpoints,
          [start, ⟨.info, .catalog, "Loaded " ++ toString endpoints.length ++ " endpoints"⟩]⟩

/-- The title and address of each endpoint, in the order of the catalog. -/
def options (endpoints : List Endpoint) : List (String × String) :=
  endpoints.map fun e => (e.title, e.url)

end Runboard.Catalog
