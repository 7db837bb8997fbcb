import ChainGateway.Json.Value
import ChainGateway.Net.Url

/-!
# Posting documents

A document is posted to a url and answered with a status and a body, or not at all.  What is
answered is up to the network, which has a state of its own; here is only what decides whether
a document is sent, and the text that says why there is no answer.
-/

namespace ChainGateway.Net

open Text

/-- What comes back for a document that was posted. -/
inductive Delivery where
  | answered (status : Nat) (body : Octets)
  | unanswered
  deriving Repr

/-- A network over its states: what comes back for a document posted to a url. -/
structure Network (σ : Type) where
  post : σ → (url : String) → Json.Value → Delivery × σ

/-- The network in which no one answers. -/
def Network.silent : Network Unit where
  post := fun state _ _ => (.unanswered, state)

/-- The schemes of urls to which documents are posted. -/
def postedSchemes : List String := ["http", "https"]

/-- Posts a document.  Returns the status and the body that came back, or the reason why there
are none. -/
def Network.send {σ : Type} (network : Network σ) (state : σ) (url : String)
    (document : Json.Value) : Except String (Nat × Octets) × σ :=
  match Url.ofText? url with
  | none => (.error "builder error", state)
  | some target =>
      if target.host?.isSome && postedSchemes.contains target.scheme then
        match network.post state target.text document with
        | (.answered status body, state) => (.ok (status, body), state)
        | (.unanswered, state) =>
            (.error ("error sending request for url (" ++ target.text ++ ")"), state)
      else
        (.error ("builder error for url (" ++ target.text ++ ")"), state)

/-- Does the status say that all went well? -/
def isSuccess (status : Nat) : Bool :=
  decide (200 ≤ status) && decide (status < 300)

/-- The reasons that go with statuses. -/
def statusReasons : List (Nat × String) := [
  (100, "Continue"), (101, "Switching Protocols"), (102, "Processing"), (103, "Early Hints"),
  (200, "OK"), (201, "Created"), (202, "Accepted"), (203, "Non Authoritative Information"),
  (204, "No Content"), (205, "Reset Content"), (206, "Partial Content"),
  (207, "Multi-Status"), (208, "Already Reported"), (226, "IM Used"),
  (300, "Multiple Choices"), (301, "Moved Permanently"), (302, "Found"), (303, "See Other"),
  (304, "Not Modified"), (305, "Use Proxy"), (307, "Temporary Redirect"),
  (308, "Permanent Redirect"),
  (400, "Bad Request"), (401, "Unauthorized"), (402, "Payment Required"), (403, "Forbidden"),
  (404, "Not Found"), (405, "Method Not Allowed"), (406, "Not Acceptable"),
  (407, "Proxy Authentication Required"), (408, "Request Timeout"), (409, "Conflict"),
  (410, "Gone"), (411, "Length Required"), (412, "Precondition Failed"),
  (413, "Payload Too Large"), (414, "URI Too Long"), (415, "Unsupported Media Type"),
  (416, "Range Not Satisfiable"), (417, "Expectation Failed"), (418, "I'm a teapot"),
  (421, "Misdirected Request"), (422, "Unprocessable Entity"), (423, "Locked"),
  (424, "Failed Dependency"), (425, "Too Early"), (426, "Upgrade Required"),
  (428, "Precondition Required"), (429, "Too Many Requests"),
  (431, "Request Header Fields Too Large"), (451, "Unavailable For Legal Reasons"),
  (500, "Internal Server Error"), (501, "Not Implemented"), (502, "Bad Gateway"),
  (503, "Service Unavailable"), (504, "Gateway Timeout"),
  (505, "HTTP Version Not Supported"), (506, "Variant Also Negotiates"),
  (507, "Insufficient Storage"), (508, "Loop Detected"), (510, "Not Extended"),
  (511, "Network Authentication Required")]

/-- A status as text, with its reason. -/
def statusText (status : Nat) : String :=
  Decimal.text status ++ " " ++ (statusReasons.lookup status).getD "<unknown status code>"

/-- The reason for an answer whose body is not the expected document. -/
def undecodable : String := "error decoding response body"

/-- The url of an endpoint below a base url; slashes at the end of the base do not count. -/
def endpoint (base path : String) : String :=
  String.ofList (base.toList.reverse.dropWhile (· = '/')).reverse ++ path

end ChainGateway.Net
