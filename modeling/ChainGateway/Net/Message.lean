import ChainGateway.Net.Network

/-!
# Messages that carry documents

A document is posted as one message of HTTP 1.0, after which the connection is closed; so the
answer is all that comes back, and its body ends where the answer ends.  An answer begins with
a line that tells the status, and an empty line stands before its body.
-/

namespace ChainGateway.Net

open Text

/-- The end of a line. -/
def lineEnd : List Char := ['\r', '\n']

/-- What the first line of a message names: the path and the query of the url. -/
def Url.target (url : Url) : String :=
  (if url.path = "" then "/" else url.path) ++ url.query

/-- The port that a url is reached at. -/
def Url.port (url : Url) : Nat :=
  (url.port?.or (Url.defaultPort? url.scheme)).getD 80

/-- The host of a url with its port, if it has an unusual one. -/
def Url.authority (url : Url) : String :=
  url.host?.getD "" ++
    (match url.port? with
      | some port => ":" ++ Decimal.text port
      | none => "")

/-- The message that posts a document to a url. -/
def postMessage (url : Url) (document : Json.Value) : Octets :=
  let body := Utf8.encodeChars document.chars
  let lines := [
    "POST " ++ url.target ++ " HTTP/1.0",
    "Host: " ++ url.authority,
    "Accept: */*",
    "Content-Type: application/json",
    "Content-Length: " ++ Decimal.text body.length,
    "Connection: close"]
  Utf8.encodeChars ((lines.flatMap fun line => line.toList ++ lineEnd) ++ lineEnd) ++ body

/-- What follows the empty line that ends the head of a message. -/
def bodyOf : Octets → Option Octets
  | 13 :: 10 :: 13 :: 10 :: body => some body
  | _ :: rest => bodyOf rest
  | [] => none

/-- The status in the first line of an answer: three digits after the first blank. -/
def statusOf (answer : Octets) : Option Nat :=
  match answer.dropWhile (· ≠ ' '.toUInt8) with
  | _ :: first :: second :: third :: _ =>
      match readDigits 10 0 0 ([first, second, third].map fun octet => Char.ofNat octet.toNat) with
      | (3, status, _) => some status
      | _ => none
  | _ => none

/-- What came back, if it is an answer at all. -/
def Delivery.ofMessage (answer : Octets) : Delivery :=
  match statusOf answer, bodyOf answer with
  | some status, some body => .answered status body
  | _, _ => .unanswered

end ChainGateway.Net
