/-
# Exchanges as bytes

A request as the bytes of HTTP/1.0, which closes the connection behind the answer, and the answer
in the bytes that came until then.
-/

import Ensemble.Endpoint.Http
import Ensemble.Text.Split

namespace Ensemble

/-- Where a request goes. -/
structure HttpAddress where
  host : String
  port : UInt16
  path : String
deriving DecidableEq, Repr

namespace HttpAddress

/-- The port when none is named. -/
def standardPort : UInt16 := 80

/-- The port that characters write. -/
def port? (characters : List Char) : Option UInt16 :=
  match (String.ofList characters).toNat? with
  | some number => if number < UInt16.size then some (UInt16.ofNat number) else none
  | none => none

/-- Read the characters behind the scheme. -/
def ofChars? (characters : List Char) : Option HttpAddress :=
  let host := characters.takeWhile fun c => c != ':' && c != '/'
  match characters.drop host.length with
  | ':' :: rest =>
    (port? (rest.takeWhile (· != '/'))).map fun port =>
      ⟨String.ofList host, port, String.ofList (rest.dropWhile (· != '/'))⟩
  | path => some ⟨String.ofList host, standardPort, String.ofList path⟩

/-- The place that a URL names, if it is one of plain HTTP. -/
def ofUrl? (url : String) : Option HttpAddress :=
  match url.toList with
  | 'h' :: 't' :: 't' :: 'p' :: ':' :: '/' :: '/' :: rest => ofChars? rest
  | _ => none

end HttpAddress

/-- The bytes of a request. -/
def HttpRequest.wire (request : HttpRequest) (address : HttpAddress) : ByteArray :=
  let content := (request.body.getD "").toUTF8
  let lines := [request.method.name ++ " " ++ address.path ++ " HTTP/1.0",
    "Host: " ++ address.host ++ ":" ++ toString address.port.toNat] ++
    (match request.body with
      | some _ => ["Content-Type: application/json", "Content-Length: " ++ toString content.size]
      | none => []) ++ ["", ""]
  ("\r\n".intercalate lines).toUTF8 ++ content

namespace HttpOutcome

/-- The bytes behind the first blank line. -/
def bodyBytes : List UInt8 → List UInt8
  | 13 :: 10 :: 13 :: 10 :: rest => rest
  | _ :: rest => bodyBytes rest
  | [] => []

/-- The status in the first line of an answer. -/
def status? (bytes : List UInt8) : Option Nat :=
  let line := (bytes.takeWhile (· != 13)).map fun byte => Char.ofNat byte.toNat
  match Text.split ' ' (String.ofList line) with
  | version :: status :: _ =>
    if version.toList.take 5 = "HTTP/".toList then status.toNat? else none
  | _ => none

/-- The outcome that bytes tell. -/
def ofWire (bytes : ByteArray) : HttpOutcome :=
  match status? bytes.toList with
  | some status => .answer status ⟨(bodyBytes bytes.toList).toArray⟩
  | none => .unreachable

end HttpOutcome

end Ensemble
