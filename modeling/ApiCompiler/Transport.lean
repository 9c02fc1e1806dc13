import ApiCompiler.Transport.Response
import ApiCompiler.Url.Target

/-!
# Requests over the network

What a host answers to a request is given by a transport. An answer that names another place is
followed, a limited number of times. Only an answer of success has a text.
-/

namespace ApiCompiler

/-- What comes back for a request: an answer, nothing in time, or a fault of some kind. -/
inductive Reply where
  | answer (response : Response)
  | timedOut
  | failed (kind message : String)

/-- The replies to requests by address. -/
abbrev Transport := String → Reply

/-- Why a request has no text. -/
inductive RequestFault where
  | unsupported (fault : Url.Unsupported)
  | header (fault : Response.HeaderFault)
  | charset (fault : CharsetFault)
  | timedOut
  | failed (reason : String)
  | status (code : Int)

namespace Transport

open Url (Target)

/-- The most answers in a row that may name another place. -/
def maxRedirects : Nat := 20

/-- The answers that name another place. -/
def redirects : List Int := [301, 302, 303, 307, 308]

/-- An address as a fault of its own. -/
def orUnsupported {α : Type} : Except Url.Unsupported α → Except RequestFault α
  | .ok a => .ok a
  | .error fault => .error (.unsupported fault)

/-- The place that a response names, in the place of the one that was asked. -/
def redirected (asked : Target) (location : String) : Except RequestFault Target :=
  match Target.ofText location with
  | .error fault =>
    .error (.failed ("Invalid URL in location header: " ++ fault.message ++ "."))
  | .ok named =>
    orUnsupported do
      let hasScheme := named.scheme != ""
      if hasScheme then discard named.decodedHost
      let named ← if hasScheme && named.host == "" then named.withHostOf asked else pure named
      let target ← if named.isAbsolute then pure named else asked.join named
      let target ← target.withFragmentOf asked
      discard target.decodedHost
      return target

/-- The content of a response whose headers are well formed. -/
def contentOf (response : Response) : Except RequestFault (List UInt8) :=
  match response.headerFault? with
  | some fault => .error (.header fault)
  | none => response.content.mapError fun fault ↦ .failed fault.message

/-- The text of a response of success. -/
def textOf (response : Response) (content : List UInt8) : Except RequestFault String :=
  if 200 ≤ response.status && response.status < 300 then
    (response.textOf content).mapError .charset
  else .error (.status response.status)

/-- The place that a response names in the place of the one that was asked, if it names one. -/
def redirection? (response : Response) : Option String :=
  if redirects.contains response.status then response.header? "location" else none

/-- The places that are asked, and the text in the end. -/
def follow (transport : Transport) : (answers : Nat) → Target →
    List String × Except RequestFault String
  | 0, _ => ([], .error (.failed "Exceeded maximum allowed redirects."))
  | answers + 1, target =>
    let (further, outcome) :=
      match transport target.text with
      | .timedOut => ([], .error .timedOut)
      | .failed kind message => ([], .error (.failed (if message == "" then kind else message)))
      | .answer response =>
        match contentOf response, redirection? response with
        | .error fault, _ => ([], .error fault)
        | .ok content, none => ([], textOf response content)
        | .ok _, some location =>
          match redirected target location with
          | .ok next => follow transport answers next
          | .error fault => ([], .error fault)
    (target.text :: further, outcome)

/-- The places that are asked for an address, and the text in the end. -/
def get (transport : Transport) (url : String) : List String × Except RequestFault String :=
  let target := do
    let target ← Target.ofRequest url
    discard target.decodedHost
    return target
  match target with
  | .ok target => transport.follow (maxRedirects + 1) target
  | .error fault => ([], .error (.unsupported fault))

end Transport

end ApiCompiler
