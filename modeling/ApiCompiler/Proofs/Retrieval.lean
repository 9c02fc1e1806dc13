import ApiCompiler.Failure.Kind
import ApiCompiler.Proofs.Files.Disk
import ApiCompiler.Proofs.Report
import ApiCompiler.Retrieval

/-!
# Failures of retrievals

A retrieval that fails names its source, for any fault of the network or of the file system and for
a text that nothing can be read from. Other failures come through as they are: of an address that no
request can be made to, at the start or behind redirections, of headers and character sets, of the
name and the content of a file, and of values that a text states and that do not exist. They are the
only ones.
-/

namespace ApiCompiler

/-! ## Requests -/

/-- Whether a fault of a request is reported as a failure to retrieve a document. -/
def RequestFault.isReported : RequestFault → Bool
  | .timedOut | .failed _ | .status _ => true
  | .unsupported _ | .header _ | .charset _ => false

namespace Transport

open Url (Target)

variable {transport : Transport} {target next last : Target} {fault : RequestFault}

/-- The answer at a place names another one. -/
def Redirects (transport : Transport) (target next : Target) : Prop :=
  ∃ response content location, transport target.text = .answer response ∧
    contentOf response = .ok content ∧ redirection? response = some location ∧
      redirected target location = .ok next

/-- Some answers in a row lead from one place to another. -/
inductive Reaches (transport : Transport) : Nat → Target → Target → Prop
  | refl (target : Target) : Reaches transport 0 target target
  | step {n : Nat} {target next last : Target} (h : transport.Redirects target next)
      (hrest : Reaches transport n next last) : Reaches transport (n + 1) target last

/-- What is wrong with the answer at a place without being reported. -/
inductive EscapesAt (transport : Transport) (target : Target) : RequestFault → Prop
  | header {response : Response} {fault : Response.HeaderFault}
      (answer_eq : transport target.text = .answer response)
      (fault_eq : response.headerFault? = some fault) : EscapesAt transport target (.header fault)
  | charset {response : Response} {content : List UInt8} {fault : CharsetFault}
      (answer_eq : transport target.text = .answer response)
      (content_eq : contentOf response = .ok content)
      (no_redirection : redirection? response = none)
      (success : 200 ≤ response.status ∧ response.status < 300)
      (fault_eq : response.textOf content = .error fault) :
      EscapesAt transport target (.charset fault)
  | location {response : Response} {content : List UInt8} {location : String}
      {fault : Url.Unsupported} (answer_eq : transport target.text = .answer response)
      (content_eq : contentOf response = .ok content)
      (redirection_eq : redirection? response = some location)
      (fault_eq : redirected target location = .error (.unsupported fault)) :
      EscapesAt transport target (.unsupported fault)

/-- Why a request to an address fails without a report: no request can be made to the address, or
redirections lead to an answer with which something is wrong. -/
inductive Escapes (transport : Transport) (url : String) : RequestFault → Prop
  | address {fault : Url.Unsupported} (h : Target.ofRequest url = .error fault) :
      Escapes transport url (.unsupported fault)
  | host {target : Target} {fault : Url.Unsupported} (htarget : Target.ofRequest url = .ok target)
      (h : target.decodedHost = .error fault) : Escapes transport url (.unsupported fault)
  | answer {target last : Target} {host : String} {n : Nat} {fault : RequestFault}
      (htarget : Target.ofRequest url = .ok target) (hhost : target.decodedHost = .ok host)
      (hn : n ≤ maxRedirects) (hreaches : transport.Reaches n target last)
      (h : transport.EscapesAt last fault) : Escapes transport url fault

end Transport

/-! ## Texts -/

namespace Document

variable {text source : String} {failure : Failure}

/-- Why a text cannot be parsed without being reported: it is nested too deep, or it states a value
that does not exist. -/
inductive EscapesParse (text : String) : Failure → Prop
  | brackets {collection : Json.Collection} (h : Json.read text = .error (.tooDeep collection)) :
      EscapesParse text (.endless (some collection))
  | scalar {fault : Yaml.ValueFault} (hjson : Json.read text = .error .malformed)
      (h : Yaml.read text = .error (.scalar fault)) : EscapesParse text (.scalar fault)

end Document

/-! ## Retrievals -/

namespace Retrieval

open Files (Disk Path Volume)

variable {volume : Volume} {transport : Transport} {limit : Binary64} {source : Source}
  {failure : Failure}

/-- The parsed document at a source, in the layout that it states. -/
def parsed (volume : Volume) (transport : Transport) (limit : Option Binary64)
    (source : Source) : Report Document.Parsed := do
  Document.parse (← (text volume transport limit source).report) source.url

/-- Why a document cannot be retrieved without its source being named: for its request, its file or
its text. -/
inductive Escapes (volume : Volume) (transport : Transport) (limit : Binary64) :
    Source → Failure → Prop
  | request {url : String} {fault : RequestFault} (hlimit : isOver limit = false)
      (h : transport.Escapes url fault) (hfault : fault.isReported = false) :
      Escapes volume transport limit (.host url) (requestFailure url limit fault)
  | file {url path : String} {failure : Failure}
      (h : Disk.EscapesRead volume (.ofText path) failure) :
      Escapes volume transport limit (.file url path) failure
  | text {source : Source} {text : String} {failure : Failure}
      (htext : (Retrieval.text volume transport (some limit) source).report.outcome = .ok text)
      (h : Document.EscapesParse text failure) : Escapes volume transport limit source failure

end Retrieval

end ApiCompiler
