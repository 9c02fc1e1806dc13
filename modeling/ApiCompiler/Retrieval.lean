import ApiCompiler.Document.Parse
import ApiCompiler.Document.Sample
import ApiCompiler.Failure
import ApiCompiler.Files.Disk
import ApiCompiler.Text.Split
import ApiCompiler.Transport
import ApiCompiler.Url
import ApiCompiler.Url.Percent

/-!
# Retrieval of documents

A document is retrieved from an absolute address: from a host over the network, or from a file. Any
other address is refused before anything is read or requested. The document is parsed and brought
into the layout of version 3. The whole retrieval from a host has a time limit; a limit that is not
positive has passed at once.
-/

namespace ApiCompiler

/-- Where a document comes from. -/
inductive Source where
  | host (url : String)
  | file (url path : String)
  deriving DecidableEq

namespace Source

/-- The address of a source. -/
def url : Source → String
  | host url => url
  | file url _ => url

/-- The source with an address. -/
def ofUrl (url : String) : Except Failure Source :=
  if (Text.strip url.toList).isEmpty then .error (.invalidSource url none)
  else
    match Url.split url with
    | .error fault => .error (.invalidSource url (some fault))
    | .ok parts =>
      if (parts.scheme == "http" || parts.scheme == "https") && parts.authority != "" then
        .ok (.host url)
      else if parts.scheme == "file" && parts.path != "" then
        .ok (.file url (Url.unescape parts.path))
      else .error (.invalidSource url none)

/-- The source that a value states; only a text states one. -/
def ofValue : Value → Except Failure Source
  | .text url => ofUrl url
  | other => .error (.invalidSource other.display none)

end Source

/-! ## Retrieval -/

open Files (Disk Path Volume)

/-- What a retrieval did. -/
structure Retrieval (α : Type) where
  /-- The addresses that were requested, in order. -/
  requests : List String
  /-- The result, with the log. -/
  report : Report α

namespace Retrieval

/-- Whether a time limit has passed before anything is done. -/
def isOver (limit : Binary64) : Bool :=
  limit.isZero || limit.isNegative

/-- A fault of a request as a failure. -/
def requestFailure (url : String) (limit : Binary64) : RequestFault → Failure
  | .unsupported fault => .unsupportedUrl fault
  | .header (.notText value) => .headerNotText value
  | .header (.encoding fault) => .encoding fault
  | .charset fault => .charset fault
  | .timedOut => .retrieval url (.timedOut limit.general)
  | .failed reason => .retrieval url (.transport reason)
  | .status code => .retrieval url (.status code)

/-- The text that a host has at an address. Without a time limit nothing is asked. -/
def ofHost (transport : Transport) (url : String) : (limit : Option Binary64) → Retrieval String
  | none => ⟨[], .fail (.noSetting .timeout)⟩
  | some limit =>
    let (requests, outcome) :=
      if isOver limit then ([], .error .timedOut) else transport.get url
    ⟨requests, do
      Report.note (.fetching url limit.fixedOne)
      Report.ofExcept (outcome.mapError (requestFailure url limit))⟩

/-- A failure to read a file as a failure to retrieve a document. -/
def fileFailure (url : String) : Failure → Failure
  | .file fault => .retrieval url (.file fault)
  | other => other

/-- The text of a file at an address. -/
def ofFile (volume : Volume) (url path : String) : Retrieval String :=
  ⟨[], Report.ofExcept ((Disk.read (.ofText path)).eval volume |>.mapError (fileFailure url))⟩

/-- The text at a source. -/
def text (volume : Volume) (transport : Transport) (limit : Option Binary64) :
    Source → Retrieval String
  | .host url => ofHost transport url limit
  | .file url path => ofFile volume url path

/-- The document that a text stands for, in the layout of version 3. -/
def normalised (text source : String) : Report Value.Entries := do
  (← Document.parse text source).normalise

/-- The document at a source. -/
def document (volume : Volume) (transport : Transport) (limit : Option Binary64)
    (source : Source) : Retrieval Value.Entries :=
  let text := text volume transport limit source
  ⟨text.requests, do normalised (← text.report) source.url⟩

end Retrieval

/-- The document in the file at a path, or the sample where no file is named. -/
def Document.load (volume : Volume) : Option Path → Report Value.Entries
  | none => normalise (Sample.document.map?.getD [])
  | some path => do
    let text ← Report.ofExcept ((Disk.read path).eval volume)
    Retrieval.normalised text path.text

end ApiCompiler
