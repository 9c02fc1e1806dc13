import ApiCompiler.Charset
import ApiCompiler.Deflate
import ApiCompiler.MediaType
import ApiCompiler.Text.Encoding
import ApiCompiler.Value

/-!
# Responses

A response to a request has a status, headers and a body of bytes. Headers tell how the body is
compressed and in which character set it is text.
-/

namespace ApiCompiler

/-- A response to a request. -/
structure Response where
  /-- The status code. -/
  status : Int
  /-- The headers, with their names. -/
  headers : List (String × Value)
  /-- The body. -/
  body : List UInt8

namespace Response

/-- What is wrong with a header: it is no text, or its text is not ASCII. -/
inductive HeaderFault where
  | notText (value : Value)
  | encoding (fault : Text.EncodingFault)

/-- What is wrong with one header. -/
def headerFaultOf? (name : String) (value : Value) : Option HeaderFault :=
  match Text.encodingFault? .ascii name, value with
  | some fault, _ => some (.encoding fault)
  | none, .text text => (Text.encodingFault? .ascii text).map .encoding
  | none, value => some (.notText value)

/-- What is wrong with the headers. -/
def headerFault? (response : Response) : Option HeaderFault :=
  response.headers.findSome? fun (name, value) ↦ headerFaultOf? name value

/-- The values of a header, whose name may be written in any case. -/
def headerValues (response : Response) (name : String) : List String :=
  response.headers.filterMap fun (other, value) ↦
    if other.toList.map Char.toLower == name.toList then value.text? else none

/-- The value of a header; several values are joined by commas. -/
def header? (response : Response) (name : String) : Option String :=
  match response.headerValues name with
  | [] => none
  | values => some (", ".intercalate values)

/-- The ways in which the body is compressed, the last one applied last. -/
def codings (response : Response) : List String :=
  (response.headerValues "content-encoding").flatMap fun value ↦
    (Text.splitOn ',' value.toList).map fun coding ↦
      String.ofList ((Text.strip coding).map Char.toLower)

/-- The bytes that compressed bytes stand for. A way of compression that is not known is passed
over. -/
def decompress (coding : String) (bytes : List UInt8) : Except Deflate.Fault (List UInt8) :=
  if coding == "gzip" then Deflate.inflateFile bytes
  else if coding == "deflate" then Deflate.inflateAny bytes
  else .ok bytes

/-- The body without compression. -/
def content (response : Response) : Except Deflate.Fault (List UInt8) :=
  response.codings.reverse.foldlM (fun bytes coding ↦ decompress coding bytes) response.body

/-- The name of the character set of the body. -/
def charsetName? (response : Response) : Option (List Char) :=
  (response.header? "content-type").bind fun type ↦ MediaType.charset? type.toList

/-- The character set of the body. -/
def charset (response : Response) : Charset :=
  match response.charsetName? with
  | none => .utf8
  | some name =>
    if name.any fun c ↦ c.toNat == 0 then .none .nullInName
    else (Charset.ofName? name).getD .utf8

/-- The text of bytes in the character set of the body. -/
def textOf (response : Response) (content : List UInt8) : Except CharsetFault String :=
  if content.isEmpty then .ok "" else (response.charset.decode content).map String.ofList

end Response

end ApiCompiler
