import Telemetry.Report.Schema
import Telemetry.Schema.Binary
import Telemetry.Schema.Text

/-!
The two formats of calls and answers. A binary body may be followed by anything;
a text body ends with its value.
-/

namespace Telemetry

inductive CodecError
  | encode (reason : String)
  | decode (reason : String)
  deriving DecidableEq, Repr

def CodecError.message : CodecError → String
  | .encode reason => s!"encode failed: {reason}"
  | .decode reason => s!"decode failed: {reason}"

inductive Codec
  | binary
  | text
  deriving DecidableEq, Repr

namespace Codec

def contentType : Codec → String
  | .binary => "application/x-traceguide-bincode"
  | .text => "application/json"

def write {α : Type} (codec : Codec) (schema : Schema α) (value : α) : List UInt8 :=
  match codec with
  | .binary => schema.writeBinary value
  | .text => (schema.writeJson value).octets

def readBinary {α : Type} (schema : Schema α) (octets : List UInt8) :
    Except CodecError α :=
  match schema.readBinary octets with
  | .ok (value, _) => .ok value
  | .error fault => .error (.decode fault.message)

def readText {α : Type} (schema : Schema α) (octets : List UInt8) :
    Except CodecError α :=
  match Json.readText octets .syntaxError (schema.readJson .text) with
  | .ok value => .ok value
  | .error mismatch => .error (.decode mismatch.message)

def read {α : Type} (codec : Codec) (schema : Schema α) (octets : List UInt8) :
    Except CodecError α :=
  match codec with
  | .binary => readBinary schema octets
  | .text => readText schema octets

/-- Every value has a form in both formats, so writing does not fail here; a
body format of someone else's may refuse a call. -/
def encodeCall (codec : Codec) (call : Call) : Except CodecError (List UInt8) :=
  .ok (codec.write Call.writtenSchema call)

def decodeCall (codec : Codec) (octets : List UInt8) : Except CodecError Call :=
  codec.read Call.schema octets

def encodeResponse (codec : Codec) (response : Response) :
    Except CodecError (List UInt8) :=
  .ok (codec.write Response.schema response)

def decodeResponse (codec : Codec) (octets : List UInt8) : Except CodecError Response :=
  codec.read Response.schema octets

end Codec

/-- As much of a format as delivery needs: its name, its calls written and its
answers read. -/
structure BodyFormat where
  contentType : String
  encodeCall : Call → Except CodecError (List UInt8)
  decodeResponse : List UInt8 → Except CodecError Response

def Codec.bodyFormat (codec : Codec) : BodyFormat :=
  ⟨codec.contentType, codec.encodeCall, codec.decodeResponse⟩

end Telemetry
