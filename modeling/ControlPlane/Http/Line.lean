/-
Requests and answers as lines.

A request is one line of JSON with its method, its path, the values in its head and
its body; an answer is one with its status, its head and its body. The head and the
body of a request may be left out.
-/
import ControlPlane.Http.Message
import ControlPlane.Json.Decode

set_option autoImplicit false

namespace ControlPlane

namespace Http

/-- One value of a head: an object, or a list of the name and the value. -/
def headerDecoder : Decoder (String × String) :=
  (RecordReader.start (fun (name value : String) => (name, value)))
    |>.required "name" Decoder.text
    |>.required "value" Decoder.text
    |>.decoder "a header"

/-- A request. -/
def Request.decoder : Decoder Request :=
  (RecordReader.start Request.mk)
    |>.required "method" Decoder.text
    |>.required "path" Decoder.text
    |>.defaulted "headers" (Decoder.list headerDecoder) []
    |>.defaulted "body" Decoder.text ""
    |>.decoder "a request"

/-- The line of an answer. -/
def Response.line (r : Response) : String :=
  (Json.object
    [("status", Json.int r.status),
      ("headers", .array (r.headers.map fun h => .array [.string h.1, .string h.2])),
      ("body", .string r.body)]).text

end Http

end ControlPlane
