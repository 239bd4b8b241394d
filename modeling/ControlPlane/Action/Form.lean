/-
Actions as JSON.

Parameters that are not there are left out; the other fields are always written.
The parameters stand beside the fields of the action, and are read when these
have been.
-/
import ControlPlane.Action.Basic
import ControlPlane.Json.Decode

set_option autoImplicit false

namespace ControlPlane

namespace Action

/-- The kinds by name. -/
def Kind.options : List (String × Kind) := Kind.all.map fun k => (k.name, k)

/-- The statuses by name. -/
def Status.options : List (String × Status) := Status.all.map fun s => (s.name, s)

/-- A kind by its name. -/
def Kind.decoder : Decoder Kind := Decoder.choice Kind.options

/-- A status by its name. -/
def Status.decoder : Decoder Status := Decoder.choice Status.options

/-- The members that parameters are written as. -/
def Parameters.members (p : Parameters) : List (String × Json) :=
  Json.optional "url" .string p.url ++ Json.optional "selector" .string p.selector ++
    Json.optional "value" .string p.value ++ Json.optional "distance" Json.int p.distance ++
    Json.optional "timeout" Json.int p.timeout

/-- Parameters as a value. -/
def Parameters.toJson (p : Parameters) : Json := .object p.members

/-- The reader of parameters. -/
def Parameters.reader : RecordReader Parameters :=
  (RecordReader.start Parameters.mk)
    |>.optional "url" Decoder.text
    |>.optional "selector" Decoder.text
    |>.optional "value" Decoder.text
    |>.optional "distance" Decoder.signed64
    |>.optional "timeout" Decoder.signed64

/-- Parameters from a value. -/
def Parameters.decoder : Decoder Parameters :=
  Parameters.reader.decoder "struct ActionParams"

end Action

namespace Action

/-- A point in time as a value. -/
def timeJson (i : Instant) : Json := .string i.text

/-- An action as a value. -/
def toJson (a : Action) : Json :=
  .object <|
    [("id", Json.int a.id), ("messageId", Json.int a.messageId), ("kind", .string a.kind.name),
      ("sequence", Json.int a.sequence), ("status", .string a.status.name)] ++
    a.parameters.members ++
    [("errorMessage", Json.orNull .string a.errorMessage),
      ("executionTime", Json.orNull Json.int a.executionTime),
      ("createdAt", timeJson a.createdAt), ("startedAt", Json.orNull timeJson a.startedAt),
      ("finishedAt", Json.orNull timeJson a.finishedAt)]

/-- Puts an action together from its own fields and its parameters. -/
def assemble (id messageId : Int) (kind : Kind) (sequence : Int) (status : Status)
    (errorMessage : Option String) (executionTime : Option Int) (createdAt : Instant)
    (startedAt finishedAt : Option Instant) (parameters : Parameters) : Action :=
  ⟨id, messageId, kind, sequence, status, parameters, errorMessage, executionTime, createdAt,
    startedAt, finishedAt⟩

/-- The reader of the fields that are not parameters. -/
def ownReader : RecordReader (Parameters → Action) :=
  (RecordReader.start assemble)
    |>.required "id" Decoder.signed64
    |>.required "messageId" Decoder.signed64
    |>.required "kind" Kind.decoder
    |>.required "sequence" Decoder.signed64
    |>.required "status" Status.decoder
    |>.optional "errorMessage" Decoder.text
    |>.optional "executionTime" Decoder.signed64
    |>.required "createdAt" Decoder.instant
    |>.optional "startedAt" Decoder.instant
    |>.optional "finishedAt" Decoder.instant

/-- An action from an object. -/
def decoder : Decoder Action
  | mode, .object members closed => ownReader.withRest Parameters.reader mode closed members
  | _, o => .error (Decoder.mismatch o "struct Action")

end Action

end ControlPlane
