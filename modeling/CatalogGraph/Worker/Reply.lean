import CatalogGraph.Worker.Exchange

/-!
# Replies of the worker

A reply is one line: a JSON record with the id of the request that it answers, whether the request
succeeded, and the result or an error. A line that is no such record is no reply.
-/

namespace CatalogGraph.Worker

open Json

/-- An error as the worker tells it. -/
structure Complaint where
  code : String
  message : String
deriving DecidableEq, Repr

/-- An error as a record. -/
def Complaint.recordType : RecordType Complaint where
  title := "struct ErrorInfo"
  slots :=
    [.of "code" true Decoder.string fun v c => { c with code := v },
     .of "message" true Decoder.string fun v c => { c with message := v }]
  blank := ⟨"", ""⟩

/-- What stands for an error that the worker does not tell. -/
def Complaint.unknown : Complaint := ⟨"UNKNOWN", "Unknown error"⟩

/-- A reply to the request of an id. -/
structure Reply where
  id : String
  success : Bool
  result : Option Json
  error : Option Complaint

namespace Reply

/-- A reply as a record. -/
def recordType : RecordType Reply where
  title := "struct ResponseEnvelope"
  slots :=
    [.of "id" true Decoder.string fun v r => { r with id := v },
     .of "success" true Decoder.bool fun v r => { r with success := v },
     .of "result" false (Decoder.optional Decoder.any) fun v r => { r with result := v },
     (Slot.of "error" false (Decoder.optional Complaint.recordType.decode) fun v r =>
       { r with error := v }).shaped (.optional Complaint.recordType.shape)]
  blank := ⟨"", false, none, none⟩

/-- The reply on a line. -/
def ofLine? (line : String) : Option Reply := recordType.ofText? line

/-- The reply that stands for the end of the worker. -/
def ofExit (id : String) : Reply :=
  ⟨id, false, none, some ⟨"WORKER_EXITED", "Worker process exited unexpectedly"⟩⟩

/-- What comes of a request that is answered by the reply. -/
def outcome (r : Reply) : Outcome :=
  if r.success then .ok (r.result.getD .null)
  else
    let complaint := r.error.getD .unknown
    .error (Error.ofCode complaint.code complaint.message)

end Reply

end CatalogGraph.Worker
