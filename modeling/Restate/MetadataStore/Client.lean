import Mathlib.Logic.Basic

/-! `LocalMetadataStoreClient` of `metadata-store/src/local/grpc/client.rs`: each method sends
one request to the metadata store service and maps its reply. The service enters as its reply
to the request. Tonic's `Display` of a status and the protobuf conversions are not under src/,
so they enter as functions; a request carries the value and precondition it converts. -/
namespace Restate.MetadataStore

inductive Code
  | ok | cancelled | unknown | invalidArgument | deadlineExceeded | notFound | alreadyExists
  | permissionDenied | resourceExhausted | failedPrecondition | aborted | outOfRange
  | unimplemented | internal | unavailable | dataLoss | unauthenticated
  deriving DecidableEq, Repr

/-- `tonic::Status`, through its code and message. -/
structure Status where
  code : Code
  message : String
  deriving DecidableEq, Repr

/-- `ReadError`, by the variants the client builds. -/
inductive ReadError
  | network (status : Status)
  | internal (message : String)
  deriving DecidableEq, Repr

inductive WriteError
  | network (status : Status)
  | failedPrecondition (message : String)
  | internal (message : String)
  deriving DecidableEq, Repr

structure GetRequest where
  key : String
  deriving DecidableEq, Repr

structure PutRequest (V P : Type) where
  key : String
  value : Option V
  precondition : Option P

structure DeleteRequest (P : Type) where
  key : String
  precondition : Option P

section Client
variable (display : Status → String) {Response V P : Type}

/-- `map_status_to_read_error`; `display` is `status.to_string()`. -/
def mapStatusToReadError (status : Status) : ReadError :=
  match status.code with
  | .unavailable => .network status
  | _ => .internal (display status)

def mapStatusToWriteError (status : Status) : WriteError :=
  match status.code with
  | .unavailable => .network status
  | .failedPrecondition => .failedPrecondition status.message
  | _ => .internal (display status)

/-- `get`: a reply that does not convert is an `Internal` error with the conversion's text. -/
def get (svcGet : GetRequest → Except Status Response)
    (tryInto : Response → Except String (Option V)) (key : String) :
    Except ReadError (Option V) := do
  let response ← (svcGet ⟨key⟩).mapError (mapStatusToReadError display)
  (tryInto response).mapError .internal

def getVersion (svcGetVersion : GetRequest → Except Status Response) (into : Response → V)
    (key : String) : Except ReadError V :=
  ((svcGetVersion ⟨key⟩).mapError (mapStatusToReadError display)).map into

/-- `put`: the value and the precondition are always sent. -/
def put (svcPut : PutRequest V P → Except Status Response) (key : String) (value : V)
    (precondition : P) : Except WriteError Unit :=
  ((svcPut ⟨key, some value, some precondition⟩).mapError (mapStatusToWriteError display)).map
    fun _ => ()

/-- `delete`: the precondition is always sent. -/
def delete (svcDelete : DeleteRequest P → Except Status Response) (key : String)
    (precondition : P) : Except WriteError Unit :=
  ((svcDelete ⟨key, some precondition⟩).mapError (mapStatusToWriteError display)).map fun _ => ()

end Client

end Restate.MetadataStore
