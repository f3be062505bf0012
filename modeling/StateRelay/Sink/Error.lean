import StateRelay.Json.Error
import StateRelay.Sink.Config

/-!
Why a batch was not delivered.
-/

namespace StateRelay.Sink

inductive Error where
  | emptyBatch
  /-- The configuration names no way for a batch to go out. -/
  | noSink
  /-- The way that the configuration names was not supplied. -/
  | missingTransport (transport : String)
  | clientBuild (transport reason : String)
  | serialization (target : String) (source : Json.Error)
  | connect (target reason : String)
  | send (target reason : String)
  /-- The sink answered with a status other than success. -/
  | unexpectedStatus (target : String) (status : UInt16)
  deriving DecidableEq, Repr

/-- Whether the fault lies with the caller or on the way to the sink. -/
inductive Error.Kind where
  | validation
  | transport
  deriving DecidableEq, Repr

def Error.Kind.name : Error.Kind → String
  | .validation => "validation"
  | .transport => "transport"

namespace Error

/-- The name of an error among all kinds of errors. -/
def name : Error → String
  | .emptyBatch => "EmptyBatch"
  | .noSink => "NoSinkConfigured"
  | .missingTransport _ => "MissingTransport"
  | .clientBuild _ _ => "ClientBuild"
  | .serialization _ _ => "Serialization"
  | .connect _ _ => "Connect"
  | .send _ _ => "Send"
  | .unexpectedStatus _ _ => "UnexpectedStatus"

def kind : Error → Kind
  | .emptyBatch | .noSink | .missingTransport _ | .clientBuild _ _ => .validation
  | .serialization _ _ | .connect _ _ | .send _ _ | .unexpectedStatus _ _ => .transport

def isTransport (e : Error) : Bool :=
  e.kind = .transport

/-- Where the batch was to go. -/
def target? : Error → Option String
  | .serialization target _ | .connect target _ | .send target _
  | .unexpectedStatus target _ => some target
  | .emptyBatch | .noSink | .missingTransport _ | .clientBuild _ _ => none

def message : Error → String
  | .emptyBatch => "no entries to send: batch is empty"
  | .noSink => "no sink configured: set an endpoint URL or enable WebSocket streaming"
  | .missingTransport transport =>
    transport ++ " transport selected but no implementation was supplied"
  | .clientBuild transport reason => "failed to build " ++ transport ++ " client: " ++ reason
  | .serialization target source =>
    "failed to serialize batch for " ++ target ++ ": " ++ source.message
  | .connect target reason => "failed to connect to " ++ target ++ ": " ++ reason
  | .send target reason => "failed to send to " ++ target ++ ": " ++ reason
  | .unexpectedStatus target code =>
    "unexpected HTTP status code " ++ toString code.toNat ++ " from " ++ target

/-- The cause that is an error itself, as a message. -/
def source? : Error → Option String
  | .serialization _ source => some source.message
  | _ => none

end Error

end StateRelay.Sink
