import Rakka.Foundation.OrderedMap

/-! The inbound endpoint of a node: envelopes are handed to it as bytes, decoded, and dispatched
to the handler registered for their destination. -/

namespace Rakka.Remote
open Foundation

inductive RemoteDestination where
  | actorPath (path : String)
  | entity (entityType entityId : String)
  | service (serviceKey : String)
  | routeKey (routeKey : String)
  | reply (requestId : String)
  | actorRef (messageType path : String)
  deriving DecidableEq, Repr

structure RemoteEnvelope where
  destination : RemoteDestination
  payload : List UInt8
  deriving DecidableEq, Repr

inductive RemoteEndpointError where
  | decode
  | unexpectedDestination (destination : RemoteDestination)
  | unregisteredEntityType (entityType : String)
  | unregisteredActorRefHandler (messageType : String)
  | unregisteredServiceHandler (serviceKey : String)
  | unregisteredReplyHandler (requestId : String)
  | handler (message : String)
  deriving DecidableEq, Repr

abbrev RemoteEnvelopeHandler := RemoteEnvelope → Except RemoteEndpointError Unit

/-- The wire format of envelopes: what it encodes, it decodes. -/
structure EnvelopeCodec where
  encode : RemoteEnvelope → Option (List UInt8)
  decode : List UInt8 → Option RemoteEnvelope
  decode_encode : ∀ envelope wire, encode envelope = some wire → decode wire = some envelope

structure RemoteEndpoint where
  entities : BTreeMap String RemoteEnvelopeHandler
  actorRefs : BTreeMap String RemoteEnvelopeHandler
  services : BTreeMap String RemoteEnvelopeHandler
  replies : Option RemoteEnvelopeHandler

namespace RemoteEndpoint
variable (endpoint : RemoteEndpoint)

def handlerOr (handler : Option RemoteEnvelopeHandler) (error : RemoteEndpointError) :
    Except RemoteEndpointError RemoteEnvelopeHandler :=
  match handler with
  | some handler => .ok handler
  | none => .error error

def entityHandler (entityType : String) : Except RemoteEndpointError RemoteEnvelopeHandler :=
  handlerOr endpoint.entities[entityType]? (.unregisteredEntityType entityType)

def actorRefHandler (messageType : String) : Except RemoteEndpointError RemoteEnvelopeHandler :=
  handlerOr endpoint.actorRefs[messageType]? (.unregisteredActorRefHandler messageType)

def serviceHandler (serviceKey : String) : Except RemoteEndpointError RemoteEnvelopeHandler :=
  handlerOr endpoint.services[serviceKey]? (.unregisteredServiceHandler serviceKey)

def replyHandler (requestId : String) : Except RemoteEndpointError RemoteEnvelopeHandler :=
  handlerOr endpoint.replies (.unregisteredReplyHandler requestId)

def receiveEnvelope (envelope : RemoteEnvelope) : Except RemoteEndpointError Unit :=
  match envelope.destination with
  | .entity entityType _ => endpoint.entityHandler entityType >>= (· envelope)
  | .actorRef messageType _ => endpoint.actorRefHandler messageType >>= (· envelope)
  | .service serviceKey => endpoint.serviceHandler serviceKey >>= (· envelope)
  | .reply requestId => endpoint.replyHandler requestId >>= (· envelope)
  | destination => .error (.unexpectedDestination destination)

def receiveWire (codec : EnvelopeCodec) (bytes : List UInt8) :
    Option RemoteEnvelope × Except RemoteEndpointError Unit :=
  match codec.decode bytes with
  | none => (none, .error .decode)
  | some envelope => (some envelope, endpoint.receiveEnvelope envelope)

/-- The endpoint has a handler for the envelope, and the handler takes it. -/
def Accepts (envelope : RemoteEnvelope) : Prop :=
  endpoint.receiveEnvelope envelope = .ok ()

end RemoteEndpoint
end Rakka.Remote
