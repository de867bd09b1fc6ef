/-
  Correlation: which response belongs to which request.

  Every exchange has a slot: one for each kind of request, and for tunneling one for each of the
  256 sequence numbers. A slot holds the last request under its key and the responses since the
  last outgoing request: all of them for a search, which many devices may answer, and only the
  latest otherwise. A request that came in from the peer is marked as inbound and leaves the
  responses alone.
-/
import KnxIp.Failure
import KnxIp.Polling

namespace KnxIp

open Text

/-- The key of an exchange. -/
inductive ExchangeKey
  | search
  | description
  | connect
  | connectionState
  | disconnect
  /-- A tunneled telegram with this sequence number. -/
  | tunneling (sequence : UInt8)
deriving DecidableEq, Repr

namespace ExchangeKey

/-- The keys with a name of their own. -/
def named : List ExchangeKey := [search, description, connect, connectionState, disconnect]

/-- Every key: the named ones, then tunneling by sequence number. -/
def all : List ExchangeKey := named ++ (List.range 256).map fun n => tunneling n.toUInt8

/-- The exchange that a body opens as a request. -/
def ofRequest : Body → Option ExchangeKey
  | .searchRequest _ => some search
  | .descriptionRequest _ => some description
  | .connectRequest _ _ _ => some connect
  | .connectionStateRequest _ _ => some connectionState
  | .disconnectRequest _ _ => some disconnect
  | .tunnelingRequest h _ => some (tunneling h.sequence)
  | _ => none

/-- The exchange that a body answers as a response. -/
def ofResponse : Body → Option ExchangeKey
  | .searchResponse _ _ => some search
  | .descriptionResponse _ => some description
  | .connectResponse _ _ _ _ => some connect
  | .connectionStateResponse _ _ => some connectionState
  | .disconnectResponse _ _ => some disconnect
  | .tunnelingAck h => some (tunneling h.sequence)
  | _ => none

/-- The exchange may have several responses. -/
def isShared (k : ExchangeKey) : Bool := k = search

/-- The key written out. -/
def text : ExchangeKey → String
  | search => "Search"
  | description => "Description"
  | connect => "Connect"
  | connectionState => "ConnectionState"
  | disconnect => "Disconnect"
  | tunneling s => "Tunneling(" ++ decimal s.toNat ++ ")"

end ExchangeKey

/-- What is known of one exchange. -/
structure Exchange where
  request : Option Body
  /-- The request came from the peer. -/
  inbound : Bool
  /-- The responses in the order of their arrival. -/
  responses : List Body
deriving DecidableEq

namespace Exchange

/-- Nothing is known. -/
def empty : Exchange := ⟨none, false, []⟩

/-- After sending a request: earlier responses are forgotten. -/
def registered (request : Body) : Exchange := ⟨some request, false, []⟩

/-- After a request of the peer. -/
def registerInbound (x : Exchange) (request : Body) : Exchange :=
  { x with request := some request, inbound := true }

/-- After a response: it follows the earlier ones if they are kept, else it takes their place. -/
def record (x : Exchange) (keepAll : Bool) (response : Body) : Exchange :=
  { x with responses := (if keepAll then x.responses else []) ++ [response] }

/-- The last request came from the peer. -/
def hasInboundRequest (x : Exchange) : Bool := x.inbound && x.request.isSome

/-- The exchange has a request or a response. -/
def isUsed (x : Exchange) : Bool := x.request.isSome || !x.responses.isEmpty

end Exchange

/-- All exchanges by their keys. -/
structure Correlator where
  slot : ExchangeKey → Exchange

namespace Correlator

/-- No exchange has begun. -/
def empty : Correlator := ⟨fun _ => .empty⟩

/-- Replaces one slot. -/
def set (c : Correlator) (k : ExchangeKey) (x : Exchange) : Correlator :=
  ⟨fun j => if j = k then x else c.slot j⟩

@[simp] theorem slot_set_self (c : Correlator) (k : ExchangeKey) (x : Exchange) :
    (c.set k x).slot k = x := if_pos rfl

theorem slot_set_of_ne (c : Correlator) {j k : ExchangeKey} (x : Exchange) (h : j ≠ k) :
    (c.set k x).slot j = c.slot j := if_neg h

/-- Opens the exchange of a request that is about to be sent. A body that is no request opens
none. -/
def register (c : Correlator) (request : Body) : Except ValueFault (ExchangeKey × Correlator) :=
  match ExchangeKey.ofRequest request with
  | some k => .ok (k, c.set k (.registered request))
  | none => .error (.notARequest request.service)

/-- Notes a request of the peer. -/
def registerInbound (c : Correlator) (request : Body) : Correlator :=
  match ExchangeKey.ofRequest request with
  | some k => c.set k ((c.slot k).registerInbound request)
  | none => c

/-- Notes a response under the exchange that it answers. -/
def record (c : Correlator) (response : Body) : Correlator :=
  match ExchangeKey.ofResponse response with
  | some k => c.set k ((c.slot k).record k.isShared response)
  | none => c

/-- Forgets one exchange. -/
def clear (c : Correlator) (k : ExchangeKey) : Correlator := c.set k .empty

/-- Forgets all exchanges, one after the other. -/
def reset (c : Correlator) : Correlator := ExchangeKey.all.foldl clear c

/-- The first response of an exchange. -/
def response? (c : Correlator) (k : ExchangeKey) : Option Body := (c.slot k).responses.head?

/-- The first response of an exchange, as soon as there is one before the deadline; the correlator
may be another one at every time. -/
def await (c : Nat → Correlator) (k : ExchangeKey) (timeout : Nat) : Option Body :=
  (Polling.run (fun _ now => (c now).response? k) timeout Polling.pause).found

/-- The keys of the exchanges with a request or a response. -/
def used (c : Correlator) : List ExchangeKey := ExchangeKey.all.filter fun k => (c.slot k).isUsed

/-- What may be done with a correlator. -/
inductive Operation
  /-- A request is about to be sent. -/
  | register (body : Body)
  /-- A request has come from the peer. -/
  | registerInbound (body : Body)
  /-- A response has come. -/
  | record (body : Body)
  | reset
deriving DecidableEq

/-- The correlator after an operation; a registration that fails leaves it as it is. -/
def apply (c : Correlator) : Operation → Correlator
  | .register b =>
    match c.register b with
    | .ok (_, c) => c
    | .error _ => c
  | .registerInbound b => c.registerInbound b
  | .record b => c.record b
  | .reset => c.reset

/-- The correlator after several operations. -/
def run (c : Correlator) (operations : List Operation) : Correlator := operations.foldl apply c

end Correlator
end KnxIp
