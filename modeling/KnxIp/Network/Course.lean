/-
  Asking: a request, and whatever else happens to the context until it ends.

  All sockets of a client share one context, and each receives for itself. So between the
  registration of a request and the last look for its response, datagrams are dispatched by any
  socket, other requests are sent, and the connection changes, in any order. An `Action` is one
  such event, and a `Course` says which come while the request is being sent, and which at what
  time while it is waited for.

  An action is one step. For registering and noting this is so because each exchange has a lock of
  its own. A dispatch reads the channel first and notes the response later; if the connection
  changes in between, this is the course in which it is changed back for the instant of the
  dispatch.
-/
import KnxIp.Network.Journal

namespace KnxIp

/-- What may happen to the context that the sockets of a client share. -/
inductive Action
  /-- A socket handles a datagram that it has received. -/
  | dispatch (r : Receipt) (peers : Peers) (refusal : Refusal)
  /-- A socket has failed to receive. -/
  | failed (fault : TransportFault)
  /-- A request is about to be sent. -/
  | register (request : Body)
  /-- The transport has taken a frame with this body. -/
  | sent (b : Body)
  /-- The state of the connection is another one. -/
  | connect (connection : Connection)
  /-- All exchanges are forgotten, because the session starts again. -/
  | reset

/-- The datagram that is handled. -/
def Action.receipt? : Action → Option Receipt
  | dispatch r _ _ => some r
  | _ => none

namespace Context

/-- The context after an action. -/
def act (c : Context) : Action → Context
  | .dispatch r peers refusal => (c.dispatch r.role peers refusal r.source r.bytes).context
  | .failed fault => c.report (.transport fault)
  | .register request => { c with correlator := c.correlator.apply (.register request) }
  | .sent b =>
    match (Frame.ofBody b).bytes with
    | .error _ => c
    | .ok bytes => c.sent (Frame.ofBody b) bytes.length
  | .connect connection => { c with connection }
  | .reset => { c with correlator := c.correlator.reset }

/-- The context after several actions. -/
def actAll (c : Context) (actions : List Action) : Context := actions.foldl act c

end Context

/-- What happens beside a request. -/
structure Course where
  /-- From the registration until the transport has taken the datagram. -/
  sending : List Action
  /-- At each time while the response is waited for. -/
  waiting : Nat → List Action

namespace Course

/-- What happens until a time while the response is waited for. -/
def upTo (x : Course) (time : Nat) : List Action := (List.range (time + 1)).flatMap x.waiting

/-- All that happens until a time after the registration of the request, its own sending
included. -/
def history (x : Course) (request : Body) (time : Nat) : List Action :=
  x.sending ++ .sent request :: x.upTo time

end Course

/-- How a request ended: what the caller is told, and the datagram that was handed to the
transport, whether or not it took it. -/
structure Asked where
  result : Except Failure (Option Body)
  handed : Option Datagram

/-- Registers a request, sends it to the peer of its channel and waits for the response. Nothing is
sent if the body is no request. -/
def Context.ask (c : Context) (x : Course) (peers : Peers) (refusal : Refusal) (b : Body)
    (timeout : Nat) : Asked :=
  match c.correlator.register b with
  | .error f => ⟨.error (.ofValue f), none⟩
  | .ok (key, correlator) =>
    match (Frame.ofBody b).bytes with
    | .error f => ⟨.error (.ofFraming f), none⟩
    | .ok bytes =>
      let datagram : Datagram := ⟨bytes, peers.ofChannel b.service.channel⟩
      match refusal datagram with
      | some fault => ⟨.error (.transport fault), some datagram⟩
      | none =>
        let registered : Context := { c with correlator }
        let found := Correlator.await
          (fun now => (registered.actAll (x.history b now)).correlator) key timeout
        ⟨.ok found, some datagram⟩

end KnxIp
