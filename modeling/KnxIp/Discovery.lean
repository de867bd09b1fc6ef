/-
  Discovery and description: finding gateways and asking them what they can do.

  Each procedure opens a socket of its own, repeats its request until it is answered or its budget
  is used up, and closes the socket whatever happens. The first device that answers a search is
  the one that is found.
-/
import KnxIp.Network.Basic
import KnxIp.Settings.Basic

namespace KnxIp

/-- A gateway that answered a search. -/
structure FoundGateway where
  /-- Where description and connect requests go. -/
  control : Endpoint
  description : Description
deriving DecidableEq, Repr

namespace FoundGateway

/-- The gateway in the response to a search. -/
def ofBody : Body → Option FoundGateway
  | .searchResponse endpoint description => some ⟨endpoint, description⟩
  | _ => none

/-- The gateway offers tunneling. -/
def supportsTunneling (g : FoundGateway) : Bool := g.description.families.supports .tunneling

/-- The gateway offers routing. -/
def supportsRouting (g : FoundGateway) : Bool := g.description.families.supports .routing

end FoundGateway

/-- The description in a response. -/
def Description.ofBody : Body → Option Description
  | .descriptionResponse d => some d
  | _ => none

/-- The local address from which to reach an endpoint: the one in the settings, else the one that
the network knows. -/
def Settings.interfaceTo (s : Settings) (n : Network) (remote : Endpoint) : Ipv4 :=
  (s.localAddress.or (n.route remote)).getD .unspecified

/-- The endpoint that a socket announces to the peer. Behind an address translator it is
unspecified. -/
def Settings.announced (s : Settings) (socket : Socket) : Endpoint :=
  if s.nat then .unspecified else socket.address

/-- How repeated requests ended. -/
inductive Repeated (α : Type)
  /-- A response was accepted. -/
  | accepted (a : α)
  /-- None was; the last response that came is kept. -/
  | exhausted (last : Option Body)

namespace World

/-- Sends a request up to `budget` times, until a response is accepted. -/
def repeatRequest {α : Type} (n : Network) (s : Socket) (b : Body) (accept : Body → Option α) :
    Nat → Option Body → World → Except Failure (Repeated α) × World
  | 0, last, w => (.ok (.exhausted last), w)
  | budget + 1, last, w =>
    match w.request n s b with
    | (.error f, w) => (.error f, w)
    | (.ok none, w) => repeatRequest n s b accept budget last w
    | (.ok (some r), w) =>
      match accept r with
      | some a => (.ok (.accepted a), w)
      | none => repeatRequest n s b accept budget (some r) w

/-- Opens a socket for one procedure and closes it afterwards. -/
def withSocket {α : Type} (n : Network) (w : World) (settings : Settings) (role : Role)
    (socket : SocketSettings) (peer : Endpoint)
    (procedure : Socket → World → Except Failure α × World) : Except Failure α × World :=
  match w.bind n role ⟨settings.interfaceTo n peer, socket.port⟩ peer with
  | (.error f, w) => (.error f, w)
  | (.ok s, w) =>
    let (r, w) := procedure s w
    (r, w.drop s.address)

/-- Finds the first gateway that answers a search. -/
def discover (n : Network) (settings : Settings) (w : World) :
    Except Failure FoundGateway × World :=
  w.withSocket n settings .discovery settings.discovery settings.discoveryEndpoint fun s w =>
    let request : Body := .searchRequest (settings.announced s)
    match repeatRequest n s request FoundGateway.ofBody settings.retries.discovery.toNat none w with
    | (.ok (.accepted g), w) => (.ok g, w)
    | (.ok (.exhausted _), w) => (.error (.connection (.discoveryNotReceived request)), w)
    | (.error f, w) => (.error f, w)

/-- Searches once and gathers every gateway that answers, in the order of the answers. -/
def search (n : Network) (settings : Settings) (w : World) :
    Except Failure (List FoundGateway) × World :=
  w.withSocket n settings .discovery settings.discovery settings.discoveryEndpoint fun s w =>
    match w.request n s (.searchRequest (settings.announced s)) with
    | (.ok _, w) =>
      (.ok ((w.context.correlator.slot .search).responses.filterMap FoundGateway.ofBody), w)
    | (.error f, w) => (.error f, w)

/-- Asks a gateway for its description; the request is given back with it. -/
def exchangeDescription (n : Network) (settings : Settings) (remote : Endpoint) (w : World) :
    Except Failure (Body × Description) × World :=
  w.withSocket n settings .description settings.description remote fun s w =>
    let request : Body := .descriptionRequest (settings.announced s)
    let budget := settings.retries.description.toNat
    match repeatRequest n s request Description.ofBody budget none w with
    | (.ok (.accepted d), w) => (.ok (request, d), w)
    | (.ok (.exhausted _), w) => (.error (.connection (.descriptionNotReceived request)), w)
    | (.error f, w) => (.error f, w)

/-- Asks a gateway for its description. -/
def describe (n : Network) (settings : Settings) (remote : Endpoint) (w : World) :
    Except Failure Description × World :=
  match exchangeDescription n settings remote w with
  | (.ok (_, d), w) => (.ok d, w)
  | (.error f, w) => (.error f, w)

/-- Asks a gateway for its description and insists on tunneling. -/
def describeForTunneling (n : Network) (settings : Settings) (remote : Endpoint) (w : World) :
    Except Failure Description × World :=
  match exchangeDescription n settings remote w with
  | (.ok (request, d), w) =>
    if d.families.supports .tunneling then (.ok d, w)
    else (.error (.connection (.tunnelingNotSupported request (.descriptionResponse d))), w)
  | (.error f, w) => (.error f, w)

end World
end KnxIp
