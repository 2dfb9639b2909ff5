import SourceIndex.Host.Client

/-!
# A rehearsed hosting service

A server that gives prepared replies for each path in turn, with a clock of its own: waiting costs
nothing and shows only as a delay between an answer and the next request. A server that cannot be
reached loses every request.
-/

set_option autoImplicit false

namespace SourceIndex.Rehearsal

open SourceIndex.Host

/-- What a server does with a request. -/
inductive ServerReply where
  | answer (response : Response)
  /-- The connection ends without an answer. -/
  | close
deriving DecidableEq, Repr

/-- The prepared replies for one path with its query, given in turn; the last one is given again and
again. -/
structure Route where
  target : String
  replies : List ServerReply
deriving DecidableEq, Repr

/-- The answer for a path that nothing is prepared for. -/
def notFound : ServerReply :=
  .answer ⟨404, [], []⟩

/-- The reply of a route, and the route after it. -/
def Route.next (route : Route) : ServerReply × Route :=
  match route.replies with
  | [] => (notFound, route)
  | [last] => (last, route)
  | reply :: rest => (reply, { route with replies := rest })

/-- The reply of the route for a target, and the routes after it. -/
def replyFor (target : String) : List Route → ServerReply × List Route
  | [] => (notFound, [])
  | route :: rest =>
    if route.target = target then (route.next.1, route.next.2 :: rest)
    else
      let later := replyFor target rest
      (later.1, route :: later.2)

/-- A request as the server sees it. -/
structure Visit where
  method : String
  target : String
  accept : String
  authorization : Option String
  userAgent : String
deriving DecidableEq, Repr

/-- A server and what happened to it. Times are in seconds. -/
structure Server where
  reachable : Bool
  routes : List Route
  clock : Int
  /-- When the last request was settled. -/
  settled : Option Int
  visits : List Visit
  /-- The time between each request and the one settled before it. -/
  delays : List Nat
deriving DecidableEq, Repr

namespace Server

/-- The time on a server's clock at its start. -/
def opening : Int := 1750000000

/-- A server that was not asked yet. -/
def start (reachable : Bool) (routes : List Route) : Server :=
  ⟨reachable, routes, opening, none, [], []⟩

/-- Replaces the prepared replies and forgets what was asked. -/
def install (server : Server) (routes : List Route) : Server :=
  { server with routes := routes, visits := [] }

/-- A site is found without asking anybody: it has a numeric address or is the machine itself. -/
def isKnown : Option Url.Site → Bool
  | some (.name text) => text == "localhost".toList
  | _ => true

/-- Why a request for a site that cannot be reached is lost. -/
def unreachableReasons (site : Option Url.Site) : Chain :=
  "client error (Connect)" ::
    if isKnown site then ["tcp connect error", "Network is unreachable (os error 101)"]
    else
      ["dns error",
        "failed to lookup address information: Temporary failure in name resolution"]

/-- Why a request is lost whose connection ends without an answer. -/
def closedReasons : Chain :=
  ["client error (SendRequest)", "connection closed before message completed"]

/-- The server takes a request and gives its reply. -/
def visit (request : Request) (server : Server) : Delivery × Server :=
  let target := request.url.target
  let answered := replyFor target server.routes
  let visit : Visit := ⟨"GET", target, accept, request.authorization, userAgent⟩
  let delays := match server.settled with
    | none => server.delays
    | some time => server.delays ++ [(server.clock - time).toNat]
  let after : Server :=
    { server with
      routes := answered.2, settled := some server.clock, visits := server.visits ++ [visit],
      delays := delays }
  match answered.1 with
  | .answer response => (.answered response, after)
  | .close => (.lost closedReasons, after)

/-- The network on which there is only this server. -/
def network : Network Server where
  send request server :=
    if server.reachable then server.visit request
    else (.lost (unreachableReasons request.url.site), server)
  now server := server.clock
  wait seconds server := { server with clock := server.clock + seconds }

end Server

end SourceIndex.Rehearsal
