import BearerIdentity.Environment

set_option autoImplicit false

namespace BearerIdentity

inductive Reply where
  | response (response : Response)
  | ioFailure
  | networkFailure
  deriving DecidableEq, Repr

/-- What a URL answers: each reply once, in order, and the last one ever after. -/
structure Route where
  url : String
  replies : List Reply
  /-- How many requests were sent before the route was set. -/
  since : Nat
  deriving DecidableEq, Repr

abbrev RouteTable := List Route

namespace RouteTable

/-- Sets a route in place of one for the same URL. -/
def withRoute (table : RouteTable) (route : Route) : RouteTable :=
  route :: table.filter (·.url != route.url)

/-- The URL by which a request is looked up: without its query. -/
def key (request : Request) : String :=
  ({ request.url with query := none } : Url).text

def notFound : Response :=
  ⟨404, none, Utf8.ofString "not found"⟩

def answer (request : Request) : Reply → Except TransportError Response
  | .response response => .ok response
  | .ioFailure => .error (.io "input or output failed")
  | .networkFailure => .error (.network request.url.text "the network failed")

def useCount (route : Route) (earlier : List Request) : Nat :=
  ((earlier.drop route.since).filter (key · == route.url)).length

def network (table : RouteTable) : Network := fun earlier request =>
  match table.find? (·.url == key request) with
  | none => .ok notFound
  | some route =>
    match (route.replies[useCount route earlier]?).or route.replies.getLast? with
    | some reply => answer request reply
    | none => .ok notFound

end RouteTable

end BearerIdentity
