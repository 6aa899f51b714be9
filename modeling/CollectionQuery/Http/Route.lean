import CollectionQuery.Text.Split

/-!
# Routes

A route has some methods and a path with gaps, and leads to one thing that the service does.  A path
without gaps may be followed by a line end.  A path that belongs to a route with a slash more or
less at its end is redirected there.
-/

namespace CollectionQuery.Http

open CollectionQuery.Text

/-- What a request may ask for. -/
inductive Action where
  /-- The name of the service. -/
  | landing
  /-- Whether the service runs. -/
  | health
  /-- The description of all collections. -/
  | describe
  /-- A page of a collection. -/
  | list (collection : String)
  /-- A row. -/
  | get (collection id : String)
  /-- A new row. -/
  | create (collection : String)
  /-- A change of a row. -/
  | update (collection id : String)
  /-- The removal of a row. -/
  | delete (collection id : String)
  /-- A page of what everyone may see of a collection. -/
  | listPublic (collection : String)
  /-- The description of all routes. -/
  | schema
  /-- A page about the routes. -/
  | guide

/-- A route. -/
structure Route where
  methods : List String
  /-- What a path of the route asks for, given the pieces between its slashes. -/
  action? : List String → Option Action

namespace Route

/-- What the paths of collections ask for, given the pieces behind their beginning. -/
def onCollection (action : String → Action) : List String → Option Action
  | ["", "api", "collections", name] => if name = "" then none else some (action name)
  | _ => none

/-- What the paths of rows ask for. -/
def onRow (action : String → String → Action) : List String → Option Action
  | ["", "api", "collections", name, id] =>
    if name = "" ∨ id = "" then none else some (action name id)
  | _ => none

/-- What the paths of public collections ask for. -/
def onPublic (action : String → Action) : List String → Option Action
  | ["", "api", "public", name] => if name = "" then none else some (action name)
  | _ => none

/-- What a single path asks for. -/
def only (path : String) (action : Action) (given : List String) : Option Action :=
  if given = splitOnChar '/' path ∨ given = splitOnChar '/' (path.push '\n') then some action
  else none

/-- The route of a page about the service; the headers alone may be asked for. -/
def documentation (path : String) (action : Action) : Route :=
  ⟨["GET", "HEAD"], only path action⟩

/-- All routes, in the order in which they are tried. -/
def all : List Route := [
  documentation "/openapi.json" .schema,
  documentation "/docs" .guide,
  documentation "/docs/oauth2-redirect" .guide,
  documentation "/redoc" .guide,
  ⟨["GET"], only "/api/collections/meta" .describe⟩,
  ⟨["GET"], onCollection .list⟩,
  ⟨["GET"], onRow .get⟩,
  ⟨["POST"], onCollection .create⟩,
  ⟨["PATCH"], onRow .update⟩,
  ⟨["DELETE"], onRow .delete⟩,
  ⟨["GET"], onPublic .listPublic⟩,
  ⟨["GET"], only "/" .landing⟩,
  ⟨["GET"], only "/health" .health⟩]

/-- What the first route of a method that a path belongs to asks for. -/
def actionOf? (method : String) (pieces : List String) : Option Action :=
  all.findSome? fun route => if method ∈ route.methods then route.action? pieces else none

/-- The methods of the first route that a path belongs to. -/
def methodsOf? (pieces : List String) : Option (List String) :=
  (all.find? fun route => (route.action? pieces).isSome).map (·.methods)

end Route

/-- Where a request leads. -/
inductive Destination where
  /-- To an action. -/
  | action (a : Action)
  /-- Nowhere with its method; others are allowed. -/
  | wrongMethod (allowed : List String)
  /-- To another path. -/
  | redirect (path : String)
  /-- Nowhere. -/
  | nowhere

/-- A path with a slash at its end taken away, or one added. -/
def otherPath (path : String) : String :=
  match path.toList.reverse with
  | '/' :: rest => String.ofList (rest.dropWhile (· == '/')).reverse
  | _ => path.push '/'

/-- Where a method and a path lead. -/
def Destination.of (method path : String) : Destination :=
  let pieces := splitOnChar '/' path
  match Route.actionOf? method pieces with
  | some a => action a
  | none => match Route.methodsOf? pieces with
    | some allowed => wrongMethod allowed
    | none =>
      if path ≠ "/" ∧ (Route.methodsOf? (splitOnChar '/' (otherPath path))).isSome then
        redirect (otherPath path)
      else nowhere

end CollectionQuery.Http
