/-!
# Routes

The five paths of the service, matched exactly, and the methods that each handles.
-/
namespace Gatehouse
namespace Http

/-- The paths of the service. -/
inductive Route where
  | health
  | login
  | logout
  | me
  | keys
  deriving DecidableEq, Repr

/-- What a handled method of a route does. -/
inductive Action where
  | health
  | login
  | logout
  | showMe
  | listKeys
  | insertKey
  | updateKey
  | deleteKey
  deriving DecidableEq, Repr

namespace Route

def path : Route → String
  | health => "/health"
  | login => "/auth/login"
  | logout => "/auth/logout"
  | me => "/api/me"
  | keys => "/api/keys"

def all : List Route := [health, login, logout, me, keys]

/-- The route of a path. -/
def ofPath? (path : String) : Option Route := all.find? fun r => r.path == path

/-- Whether a route is for sessions only. -/
def isProtected : Route → Bool
  | me => true
  | keys => true
  | _ => false

/-- The methods of a route as an Allow header lists them. -/
def allow : Route → String
  | health => "GET,HEAD"
  | login => "POST"
  | logout => "POST"
  | me => "GET,HEAD"
  | keys => "GET,HEAD,POST,PUT,DELETE"

/-- What a method does; HEAD does what GET does. -/
def action? (r : Route) (method : String) : Option Action :=
  let method := if method = "HEAD" then "GET" else method
  match r with
  | health => if method = "GET" then some .health else none
  | login => if method = "POST" then some .login else none
  | logout => if method = "POST" then some .logout else none
  | me => if method = "GET" then some .showMe else none
  | keys =>
    if method = "GET" then some .listKeys
    else if method = "POST" then some .insertKey
    else if method = "PUT" then some .updateKey
    else if method = "DELETE" then some .deleteKey
    else none

end Route
end Http
end Gatehouse
