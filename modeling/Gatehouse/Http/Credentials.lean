import Gatehouse.Access
import Gatehouse.Http.Message
/-!
# Where a request carries its token

In an Authorization header, whose grammar is strict, or else in the session cookie.  An Authorization header decides
alone: when it is there, cookies are not looked at.
-/
namespace Gatehouse
namespace Http

/-! ## The Authorization header -/

/-- The characters of a bearer token before its padding. -/
def isTokenChar (c : Char) : Bool :=
  c.isAlphanum || c = '-' || c = '.' || c = '_' || c = '~' || c = '+' || c = '/'

/-- Whether a text is one or more token characters and then any number of `=`. -/
def isBearerToken (cs : List Char) : Bool :=
  !(cs.takeWhile isTokenChar).isEmpty && (cs.dropWhile isTokenChar).all (· = '=')

/-- The token of an Authorization header: the word `bearer` in any case, blanks, and the token. -/
def bearerToken? (value : String) : Option (List Char) :=
  let text := Text.trimChars value.toList
  let word := text.take 6
  let rest := text.drop 6
  let token := rest.dropWhile Text.isBlank
  if Text.lower (String.ofList word) = "bearer" && token.length < rest.length && isBearerToken token then some token
  else none

/-! ## The session cookie -/

/-- The value of a pair in a Cookie header, if the pair is of the given name and the value is not empty. -/
def pairValue? (name : String) (pair : List Char) : Option (List Char) :=
  match Text.splitFirst? '=' pair with
  | none => none
  | some (key, value) =>
    let value := Text.trimChars value
    if String.ofList (Text.trimChars key) = name && !value.isEmpty then some value else none

/-- The first value of a name in a Cookie header. -/
def cookieToken? (name : String) (header : String) : Option (List Char) :=
  (Text.splitOn ';' header.toList).findSome? fun pair => pairValue? name (Text.trimChars pair)

/-! ## The token of a request -/

/-- Whether a client asks for HTML, as browsers do. -/
def Request.wantsHtml (r : Request) : Bool :=
  match (r.header? "accept").bind visible? with
  | some accept => Text.occursIn "text/html".toList accept.toList
  | none => false

/-- The session cookie's token, if the first Cookie header holds one. -/
def Request.cookieToken? (r : Request) (name : String) : Option (List Char) :=
  ((r.header? "cookie").bind visible?).bind (Http.cookieToken? name)

/-- The token that a request carries.  Without one, browsers are sent to the login page. -/
def Request.token (r : Request) (cookieName loginPath : String) : Except Refusal (List Char) :=
  match r.header? "authorization" with
  | some value =>
    match (visible? value).bind bearerToken? with
    | some token => .ok token
    | none => .error .invalidAuthHeader
  | none =>
    match r.cookieToken? cookieName with
    | some token => .ok token
    | none => .error (if r.wantsHtml then .loginRequired loginPath else .missingToken)

end Http
end Gatehouse
