import SqlGateway.Http.Request
import SqlGateway.Http.Status

/-!
# Redirects

An answer may name another place, and a status by which the request goes on there.  The request
that follows is the one before, or it only fetches what is at that place.  Then it has no body and
no headers that speak of one.

Headers are those of the first request.  A login or a token does not go to another server than the
one that sends the request on, and any other header does.  Each place is told of the one that sends
there, unless that one is encrypted and this one is not.
-/

namespace SqlGateway.Http

/-- The greatest number of redirects that are followed for a query. -/
def redirectLimit : Nat := 10

namespace Request

/-- The headers that speak of a body. -/
def bodyHeaders : List String := ["content-length", "content-type"]

/-- Two URLs lead to one port of one host. -/
def sameServer (u v : Url) : Bool :=
  u.host?.map Url.Host.text = v.host?.map Url.Host.text &&
    u.port?.or (Url.defaultPort? u.scheme) = v.port?.or (Url.defaultPort? v.scheme)

/-- What a place is told of the URL that sends there. -/
def referrer? (last place : Url) : Option String :=
  if last.scheme = ['h', 't', 't', 'p', 's'] ∧ place.scheme = ['h', 't', 't', 'p'] then none
  else some { last.anonymous with fragment := none }.text

/-- The request that follows a redirect of the last one to a place, where the first request was
made for a query. -/
def onward (first last : Request) (s : Status) (place : Url) : Request :=
  let method := if s.sendsOn then last.method else .get
  let kept := first.headers.filter fun h =>
    (method = .post || !bodyHeaders.contains h.1) &&
      (sameServer last.url place || h.1 ≠ "authorization")
  let told : List Header := ((referrer? last.url place).map fun r => ("referer", r)).toList
  { method
    url := place
    headers := (("host", hostText place) :: told).foldl (fun hs h => insertHeader h hs) kept
    body := if method = .post then first.body else "" }

end Request

end SqlGateway.Http
