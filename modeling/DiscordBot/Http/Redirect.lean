import DiscordBot.Http.Request

/-! Requests that are sent on to another place. -/

namespace DiscordBot.Http

open RateLimit (header?)

def isRedirect (status : Nat) : Bool := [301, 302, 303, 307, 308].contains status

def greatestRedirects : Nat := 10

def turnsToGet (status : Nat) : Bool := [301, 302, 303].contains status

def bodyHeaders : List String := [
  "content-type", "content-length", "content-encoding", "transfer-encoding"]

def secretHeaders : List String := [
  "authorization", "cookie", "cookie2", "proxy-authorization", "www-authenticate"]

def Request.redirected? (r : Request) (reply : Reply) : Option Request := do
  if !isRedirect reply.status then none
  let place ← header? reply.headers "location"
  let url ← (r.url.resolve place).toOption
  let plain := r.method == "GET" || r.method == "HEAD"
  let bodiless := turnsToGet reply.status && (!plain || reply.status == 303)
  let kept := r.headers.filter fun h =>
    h.1 != "referer" && !(bodiless && bodyHeaders.contains h.1)
      && !(r.url.origin != url.origin && secretHeaders.contains h.1)
  let referer := if url.scheme == "http" && r.url.scheme == "https" then []
    else [("referer", r.url.text)]
  some {
    method := if turnsToGet reply.status && !plain then "GET" else r.method
    url := url
    headers := kept ++ referer
    body := if bodiless then none else r.body }

end DiscordBot.Http
