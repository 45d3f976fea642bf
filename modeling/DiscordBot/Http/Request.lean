import DiscordBot.Json.Printer
import DiscordBot.RateLimit
import DiscordBot.Url.Text

/-! Requests to the server and its replies. -/

namespace DiscordBot.Http

open RateLimit (Header header? lowerName)

structure Request where
  method : String
  url : Url
  headers : List Header
  body : Option String
  deriving DecidableEq

structure Reply where
  status : Nat
  headers : List Header
  body : String
  delay : Time.Duration := 0
  deriving DecidableEq

def Reply.textFor (r : Reply) (method : String) : String :=
  if method == "HEAD" || r.status == 204 || r.status == 304 then "" else r.body

structure Options where
  body : Option String := none
  contentType : Option String := none
  headers : Option Json := none
  params : Option Json := none

def isHeaderValue (s : String) : Bool :=
  s.toList.all fun c => c == '\t' || (0x20 ≤ c.toNat && c.toNat != 0x7f)

def isHeaderNameChar (c : Char) : Bool :=
  c.isAlphanum
    || ['!', '#', '$', '%', '&', '\'', '*', '+', '-', '.', '^', '_', '\x60', '|', '~'].contains c

def isHeaderName (s : String) : Bool := !s.isEmpty && s.toList.all isHeaderNameChar

def validHeader? (h : Header) : Option Header :=
  if isHeaderName h.1 && isHeaderValue h.2 then some (lowerName h.1, h.2) else none

def formText (s : String) : List Char :=
  s.toList.flatMap fun c =>
    if c.isAlphanum || ['*', '-', '.', '_'].contains c then [c]
    else if c == ' ' then ['+']
    else (String.utf8EncodeChar c).flatMap Url.Percent.encodeByte

def formPair (p : String × String) : List Char := formText p.1 ++ '=' :: formText p.2

def addParams (u : Url) (params : List (String × String)) : Url :=
  match params with
  | [] => u
  | ps =>
    let given := match u.query with
      | some q => if q.isEmpty then [] else [q.toList]
      | none => []
    { u with query := some (String.ofList (['&'].intercalate (given ++ ps.map formPair))) }

def addDefaults (defaults headers : List Header) : List Header :=
  headers ++ defaults.filter fun d => headers.all fun h => h.1 != d.1

def Request.make? (defaults : List Header) (method url : String) (o : Options) : Option Request := do
  let u ← (Url.parse url).toOption
  if u.scheme != "http" && u.scheme != "https" then none
  let own ← (("content-type", o.contentType.getD "application/json")
    :: (o.headers.map Json.toStringPairs).getD []).mapM validHeader?
  some {
    method := method
    url := addParams u ((o.params.map Json.toStringPairs).getD [])
    headers := addDefaults defaults own
    body := o.body }

end DiscordBot.Http
