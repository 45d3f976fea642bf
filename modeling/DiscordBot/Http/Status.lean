import DiscordBot.Error
import DiscordBot.Json.Tree
import DiscordBot.Text.Basic
import DiscordBot.Time.Duration

/-! What a reply of the server means. -/

namespace DiscordBot.Http

def reasons : List (Nat × String) := [
  (100, "Continue"), (101, "Switching Protocols"), (102, "Processing"), (200, "OK"),
  (201, "Created"), (202, "Accepted"), (203, "Non Authoritative Information"), (204, "No Content"),
  (205, "Reset Content"), (206, "Partial Content"), (207, "Multi-Status"),
  (208, "Already Reported"), (226, "IM Used"), (300, "Multiple Choices"),
  (301, "Moved Permanently"), (302, "Found"), (303, "See Other"), (304, "Not Modified"),
  (305, "Use Proxy"), (307, "Temporary Redirect"), (308, "Permanent Redirect"),
  (400, "Bad Request"), (401, "Unauthorized"), (402, "Payment Required"), (403, "Forbidden"),
  (404, "Not Found"), (405, "Method Not Allowed"), (406, "Not Acceptable"),
  (407, "Proxy Authentication Required"), (408, "Request Timeout"), (409, "Conflict"),
  (410, "Gone"), (411, "Length Required"), (412, "Precondition Failed"),
  (413, "Payload Too Large"), (414, "URI Too Long"), (415, "Unsupported Media Type"),
  (416, "Range Not Satisfiable"), (417, "Expectation Failed"), (418, "I'm a teapot"),
  (421, "Misdirected Request"), (422, "Unprocessable Entity"), (423, "Locked"),
  (424, "Failed Dependency"), (425, "Too Early"), (426, "Upgrade Required"),
  (428, "Precondition Required"), (429, "Too Many Requests"),
  (431, "Request Header Fields Too Large"), (451, "Unavailable For Legal Reasons"),
  (500, "Internal Server Error"), (501, "Not Implemented"), (502, "Bad Gateway"),
  (503, "Service Unavailable"), (504, "Gateway Timeout"), (505, "HTTP Version Not Supported"),
  (506, "Variant Also Negotiates"), (507, "Insufficient Storage"), (508, "Loop Detected"),
  (510, "Not Extended"), (511, "Network Authentication Required")]

def reason (status : Nat) : String := (reasons.lookup status).getD "Unknown"

def defaultRetryAfter : Time.Duration := Time.Duration.ofWholeSeconds 40

def retryAfter (body : String) : Time.Duration :=
  (((Json.parse? body).bind fun j => j.get? "retry_after").bind Json.asFloat?
    |>.bind Time.Duration.ofSeconds?).getD defaultRetryAfter

inductive Verdict where
  | settled (outcome : Except BotError (Option Json))
  | refused (wait : Time.Duration)
  | failed

def isSuccess (status : Nat) : Bool := 200 ≤ status && status < 300

def isServerFailure (status : Nat) : Bool := 500 ≤ status && status < 600

def verdict (status : Nat) (body : String) : Verdict :=
  if isSuccess status then
    if status == 204 || Text.isBlankText body then .settled (.ok none)
    else .settled ((decoded (Json.parse? body)).map some)
  else if status == 429 then .refused (retryAfter body)
  else
    match BotError.ofStatus? status (reason status) with
    | some e => .settled (.error e)
    | none =>
      if isServerFailure status then .failed
      else .settled (.error (.unexpectedStatus status (reason status)))

end DiscordBot.Http
