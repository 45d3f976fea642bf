import DiscordBot.Url.Basic

/-! URLs written out, and texts that are read as seen from a URL. -/

namespace DiscordBot.Url

def Host.text : Host → String
  | name s => s
  | ipv4 n =>
    Text.joinWith "." ([n >>> 24, n >>> 16 % 256, n >>> 8 % 256, n % 256].map toString)
  | ipv6 pieces => "[" ++ ipv6Text pieces ++ "]"

def origin (u : Url) : String :=
  u.scheme ++ ":" ++ match u.host with
    | some h => "//" ++ h.text ++ match u.port with
      | some n => ":" ++ toString n
      | none => ""
    | none => if u.scheme == "file" then "//" else ""

def target (u : Url) : String :=
  u.path ++ match u.query with
    | some q => "?" ++ q
    | none => ""

def text (u : Url) : String := u.origin ++ u.target

def folder (u : Url) : List Char := (u.path.toList.reverse.dropWhile (· != '/')).reverse

def resolve (u : Url) (s : String) : Except Fault Url :=
  let cs := trimmed s
  let here (path : List Char) : Except Fault Url :=
    let (path, query) := readTarget true path
    .ok { u with path := path, query := query }
  let relative (cs : List Char) : Except Fault Url :=
    match cs with
    | [] => .ok u
    | c :: r =>
      if isSlash true c then
        match r with
        | d :: rest =>
          if isSlash true d then readAuthority u.scheme (rest.dropWhile (isSlash true)) else here cs
        | [] => here cs
      else if c == '?' then .ok { u with query := (readTarget true cs).2 }
      else if c == '#' then .ok u
      else here (u.folder ++ cs)
  match splitScheme? cs with
  | some (scheme, rest) =>
    if scheme == u.scheme && !(rest.take 2).all (isSlash true) then relative rest
    else parse s
  | none => relative cs

end DiscordBot.Url
