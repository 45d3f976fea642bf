import DiscordBot.Snowflake

/-! Users, members of guilds and their roles, and the guilds and applications that other objects name. -/

namespace DiscordBot

open Json (fields? required optional defaulted field optionalField record)

structure User where
  id : Snowflake
  username : String
  discriminator : Option String
  globalName : Option String
  avatar : Option String
  bot : Option Bool
  deriving DecidableEq, Repr, Inhabited

namespace User

def fieldNames : List String :=
  ["id", "username", "discriminator", "global_name", "avatar", "bot"]

def toJson (u : User) : Json := record [
  field "id" u.id,
  field "username" u.username,
  optionalField "discriminator" u.discriminator,
  optionalField "global_name" u.globalName,
  optionalField "avatar" u.avatar,
  optionalField "bot" u.bot]

def ofJson? (j : Json) : Option User := do
  let fs ← fields? fieldNames j
  some {
    id := ← required fs "id"
    username := ← required fs "username"
    discriminator := ← optional fs "discriminator"
    globalName := ← optional fs "global_name"
    avatar := ← optional fs "avatar"
    bot := ← optional fs "bot" }

instance : JsonForm User := ⟨toJson, ofJson?⟩

def mention (u : User) : String := "<@" ++ u.id.text ++ ">"

def displayName (u : User) : String :=
  match u.discriminator with
  | none | some "0" => u.username
  | some d => u.username ++ "#" ++ d

end User

structure GuildMember where
  user : Option User
  nick : Option String
  roles : List Snowflake
  joinedAt : Option Time.Timestamp
  permissions : Option String
  deriving DecidableEq, Repr, Inhabited

namespace GuildMember

def fieldNames : List String := ["user", "nick", "roles", "joined_at", "permissions"]

def toJson (m : GuildMember) : Json := record [
  optionalField "user" m.user,
  optionalField "nick" m.nick,
  field "roles" m.roles,
  optionalField "joined_at" m.joinedAt,
  optionalField "permissions" m.permissions]

def ofJson? (j : Json) : Option GuildMember := do
  let fs ← fields? fieldNames j
  some {
    user := ← optional fs "user"
    nick := ← optional fs "nick"
    roles := ← defaulted fs "roles" []
    joinedAt := ← optional fs "joined_at"
    permissions := ← optional fs "permissions" }

instance : JsonForm GuildMember := ⟨toJson, ofJson?⟩

end GuildMember

structure Role where
  id : Snowflake
  name : String
  color : UInt32
  position : Int32
  permissions : String
  mentionable : Bool
  deriving DecidableEq, Inhabited

namespace Role

def fieldNames : List String := ["id", "name", "color", "position", "permissions", "mentionable"]

def toJson (r : Role) : Json := record [
  field "id" r.id,
  field "name" r.name,
  field "color" r.color,
  field "position" r.position,
  field "permissions" r.permissions,
  field "mentionable" r.mentionable]

def ofJson? (j : Json) : Option Role := do
  let fs ← fields? fieldNames j
  some {
    id := ← required fs "id"
    name := ← required fs "name"
    color := ← defaulted fs "color" 0
    position := ← defaulted fs "position" 0
    permissions := ← defaulted fs "permissions" ""
    mentionable := ← defaulted fs "mentionable" false }

instance : JsonForm Role := ⟨toJson, ofJson?⟩

end Role

structure PartialGuild where
  id : Snowflake
  name : Option String
  icon : Option String
  unavailable : Option Bool
  deriving DecidableEq, Repr, Inhabited

namespace PartialGuild

def fieldNames : List String := ["id", "name", "icon", "unavailable"]

def toJson (g : PartialGuild) : Json := record [
  field "id" g.id,
  optionalField "name" g.name,
  optionalField "icon" g.icon,
  optionalField "unavailable" g.unavailable]

def ofJson? (j : Json) : Option PartialGuild := do
  let fs ← fields? fieldNames j
  some {
    id := ← required fs "id"
    name := ← optional fs "name"
    icon := ← optional fs "icon"
    unavailable := ← optional fs "unavailable" }

instance : JsonForm PartialGuild := ⟨toJson, ofJson?⟩

end PartialGuild

structure PartialApplication where
  id : Snowflake
  name : Option String
  flags : Option UInt64
  deriving DecidableEq, Repr, Inhabited

namespace PartialApplication

def fieldNames : List String := ["id", "name", "flags"]

def toJson (a : PartialApplication) : Json := record [
  field "id" a.id,
  optionalField "name" a.name,
  optionalField "flags" a.flags]

def ofJson? (j : Json) : Option PartialApplication := do
  let fs ← fields? fieldNames j
  some {
    id := ← required fs "id"
    name := ← optional fs "name"
    flags := ← optional fs "flags" }

instance : JsonForm PartialApplication := ⟨toJson, ofJson?⟩

end PartialApplication

end DiscordBot
