import DiscordBot.Command.Registered
import DiscordBot.Cooldown.SlidingWindow

/-! Cooldowns of commands: one window for each command and whoever shares its cooldown. -/

namespace DiscordBot.Cooldown

open Time (Instant)

/-- A command's qualified name and the id of those who share its cooldown, if there is one. -/
abbrev WindowKey := String × Option Snowflake

def scopeKey (ctx : MessageContext) : ThrottleScope → Option Snowflake
  | .guild => ctx.guildId
  | .channel => ctx.channelId
  | .global => none
  | .user | .unknown _ => some ctx.author.id

def windowKey (ctx : MessageContext) (c : RegisteredCommand) : WindowKey :=
  (c.qualifiedName, scopeKey ctx c.cooldownScope)

structure Throttler where
  windows : List (WindowKey × SlidingWindow) := []
  poisoned : Bool := false
  deriving Inhabited

namespace Throttler

def window (t : Throttler) (key : WindowKey) : SlidingWindow := (t.windows.lookup key).getD {}

def setWindow (key : WindowKey) (w : SlidingWindow) :
    List (WindowKey × SlidingWindow) → List (WindowKey × SlidingWindow)
  | [] => [(key, w)]
  | (k, v) :: rest => if k == key then (key, w) :: rest else (k, v) :: setWindow key w rest

def handle (t : Throttler) (now : Instant) (ctx : MessageContext) (c : RegisteredCommand) :
    Result BotError Unit × Throttler :=
  if c.cooldown == 0 then (.ok (), t)
  else
    match Time.Duration.ofSeconds? c.cooldownScale with
    | none => (.error (.invalidValue ("cooldown_scale of `" ++ c.qualifiedName ++ "`")
        (Decimal.plainText c.cooldownScale)
        "Cooldown scale must be a finite, non-negative number of seconds"), t)
    | some period =>
      if t.poisoned then (.error (.handler "throttle state poisoned"), t)
      else
        let key := windowKey ctx c
        let (verdict, w) := (t.window key).hit now c.cooldown.toNat period
        let windows := setWindow key w t.windows
        match verdict with
        | .ok () => (.ok (), ⟨windows, false⟩)
        | .error wait => (.error (.cooldown c.qualifiedName wait.toSeconds), ⟨windows, false⟩)
        | .overflow => (.overflow, ⟨windows, true⟩)

end Throttler

end DiscordBot.Cooldown
