import DiscordBot.Cooldown.ThrottleScope
import DiscordBot.Gateway.Frame
import DiscordBot.Interaction
import DiscordBot.Invite
import DiscordBot.Proofs.Json.Faithful

/-! The kinds on the wire: each keeps every number that it is read from. -/

namespace DiscordBot

instance : LawfulCoded ChannelType where
  code_ofCode n := by
    change ChannelType.code (ChannelType.ofCode n) = n
    fun_cases ChannelType.ofCode n <;> rfl

instance : LawfulCoded OverwriteType where
  code_ofCode n := by
    change OverwriteType.code (OverwriteType.ofCode n) = n
    fun_cases OverwriteType.ofCode n <;> rfl

instance : LawfulCoded OptionType where
  code_ofCode n := by
    change OptionType.code (OptionType.ofCode n) = n
    fun_cases OptionType.ofCode n <;> rfl

instance : LawfulCoded CommandType where
  code_ofCode n := by
    change CommandType.code (CommandType.ofCode n) = n
    fun_cases CommandType.ofCode n <;> rfl

instance : LawfulCoded ComponentType where
  code_ofCode n := by
    change ComponentType.code (ComponentType.ofCode n) = n
    fun_cases ComponentType.ofCode n <;> rfl

instance : LawfulCoded ButtonStyle where
  code_ofCode n := by
    change ButtonStyle.code (ButtonStyle.ofCode n) = n
    fun_cases ButtonStyle.ofCode n <;> rfl

instance : LawfulCoded InteractionType where
  code_ofCode n := by
    change InteractionType.code (InteractionType.ofCode n) = n
    fun_cases InteractionType.ofCode n <;> rfl

instance : LawfulCoded CallbackType where
  code_ofCode n := by
    change CallbackType.code (CallbackType.ofCode n) = n
    fun_cases CallbackType.ofCode n <;> rfl

instance : LawfulCoded InviteTargetType where
  code_ofCode n := by
    change InviteTargetType.code (InviteTargetType.ofCode n) = n
    fun_cases InviteTargetType.ofCode n <;> rfl

instance : LawfulCoded ThrottleScope where
  code_ofCode n := by
    change ThrottleScope.code (ThrottleScope.ofCode n) = n
    fun_cases ThrottleScope.ofCode n <;> rfl

instance : LawfulCoded OpCode where
  code_ofCode n := by
    change OpCode.code (OpCode.ofCode n) = n
    fun_cases OpCode.ofCode n <;> rfl

end DiscordBot
