import DiscordBot.Proofs.Reencoding.Commands
import DiscordBot.Proofs.Reencoding.Components

/-! Objects of the service that are read, written and read again. -/

namespace DiscordBot

def Survives (α : Type) [JsonForm α] (j : Json) : Prop :=
  ∀ x : α, ofJson? j = some x → ofJson? (toJson x) = some x

lemma Faithful.survives {α : Type} [JsonForm α] [Faithful α] {j : Json} (hj : j.Fits) : Survives α j :=
  fun _ h => Faithful.keeps hj h

def KeepsNumber (α : Type) [Coded α] (j : Json) : Prop :=
  Survives α j ∧ ∀ x : α, ofJson? j = some x → toJson x = j

lemma LawfulCoded.keepsNumber {α : Type} [Coded α] [LawfulCoded α] {j : Json} (hj : j.Fits) :
    KeepsNumber α j :=
  ⟨Faithful.survives hj, fun _ => toJson_coded⟩

structure Reencoded (j : Json) : Prop where
  appCommand : Survives AppCommand j
  commandOption : Survives CommandOption j
  choice : Survives Choice j
  choiceValue : Survives ChoiceValue j
  interaction : Survives Interaction j
  interactionData : Survives InteractionData j
  interactionOption : Survives InteractionOption j
  message : Survives Message j
  channel : Survives Channel j
  invite : Survives Invite j
  user : Survives User j
  guildMember : Survives GuildMember j
  role : Survives Role j
  partialGuild : Survives PartialGuild j
  partialApplication : Survives PartialApplication j
  ready : Survives Ready j
  button : Survives Button j
  selectMenu : Survives SelectMenu j
  component : Survives Component j
  actionRow : Survives ActionRow j
  snowflake : Survives Snowflake j
  channelType : KeepsNumber ChannelType j
  overwriteType : KeepsNumber OverwriteType j
  optionType : KeepsNumber OptionType j
  commandType : KeepsNumber CommandType j
  componentType : KeepsNumber ComponentType j
  buttonStyle : KeepsNumber ButtonStyle j
  interactionType : KeepsNumber InteractionType j
  callbackType : KeepsNumber CallbackType j
  inviteTargetType : KeepsNumber InviteTargetType j
  throttleScope : KeepsNumber ThrottleScope j
  opCode : KeepsNumber OpCode j

theorem Json.Fits.reencoded {j : Json} (hj : j.Fits) : Reencoded j := by
  constructor
  all_goals first | exact Faithful.survives hj | exact LawfulCoded.keepsNumber hj

def mixedRow : Json := .obj [
  ("type", .int 1),
  ("components", .arr [
    .obj [("type", .int 2), ("style", .int 9), ("custom_id", .str "again"), ("url", .null)],
    .obj [("type", .int 3), ("custom_id", .str "speed"), ("options", .arr [
      .obj [("label", .str "slow"), ("value", .str "1"), ("description", .null)]])]])]

theorem mixedRow_reencoded : mixedRow.Fits ∧ Reencoded mixedRow ∧
    ofJson? mixedRow = some (ActionRow.mk .actionRow [
      .button { Button.labelled (.unknown 9) "" with label := none, customId := some "again" },
      .selectMenu (.ofOptions "speed" [⟨"slow", "1", none, none, none⟩])]) := by
  have hfits : mixedRow.Fits := by simp [mixedRow]
  exact ⟨hfits, hfits.reencoded, rfl⟩

end DiscordBot
