import DiscordBot.Proofs.Command.Agreement
import DiscordBot.Proofs.Command.NormalForm

/-! What is uploaded of a command reads back as that command, without what the service assigns. -/

namespace DiscordBot

lemma OptionType.ofCode_code {k : OptionType} (h : ∀ n, k = .unknown n → ofCode n = .unknown n) :
    ofCode k.code = k := by
  cases k with
  | unknown n => exact h n rfl
  | _ => rfl

lemma ChannelType.ofCode_code {t : ChannelType} (h : ∀ n, t = .unknown n → ofCode n = .unknown n) :
    ofCode t.code = t := by
  cases t with
  | unknown n => exact h n rfl
  | _ => rfl

lemma CommandType.ofCode_code {k : CommandType} (h : ∀ n, k = .unknown n → ofCode n = .unknown n) :
    ofCode k.code = k := by
  cases k with
  | unknown n => exact h n rfl
  | _ => rfl

namespace CommandOption

structure Decoded (o : CommandOption) : Prop where
  kind : ∀ n, o.kind = .unknown n → OptionType.ofCode n = .unknown n
  channelTypes : ∀ t ∈ o.channelTypes.getD [], ∀ n, t = .unknown n → ChannelType.ofCode n = .unknown n
  choices : ∀ c ∈ o.choices.getD [], ∀ x, c.value = .number x → x.isFinite = true
  minValue : ∀ x ∈ o.minValue, x.isFinite = true
  maxValue : ∀ x ∈ o.maxValue, x.isFinite = true

lemma Decoded.finite {o : CommandOption} (h : o.Decoded) {c : Choice} (hc : c ∈ o.choices.getD []) :
    c.value.Finite := by
  cases hv : c.value with
  | number x => exact h.choices c hc x hv
  | _ => trivial

lemma Everywhere.plain {o : CommandOption} (h : o.Everywhere Decoded) : o.Plain := by
  induction h with
  | intro here _ ih =>
    exact .intro (OptionType.ofCode_code here.kind) (fun _ hc => here.finite hc)
      (fun t ht => ChannelType.ofCode_code (here.channelTypes t ht)) here.minValue here.maxValue ih

end CommandOption

namespace AppCommand

variable {c : AppCommand}

/-- If all numbers are finite and all kinds decoded, the payload of a command is read as the command without
the fields that the service assigns; put into its guild again, it agrees with the command. -/
theorem payload_readsBack (hkind : ∀ n, c.kind = .unknown n → CommandType.ofCode n = .unknown n)
    (hoptions : ∀ o ∈ c.options.getD [], o.Everywhere CommandOption.Decoded) :
    ofJson? c.payload =
        some { c with id := none, applicationId := none, guildId := none, version := none } ∧
      ∀ d, ofJson? c.payload = some d →
        c.agrees { d with guildId := c.guildId } = true ∧
        { d with guildId := c.guildId }.agrees c = true := by
  have hplain : c.Plain := ⟨CommandType.ofCode_code hkind, fun o ho => (hoptions o ho).plain⟩
  refine ⟨hplain.ofJson_payload, fun d hd => ?_⟩
  obtain rfl := Option.some.inj (hd.symm.trans hplain.ofJson_payload)
  have hagrees : c.agrees { c.uploaded with guildId := c.guildId } = true := hplain.agrees rfl rfl
  exact ⟨hagrees, agrees_symm hagrees⟩

lemma level_decoded : level.Everywhere CommandOption.Decoded := by
  have hzero : (0 : Float).isFinite = true := by decide
  have heleven : (11 : Float).isFinite = true := by decide
  exact .intro ⟨by simp [level, CommandOption.named], by simp [level, CommandOption.named],
    fun _ hc _ hx => level_number hc hx ▸ hzero, by simp [level, CommandOption.named],
    by simpa [level] using heleven⟩ (by simp [level, CommandOption.named])

theorem volume_readsBack :
    let c := { volume level with id := some ⟨5⟩, guildId := some ⟨7⟩ }
    ofJson? c.payload = some (volume level) ∧
      c.agrees { volume level with guildId := some ⟨7⟩ } = true := by
  intro c
  have hoptions : ∀ o ∈ c.options.getD [], o.Everywhere CommandOption.Decoded := by
    intro o ho
    obtain rfl := List.mem_singleton.mp ho
    refine .intro ⟨by simp [CommandOption.named], by simp [CommandOption.named],
      by simp [CommandOption.named], by simp [CommandOption.named], by simp [CommandOption.named]⟩
      fun p hp => ?_
    exact List.mem_singleton.mp hp ▸ level_decoded
  obtain ⟨hread, hagrees⟩ := payload_readsBack (c := c) (by simp [c, volume, named]) hoptions
  exact ⟨hread, (hagrees _ hread).1⟩

end AppCommand

end DiscordBot
