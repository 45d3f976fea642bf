import DiscordBot.Config.Validation
import DiscordBot.Proofs.Config.Substitution
import DiscordBot.Proofs.Config.Validation

/-! Tokens that still hold a reference because its variable is not set. Validation looks for one at the front of the
token only. -/

namespace DiscordBot

open Config (Environment Refers)

def Unresolved (env : Environment) (token name : String) : Prop :=
  name ≠ "" ∧ '\x7d' ∉ name.toList ∧ env name = none ∧
    ∃ before after, token = before ++ reference name ++ after

def OpensReference (token : String) : Prop := "$\x7b".toList <+: token.toList

instance (token : String) : Decidable (OpensReference token) := inferInstanceAs (Decidable (_ <+: _))

def unsetToken (token : String) : BotError :=
  .missingField ("bot.token (environment variable " ++ token ++ " is not set)")

def BotConfig.withToken (c : BotConfig) (token : String) : BotConfig :=
  { c with bot := { c.bot with token := token } }

lemma not_blank_of_mem {token : String} (h : '$' ∈ token.toList) : Text.isBlankText token = false :=
  List.all_eq_false.mpr ⟨'$', h, by decide⟩

lemma OpensReference.not_blank {token : String} (h : OpensReference token) : Text.isBlankText token = false :=
  not_blank_of_mem (h.subset (by decide))

lemma Unresolved.not_blank {env : Environment} {token name : String} (h : Unresolved env token name) :
    Text.isBlankText token = false := by
  obtain ⟨-, -, -, before, after, rfl⟩ := h
  apply not_blank_of_mem
  simp [toList_reference]

namespace BotSection

variable {b : BotSection}

def checkConnection (b : BotSection) : Except BotError Unit := do
  b.apiBase.forM (Config.checkUrl "bot.api_base")
  b.gatewayUrl.forM (Config.checkUrl "bot.gateway_url")
  b.apiVersion.forM fun v => Config.checkIntRange "bot.api_version" v.toNat 6 10
  b.maxRetries.forM fun n => Config.checkPositive "bot.max_retries" n.toNat 1

lemma validate_eq (b : BotSection) : b.validate = (Config.checkNonBlank "bot.token" b.token >>= fun _ =>
    if "$\x7b".toList.isPrefixOf b.token.toList then .error (unsetToken b.token) else b.checkConnection) := by
  rw [validate]
  apply bind_congr
  intro
  split
  · rfl
  · rfl

lemma validate_of_opens (h : OpensReference b.token) : b.validate = .error (unsetToken b.token) := by
  rw [validate_eq, Config.checkNonBlank_eq_ok.mpr h.not_blank, if_pos (List.isPrefixOf_iff_prefix.mpr h)]
  rfl

lemma validate_of_plain (hblank : Text.isBlankText b.token = false) (h : ¬OpensReference b.token) :
    b.validate = b.checkConnection := by
  rw [validate_eq, Config.checkNonBlank_eq_ok.mpr hblank, if_neg (mt List.isPrefixOf_iff_prefix.mp h)]
  rfl

end BotSection

namespace BotConfig

variable {c : BotConfig} {env : Environment} {name : String}

/-- A reference to a variable that is not set is an error if it stands at the front of the token, or if another
reference is begun there. Anywhere else it is not seen: the configuration is judged as it would be with any other
token. -/
theorem unset_reference_in_front (h : Unresolved env c.bot.token name) :
    (OpensReference c.bot.token → c.validate = .error (unsetToken c.bot.token)) ∧
    (¬OpensReference c.bot.token → ∀ token, Text.isBlankText token = false → ¬OpensReference token →
      c.validate = (c.withToken token).validate) := by
  constructor
  · intro hopens
    rw [validate, BotSection.validate_of_opens hopens]
    rfl
  · intro hplain token hblank htoken
    rw [validate, validate, BotSection.validate_of_plain h.not_blank hplain,
      BotSection.validate_of_plain (b := (c.withToken token).bot) hblank htoken]
    rfl

def ofToken (token : String) : BotConfig where
  bot := { token := token, apiVersion := none, maxRetries := none, intents := none, apiBase := none,
           gatewayUrl := none }
  commands := []

theorem unset_reference_in_front_token :
    let env : Environment := fun _ => none
    Unresolved env "$\x7bTOKEN\x7d" "TOKEN" ∧
    (ofToken "$\x7bTOKEN\x7d").validate = .error (unsetToken "$\x7bTOKEN\x7d") ∧
    Unresolved env "bot-$\x7bTOKEN\x7d" "TOKEN" ∧
    (ofToken "bot-$\x7bTOKEN\x7d").validate = (ofToken "bot").validate := by
  intro env
  have hfront : Unresolved env "$\x7bTOKEN\x7d" "TOKEN" := ⟨by decide, by decide, rfl, "", "", by decide⟩
  have hinside : Unresolved env "bot-$\x7bTOKEN\x7d" "TOKEN" :=
    ⟨by decide, by decide, rfl, "bot-", "", by decide⟩
  refine ⟨hfront, ?_, hinside, ?_⟩
  · exact (unset_reference_in_front (c := ofToken _) hfront).1 (by decide)
  · exact (unset_reference_in_front (c := ofToken _) hinside).2 (by decide) "bot" (by decide) (by decide)

theorem unset_reference_accepted : ∃ env s name c, ofText env s = .ok c ∧ Refers s.toList name.toList ∧
    Unresolved env c.bot.token name ∧ c.validate = .ok () := by
  have hread : ((ofText (fun _ => none) "[bot]\ntoken = \"bot-$\x7bTOKEN\x7d\"\n").toOption.map
      fun c => (c.bot.token, c.validate.toOption)) = some ("bot-$\x7bTOKEN\x7d", some ()) := by
    decide +kernel
  obtain ⟨c, hc, hfields⟩ := exists_ofText hread
  obtain ⟨htoken, hvalid⟩ := Prod.mk.inj hfields
  refine ⟨_, _, "TOKEN", c, hc, Config.refers_iff.mpr (by decide +kernel), ?_, ?_⟩
  · rw [htoken]
    exact ⟨by decide, by decide, rfl, "bot-", "", by decide⟩
  · cases h : c.validate with
    | ok u => rfl
    | error e =>
      rw [h] at hvalid
      cases hvalid

end BotConfig

end DiscordBot
