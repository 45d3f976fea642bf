import DiscordBot.Config.Bot
import DiscordBot.Proofs.Config.Environment
import DiscordBot.Proofs.Toml.Exchange

/-! The line of a configuration that gives the token. -/

namespace DiscordBot

open Toml (Begins Exchanged ExchangedAt InTable Line Members Value Verbatim)

def tokenLine (x : String) : String := "token = \"" ++ x ++ "\""

lemma toList_tokenLine (x : String) :
    (tokenLine x).toList = "token".toList ++ ' ' :: '=' :: ' ' :: '"' :: (x.toList ++ ['"']) := by
  rw [tokenLine, String.toList_append, String.toList_append, List.append_assoc]
  rfl

namespace Toml

variable {before after t : List Char} {x w : String}

lemma scanValue_verbatim {fuel depth : Nat} {x : List Char} (hx : Verbatim x)
    (ht : x = [] → t.head? ≠ some '"') :
    scanValue (fuel + 1) depth ('"' :: (x ++ '"' :: t)) = some (.string (String.ofList x), t) := by
  have hopen : ∀ r, x ++ '"' :: t ≠ '"' :: '"' :: r := by
    rintro r h
    cases x with
    | nil =>
      obtain rfl := (List.cons.inj h).2
      exact ht rfl rfl
    | cons c x => exact (List.forall_mem_cons.mp hx).1.1 (List.cons.inj h).1
  rw [scanValue]
  · rw [hx.scanBasic]
    rfl
  · exact hopen

lemma scanKeys_token (fuel : Nat) (r : List Char) :
    scanKeys (fuel + 1) ("token".toList ++ ' ' :: '=' :: r) = some (["token"], '=' :: r) := rfl

lemma scanBareLine_tokenLine (hx : Verbatim x.toList) (ht : x = "" → t.head? ≠ some '"') :
    scanBareLine ((tokenLine x).toList ++ t) = some (.pair ["token"] (.string x), t) := by
  have hline : (tokenLine x).toList ++ t = "token".toList ++ ' ' :: '=' :: ' ' :: '"' :: (x.toList ++ '"' :: t) := by
    rw [toList_tokenLine]
    simp
  have hkeys := scanKeys_token ("oken".toList ++ ' ' :: '=' :: ' ' :: '"' :: (x.toList ++ '"' :: t)).length
    (' ' :: '"' :: (x.toList ++ '"' :: t))
  have hvalue : scanValue (' ' :: '"' :: (x.toList ++ '"' :: t)).length greatestDepth
      ('"' :: (x.toList ++ '"' :: t)) = some (.string (String.ofList x.toList), t) :=
    scanValue_verbatim hx fun h => ht (String.toList_eq_nil_iff.mp h)
  rw [String.ofList_toList] at hvalue
  rw [hline]
  refine (scanBareLine_pair ?_).mpr ⟨["token"], _, _, hkeys, hvalue, rfl⟩
  simp

lemma scanLine_tokenLine (hx : Verbatim x.toList) (ht : x = "" → t.head? ≠ some '"') :
    scanLine ((tokenLine x).toList ++ t) = (endLine t).map (.pair ["token"] (.string x), ·) := by
  rw [scanLine, scanBareLine_tokenLine hx ht]
  rfl

theorem parse?_tokenLine {lines : List Line} {ms : Members}
    (hbegins : Begins lines (before ++ "token".toList) "token".toList) (hin : InTable "bot" lines)
    (hx : Verbatim x.toList) (hne : x ≠ "") (hw : Verbatim w.toList)
    (hparse : parse? (String.ofList (before ++ ((tokenLine x).toList ++ after))) = some ms) :
    ∃ ms', parse? (String.ofList (before ++ ((tokenLine w).toList ++ after))) = some ms' ∧
      Exchanged w ["bot", "token"] ms ms' := by
  obtain ⟨all, header, hall, henter⟩ := parse?_eq_some.mp hparse
  obtain ⟨pre, hpre, halike⟩ := hbegins.alike
  obtain rfl : before = pre := List.append_cancel_right hpre
  -- Whatever the token is, its line begins with the same letters, and the lines before look no further.
  have hbefore : ∀ y, Begins lines (before ++ ((tokenLine y).toList ++ after)) ((tokenLine y).toList ++ after) :=
    fun y => halike _ (by rw [toList_tokenLine]; rfl)
  rw [String.toList_ofList] at hall
  obtain ⟨rest, rfl, hrest⟩ := (hbefore x).split hall
  cases rest with
  | nil =>
    have hnil : (tokenLine x).toList ++ after = [] := hrest
    rw [toList_tokenLine] at hnil
    cases hnil
  | cons line later =>
    obtain ⟨r, hline, hlater⟩ := hrest
    rw [scanLine_tokenLine hx fun h => (hne h).elim] at hline
    obtain ⟨r, hend, heq⟩ := Option.map_eq_some_iff.mp hline
    obtain ⟨rfl, rfl⟩ := Prod.mk.inj heq
    have hafter : after.head? ≠ some '"' := by
      intro h
      obtain ⟨rest, rfl⟩ := List.head?_eq_some_iff.mp h
      cases hend
    obtain ⟨ms', henter', hms⟩ := exchanged_of_inTable w hin henter
    refine ⟨ms', parse?_eq_some.mpr ⟨lines ++ .pair ["token"] (.string w) :: later, header, ?_, henter'⟩, hms⟩
    rw [String.toList_ofList]
    refine begins_append.mpr ⟨_, hbefore w, r, ?_, hlater⟩
    rw [scanLine_tokenLine hw fun _ => hafter, hend]
    rfl

end Toml

namespace Toml.Record

variable {α : Type} {name key : String} {R : Value → Value → Prop} {ms ms' : Members}
    {read : Value → Option α}

lemma optional_exchanged (h : ExchangedAt key R ms ms') (hname : name ≠ key) (positional : Bool) :
    optional ⟨ms', positional⟩ name read = optional ⟨ms, positional⟩ name read := by
  simp only [optional, h.lookup_of_ne hname]

lemma defaulted_exchanged (h : ExchangedAt key R ms ms') (hname : name ≠ key) (positional : Bool)
    (value : α) :
    defaulted ⟨ms', positional⟩ name read value = defaulted ⟨ms, positional⟩ name read value := by
  simp only [defaulted, h.lookup_of_ne hname]

end Toml.Record

open Toml.Record

lemma BotSection.ofToml?_exchanged {form : Toml.TableForm} {ms ms' : Members} {w : String} {b : BotSection}
    (h : Exchanged w ["token"] ms ms') (hread : ofToml? (.table form ms) = some b) :
    ofToml? (.table form ms') = some { b with token := w } := by
  obtain ⟨v, v', hlookup, hlookup', ⟨-, ⟨x, rfl⟩, rfl⟩ | ⟨_, _, _, _, _, hfalse⟩⟩ := h.lookup
  · simp only [ofToml?, Toml.Record.ofValue?, Option.bind_eq_bind, Option.bind_some, required,
    hlookup, hlookup',
      Value.string?] at hread ⊢
    simp only [optional_exchanged h (show "api_version" ≠ "token" by decide),
      optional_exchanged h (show "max_retries" ≠ "token" by decide),
      optional_exchanged h (show "intents" ≠ "token" by decide),
      optional_exchanged h (show "api_base" ≠ "token" by decide),
      optional_exchanged h (show "gateway_url" ≠ "token" by decide)]
    simp only [Option.bind_eq_some_iff] at hread ⊢
    obtain ⟨apiVersion, hversion, maxRetries, hretries, intents, hintents, apiBase, hbase, gatewayUrl, hurl, hb⟩ := hread
    cases hb
    exact ⟨apiVersion, hversion, maxRetries, hretries, intents, hintents, apiBase, hbase, gatewayUrl, hurl, rfl⟩
  · exact hfalse.elim

theorem BotConfig.ofToml?_exchanged {ms ms' : Members} {w : String} {c : BotConfig}
    (h : Exchanged w ["bot", "token"] ms ms') (hread : ofToml? (.table .header ms) = some c) :
    ofToml? (.table .header ms') = some { c with bot := { c.bot with token := w } } := by
  obtain ⟨v, v', hlookup, hlookup', ⟨hfalse, -⟩ | ⟨form, sub, sub', rfl, rfl, hsub⟩⟩ := h.lookup
  · cases hfalse
  simp only [ofToml?, Toml.Record.ofValue?, Option.bind_eq_bind, Option.bind_some, required, hlookup,
    hlookup',
    defaulted_exchanged h (show "commands" ≠ "bot" by decide), Option.bind_eq_some_iff] at hread ⊢
  obtain ⟨bot, hbot, commands, hcommands, hc⟩ := hread
  cases hc
  exact ⟨_, BotSection.ofToml?_exchanged hsub hbot, commands, hcommands, rfl⟩

end DiscordBot
