import DiscordBot.Proofs.Config.TokenLine

/-! The token of a configuration as a reference to the environment. -/

namespace DiscordBot

open Config (Closed Environment replaced substitute)
open Toml (Begins InTable Verbatim)

def reference (name : String) : String := "$\x7b" ++ name ++ "\x7d"

/-- A front of a configuration behind which the next line belongs to the bot's section. -/
structure EndsInBotSection (env : Environment) (before : String) : Prop where
  closed : Closed before.toList
  lines : ∃ lines, InTable "bot" lines ∧
    Begins lines ((substitute env before).toList ++ "token".toList) "token".toList

variable {env : Environment} {before after name v x : String}

lemma toList_reference (name : String) : (reference name).toList =
    '$' :: '\x7b' :: (name.toList ++ ['\x7d']) := by
  rw [reference, String.toList_append, String.toList_append]
  rfl

lemma replaced_reference (hne : name ≠ "") (hname : '\x7d' ∉ name.toList) (r : List Char) :
    replaced env ('$' :: '\x7b' :: (name.toList ++ '\x7d' :: r)) =
      ((env name).getD (reference name)).toList ++ replaced env r := by
  rw [replaced, Config.environmentPieces_reference (mt String.toList_eq_nil_iff.mp hne) hname,
    List.flatMap_cons,
    Config.EnvironmentPiece.replacement, String.ofList_toList]
  cases env name with
  | none => rw [Option.getD_none, toList_reference]; rfl
  | some value => rfl

lemma substitute_tokenLine (hclosed : Closed before.toList) (hx : '$' ∉ x.toList) :
    substitute env (before ++ tokenLine x ++ after) =
      String.ofList (replaced env before.toList ++ ((tokenLine x).toList ++ replaced env after.toList)) := by
  have hplain : '$' ∉ (tokenLine x).toList := by
    rw [toList_tokenLine]
    simp [hx]
  have hhead : ((tokenLine x).toList ++ after.toList).head? ≠ some '\x7b' := by
    rw [toList_tokenLine]
    simp
  change String.ofList (replaced env (before ++ tokenLine x ++ after).toList) = _
  rw [String.toList_append, String.toList_append, List.append_assoc, Config.replaced_append hclosed hhead,
    Config.replaced_plain hplain]

lemma substitute_reference (hclosed : Closed before.toList) (hne : name ≠ "") (hname : '\x7d' ∉ name.toList)
    (hv : env name = some v) :
    substitute env (before ++ tokenLine (reference name) ++ after) =
      String.ofList (replaced env before.toList ++ ((tokenLine v).toList ++ replaced env after.toList)) := by
  have hline : (tokenLine (reference name)).toList ++ after.toList =
      "token = \"".toList ++ '$' :: '\x7b' :: (name.toList ++ '\x7d' :: (['"'] ++ after.toList)) := by
    rw [toList_tokenLine, toList_reference]
    simp
  have hhead : ((tokenLine (reference name)).toList ++ after.toList).head? ≠ some '\x7b' := by
    rw [toList_tokenLine]
    simp
  change String.ofList (replaced env (before ++ tokenLine (reference name) ++ after).toList) = _
  rw [String.toList_append, String.toList_append, List.append_assoc,
    Config.replaced_append hclosed hhead, hline,
    Config.replaced_plain (by decide), replaced_reference hne hname, hv, Option.getD_some,
    Config.replaced_plain (by decide), toList_tokenLine]
  simp

namespace BotConfig

lemma ofText_eq_ok {s : String} {c : BotConfig} :
    ofText env s = .ok c ↔ ∃ ms, Toml.parse? (substitute env s) = some ms ∧
      ofToml? (.table .header ms) = some c := by
  rw [← Option.bind_eq_some_iff, ofText]
  cases (Toml.parse? (substitute env s)).bind fun ms => ofToml? (.table .header ms) <;> simp

/-- A value without quotes, backslashes and control characters reaches the token as it is, and changes nothing
else: next to it the file is read as it would be with a token written out. -/
theorem ofText_reference {c : BotConfig} (hbefore : EndsInBotSection env before) (hne : name ≠ "")
    (hname : '\x7d' ∉ name.toList) (henv : env name = some v) (hv : Verbatim v.toList)
      (hx : Verbatim x.toList)
    (hxne : x ≠ "") (hplain : '$' ∉ x.toList) (hread : ofText env (before ++ tokenLine x ++ after) = .ok c) :
    ofText env (before ++ tokenLine (reference name) ++ after) =
      .ok { c with bot := { c.bot with token := v } } := by
  obtain ⟨hclosed, lines, hin, hbegins⟩ := hbefore
  obtain ⟨ms, hparse, hms⟩ := ofText_eq_ok.mp hread
  rw [substitute_tokenLine hclosed hplain] at hparse
  rw [Config.toList_substitute] at hbegins
  obtain ⟨ms', hparse', hexchanged⟩ := Toml.parse?_tokenLine hbegins hin hx hxne hv hparse
  refine ofText_eq_ok.mpr ⟨ms', ?_, ofToml?_exchanged hexchanged hms⟩
  rw [substitute_reference hclosed hne hname henv, hparse']

lemma exists_ofText {α : Type} {s : String} {f : BotConfig → α} {y : α}
    (h : (ofText env s).toOption.map f = some y) : ∃ c, ofText env s = .ok c ∧ f c = y := by
  obtain ⟨c, hc, hy⟩ := Option.map_eq_some_iff.mp h
  cases hread : ofText env s with
  | error e =>
    rw [hread] at hc
    cases hc
  | ok c' =>
    rw [hread] at hc
    obtain rfl := Option.some.inj hc
    exact ⟨_, rfl, hy⟩

def onlySet (name value : String) : Environment := fun n => if n = name then some value else none

lemma endsInBotSection_header (env : Environment) : EndsInBotSection env "[bot]\n" := by
  have hplain : '$' ∉ "[bot]\n".toList := by decide +kernel
  refine ⟨Config.closed_of_plain hplain, [.table ["bot"]], ⟨[], [], rfl, by simp⟩, ?_⟩
  have hfront : (substitute env "[bot]\n").toList ++ "token".toList = '[' :: "bot]\ntoken".toList := by
    rw [Config.toList_substitute, Config.replaced_of_plain hplain]
    decide +kernel
  have hkeys : Toml.scanKeys "bot]\ntoken".toList.length "bot]\ntoken".toList =
      some (["bot"], ']' :: "\ntoken".toList) := by decide +kernel
  have hend : Toml.endLine "\ntoken".toList = some "token".toList := by decide +kernel
  have hline : Toml.scanLine ('[' :: "bot]\ntoken".toList) = some (.table ["bot"], "token".toList) := by
    have hbare := (Toml.scanBareLine_table (by decide +kernel)).mpr ⟨["bot"], hkeys, rfl⟩
    rw [Toml.scanLine, hbare]
    exact Option.map_eq_some_iff.mpr ⟨_, hend, rfl⟩
  rw [hfront]
  exact ⟨_, rfl, _, hline, rfl⟩

theorem ofText_reference_abc :
    ∃ c, ofText (onlySet "TOKEN" "abc") ("[bot]\n" ++ tokenLine (reference "TOKEN") ++ "\nintents = 5\n") = .ok c ∧
      c.bot.token = "abc" ∧ c.bot.intents = some 5 := by
  have hliteral : ((ofText (onlySet "TOKEN" "abc") ("[bot]\n" ++ tokenLine "x" ++ "\nintents = 5\n")).toOption.map
      fun c => c.bot.intents) = some (some 5) := by
    decide +kernel
  obtain ⟨c, hread, hintents⟩ := exists_ofText hliteral
  exact ⟨_, ofText_reference (endsInBotSection_header _) (by decide) (by decide) rfl (by decide +kernel)
    (by decide +kernel) (by decide) (by decide) hread, rfl, hintents⟩

theorem token_of_injection :
    (∃ c, ofText (onlySet "V" "x\"\nintents = 7 #") ("[bot]\n" ++ tokenLine (reference "V") ++ "\n") = .ok c ∧
      c.bot.token ≠ "x\"\nintents = 7 #" ∧ c.bot.intents = some 7) ∧
    ∃ c, ofText (onlySet "V" "abc") ("# $\x7b\n[bot]\n" ++ tokenLine (reference "V") ++ "\n") = .ok c ∧
      c.bot.token ≠ "abc" := by
  have hinjected : ((ofText (onlySet "V" "x\"\nintents = 7 #")
      ("[bot]\n" ++ tokenLine (reference "V") ++ "\n")).toOption.map fun c => (c.bot.token, c.bot.intents)) =
      some ("x", some 7) := by
    decide +kernel
  have hopen : ((ofText (onlySet "V" "abc")
      ("# $\x7b\n[bot]\n" ++ tokenLine (reference "V") ++ "\n")).toOption.map fun c => c.bot.token) =
      some (reference "V") := by
    decide +kernel
  obtain ⟨c, hread, hfields⟩ := exists_ofText hinjected
  obtain ⟨htoken, hintents⟩ := Prod.mk.inj hfields
  obtain ⟨c', hread', htoken'⟩ := exists_ofText hopen
  exact ⟨⟨c, hread, by rw [htoken]; decide, hintents⟩, c', hread', by rw [htoken']; decide⟩

end BotConfig

end DiscordBot
