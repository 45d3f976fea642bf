import DiscordBot.Proofs.Command.Agreement
import DiscordBot.Proofs.Published.ReadBack
import DiscordBot.Proofs.Sync.ListStore
import DiscordBot.Proofs.Sync.Progress

/-! A sync brings the stored commands in line, so that the next one has nothing to do. -/

namespace DiscordBot

open Rest (Program Session)

namespace CommandStore

variable {σ : Type} {s : CommandSync} {store : CommandStore σ s} {t t' : Session σ}
  {guilds : List Snowflake}

lemma upsertKey_of_agrees {c e : AppCommand} (h : c.agrees e = true) : c.upsertKey = e.upsertKey := by
  simp only [AppCommand.agrees, Bool.and_eq_true, beq_iff_eq] at h
  obtain ⟨⟨⟨⟨⟨hname, hkind⟩, hguild⟩, -⟩, -⟩, -⟩ := h
  simp [AppCommand.upsertKey, hname, hkind, hguild]

lemma agreeing_stays (hkeys : (s.registry.published.map AppCommand.upsertKey).Nodup)
    (hplain : ∀ c ∈ s.registry.published, c.Plain)
    (hids : store.DistinctIds t.state) (hsees : store.Sees guilds t)
    (h : (s.bringInLine guilds).run store.server t = (.ok (), t')) {c e : AppCommand}
    (hc : c ∈ s.registry.published) (he : e ∈ store.stored t.state c.guildId)
    (hagrees : c.agrees e = true) (hlisted : e ∈ store.listed guilds t.state) :
    e ∈ store.stored t'.state c.guildId := by
  have hkey := upsertKey_of_agrees hagrees
  simp only [AppCommand.upsertKey, Prod.mk.injEq] at hkey
  have hstale : CommandSync.isStale s.registry.published e = false :=
    CommandSync.not_isStale.mpr ⟨c, hc, hkey.1, hkey.2.2⟩
  refine stays hids hsees h he hstale ?_
  -- What would take its place has the key of `c`, and so is `c`, which is not missing.
  rintro d hd ⟨hguild, hkind, hname⟩
  obtain ⟨hdmem, hmissing⟩ := CommandSync.mem_missing.mp hd
  rw [(hplain d hdmem).kind] at hkind
  have hdc : d = c := by
    refine List.inj_on_of_nodup_map hkeys hdmem hc ?_
    simp only [AppCommand.upsertKey, Prod.mk.injEq]
    exact ⟨hname.symm.trans hkey.1.symm, hkind.symm.trans hkey.2.1.symm, hguild.symm⟩
  rw [hdc] at hmissing
  rw [hmissing e hlisted hstale] at hagrees
  cases hagrees

lemma agrees_after (hkeys : (s.registry.published.map AppCommand.upsertKey).Nodup)
    (hplain : ∀ c ∈ s.registry.published, c.Plain)
    (hids : store.DistinctIds t.state) (hsees : store.Sees guilds t)
    (h : (s.bringInLine guilds).run store.server t = (.ok (), t')) {c : AppCommand}
    (hc : c ∈ s.registry.published) : ∃ e ∈ store.stored t'.state c.guildId, c.agrees e = true := by
  obtain ⟨u, v, -, -, hadd⟩ := bringInLine_ok hsees h
  -- A missing command was just added; one that is not agreed with something before.
  by_cases hmissing : c ∈ s.missing (store.listed guilds t.state)
  · obtain ⟨e, he, hup⟩ := addInTurn_stores (fun d hd => hplain d (CommandSync.mem_missing.mp hd).1)
      (hkeys.sublist (List.filter_sublist.map _)) hadd hmissing
    exact ⟨e, he, (hplain c hc).agrees (store.guildId_stored _ _ e he) hup⟩
  · have hkept : ∃ e ∈ store.listed guilds t.state, c.agrees e = true := by
      by_contra hnone
      push Not at hnone
      exact hmissing (CommandSync.mem_missing.mpr
        ⟨hc, fun e he _ => Bool.not_eq_true _ ▸ hnone e he⟩)
    obtain ⟨e, hlisted, hagrees⟩ := hkept
    obtain ⟨g, -, he⟩ := List.mem_flatMap.mp hlisted
    have hkey := upsertKey_of_agrees hagrees
    simp only [AppCommand.upsertKey, Prod.mk.injEq] at hkey
    obtain rfl : g = c.guildId := (store.guildId_stored _ _ e he).symm.trans hkey.2.2.symm
    exact ⟨e, agreeing_stays hkeys hplain hids hsees h hc he hagrees hlisted, hagrees⟩

lemma Reliable.idle (hr : store.Reliable)
    (hstale : ∀ e ∈ store.listed guilds t.state, CommandSync.isStale s.registry.published e = false)
    (hagrees : ∀ c ∈ s.registry.published, ∃ e ∈ store.listed guilds t.state, c.agrees e = true) :
    ∃ t', (s.bringInLine guilds).run store.server t = (.ok (), t') ∧
      t'.calls = t.calls ++ (CommandSync.scopes guilds).map s.listCall := by
  obtain ⟨u, hlist, -, hcalls⟩ := hr.listStored (t := t) guilds
  have hnostale : s.stale (store.listed guilds t.state) = [] := by
    refine List.filter_eq_nil_iff.mpr fun e he => ?_
    simp [hstale e he]
  have hnomissing : s.missing (store.listed guilds t.state) = [] := by
    refine List.eq_nil_iff_forall_not_mem.mpr fun c hc => ?_
    obtain ⟨hmem, hnone⟩ := CommandSync.mem_missing.mp hc
    obtain ⟨e, he, hce⟩ := hagrees c hmem
    rw [hnone e he (hstale e he)] at hce
    cases hce
  refine ⟨u, Program.run_bind_eq_ok.mpr ⟨_, u, hlist, ?_⟩, hcalls⟩
  refine Program.run_bind_eq_ok.mpr ⟨(), u, ?_, ?_⟩
  · change (s.removeAll (s.stale _)).run store.server u = _
    rw [hnostale]
    rfl
  · change (s.addInTurn (s.missing _)).run store.server u = _
    rw [hnomissing]
    rfl

/-- With a server that answers as it should a sync succeeds whatever is stored. Then each published
command agrees with a stored one, and a sync that starts afresh lists the commands and sends nothing
else. -/
theorem Reliable.converges (hr : store.Reliable) (hfresh : s.started = false)
    (hkeys : (s.registry.published.map AppCommand.upsertKey).Nodup)
    (hplain : ∀ c ∈ s.registry.published, c.Plain) (hguilds : guilds.Nodup)
    (hcovered : ∀ c ∈ s.registry.published, ∀ g ∈ c.guildId, g ∈ guilds)
    (hids : store.DistinctIds t.state) :
    ∃ t', (s.start guilds).1.run store.server t = (.ok (), t') ∧
      (∀ c ∈ s.registry.published, ∃ e ∈ store.stored t'.state c.guildId, c.agrees e = true) ∧
      ∃ t'', (s.start guilds).1.run store.server t' = (.ok (), t'') ∧
        t''.calls = t'.calls ++ (CommandSync.scopes guilds).map s.listCall := by
  have hstart : (s.start guilds).1 = (s.bringInLine guilds : Program Unit) := by
    simp [CommandSync.start, hfresh]
  rw [hstart]
  obtain ⟨t', h⟩ := hr.bringInLine (t := t) hguilds hids hplain
  have hstored : ∀ c ∈ s.registry.published, ∃ e ∈ store.stored t'.state c.guildId,
      c.agrees e = true := fun c hc => agrees_after hkeys hplain hids (hr.sees guilds) h hc
  refine ⟨t', h, hstored, hr.idle ?_ ?_⟩
  · intro e he
    obtain ⟨g, hg, heg⟩ := List.mem_flatMap.mp he
    obtain ⟨c, hc, hname, hguild, -⟩ := stored_after (hr.sees guilds) h hg heg
    exact CommandSync.not_isStale.mpr ⟨c, hc, hname, hguild⟩
  · intro c hc
    obtain ⟨e, he, hagrees⟩ := hstored c hc
    refine ⟨e, mem_listed ?_ he, hagrees⟩
    cases hg : c.guildId with
    | none => exact List.mem_cons_self
    | some g => exact List.mem_cons_of_mem _ (List.mem_map_of_mem (hcovered c hc g hg))

def radio : CommandSync where
  applicationId := ⟨9⟩
  registry := .registerAll [
    { Declaration.chatInput "volume" with
      handler := some fun _ _ => .ok .none
      arguments := [⟨{ (Argument.named "level" .number).option with maxValue := some 11 }, rfl⟩] },
    { Declaration.chatInput "add" with
      handler := some fun _ _ => .ok .none
      guild := some "7"
      parent := some (.group { name := "music" }) }]

lemma radio_plain : ∀ c ∈ radio.registry.published, c.Plain := by
  refine Registry.published_plain (Registry.reachable_registerAll (by simp [Declaration.chatInput])) ?_
  have hlevel : CommandOption.Plain
      { (Argument.named "level" .number).option with maxValue := some 11 } := by
    have h : (11 : Float).isFinite = true := by decide
    exact .intro rfl (by simp [Argument.named, CommandOption.named])
      (by simp [Argument.named, CommandOption.named])
      (by simp [Argument.named, CommandOption.named]) (by simpa using h)
      (by simp [Argument.named, CommandOption.named])
  obtain ⟨c, d, hcs, hc, hd⟩ : ∃ c d : RegisteredCommand, radio.registry.commands = [c, d] ∧
      c.app.options = some [{ (Argument.named "level" .number).option with maxValue := some 11 }] ∧
      d.app.options = none := ⟨_, _, rfl, rfl, rfl⟩
  intro e he o ho
  rw [hcs] at he
  rcases List.mem_pair.mp he with rfl | rfl
  · rw [hc] at ho
    exact List.mem_singleton.mp ho ▸ hlevel
  · rw [hd] at ho
    cases ho

def oldRadio : List AppCommand := [
  { AppCommand.named .chatInput "stop" "" with id := some ⟨1⟩ },
  { AppCommand.named .user "volume" "" with id := some ⟨2⟩ },
  { AppCommand.named .chatInput "music" "" with id := some ⟨3⟩, guildId := some ⟨7⟩ }]

theorem radio_converges :
    ∃ t', (radio.start [⟨7⟩]).1.run (listServer radio) ⟨oldRadio, []⟩ = (.ok (), t') ∧
      (∀ c ∈ radio.registry.published,
        ∃ e ∈ (listStore radio).stored t'.state c.guildId, c.agrees e = true) ∧
      ∃ t'', (radio.start [⟨7⟩]).1.run (listServer radio) t' = (.ok (), t'') ∧
        t''.calls = t'.calls ++ [radio.listCall none, radio.listCall (some ⟨7⟩)] := by
  have hids : (listStore radio).DistinctIds oldRadio := fun g =>
    (by decide : (oldRadio.map (·.id)).Nodup).sublist (List.filter_sublist.map _)
  exact Reliable.converges (t := ⟨oldRadio, []⟩) (listStore_reliable radio) rfl (by decide)
    radio_plain (by decide) (by decide) hids

end CommandStore

end DiscordBot
