import DiscordBot.Proofs.Sync.ListStore
import DiscordBot.Proofs.Sync.Progress

/-! What a sync leaves behind. It goes by names and guilds, so that a command of another kind than the
published one of its name stays. -/

namespace DiscordBot

open Rest (Session)

namespace CommandStore

variable {σ : Type} {s : CommandSync} {store : CommandStore σ s} {t t' : Session σ}
  {guilds : List Snowflake}

/-- After a sync that sees the stored commands and succeeds, all that is stored where it looked has the
name and the guild of a published command, and its kind too unless it was stored before. -/
theorem leftovers (hr : s.registry.Reachable) (hfresh : s.started = false)
    (hsees : store.Sees guilds t)
    (h : (s.start guilds).1.run store.server t = (.ok (), t')) :
    ∀ g ∈ CommandSync.scopes guilds, ∀ e ∈ store.stored t'.state g,
      ∃ c ∈ s.registry.published, c.name = e.name ∧ c.guildId = e.guildId ∧
        (c.kind = e.kind ∨ e ∈ store.stored t.state g) := by
  intro g hg e he
  simp only [CommandSync.start, hfresh, Bool.false_eq_true, if_false] at h
  obtain ⟨c, hc, hname, hguild, hkind⟩ := stored_after hsees h hg he
  refine ⟨c, hc, hname, hguild, hkind.imp_left fun hk => ?_⟩
  have hnamed := hr.published_kind c hc
  simp only [List.mem_cons, List.not_mem_nil, or_false] at hnamed
  rcases hnamed with hc | hc | hc <;> rw [hk, hc] <;> rfl

def ping : CommandSync where
  applicationId := ⟨9⟩
  registry := .registerAll [{ Declaration.chatInput "ping" with handler := some fun _ _ => .ok .none }]

def oldPing : List AppCommand := [
  { AppCommand.named .user "ping" "" with id := some ⟨1⟩ },
  { AppCommand.named .chatInput "pong" "" with id := some ⟨2⟩ }]

lemma ping_reachable : ping.registry.Reachable :=
  Registry.reachable_registerAll (by simp [Declaration.chatInput])

lemma oldPing_ids : (listStore ping).DistinctIds oldPing := fun _ =>
  (by decide : (oldPing.map (·.id)).Nodup).sublist (List.filter_sublist.map _)

lemma ping_start : ∃ t', (ping.start []).1.run (listStore ping).server ⟨oldPing, []⟩ = (.ok (), t') := by
  refine (listStore_reliable ping).bringInLine (t := ⟨oldPing, []⟩) (by decide) oldPing_ids ?_
  obtain ⟨c, hc, hkind, hoptions⟩ : ∃ c : AppCommand, ping.registry.published = [c] ∧
      c.kind = .chatInput ∧ c.options = none := ⟨_, rfl, rfl, rfl⟩
  intro d hd
  rw [hc, List.mem_singleton] at hd
  exact ⟨by rw [hd, hkind]; rfl, by simp [hd, hoptions]⟩

theorem ping_leftovers :
    ∃ t', (ping.start []).1.run (listStore ping).server ⟨oldPing, []⟩ = (.ok (), t') ∧
      ∀ g ∈ CommandSync.scopes [], ∀ e ∈ (listStore ping).stored t'.state g,
        ∃ c ∈ ping.registry.published, c.name = e.name ∧ c.guildId = e.guildId ∧
          (c.kind = e.kind ∨ e ∈ (listStore ping).stored oldPing g) := by
  obtain ⟨t', h⟩ := ping_start
  exact ⟨t', h, leftovers ping_reachable rfl ((listStore_reliable ping).sees []) h⟩

theorem kind_left_over :
    ping.registry.Reachable ∧ (listStore ping).DistinctIds oldPing ∧
    (listStore ping).Sees [] ⟨oldPing, []⟩ ∧
    ∃ t', (ping.start []).1.run (listStore ping).server ⟨oldPing, []⟩ = (.ok (), t') ∧
      ∃ e ∈ (listStore ping).stored t'.state none,
        ¬∃ c ∈ ping.registry.published, c.name = e.name ∧ c.kind = e.kind ∧ c.guildId = e.guildId := by
  refine ⟨ping_reachable, oldPing_ids, (listStore_reliable ping).sees [], ?_⟩
  obtain ⟨t', h⟩ := ping_start
  obtain ⟨e, rest, hold, hname, hkind, hguild, hid, hoptions⟩ : ∃ e rest, oldPing = e :: rest ∧
      e.name = "ping" ∧ e.kind = .user ∧ e.guildId = none ∧ e.id = some ⟨1⟩ ∧ e.options = none :=
    ⟨_, _, rfl, rfl, rfl, rfl, rfl, rfl⟩
  have hchat : ∀ c ∈ ping.registry.published, c.kind = .chatInput := by decide
  have hstored : e ∈ (listStore ping).stored oldPing none := by
    have hplain : e.Plain := ⟨by rw [hkind]; rfl, by simp [hoptions]⟩
    simp [listStore, hold, hguild, hid, hplain]
  have hstale : CommandSync.isStale ping.registry.published e = false := by
    refine CommandSync.not_isStale.mpr ?_
    rw [hname, hguild]
    decide
  refine ⟨t', h, e, ?_, ?_⟩
  · refine stays (t := ⟨oldPing, []⟩) oldPing_ids ((listStore_reliable ping).sees []) h hstored hstale ?_
    rintro c hc ⟨-, hk, -⟩
    rw [hchat c (CommandSync.mem_missing.mp hc).1, hkind] at hk
    cases hk
  · rintro ⟨c, hc, -, hk, -⟩
    rw [hchat c hc, hkind] at hk
    cases hk

end CommandStore

end DiscordBot
