import DiscordBot.Proofs.Sync.Store

/-! What a sync removes and adds, and what is stored after it. -/

namespace DiscordBot

open Rest (Program Session)

namespace CommandSync

def stale (s : CommandSync) (cs : List AppCommand) : List AppCommand :=
  cs.filter (isStale s.registry.published)

def missing (s : CommandSync) (cs : List AppCommand) : List AppCommand :=
  s.registry.published.filter (isMissing (cs.filter fun c => !isStale s.registry.published c))

lemma not_isStale {published : List AppCommand} {e : AppCommand} :
    isStale published e = false ↔ ∃ c ∈ published, c.name = e.name ∧ c.guildId = e.guildId := by
  simp [isStale]

variable {s : CommandSync} {cs : List AppCommand} {c : AppCommand}

lemma mem_stale : c ∈ s.stale cs ↔ c ∈ cs ∧ isStale s.registry.published c = true := List.mem_filter

lemma mem_missing : c ∈ s.missing cs ↔ c ∈ s.registry.published ∧
    ∀ e ∈ cs, isStale s.registry.published e = false → c.agrees e = false := by
  simp [missing, isMissing]

end CommandSync

namespace CommandStore

variable {σ : Type} {s : CommandSync} {store : CommandStore σ s} {t t' : Session σ}
  {guilds : List Snowflake}

def listed (store : CommandStore σ s) (guilds : List Snowflake) (st : σ) : List AppCommand :=
  (CommandSync.scopes guilds).flatMap (store.stored st)

lemma mem_listed {g : Option Snowflake} {e : AppCommand} {st : σ}
    (hg : g ∈ CommandSync.scopes guilds) (he : e ∈ store.stored st g) :
    e ∈ store.listed guilds st := List.mem_flatMap.mpr ⟨g, hg, he⟩

lemma bringInLine_ok (hsees : store.Sees guilds t)
    (h : (s.bringInLine guilds).run store.server t = (.ok (), t')) :
    ∃ u v, store.stored u.state = store.stored t.state ∧
      (s.removeAll (s.stale (store.listed guilds t.state))).run store.server u = (.ok (), v) ∧
      (s.addInTurn (s.missing (store.listed guilds t.state))).run store.server v = (.ok (), t') := by
  obtain ⟨cs, u, hlist, h⟩ := Program.run_bind_eq_ok.mp h
  obtain ⟨⟨⟩, v, hremove, hadd⟩ := Program.run_bind_eq_ok.mp h
  obtain ⟨rfl, hstored, -⟩ := fetch_ok (listStored_ok hsees hlist)
  exact ⟨u, v, hstored, hremove, hadd⟩

lemma stays (hids : store.DistinctIds t.state) (hsees : store.Sees guilds t)
    (h : (s.bringInLine guilds).run store.server t = (.ok (), t')) {g : Option Snowflake}
    {e : AppCommand} (he : e ∈ store.stored t.state g)
    (hstale : CommandSync.isStale s.registry.published e = false)
    (hfree : ∀ c ∈ s.missing (store.listed guilds t.state), ¬Replaces c g e) :
    e ∈ store.stored t'.state g := by
  obtain ⟨u, v, hstored, hremove, hadd⟩ := bringInLine_ok hsees h
  have hv : e ∈ store.stored v.state g := by
    refine (removeAll_ok hremove g e).mpr ⟨by rwa [hstored], ?_⟩
    -- Of the commands in one place only `e` has its id.
    rintro d hd ⟨hguild, hid⟩
    obtain ⟨hlisted, hdstale⟩ := CommandSync.mem_stale.mp hd
    obtain ⟨g', -, hdg⟩ := List.mem_flatMap.mp hlisted
    obtain rfl : g' = g := (store.guildId_stored _ _ d hdg).symm.trans hguild.symm
    rw [List.inj_on_of_nodup_map (hids g') he hdg hid, hdstale] at hstale
    cases hstale
  exact addInTurn_keeps hadd hv hfree

lemma stored_after (hsees : store.Sees guilds t)
    (h : (s.bringInLine guilds).run store.server t = (.ok (), t')) {g : Option Snowflake}
    (hg : g ∈ CommandSync.scopes guilds) {e : AppCommand} (he : e ∈ store.stored t'.state g) :
    ∃ c ∈ s.registry.published, c.name = e.name ∧ c.guildId = e.guildId ∧
      (e.kind = CommandType.ofCode c.kind.code ∨ e ∈ store.stored t.state g) := by
  obtain ⟨u, v, hstored, hremove, hadd⟩ := bringInLine_ok hsees h
  have hguild := store.guildId_stored _ _ e he
  rcases mem_addInTurn hadd he with hv | ⟨c, hc, hcg, hkind, hname⟩
  · obtain ⟨hu, hfree⟩ := (removeAll_ok hremove g e).mp hv
    rw [hstored] at hu
    have hstale : CommandSync.isStale s.registry.published e = false := by
      -- A stale one is listed and removed by its own id.
      rw [← Bool.not_eq_true]
      intro hstale
      exact hfree e (CommandSync.mem_stale.mpr ⟨mem_listed hg hu, hstale⟩) ⟨hguild.symm, rfl⟩
    obtain ⟨c, hc, hname, hcg⟩ := CommandSync.not_isStale.mp hstale
    exact ⟨c, hc, hname, hcg, Or.inr hu⟩
  · exact ⟨c, (CommandSync.mem_missing.mp hc).1, hname.symm, hcg.symm.trans hguild.symm, Or.inl hkind⟩

end CommandStore

end DiscordBot
