import DiscordBot.Proofs.Sync.Outcome
import Mathlib.Data.List.Count

/-! A server that answers as it should lets each part of a sync succeed, if no guild is listed again. -/

namespace DiscordBot

open Rest (Program Session)

namespace CommandStore

variable {σ : Type} {s : CommandSync} {store : CommandStore σ s} {t : Session σ}
  {guilds : List Snowflake} {cs : List AppCommand}

lemma run_call_ok {c : Rest.Call} (h : ∃ body st', store.server t.state c = (.ok body, st')) :
    ∃ body t', (Rest.call c).run store.server t = (.ok body, t') := by
  obtain ⟨body, st', h⟩ := h
  exact ⟨body, ⟨st', t.calls ++ [c]⟩, Program.run_call_eq_ok.mpr ⟨h, rfl⟩⟩

def Deletes (store : CommandStore σ s) : Prop :=
  ∀ st g, ∀ e ∈ store.stored st g, ∀ id ∈ e.id,
    ∃ body st', store.server st (s.removeCall g id) = (.ok body, st')

lemma Deletes.removeAll (hdeletes : store.Deletes) (hmem : ∀ c ∈ cs, c ∈ store.stored t.state c.guildId)
    (hids : (cs.map fun c => (c.guildId, c.id)).Nodup) :
    ∃ t', (s.removeAll cs).run store.server t = (.ok (), t') := by
  induction cs generalizing t with
  | nil => exact ⟨t, rfl⟩
  | cons c cs ih =>
    obtain ⟨hc, hcs⟩ := List.forall_mem_cons.mp hmem
    obtain ⟨hfree, hnodup⟩ := List.nodup_cons.mp hids
    obtain ⟨id, hid⟩ := Option.ne_none_iff_exists'.mp (store.id_stored _ _ c hc)
    obtain ⟨body, u, hcall⟩ := run_call_ok (hdeletes t.state c.guildId c hc id hid)
    -- The rest is still stored, since none of it has the id that was just removed.
    have hrest : ∀ d ∈ cs, d ∈ store.stored u.state d.guildId := by
      intro d hd
      refine (store.delete _ _ _ _ _ (Program.run_call_eq_ok.mp hcall).1 d.guildId d).mpr ⟨hcs d hd, ?_⟩
      rintro ⟨hguild, hdid⟩
      exact hfree (List.mem_map.mpr ⟨d, hd, Prod.ext hguild (hdid.trans hid.symm)⟩)
    obtain ⟨v, hremoveAll⟩ := ih hrest hnodup
    exact ⟨v, removeAll_cons_ok.mpr ⟨id, body, u, hid, hcall, hremoveAll⟩⟩

namespace Reliable

lemma lists (hr : store.Reliable) (gs : List (Option Snowflake)) : ∃ bodies t',
    (Rest.askAll (gs.map fun g => .ok (s.listCall g))).run store.server t = (.ok bodies, t') := by
  induction gs generalizing t with
  | nil => exact ⟨[], t, rfl⟩
  | cons g gs ih =>
    obtain ⟨body, u, hcall⟩ := run_call_ok (hr.list t.state g)
    obtain ⟨bodies, v, hrest⟩ := ih (t := u)
    refine ⟨body :: bodies, v, ?_⟩
    rw [List.map_cons, Program.run_askAll_cons]
    exact Program.run_bind_eq_ok.mpr ⟨body, u, hcall, Program.run_bind_eq_ok.mpr ⟨bodies, v, hrest, rfl⟩⟩

lemma fetch (hr : store.Reliable) (guilds : List Snowflake) :
    ∃ t', (s.fetch guilds).run store.server t = (.ok (store.listed guilds t.state), t') := by
  obtain ⟨bodies, u, hbodies⟩ := hr.lists (t := t) (CommandSync.scopes guilds)
  refine ⟨u, Program.run_bind_eq_ok.mpr ⟨bodies, u, hbodies, ?_⟩⟩
  rw [(lists_ok hbodies).1]
  rfl

lemma sees (hr : store.Reliable) (guilds : List Snowflake) : store.Sees guilds t := by
  intro m
  obtain ⟨u, hfetch⟩ := hr.fetch (t := t) guilds
  rw [hfetch]
  nofun

lemma listStored (hr : store.Reliable) (guilds : List Snowflake) :
    ∃ t', (s.listStored guilds).run store.server t = (.ok (store.listed guilds t.state), t') ∧
      store.stored t'.state = store.stored t.state ∧
      t'.calls = t.calls ++ (CommandSync.scopes guilds).map s.listCall := by
  obtain ⟨u, hfetch⟩ := hr.fetch (t := t) guilds
  obtain ⟨-, hstored, hcalls⟩ := fetch_ok hfetch
  refine ⟨u, ?_, hstored, hcalls⟩
  rw [CommandSync.listStored, Program.run_recover, hfetch]

lemma addInTurn (hr : store.Reliable) (hplain : ∀ c ∈ cs, c.Plain) :
    ∃ t', (s.addInTurn cs).run store.server t = (.ok (), t') := by
  induction cs generalizing t with
  | nil => exact ⟨t, rfl⟩
  | cons c cs ih =>
    obtain ⟨hc, hcs⟩ := List.forall_mem_cons.mp hplain
    obtain ⟨body, u, hcall⟩ := run_call_ok (hr.create t.state c hc)
    obtain ⟨v, hrest⟩ := ih (t := u) hcs
    exact ⟨v, Program.run_bind_eq_ok.mpr ⟨(), u,
      Program.run_bind_eq_ok.mpr ⟨body, u, hcall, rfl⟩, hrest⟩⟩

end Reliable

section Stale

variable {st : σ}

def staleKeys (store : CommandStore σ s) (st : σ) (g : Option Snowflake) :
    List (Option Snowflake × Option Snowflake) :=
  (s.stale (store.stored st g)).map fun c => (c.guildId, c.id)

lemma map_stale_listed (store : CommandStore σ s) (guilds : List Snowflake) (st : σ) :
    ((s.stale (store.listed guilds st)).map fun c => (c.guildId, c.id)) =
      (CommandSync.scopes guilds).flatMap (store.staleKeys st) := by
  rw [CommandSync.stale, listed, List.filter_flatMap, List.map_flatMap]
  rfl

lemma fst_of_mem_staleKeys {g : Option Snowflake} {k : Option Snowflake × Option Snowflake}
    (h : k ∈ store.staleKeys st g) : k.1 = g := by
  obtain ⟨c, hc, rfl⟩ := List.mem_map.mp h
  exact store.guildId_stored st g c (CommandSync.mem_stale.mp hc).1

lemma staleKeys_eq_nil {g : Option Snowflake} : store.staleKeys st g = [] ↔
    ∀ e ∈ store.stored st g, CommandSync.isStale s.registry.published e = false := by
  simp [staleKeys, CommandSync.stale]

lemma repeated_scope {g : Option Snowflake} :
    [g, g].Sublist (CommandSync.scopes guilds) ↔ ∃ i, g = some i ∧ 1 < guilds.count i := by
  have hcount : [g, g].Sublist (CommandSync.scopes guilds) ↔ 2 ≤ (CommandSync.scopes guilds).count g := by
    rw [← List.replicate_sublist_iff]
    rfl
  rw [hcount, CommandSync.scopes]
  cases g with
  | none => simp
  | some i =>
    have hmap := List.count_map_of_injective guilds some (fun _ _ => Option.some.inj) i
    simp [hmap, Nat.lt_iff_add_one_le]

lemma nodup_stale_iff (guilds : List Snowflake) (hids : store.DistinctIds st) :
    ((s.stale (store.listed guilds st)).map fun c => (c.guildId, c.id)).Nodup ↔
      ∀ g, 1 < guilds.count g →
        ∀ e ∈ store.stored st (some g), CommandSync.isStale s.registry.published e = false := by
  rw [map_stale_listed, List.nodup_flatMap, List.pairwise_iff_forall_sublist]
  constructor
  · rintro ⟨-, hdisjoint⟩ g hg
    rw [← staleKeys_eq_nil]
    have hself := hdisjoint (repeated_scope.mpr ⟨g, rfl, hg⟩)
    exact List.eq_nil_iff_forall_not_mem.mpr fun k hk => hself hk hk
  · intro hnone
    refine ⟨fun g _ => ?_, fun {g h} hsub => ?_⟩
    · apply List.Nodup.of_map Prod.snd
      rw [staleKeys, List.map_map]
      exact (hids g).sublist (List.filter_sublist.map _)
    · by_cases heq : g = h
      · subst heq
        obtain ⟨i, rfl, hi⟩ := repeated_scope.mp hsub
        have hnil := staleKeys_eq_nil.mpr (hnone i hi)
        exact fun k hk => absurd (hnil ▸ hk) List.not_mem_nil
      · intro k hk hk'
        exact heq ((fst_of_mem_staleKeys hk).symm.trans (fst_of_mem_staleKeys hk'))

end Stale

lemma stored_of_stale {u : Session σ} (guilds : List Snowflake)
    (hstored : store.stored u.state = store.stored t.state) :
    ∀ c ∈ s.stale (store.listed guilds t.state), c ∈ store.stored u.state c.guildId := by
  intro c hc
  obtain ⟨g, -, hcg⟩ := List.mem_flatMap.mp (CommandSync.mem_stale.mp hc).1
  rw [hstored, store.guildId_stored _ _ c hcg]
  exact hcg

theorem Reliable.bringInLine (hr : store.Reliable) (hguilds : guilds.Nodup)
    (hids : store.DistinctIds t.state)
    (hplain : ∀ c ∈ s.registry.published, c.Plain) :
    ∃ t', (s.bringInLine guilds).run store.server t = (.ok (), t') := by
  obtain ⟨u, hlist, hstored, -⟩ := hr.listStored (t := t) guilds
  have hnodup : ((s.stale (store.listed guilds t.state)).map fun c => (c.guildId, c.id)).Nodup := by
    refine (nodup_stale_iff guilds hids).mpr fun g hg => ?_
    exact absurd hg (Nat.not_lt.mpr (List.nodup_iff_count_le_one.mp hguilds g))
  obtain ⟨v, hremove⟩ := Deletes.removeAll hr.delete (stored_of_stale guilds hstored) hnodup
  have hmissing : ∀ c ∈ s.missing (store.listed guilds t.state), c.Plain := fun c hc =>
    hplain c (CommandSync.mem_missing.mp hc).1
  obtain ⟨w, hadd⟩ := hr.addInTurn (t := v) hmissing
  exact ⟨w, Program.run_bind_eq_ok.mpr ⟨_, u, hlist, Program.run_bind_eq_ok.mpr ⟨(), v, hremove, hadd⟩⟩⟩

end CommandStore

end DiscordBot
