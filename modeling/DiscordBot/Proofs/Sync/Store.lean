import DiscordBot.Command.Sync
import DiscordBot.Proofs.Command.ReadBack
import DiscordBot.Proofs.Published.Names
import DiscordBot.Proofs.Rest.Program

/-! Servers that store the commands of an application, and what the calls of a sync change in them. -/

namespace DiscordBot

open Rest (Program Server Session Call askAll call lift)

namespace CommandSync

def removeCall (s : CommandSync) (g : Option Snowflake) (id : Snowflake) : Call :=
  ⟨.delete, s.listRoute g ++ "/" ++ id.text, none⟩

end CommandSync

/-- A server that stores the commands of an application, the global ones and those of each guild apart.
If it answers without an error, it lists what is stored in one place, deletes by an id, or puts what is
sent in the place of the command of that name and kind. -/
structure CommandStore (σ : Type) (s : CommandSync) where
  server : Server σ
  stored : σ → Option Snowflake → List AppCommand
  guildId_stored : ∀ st g, ∀ e ∈ stored st g, e.guildId = g
  id_stored : ∀ st g, ∀ e ∈ stored st g, e.id ≠ none
  list : ∀ st st' g body, server st (s.listCall g) = (.ok body, st') →
    CommandSync.readList body = .ok (stored st g) ∧ stored st' = stored st
  delete : ∀ st st' g id body, server st (s.removeCall g id) = (.ok body, st') →
    ∀ h e, e ∈ stored st' h ↔ e ∈ stored st h ∧ ¬(h = g ∧ e.id = some id)
  create : ∀ st st' g j body, server st ⟨.post, s.listRoute g, some j⟩ = (.ok body, st') →
    ∃ c new, AppCommand.ofJson? j = some c ∧ new.uploaded = c.uploaded ∧
      ∀ h e, e ∈ stored st' h ↔
        (h = g ∧ e = new) ∨ (e ∈ stored st h ∧ ¬(h = g ∧ e.kind = c.kind ∧ e.name = c.name))

namespace CommandStore

variable {σ : Type} {s : CommandSync}

structure Reliable (store : CommandStore σ s) : Prop where
  list : ∀ st g, ∃ body st', store.server st (s.listCall g) = (.ok body, st')
  delete : ∀ st g, ∀ e ∈ store.stored st g, ∀ id ∈ e.id,
    ∃ body st', store.server st (s.removeCall g id) = (.ok body, st')
  create : ∀ st (c : AppCommand), c.Plain →
    ∃ body st', store.server st (s.addCall c) = (.ok body, st')

def DistinctIds (store : CommandStore σ s) (st : σ) : Prop :=
  ∀ g, ((store.stored st g).map (·.id)).Nodup

def Sees (store : CommandStore σ s) (guilds : List Snowflake) (t : Session σ) : Prop :=
  ∀ m, ((s.fetch guilds).run store.server t).1 ≠ .error (.forbidden m)

variable {store : CommandStore σ s} {t t' : Session σ}

section Listing

variable {gs : List (Option Snowflake)} {guilds : List Snowflake}

lemma lists_ok {bodies : List (Option Json)}
    (h : (askAll (gs.map fun g => .ok (s.listCall g))).run store.server t = (.ok bodies, t')) :
    CommandSync.readLists bodies = .ok (gs.flatMap (store.stored t.state)) ∧
      store.stored t'.state = store.stored t.state ∧ t'.calls = t.calls ++ gs.map s.listCall := by
  induction gs generalizing t bodies with
  | nil =>
    cases h
    simp [CommandSync.readLists]
  | cons g gs ih =>
    rw [List.map_cons, Program.run_askAll_cons, Rest.lift_ok, pure_bind] at h
    obtain ⟨body, u, hcall, h⟩ := Program.run_bind_eq_ok.mp h
    obtain ⟨rest, v, hrest, h⟩ := Program.run_bind_eq_ok.mp h
    cases h
    obtain ⟨hserver, hcalls⟩ := Program.run_call_eq_ok.mp hcall
    obtain ⟨hread, hsame⟩ := store.list _ _ _ _ hserver
    obtain ⟨hreads, hstored, hmore⟩ := ih hrest
    refine ⟨?_, hstored.trans hsame, ?_⟩
    · rw [hsame] at hreads
      simp only [CommandSync.readLists, hread, hreads, List.flatMap_cons]
      rfl
    · rw [hmore, hcalls]
      simp

lemma fetch_ok {cs : List AppCommand} (h : (s.fetch guilds).run store.server t = (.ok cs, t')) :
    cs = (CommandSync.scopes guilds).flatMap (store.stored t.state) ∧
      store.stored t'.state = store.stored t.state ∧
      t'.calls = t.calls ++ (CommandSync.scopes guilds).map s.listCall := by
  obtain ⟨bodies, u, hbodies, h⟩ := Program.run_bind_eq_ok.mp h
  obtain ⟨hread, hstored, hcalls⟩ := lists_ok hbodies
  rw [hread] at h
  cases h
  exact ⟨rfl, hstored, hcalls⟩

lemma listStored_ok {cs : List AppCommand} (hsees : store.Sees guilds t)
    (h : (s.listStored guilds).run store.server t = (.ok cs, t')) :
    (s.fetch guilds).run store.server t = (.ok cs, t') := by
  unfold Sees at hsees
  unfold CommandSync.listStored at h
  rw [Program.run_recover] at h
  generalize (s.fetch guilds).run store.server t = result at h hsees ⊢
  obtain ⟨x, u⟩ := result
  cases x with
  | ok ds => exact h
  | error e =>
    dsimp only at h
    split at h
    · exact absurd rfl (hsees _)
    · cases h
  | overflow => cases h

end Listing

section Removing

lemma run_removeAll_cons {server : Server σ} (c : AppCommand) (cs : List AppCommand) :
    (s.removeAll (c :: cs)).run server t =
      (do let _ ← lift (s.removal c) >>= call; s.removeAll cs : Program Unit).run server t := by
  unfold CommandSync.removeAll
  rw [List.map_cons, Program.run_bind_congr _ (Program.run_askAll_cons _ _)]
  simp only [bind_assoc, pure_bind]

lemma removal_of_id {c : AppCommand} {id : Snowflake} (hid : c.id = some id) :
    s.removal c = .ok (s.removeCall c.guildId id) := by
  rw [CommandSync.removal, CommandSync.commandRoute, hid]
  rfl

lemma removeAll_cons_ok {c : AppCommand} {cs : List AppCommand} :
    (s.removeAll (c :: cs)).run store.server t = (.ok (), t') ↔
      ∃ id body u, c.id = some id ∧
        (call (s.removeCall c.guildId id)).run store.server t = (.ok body, u) ∧
        (s.removeAll cs).run store.server u = (.ok (), t') := by
  rw [run_removeAll_cons, bind_assoc]
  cases hid : c.id with
  | none =>
    rw [CommandSync.removal, CommandSync.commandRoute, hid]
    simp [Program.run_bind, Program.run_lift, Except.map, Result.ofExcept]
  | some id =>
    rw [removal_of_id hid, Rest.lift_ok, pure_bind, Program.run_bind_eq_ok]
    simp

lemma removeAll_ok {cs : List AppCommand}
    (h : (s.removeAll cs).run store.server t = (.ok (), t')) (g : Option Snowflake) (e : AppCommand) :
    e ∈ store.stored t'.state g ↔
      e ∈ store.stored t.state g ∧ ∀ c ∈ cs, ¬(g = c.guildId ∧ e.id = c.id) := by
  induction cs generalizing t with
  | nil =>
    cases h
    simp
  | cons c cs ih =>
    obtain ⟨id, body, u, hid, hcall, hrest⟩ := removeAll_cons_ok.mp h
    have hserver := (Program.run_call_eq_ok.mp hcall).1
    rw [ih hrest, store.delete _ _ _ _ _ hserver, ← hid, and_assoc, List.forall_mem_cons]

end Removing

section Adding

variable {cs : List AppCommand}

lemma add_ok {c : AppCommand} (h : (s.add c).run store.server t = (.ok (), t')) :
    ∃ d new, AppCommand.ofJson? c.payload = some d ∧ new.uploaded = d.uploaded ∧
      ∀ g e, e ∈ store.stored t'.state g ↔ (g = c.guildId ∧ e = new) ∨
        (e ∈ store.stored t.state g ∧ ¬(g = c.guildId ∧ e.kind = d.kind ∧ e.name = d.name)) := by
  obtain ⟨body, u, hcall, h⟩ := Program.run_bind_eq_ok.mp h
  cases h
  exact store.create _ _ _ _ _ (Program.run_call_eq_ok.mp hcall).1

def Replaces (c : AppCommand) (g : Option Snowflake) (e : AppCommand) : Prop :=
  g = c.guildId ∧ e.kind = CommandType.ofCode c.kind.code ∧ e.name = c.name

lemma add_keeps {c e : AppCommand} {g : Option Snowflake}
    (h : (s.add c).run store.server t = (.ok (), t')) (he : e ∈ store.stored t.state g)
    (hfree : ¬Replaces c g e) : e ∈ store.stored t'.state g := by
  obtain ⟨d, new, hread, -, hmem⟩ := add_ok h
  obtain ⟨hname, hkind⟩ := AppCommand.ofJson_payload_eq_some hread
  refine (hmem g e).mpr (Or.inr ⟨he, ?_⟩)
  rwa [hname, hkind]

lemma addInTurn_keeps {e : AppCommand} {g : Option Snowflake}
    (h : (s.addInTurn cs).run store.server t = (.ok (), t')) (he : e ∈ store.stored t.state g)
    (hfree : ∀ c ∈ cs, ¬Replaces c g e) : e ∈ store.stored t'.state g := by
  induction cs generalizing t with
  | nil =>
    cases h
    exact he
  | cons c cs ih =>
    obtain ⟨⟨⟩, u, hadd, h⟩ := Program.run_bind_eq_ok.mp h
    obtain ⟨hc, hcs⟩ := List.forall_mem_cons.mp hfree
    exact ih h (add_keeps hadd he hc) hcs

lemma mem_addInTurn {e : AppCommand} {g : Option Snowflake}
    (h : (s.addInTurn cs).run store.server t = (.ok (), t')) (he : e ∈ store.stored t'.state g) :
    e ∈ store.stored t.state g ∨ ∃ c ∈ cs, Replaces c g e := by
  induction cs generalizing t with
  | nil =>
    cases h
    exact Or.inl he
  | cons c cs ih =>
    obtain ⟨⟨⟩, u, hadd, h⟩ := Program.run_bind_eq_ok.mp h
    rcases ih h with hmem | ⟨d, hd, hreplaces⟩
    · obtain ⟨d, new, hread, hnew, hiff⟩ := add_ok hadd
      obtain ⟨hname, hkind⟩ := AppCommand.ofJson_payload_eq_some hread
      rcases (hiff g e).mp hmem with ⟨hg, rfl⟩ | ⟨hold, -⟩
      · simp only [AppCommand.uploaded, AppCommand.mk.injEq] at hnew
        exact Or.inr ⟨c, List.mem_cons_self, hg, hnew.2.1.trans hkind, hnew.2.2.2.2.1.trans hname⟩
      · exact Or.inl hold
    · exact Or.inr ⟨d, List.mem_cons_of_mem _ hd, hreplaces⟩

lemma add_stores {c : AppCommand} (hplain : c.Plain)
    (h : (s.add c).run store.server t = (.ok (), t')) :
    ∃ e ∈ store.stored t'.state c.guildId, e.uploaded = c.uploaded := by
  obtain ⟨d, new, hread, hnew, hmem⟩ := add_ok h
  rw [hplain.ofJson_payload] at hread
  cases hread
  exact ⟨new, (hmem c.guildId new).mpr (Or.inl ⟨rfl, rfl⟩), hnew⟩

lemma addInTurn_stores (hplain : ∀ c ∈ cs, c.Plain) (hkeys : (cs.map AppCommand.upsertKey).Nodup)
    (h : (s.addInTurn cs).run store.server t = (.ok (), t')) {c : AppCommand} (hc : c ∈ cs) :
    ∃ e ∈ store.stored t'.state c.guildId, e.uploaded = c.uploaded := by
  induction cs generalizing t with
  | nil => simp at hc
  | cons d cs ih =>
    obtain ⟨⟨⟩, u, hadd, hrest⟩ := Program.run_bind_eq_ok.mp h
    obtain ⟨hd, hcs⟩ := List.forall_mem_cons.mp hplain
    obtain ⟨hfree, hnodup⟩ := List.nodup_cons.mp hkeys
    rcases List.mem_cons.mp hc with rfl | hc
    · obtain ⟨e, he, hup⟩ := add_stores hd hadd
      refine ⟨e, addInTurn_keeps hrest he ?_, hup⟩
      rintro c' hc' ⟨hguild, hkind, hname⟩
      rw [(hcs c' hc').kind] at hkind
      simp only [AppCommand.uploaded, AppCommand.mk.injEq] at hup
      refine hfree (List.mem_map.mpr ⟨c', hc', ?_⟩)
      simp only [AppCommand.upsertKey, Prod.mk.injEq]
      exact ⟨hname.symm.trans hup.2.2.2.2.1, hkind.symm.trans hup.2.1, hguild.symm⟩
    · exact ih hcs hnodup hrest hc

end Adding

end CommandStore

end DiscordBot
