import DiscordBot.Proofs.Sync.Order

/-! Guilds that are listed more than once. Their commands are seen as often, so that a stale one is removed
again when it is gone; without such a guild each stale command is removed once. -/

namespace DiscordBot

open Rest (Call Event InTurn Program Session Talk)

namespace CommandStore

variable {σ : Type} {s : CommandSync} {store : CommandStore σ s} {t t' u : Session σ} {c : AppCommand}
  {cs es : List AppCommand} {deletes : List Event}

/-- It deletes what it stores, and not found is what it does not store, and nothing else. -/
structure Strict (store : CommandStore σ s) : Prop where
  deletes : store.Deletes
  gone : ∀ st g id, (∀ e ∈ store.stored st g, e.id ≠ some id) →
    ∃ m st', store.server st (s.removeCall g id) = (.error (.notFound m), st')
  create : ∀ st c m st', store.server st (s.addCall c) ≠ (.error (.notFound m), st')

section Runs

lemma run_removal {id : Snowflake} (hid : c.id = some id) (cs : List AppCommand) :
    (s.removeAll (c :: cs)).run store.server t =
      match store.server t.state (s.removeCall c.guildId id) with
      | (.ok _, st) => (s.removeAll cs).run store.server ⟨st, t.calls ++ [s.removeCall c.guildId id]⟩
      | (.error e, st) => (.error e, ⟨st, t.calls ++ [s.removeCall c.guildId id]⟩)
      | (.overflow, st) => (.overflow, ⟨st, t.calls ++ [s.removeCall c.guildId id]⟩) := by
  rw [run_removeAll_cons, removal_of_id hid, Rest.lift_ok, pure_bind, Program.run_bind, Program.run_call]
  rcases store.server t.state (s.removeCall c.guildId id) with ⟨_ | _ | _, st⟩ <;> rfl

lemma run_add (c : AppCommand) :
    (s.add c).run store.server t =
      ((store.server t.state (s.addCall c)).1.map fun _ => (),
        ⟨(store.server t.state (s.addCall c)).2, t.calls ++ [s.addCall c]⟩) :=
  Program.run_call_discard _

lemma removeAll_calls (h : (s.removeAll cs).run store.server t = (.ok (), t')) :
    ∃ calls, t'.calls = t.calls ++ calls ∧ calls.map .ok = cs.map s.removal := by
  induction cs generalizing t with
  | nil =>
    cases h
    exact ⟨[], (List.append_nil _).symm, rfl⟩
  | cons c cs ih =>
    obtain ⟨id, body, u, hid, hcall, h⟩ := removeAll_cons_ok.mp h
    obtain ⟨calls, hcalls, hall⟩ := ih h
    refine ⟨s.removeCall c.guildId id :: calls, ?_, ?_⟩
    · rw [hcalls, (Program.run_call_eq_ok.mp hcall).2, List.append_assoc]
      rfl
    · rw [List.map_cons, List.map_cons, hall, removal_of_id hid]

lemma deletes_of_removeAll {talk : Talk Unit} (h : (s.removeAll cs).talk.Course deletes talk) {x : Event}
    (hx : x ∈ deletes) : ∃ e ∈ cs, ∃ id ∈ e.id, x.call = s.deleteOf e.guildId id := by
  have hmem : .ok x.call ∈ cs.map s.removal := by
    cases h.begun with
    | waiting hopen => exact (hopen.of_mem hx).2
    | answered hround hcourse =>
      obtain ⟨rfl, -⟩ := hcourse.of_ended
      rw [List.append_nil] at hx
      exact hround.of_mem hx
    | failed hround hcourse =>
      obtain ⟨rfl, -⟩ := hcourse.of_ended
      rw [List.append_nil] at hx
      exact hround.of_mem hx
    | overflow hround => exact hround.of_mem hx
  obtain ⟨e, he, hremoval⟩ := List.mem_map.mp hmem
  exact ⟨e, he, CommandSync.removal_eq_ok.mp hremoval⟩

end Runs

namespace Strict

lemma exists_of_removeAll (hs : store.Strict) (h : (s.removeAll cs).run store.server t = (.ok (), t')) :
    ∀ c ∈ cs, ∃ e ∈ store.stored t.state c.guildId, e.id = c.id := by
  induction cs generalizing t with
  | nil => exact List.forall_mem_nil _
  | cons c cs ih =>
    obtain ⟨id, body, u, hid, hcall, h⟩ := removeAll_cons_ok.mp h
    have hserver := (Program.run_call_eq_ok.mp hcall).1
    refine List.forall_mem_cons.mpr ⟨?_, fun d hd => ?_⟩
    · by_contra hnone
      push Not at hnone
      rw [hid] at hnone
      obtain ⟨m, st, hanswer⟩ := hs.gone t.state c.guildId id hnone
      rw [hanswer] at hserver
      cases hserver
    · obtain ⟨e, he, heid⟩ := ih h d hd
      exact ⟨e, ((store.delete _ _ _ _ _ hserver d.guildId e).mp he).1, heid⟩

lemma nodup_of_removeAll (hs : store.Strict) (h : (s.removeAll cs).run store.server t = (.ok (), t')) :
    (cs.map fun c => (c.guildId, c.id)).Nodup := by
  induction cs generalizing t with
  | nil => exact .nil
  | cons c cs ih =>
    obtain ⟨id, body, u, hid, hcall, h⟩ := removeAll_cons_ok.mp h
    refine List.nodup_cons.mpr ⟨fun hmem => ?_, ih h⟩
    obtain ⟨d, hd, hkey⟩ := List.mem_map.mp hmem
    obtain ⟨hguild, hdid⟩ := Prod.mk.inj hkey
    obtain ⟨e, he, heid⟩ := hs.exists_of_removeAll h d hd
    have hserver := (Program.run_call_eq_ok.mp hcall).1
    exact ((store.delete _ _ _ _ _ hserver d.guildId e).mp he).2 ⟨hguild, (heid.trans hdid).trans hid⟩

lemma removeAll_result (hs : store.Strict) (hids : ∀ c ∈ cs, c.id ≠ none) :
    ((s.removeAll cs).run store.server t).1 = .ok () ∨
      ∃ m, ((s.removeAll cs).run store.server t).1 = .error (.notFound m) := by
  induction cs generalizing t with
  | nil => exact .inl rfl
  | cons c cs ih =>
    obtain ⟨hc, hcs⟩ := List.forall_mem_cons.mp hids
    obtain ⟨id, hid⟩ := Option.ne_none_iff_exists'.mp hc
    rw [run_removal hid]
    by_cases hstored : ∃ e ∈ store.stored t.state c.guildId, e.id = some id
    · obtain ⟨e, he, heid⟩ := hstored
      obtain ⟨body, st, hanswer⟩ := hs.deletes t.state c.guildId e he id heid
      rw [hanswer]
      exact ih hcs
    · push Not at hstored
      obtain ⟨m, st, hanswer⟩ := hs.gone t.state c.guildId id hstored
      rw [hanswer]
      exact .inr ⟨m, rfl⟩

lemma addInTurn_result (hs : store.Strict) (m : String) :
    ((s.addInTurn cs).run store.server t).1 ≠ .error (.notFound m) := by
  induction cs generalizing t with
  | nil => nofun
  | cons c cs ih =>
    rw [CommandSync.addInTurn, Program.run_bind, run_add]
    cases hanswer : store.server t.state (s.addCall c) with
    | mk answer st =>
      cases answer with
      | ok body => exact ih
      | error e =>
        rintro ⟨⟩
        exact hs.create _ _ _ _ hanswer
      | overflow => nofun

lemma repeats (hs : store.Strict) {e : BotError} {calls : List Call} (before : List String)
    (h : (s.removeAll es).run store.server u = (.error e, t')) (hcalls : t'.calls = u.calls ++ calls)
    (hids : ∀ c ∈ es, c.id ≠ none)
    (hstored : ∀ c ∈ es, c ∈ store.stored u.state c.guildId ∨
      ∃ route ∈ before, s.commandRoute c = .ok route) :
    ¬(before ++ calls.map Call.route).Nodup := by
  -- By induction on the removals: what is to be removed is still stored, or was removed on a route of `before`.
  induction es generalizing u before calls with
  | nil => cases h
  | cons c es ih =>
    obtain ⟨hc, hes⟩ := List.forall_mem_cons.mp hids
    obtain ⟨hcstored, hrest⟩ := List.forall_mem_cons.mp hstored
    obtain ⟨id, hid⟩ := Option.ne_none_iff_exists'.mp hc
    have hroute : s.commandRoute c = .ok (s.removeCall c.guildId id).route :=
      CommandSync.commandRoute_eq_ok.mpr ⟨rfl, hid⟩
    rw [run_removal hid] at h
    cases hanswer : store.server u.state (s.removeCall c.guildId id) with
    | mk answer st =>
      rw [hanswer] at h
      cases answer with
      | overflow => cases h
      | ok body =>
        obtain ⟨events, hturn, -⟩ := Rest.course_run (s.removeAll es) store.server
          ⟨st, u.calls ++ [s.removeCall c.guildId id]⟩
        have hmore := hturn.calls
        dsimp only at h
        rw [h, List.append_assoc] at hmore
        obtain rfl := List.append_cancel_left (hcalls.symm.trans hmore)
        have hlater := ih (before ++ [(s.removeCall c.guildId id).route]) h
          (hmore.trans (List.append_assoc ..).symm) hes fun d hd => ?_
        · rwa [List.append_assoc] at hlater
        by_cases hsame : d.guildId = c.guildId ∧ d.id = some id
        · exact .inr ⟨_, List.mem_append_right _ List.mem_cons_self, CommandSync.commandRoute_eq_ok.mpr hsame⟩
        · refine (hrest d hd).imp (fun hd => (store.delete _ _ _ _ _ hanswer d.guildId d).mpr ⟨hd, hsame⟩) ?_
          rintro ⟨route, hmem, hdroute⟩
          exact ⟨route, List.mem_append_left _ hmem, hdroute⟩
      | error e' =>
        cases h
        obtain rfl := List.append_cancel_left hcalls
        rcases hcstored with hcstored | ⟨route, hmem, hcroute⟩
        · obtain ⟨body, st', hdelete⟩ := hs.deletes u.state c.guildId c hcstored id hid
          rw [hdelete] at hanswer
          cases hanswer
        · obtain rfl : route = (s.removeCall c.guildId id).route :=
            Except.ok.inj (hcroute.symm.trans hroute)
          intro hnodup
          exact List.disjoint_of_nodup_append hnodup hmem List.mem_cons_self

end Strict

section Routes

def sentRoutes (events : List Event) : List String := (events.filterMap Event.sent?).map Call.route

lemma nodup_routes {calls : List Call} (hall : calls.map .ok = es.map s.removal)
    (hnodup : (es.map fun c => (c.guildId, c.id)).Nodup) : (calls.map Call.route).Nodup := by
  have hdelete : ∀ x ∈ calls, ∃ e ∈ es, ∃ id, e.id = some id ∧ x = s.deleteOf e.guildId id := by
    intro x hx
    obtain ⟨e, he, hremoval⟩ := List.mem_map.mp (hall ▸ List.mem_map_of_mem (f := Except.ok) hx)
    exact ⟨e, he, CommandSync.removal_eq_ok.mp hremoval⟩
  have hdistinct : (es.map s.removal).Nodup := by
    rw [List.Nodup, List.pairwise_map] at hnodup ⊢
    refine hnodup.imp_of_mem fun {c d} hc _ hne heq => ?_
    obtain ⟨x, -, hx⟩ := List.mem_map.mp (hall ▸ List.mem_map_of_mem (f := s.removal) hc)
    obtain ⟨i, hi, rfl⟩ := CommandSync.removal_eq_ok.mp hx.symm
    obtain ⟨j, hj, hcalls⟩ := CommandSync.removal_eq_ok.mp (heq.symm.trans hx.symm)
    obtain ⟨hguild, rfl⟩ := CommandSync.deleteOf_cancel hcalls
    exact hne (by rw [hguild, hi, hj])
  rw [← hall] at hdistinct
  refine hdistinct.of_map.map_on fun x hx y hy hroute => ?_
  obtain ⟨e, -, i, -, rfl⟩ := hdelete x hx
  obtain ⟨f, -, j, -, rfl⟩ := hdelete y hy
  exact congrArg (fun route => (⟨.delete, route, none⟩ : Call)) hroute

lemma count_route {calls : List Call} {e : AppCommand} (hall : calls.map .ok = es.map s.removal)
    (hnodup : (es.map fun c => (c.guildId, c.id)).Nodup) (he : e ∈ es) :
    ∃ id ∈ e.id, (calls.map Call.route).count (s.deleteOf e.guildId id).route = 1 := by
  obtain ⟨x, hx, hremoval⟩ := List.mem_map.mp (hall ▸ List.mem_map_of_mem (f := s.removal) he)
  obtain ⟨id, hid, rfl⟩ := CommandSync.removal_eq_ok.mp hremoval.symm
  exact ⟨id, hid, List.count_eq_one_of_mem (nodup_routes hall hnodup) (List.mem_map_of_mem hx)⟩

end Routes

section Settled

variable {guilds : List Snowflake}

lemma run_settle (hfetch : (s.fetch guilds).run store.server t = (.ok cs, u)) :
    (s.bringInLine guilds).run store.server t =
      (do s.removeAll (s.stale cs); s.addInTurn (s.missing cs)).run store.server u := by
  rw [CommandSync.bringInLine, Program.run_bind, CommandSync.listStored, Program.run_recover, hfetch]
  rfl

lemma Strict.settles_once (hs : store.Strict) (hmem : ∀ c ∈ es, c ∈ store.stored u.state c.guildId)
    (hnodup : (es.map fun c => (c.guildId, c.id)).Nodup) :
    ∃ deletes posts result t',
      (do s.removeAll es; s.addInTurn cs).run store.server u = (result, t') ∧
      InTurn store.server u (deletes ++ posts) t' ∧
      (∀ x ∈ deletes, ∃ e ∈ es, ∃ id ∈ e.id, x.call = s.deleteOf e.guildId id) ∧
      (∀ x ∈ posts, x.call.method = .post) ∧
      (∀ e ∈ es, ∃ id ∈ e.id, (sentRoutes deletes).count (s.deleteOf e.guildId id).route = 1) ∧
      ∀ m, result ≠ .error (.notFound m) := by
  obtain ⟨v, hremove⟩ := Deletes.removeAll hs.deletes hmem hnodup
  obtain ⟨deletes, hdeletes, hremoved⟩ := Rest.course_run (s.removeAll es) store.server u
  obtain ⟨posts, hposts, hadded⟩ := Rest.course_run (s.addInTurn cs) store.server v
  rw [hremove] at hdeletes
  obtain ⟨calls, hmade, hall⟩ := removeAll_calls hremove
  have hcalls := List.append_cancel_left (hdeletes.calls.symm.trans hmade)
  rw [Program.run_bind, hremove]
  refine ⟨deletes, posts, _, _, rfl, hdeletes.append hposts, fun x => deletes_of_removeAll hremoved,
    fun x hx => ?_, fun e he => ?_, hs.addInTurn_result⟩
  · obtain ⟨c, -, hcall⟩ := List.mem_map.mp ((CommandSync.additions hadded).mem hx)
    rw [← hcall, CommandSync.addCall]
  · rw [sentRoutes, hcalls]
    exact count_route hall hnodup he

lemma Strict.settles_again (hs : store.Strict) (hmem : ∀ c ∈ es, c ∈ store.stored u.state c.guildId)
    (hagain : ¬(es.map fun c => (c.guildId, c.id)).Nodup) :
    ∃ deletes m t',
      (do s.removeAll es; s.addInTurn cs).run store.server u = (.error (.notFound m), t') ∧
      InTurn store.server u deletes t' ∧
      (∀ x ∈ deletes, ∃ e ∈ es, ∃ id ∈ e.id, x.call = s.deleteOf e.guildId id) ∧
      ¬(sentRoutes deletes).Nodup := by
  have hids : ∀ c ∈ es, c.id ≠ none := fun c hc => store.id_stored _ _ c (hmem c hc)
  obtain ⟨deletes, hdeletes, hremoved⟩ := Rest.course_run (s.removeAll es) store.server u
  rcases hremove : (s.removeAll es).run store.server u with ⟨result, v⟩
  have hresult := hs.removeAll_result (t := u) hids
  rw [hremove] at hdeletes hresult
  rcases hresult with rfl | ⟨m, rfl⟩
  · exact absurd (hs.nodup_of_removeAll hremove) hagain
  · rw [Program.run_bind, hremove]
    exact ⟨deletes, m, v, rfl, hdeletes, fun x => deletes_of_removeAll hremoved,
      hs.repeats [] hremove hdeletes.calls hids fun c hc => .inl (hmem c hc)⟩

/-- A sync that could list the stored commands removes each stale one once, and no removal comes too late,
exactly if there is none in a guild that is listed again. Otherwise it removes one again, which fails, and
then it sends nothing. -/
theorem stale_removed_once (hs : store.Strict) (hfresh : s.started = false) (hids : store.DistinctIds t.state)
    (hfetch : (s.fetch guilds).run store.server t = (.ok cs, u)) :
    ∃ deletes posts result t', (s.start guilds).1.run store.server t = (result, t') ∧
      InTurn store.server u (deletes ++ posts) t' ∧
      (∀ x ∈ deletes, ∃ e ∈ s.stale cs, ∃ id ∈ e.id, x.call = s.deleteOf e.guildId id) ∧
      (∀ x ∈ posts, x.call.method = .post) ∧
      ((∀ g, 1 < guilds.count g → ∀ e ∈ store.stored t.state (some g),
          CommandSync.isStale s.registry.published e = false) →
        (∀ e ∈ s.stale cs, ∃ id ∈ e.id, (sentRoutes deletes).count (s.deleteOf e.guildId id).route = 1) ∧
          ∀ m, result ≠ .error (.notFound m)) ∧
      ((∃ g, 1 < guilds.count g ∧ ∃ e ∈ store.stored t.state (some g),
          CommandSync.isStale s.registry.published e = true) →
        posts = [] ∧ ¬(sentRoutes deletes).Nodup ∧ ∃ m, result = .error (.notFound m)) := by
  obtain ⟨rfl, hstored, -⟩ := fetch_ok hfetch
  have hmem := stored_of_stale guilds hstored
  have hdistinct := nodup_stale_iff guilds hids
  have hstart : (s.start guilds).1 = s.bringInLine guilds := by simp [CommandSync.start, hfresh]
  rw [hstart, run_settle hfetch]
  by_cases hnodup : ((s.stale (store.listed guilds t.state)).map fun c => (c.guildId, c.id)).Nodup
  · obtain ⟨deletes, posts, result, t', hrun, hturn, hdeletes, hposts, honce, hfound⟩ :=
      hs.settles_once hmem hnodup
    refine ⟨deletes, posts, result, t', hrun, hturn, hdeletes, hposts, fun _ => ⟨honce, hfound⟩, ?_⟩
    rintro ⟨g, hg, e, he, hstale⟩
    rw [hdistinct.mp hnodup g hg e he] at hstale
    cases hstale
  · obtain ⟨deletes, m, t', hrun, hturn, hdeletes, htwice⟩ := hs.settles_again hmem hnodup
    refine ⟨deletes, [], _, t', hrun, by rwa [List.append_nil], hdeletes, List.forall_mem_nil _,
      fun hnone => absurd (hdistinct.mpr hnone) hnodup, fun _ => ⟨rfl, htwice, m, rfl⟩⟩

end Settled

noncomputable def strictServer (s : CommandSync) (cs : List AppCommand) (call : Rest.Call) :
    Rest.Outcome × List AppCommand :=
  open Classical in
  if call.method = .delete ∧ ∀ e ∈ cs, e.Plain → s.commandRoute e ≠ .ok call.route then
    (.error (.notFound call.route), cs)
  else listServer s cs call

lemma strictServer_ok {s : CommandSync} {es es' : List AppCommand} {call : Rest.Call} {body : Option Json}
    (h : strictServer s es call = (.ok body, es')) : listServer s es call = (.ok body, es') := by
  unfold strictServer at h
  split at h
  · cases h
  · exact h

lemma strictServer_kept {s : CommandSync} {es : List AppCommand} {call : Rest.Call}
    (h : call.method ≠ .delete) : strictServer s es call = listServer s es call :=
  if_neg fun hnone => h hnone.1

noncomputable def strictStore (s : CommandSync) : CommandStore (List AppCommand) s where
  server := strictServer s
  stored := (listStore s).stored
  guildId_stored := (listStore s).guildId_stored
  id_stored := (listStore s).id_stored
  list es es' g body h := (listStore s).list es es' g body (strictServer_ok h)
  delete es es' g id body h := (listStore s).delete es es' g id body (strictServer_ok h)
  create es es' g j body h := (listStore s).create es es' g j body (strictServer_ok h)

lemma mem_strictStore {s : CommandSync} {es : List AppCommand} {g : Option Snowflake} {e : AppCommand} :
    e ∈ (strictStore s).stored es g ↔ e ∈ es ∧ e.guildId = g ∧ e.id ≠ none ∧ e.Plain := by
  simp only [strictStore, listStore, List.mem_filter, decide_eq_true_eq]

lemma strictStore_reliable (s : CommandSync) : (strictStore s).Reliable where
  list es g := by
    obtain ⟨body, es', hlist⟩ := (listStore_reliable s).list es g
    have hkept : strictServer s es (s.listCall g) = _ := strictServer_kept (by nofun)
    exact ⟨body, es', hkept.trans hlist⟩
  delete es g e he id hid := by
    obtain ⟨hmem, hguild, -, hplain⟩ := mem_strictStore.mp he
    have hroute : s.commandRoute e = .ok (s.removeCall g id).route :=
      CommandSync.commandRoute_eq_ok.mpr ⟨hguild, hid⟩
    have hfound : strictServer s es (s.removeCall g id) = listServer s es (s.removeCall g id) := by
      refine if_neg ?_
      rintro ⟨-, hnone⟩
      exact hnone e hmem hplain hroute
    obtain ⟨body, es', hdelete⟩ := (listStore_reliable s).delete es g e he id hid
    exact ⟨body, es', hfound.trans hdelete⟩
  create es c hplain := by
    obtain ⟨body, es', hcreate⟩ := (listStore_reliable s).create es c hplain
    have hkept : strictServer s es (s.addCall c) = _ := strictServer_kept (by nofun)
    exact ⟨body, es', hkept.trans hcreate⟩

lemma strictStore_strict (s : CommandSync) : (strictStore s).Strict where
  deletes := (strictStore_reliable s).delete
  gone es g id hnone := by
    refine ⟨_, _, if_pos ⟨rfl, fun e he hplain hroute => ?_⟩⟩
    obtain ⟨hguild, hid⟩ := CommandSync.commandRoute_eq_ok.mp hroute
    exact hnone e (mem_strictStore.mpr ⟨he, hguild, by simp [hid], hplain⟩) hid
  create es c m es' h := by
    have hkept : listServer s es (s.addCall c) = (.error (.notFound m), es') :=
      (strictServer_kept (by nofun)).symm.trans h
    simp only [listServer, CommandSync.addCall] at hkept
    split at hkept
    · split at hkept <;> cases hkept
    · cases hkept

def pongs : List AppCommand := [
  { AppCommand.named .chatInput "pong" "" with id := some ⟨2⟩ },
  { AppCommand.named .chatInput "pong" "" with id := some ⟨3⟩, guildId := some ⟨6⟩ }]

lemma pongs_ids : (strictStore ping).DistinctIds pongs := fun _ =>
  (by decide : (pongs.map (·.id)).Nodup).sublist (List.filter_sublist.map _)

theorem pongs_removed_once : (strictStore ping).Strict ∧ ping.started = false ∧
    ∃ cs u, (ping.fetch [⟨5⟩, ⟨5⟩, ⟨6⟩]).run (strictStore ping).server ⟨pongs, []⟩ = (.ok cs, u) ∧
      ∃ deletes posts result t',
        (ping.start [⟨5⟩, ⟨5⟩, ⟨6⟩]).1.run (strictStore ping).server ⟨pongs, []⟩ = (result, t') ∧
        InTurn (strictStore ping).server u (deletes ++ posts) t' ∧
        (∀ e ∈ ping.stale cs, ∃ id ∈ e.id,
          (sentRoutes deletes).count (ping.deleteOf e.guildId id).route = 1) ∧
        ∀ m, result ≠ .error (.notFound m) := by
  refine ⟨strictStore_strict ping, rfl, ?_⟩
  obtain ⟨u, hfetch⟩ := (strictStore_reliable ping).fetch (t := ⟨pongs, []⟩) [⟨5⟩, ⟨5⟩, ⟨6⟩]
  obtain ⟨deletes, posts, result, t', hrun, hxs, -, -, honce, -⟩ :=
    stale_removed_once (t := ⟨pongs, []⟩) (strictStore_strict ping) rfl pongs_ids hfetch
  refine ⟨_, u, hfetch, deletes, posts, result, t', hrun, hxs, honce fun g hg e he => ?_⟩
  obtain ⟨hmem, hguild, -⟩ := mem_strictStore.mp he
  have hplaces : ∀ e ∈ pongs, e.guildId ∈ [none, some ⟨6⟩] := by decide
  have hsix : g = ⟨6⟩ := by simpa [hguild] using hplaces e hmem
  subst hsix
  exact absurd hg (by decide)

theorem pong_removed_again :
    ping.registry.Reachable ∧ (strictStore ping).Strict ∧ (strictStore ping).DistinctIds pongs ∧
    ∃ cs u, (ping.fetch [⟨6⟩, ⟨6⟩]).run (strictStore ping).server ⟨pongs, []⟩ = (.ok cs, u) ∧
      ∃ deletes result t',
        (ping.start [⟨6⟩, ⟨6⟩]).1.run (strictStore ping).server ⟨pongs, []⟩ = (result, t') ∧
        InTurn (strictStore ping).server u deletes t' ∧
        ¬(sentRoutes deletes).Nodup ∧ ∃ m, result = .error (.notFound m) := by
  obtain ⟨u, hfetch⟩ := (strictStore_reliable ping).fetch (t := ⟨pongs, []⟩) [⟨6⟩, ⟨6⟩]
  obtain ⟨-, hstored, -⟩ := fetch_ok hfetch
  have hagain := (nodup_stale_iff [⟨6⟩, ⟨6⟩] pongs_ids).not.mpr fun hnone => ?_
  · obtain ⟨deletes, m, t', hrun, hturn, -, htwice⟩ :=
      (strictStore_strict ping).settles_again (stored_of_stale _ hstored) hagain
    exact ⟨ping_reachable, strictStore_strict ping, pongs_ids, _, u, hfetch, deletes, _, t',
      (run_settle hfetch).trans hrun, hturn, htwice, m, rfl⟩
  · obtain ⟨e, hmem, hguild, hid, hplain, hstale⟩ : ∃ e ∈ pongs, e.guildId = some ⟨6⟩ ∧ e.id = some ⟨3⟩ ∧
        e.Plain ∧ CommandSync.isStale ping.registry.published e = true := by
      refine ⟨_, List.mem_cons_of_mem _ List.mem_cons_self, rfl, rfl, ?_, ?_⟩
      · exact ⟨rfl, List.forall_mem_nil _⟩
      · decide
    have hlive := hnone ⟨6⟩ (by decide) e (mem_strictStore.mpr ⟨hmem, hguild, by simp [hid], hplain⟩)
    rw [hstale] at hlive
    cases hlive

end CommandStore

end DiscordBot
