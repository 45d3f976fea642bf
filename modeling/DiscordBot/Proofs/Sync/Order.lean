import DiscordBot.Proofs.Rest.Talk
import DiscordBot.Proofs.Sync.Leftovers

/-! The calls of a sync and their order, whatever is answered and when: lists, then removals, then additions.
The lists are in flight together and so are the removals, while an addition waits for the one before. -/

namespace DiscordBot

open Rest (Call Event Open Program Request Round Talk Begun)

namespace CommandSync

variable {s : CommandSync} {guilds : List Snowflake} {cs : List AppCommand}
  {es gets deletes posts : List Event} {talk : Talk Unit}

section Calls

def collection (s : CommandSync) : Option Snowflake → String
  | none => "applications/" ++ s.applicationId.text ++ "/commands"
  | some g => "applications/" ++ s.applicationId.text ++ "/guilds/" ++ g.text ++ "/commands"

def getOf (s : CommandSync) (g : Option Snowflake) : Call := ⟨.get, s.collection g, none⟩

def deleteOf (s : CommandSync) (g : Option Snowflake) (id : Snowflake) : Call :=
  ⟨.delete, s.collection g ++ "/" ++ id.text, none⟩

def postOf (s : CommandSync) (c : AppCommand) : Call := ⟨.post, s.collection c.guildId, some c.payload⟩

lemma listRoute_eq (s : CommandSync) (g : Option Snowflake) : s.listRoute g = s.collection g := by
  cases g <;> rfl

lemma listCall_eq (s : CommandSync) (g : Option Snowflake) : s.listCall g = s.getOf g := by
  rw [listCall, listRoute_eq, getOf]

lemma addCall_eq (s : CommandSync) (c : AppCommand) : s.addCall c = s.postOf c := by
  rw [addCall, listRoute_eq, postOf]

lemma removal_eq_ok {e : AppCommand} {c : Call} :
    s.removal e = .ok c ↔ ∃ id, e.id = some id ∧ c = s.deleteOf e.guildId id := by
  rw [removal, commandRoute, listRoute_eq]
  cases e.id with
  | none => simp [Except.map]
  | some id => simp [Except.map, deleteOf, eq_comm]

lemma deleteOf_cancel {g g' : Option Snowflake} {id id' : Snowflake}
    (h : s.deleteOf g id = s.deleteOf g' id') : g = g' ∧ id = id' := by
  have hroute := congrArg Call.route h
  simp only [deleteOf, ← listRoute_eq] at hroute
  obtain ⟨hguild, hid⟩ := route_injective hroute
  exact ⟨hguild, Snowflake.text_injective hid⟩

end Calls

section Listing

def Tells (body : Option Json) (cs : List AppCommand) : Prop :=
  match body with
  | none => cs = []
  | some j => ofJson? j = some cs

inductive Listing (s : CommandSync) (guilds : List Snowflake) (gets : List Event) :
    Result BotError (List AppCommand) → Prop
  | heard {answered : List (Call × Option Json)} {lists : List (List AppCommand)} :
      answered.map Prod.fst = (scopes guilds).map s.getOf → gets.Perm (answered.flatMap Event.exchange) →
      List.Forall₂ Tells (answered.map Prod.snd) lists → Listing s guilds gets (.ok lists.flatten)
  | unread {c : Call} {j : Json} {e : BotError} : .answered c (.ok (some j)) ∈ gets →
      (ofJson? j : Option (List AppCommand)) = none → (∀ m, e ≠ .forbidden m) →
      Listing s guilds gets (.error e)
  | failed {c : Call} {e : BotError} : gets.getLast? = some (.answered c (.error e)) →
      Listing s guilds gets (.error e)
  | overflow {c : Call} : gets.getLast? = some (.answered c .overflow) → Listing s guilds gets .overflow

lemma readList_eq_ok {body : Option Json} : readList body = .ok cs ↔ Tells body cs := by
  cases body with
  | none => simp [readList, Tells, eq_comm]
  | some j =>
    simp only [readList, Tells, decoded]
    cases (ofJson? j : Option (List AppCommand)) <;> simp

lemma readLists_eq_ok {bodies : List (Option Json)} (h : readLists bodies = .ok cs) :
    ∃ lists, List.Forall₂ Tells bodies lists ∧ cs = lists.flatten := by
  induction bodies generalizing cs with
  | nil =>
    cases h
    exact ⟨[], .nil, rfl⟩
  | cons body bodies ih =>
    rw [readLists] at h
    cases hbody : readList body with
    | error e =>
      rw [hbody] at h
      cases h
    | ok ds =>
      cases hrest : readLists bodies with
      | error e =>
        rw [hbody, hrest] at h
        cases h
      | ok rest =>
        rw [hbody, hrest] at h
        cases h
        obtain ⟨lists, hall, rfl⟩ := ih hrest
        exact ⟨ds :: lists, .cons (readList_eq_ok.mp hbody) hall, rfl⟩

lemma readLists_eq_error {bodies : List (Option Json)} {e : BotError} (h : readLists bodies = .error e) :
    e = .malformedJson ∧ ∃ j, some j ∈ bodies ∧ (ofJson? j : Option (List AppCommand)) = none := by
  induction bodies with
  | nil => cases h
  | cons body bodies ih =>
    rw [readLists] at h
    cases hbody : readList body with
    | error e' =>
      rw [hbody] at h
      cases h
      cases body with
      | none => cases hbody
      | some j =>
        simp only [readList, decoded] at hbody
        split at hbody
        · cases hbody
        · rename_i hj
          cases hbody
          exact ⟨rfl, j, List.mem_cons_self, hj⟩
    | ok ds =>
      cases hrest : readLists bodies with
      | ok rest =>
        rw [hbody, hrest] at h
        cases h
      | error e' =>
        rw [hbody, hrest] at h
        cases h
        obtain ⟨he, j, hj, hnone⟩ := ih hrest
        exact ⟨he, j, List.mem_cons_of_mem _ hj, hnone⟩

end Listing

section Shape

def settle (s : CommandSync) (stored : List AppCommand) : Program Unit :=
  .asks ((s.stale stored).map s.removal) fun
    | .error e => .ended (.error e)
    | .ok _ => s.addInTurn (s.missing stored)

lemma settle_eq (stored : List AppCommand) : (do
      s.removeAll (s.stale stored)
      s.addInTurn (s.missing stored)) = s.settle stored := by
  refine congrArg (Program.asks _) (funext fun bodies => ?_)
  cases bodies <;> rfl

def proceed (s : CommandSync) : Except BotError (List AppCommand) → Program Unit
  | .ok stored => s.settle stored
  | .error (.forbidden _) => s.settle []
  | .error e => .ended (.error e)

lemma recover_eq (listed : Except BotError (List AppCommand)) :
    ((Rest.recover (.ended listed) fun e =>
        match e with
        | .forbidden _ => pure []
        | e => Rest.lift (.error e)) >>= fun stored => do
      s.removeAll (s.stale stored)
      s.addInTurn (s.missing stored)) = s.proceed listed := by
  cases listed with
  | ok stored => exact settle_eq stored
  | error e =>
    cases e with
    | forbidden m => exact settle_eq []
    | _ => rfl

lemma bringInLine_eq : s.bringInLine guilds =
    .asks ((scopes guilds).map fun g => .ok (s.listCall g)) fun bodies => s.proceed (bodies.bind readLists) := by
  refine congrArg (Program.asks _) (funext fun bodies => ?_)
  rw [← recover_eq]
  cases bodies <;> rfl

lemma addInTurn_cons (c : AppCommand) (cs : List AppCommand) : s.addInTurn (c :: cs) =
    .asks [.ok (s.addCall c)] fun
      | .error e => .ended (.error e)
      | .ok _ => s.addInTurn cs :=
  congrArg (Program.asks _) (funext fun
    | .error _ => rfl
    | .ok _ => rfl)

end Shape

section Additions

inductive Additions : List Call → List Event → Talk Unit → Prop
  | done : Additions [] [] (.ended (.ok ()))
  | due {c : Call} {cs : List Call} {requests : List Request} {next} :
      Additions (c :: cs) [] (.waits requests next)
  | pending {c : Call} {cs : List Call} {requests : List Request} {next} :
      Additions (c :: cs) [.sent c] (.waits requests next)
  | received {c : Call} {cs : List Call} {body : Option Json} {requests : List Request} {next} :
      Additions (c :: cs) [.sent c, .answered c (.ok body)] (.waits requests next)
  | failed {c : Call} {cs : List Call} {outcome : Rest.Outcome} : outcome.isOk = false →
      Additions (c :: cs) [.sent c, .answered c outcome] (.ended (outcome.map fun _ => ()))
  | next {c : Call} {cs : List Call} {body : Option Json} {es : List Event} {talk : Talk Unit} :
      Additions cs es talk → Additions (c :: cs) (.sent c :: .answered c (.ok body) :: es) talk

lemma additions (h : (s.addInTurn cs).talk.Course es talk) :
    Additions (cs.map s.addCall) es talk := by
  induction cs generalizing es with
  | nil =>
    obtain ⟨rfl, rfl⟩ := h.of_ended
    exact .done
  | cons c cs ih =>
    rw [addInTurn_cons] at h
    cases h.begun with
    | waiting hopen =>
      rcases hopen.single with ⟨rfl, rfl⟩ | ⟨rfl, rfl⟩ | ⟨body, rfl, rfl⟩
      · exact .due
      · exact .pending
      · exact .received
    | answered hround hcourse =>
      obtain ⟨outcome, rfl, houtcome⟩ := hround.single
      obtain ⟨body, rfl, -⟩ := Result.map_eq_ok.mp houtcome.symm
      exact .next (ih hcourse)
    | failed hround hcourse =>
      obtain ⟨outcome, rfl, houtcome⟩ := hround.single
      obtain rfl := Result.map_eq_error.mp houtcome.symm
      obtain ⟨rfl, rfl⟩ := hcourse.of_ended
      exact .failed rfl
    | overflow hround =>
      obtain ⟨outcome, rfl, houtcome⟩ := hround.single
      obtain rfl := Result.map_eq_overflow.mp houtcome.symm
      exact .failed rfl

variable {calls : List Call}

lemma Additions.sent (h : Additions calls es talk) : es.filterMap Event.sent? <+: calls := by
  induction h with
  | done | due => exact List.nil_prefix
  | pending | received | failed => exact List.cons_prefix_cons.mpr ⟨rfl, List.nil_prefix⟩
  | next _ ih => exact List.cons_prefix_cons.mpr ⟨rfl, ih⟩

lemma Additions.mem (h : Additions calls es talk) {x : Event} (hx : x ∈ es) : x.call ∈ calls := by
  induction h with
  | done | due => cases hx
  | pending =>
    obtain rfl := List.mem_singleton.mp hx
    exact List.mem_cons_self
  | received | failed =>
    rcases List.mem_pair.mp hx with rfl | rfl <;> exact List.mem_cons_self
  | next _ ih =>
    rcases List.mem_cons.mp hx with rfl | hx
    · exact List.mem_cons_self
    · rcases List.mem_cons.mp hx with rfl | hx
      · exact List.mem_cons_self
      · exact List.mem_cons_of_mem _ (ih hx)

lemma Additions.stop (h : Additions calls es talk) {c : Call} {outcome : Rest.Outcome}
    (hx : .answered c outcome ∈ es) (hbad : outcome.isOk = false) :
    talk = .ended (outcome.map fun _ => ()) ∧ es.getLast? = some (.answered c outcome) := by
  induction h with
  | done | due => cases hx
  | pending => cases List.mem_singleton.mp hx
  | received =>
    rcases List.mem_pair.mp hx with hx | hx <;> cases hx
    cases hbad
  | failed =>
    rcases List.mem_pair.mp hx with hx | hx <;> cases hx
    exact ⟨rfl, rfl⟩
  | next _ ih =>
    rcases List.mem_cons.mp hx with hx | hx
    · cases hx
    · rcases List.mem_cons.mp hx with hx | hx
      · cases hx
        cases hbad
      · obtain ⟨htalk, hlast⟩ := ih hx
        exact ⟨htalk, by simp [List.getLast?_cons, hlast]⟩

lemma Additions.waits (h : Additions calls es talk) {c d : Call} {xs : List Event}
    (hc : xs ++ [.sent c] <+: es) (hd : .sent d ∈ xs) : ∃ body, .answered d (.ok body) ∈ xs := by
  induction h generalizing xs with
  | done | due => simp at hc
  | pending | received | failed =>
    rcases xs with _ | ⟨x, _ | ⟨y, xs⟩⟩
    · cases hd
    · simp at hc
    · simp at hc
  | @next a cs body es talk _ ih =>
    rcases xs with _ | ⟨x, _ | ⟨y, xs⟩⟩
    · cases hd
    · simp at hc
    · simp only [List.cons_append, List.cons_prefix_cons] at hc
      obtain ⟨rfl, rfl, hc⟩ := hc
      rcases List.mem_cons.mp hd with hd | hd
      · cases hd
        exact ⟨body, List.mem_cons_of_mem _ List.mem_cons_self⟩
      · rcases List.mem_cons.mp hd with hd | hd
        · cases hd
        · obtain ⟨body', hbody'⟩ := ih hc hd
          exact ⟨body', List.mem_cons_of_mem _ (List.mem_cons_of_mem _ hbody')⟩

lemma Additions.of_ok (h : Additions calls es (.ended (.ok ()))) : es.filterMap Event.sent? = calls := by
  generalize htalk : Talk.ended (.ok ()) = talk at h
  induction h with
  | done => rfl
  | due | pending | received => cases htalk
  | failed hbad =>
    cases Result.map_eq_ok.mp (Talk.ended.inj htalk).symm with
    | intro body hbody =>
      rw [hbody.1] at hbad
      cases hbad
  | next _ ih => exact congrArg (_ :: ·) (ih htalk)

end Additions

section Writes

/-- How far a sync has come that knows what is stored. -/
inductive Settling (s : CommandSync) (stored : List AppCommand) : List Event → List Event → Talk Unit → Prop
  | removing {deletes : List Event} {requests : List Request} {next} :
      Open ((s.stale stored).map s.removal) requests deletes →
      Settling s stored deletes [] (.waits requests next)
  | unremoved {deletes : List Event} {result : Result BotError (List (Option Json))} :
      Round ((s.stale stored).map s.removal) deletes result → result.isOk = false →
      Settling s stored deletes [] (.ended (result.map fun _ => ()))
  | removed {deletes posts : List Event} {bodies : List (Option Json)} {talk : Talk Unit} :
      Round ((s.stale stored).map s.removal) deletes (.ok bodies) →
      Additions ((s.missing stored).map s.addCall) posts talk → Settling s stored deletes posts talk

lemma settling {stored : List AppCommand} (h : (s.settle stored).talk.Course es talk) :
    ∃ deletes posts, es = deletes ++ posts ∧ s.Settling stored deletes posts talk := by
  cases h.begun with
  | waiting hopen => exact ⟨es, [], (List.append_nil es).symm, .removing hopen⟩
  | answered hround hcourse => exact ⟨_, _, rfl, .removed hround (additions hcourse)⟩
  | failed hround hcourse =>
    obtain ⟨rfl, rfl⟩ := hcourse.of_ended
    exact ⟨_, [], rfl, .unremoved hround rfl⟩
  | overflow hround => exact ⟨es, [], (List.append_nil es).symm, .unremoved hround rfl⟩

namespace Settling

variable {stored : List AppCommand}

lemma mem_deletes (h : s.Settling stored deletes posts talk) {x : Event} (hx : x ∈ deletes) :
    ∃ e ∈ s.stale stored, ∃ id ∈ e.id, x.call = s.deleteOf e.guildId id := by
  have hmem : .ok x.call ∈ (s.stale stored).map s.removal := by
    cases h with
    | removing hopen => exact (hopen.of_mem hx).2
    | unremoved hround _ => exact hround.of_mem hx
    | removed hround _ => exact hround.of_mem hx
  obtain ⟨e, he, hremoval⟩ := List.mem_map.mp hmem
  exact ⟨e, he, removal_eq_ok.mp hremoval⟩

lemma of_failed (h : s.Settling stored deletes posts talk) {c : Call} {outcome : Rest.Outcome}
    (hx : .answered c outcome ∈ deletes) (hbad : outcome.isOk = false) :
    posts = [] ∧ talk = .ended (outcome.map fun _ => ()) ∧ deletes.getLast? = some (.answered c outcome) := by
  cases h with
  | removing hopen =>
    rw [(hopen.of_mem hx).1 c outcome rfl] at hbad
    cases hbad
  | unremoved hround _ =>
    obtain ⟨hresult, hlast⟩ := hround.of_answered hx hbad
    exact ⟨rfl, congrArg _ hresult, hlast⟩
  | removed hround _ =>
    obtain ⟨hresult, -⟩ := hround.of_answered hx hbad
    rw [← Result.isOk_map (f := fun _ => ()), ← hresult] at hbad
    cases hbad

lemma of_posts (h : s.Settling stored deletes posts talk) (hposts : posts ≠ [] ∨ talk = .ended (.ok ())) :
    ∀ e ∈ s.stale stored, ∃ id ∈ e.id, ∃ body, .answered (s.deleteOf e.guildId id) (.ok body) ∈ deletes := by
  cases h with
  | removing => simp at hposts
  | @unremoved result hround hbad =>
    cases result <;> simp [Result.map] at hposts
    cases hbad
  | removed hround _ =>
    obtain ⟨answered, hbatch, hperm, -⟩ := hround.of_ok
    intro e he
    obtain ⟨x, hx, hremoval⟩ := List.mem_map.mp (hbatch ▸ List.mem_map_of_mem (f := s.removal) he)
    obtain ⟨id, hid, hcall⟩ := removal_eq_ok.mp hremoval.symm
    refine ⟨id, hid, x.2, hperm.mem_iff.mpr (List.mem_flatMap.mpr ⟨x, hx, ?_⟩)⟩
    rw [← hcall]
    exact List.mem_cons_of_mem _ List.mem_cons_self

lemma additions (h : s.Settling stored deletes posts talk) :
    (posts = [] ∧ talk ≠ .ended (.ok ())) ∨ Additions ((s.missing stored).map s.postOf) posts talk := by
  cases h with
  | removing => exact .inl ⟨rfl, nofun⟩
  | @unremoved result _ hbad =>
    refine .inl ⟨rfl, fun htalk => ?_⟩
    obtain ⟨_, rfl, -⟩ := Result.map_eq_ok.mp (Talk.ended.inj htalk)
    cases hbad
  | removed _ hadded =>
    rw [← funext (addCall_eq s)]
    exact .inr hadded

end Settling

def seen (listed : Result BotError (List AppCommand)) : List AppCommand :=
  match listed with
  | .ok cs => cs
  | _ => []

def Live (s : CommandSync) (e : AppCommand) : Prop :=
  ∃ c ∈ s.registry.published, c.name = e.name ∧ c.guildId = e.guildId

/-- What happens once it is known whether the stored commands could be listed. -/
structure Writes (s : CommandSync) (listed : Result BotError (List AppCommand)) (deletes posts : List Event)
    (talk : Talk Unit) : Prop where
  stale : ∀ x ∈ deletes, ∃ e ∈ seen listed, ∃ id ∈ e.id, x.call = s.deleteOf e.guildId id ∧ ¬s.Live e
  spares : ∀ e ∈ seen listed, s.Live e →
    (∀ f ∈ seen listed, f.guildId = e.guildId → f.id = e.id → f = e) →
    ∀ id ∈ e.id, ∀ x ∈ deletes, x.call ≠ s.deleteOf e.guildId id
  failedRemoval : ∀ c outcome, .answered c outcome ∈ deletes → outcome.isOk = false →
    posts = [] ∧ talk = .ended (outcome.map fun _ => ()) ∧ deletes.getLast? = some (.answered c outcome)
  removed : posts ≠ [] ∨ talk = .ended (.ok ()) → ∀ e ∈ seen listed, ¬s.Live e →
    ∃ id ∈ e.id, ∃ body, .answered (s.deleteOf e.guildId id) (.ok body) ∈ deletes
  unlisted : ∀ e, listed = .error e →
    deletes = [] ∧ ((∀ m, e ≠ .forbidden m) → posts = [] ∧ talk = .ended (.error e))
  overflow : listed = .overflow → deletes = [] ∧ posts = [] ∧ talk = .ended .overflow
  missing : ∀ x ∈ posts, ∃ c ∈ s.registry.published, x.call = s.postOf c ∧
    ∀ e ∈ seen listed, s.Live e → c.agrees e = false
  inOrder : posts.filterMap Event.sent? <+: (s.missing (seen listed)).map s.postOf
  waits : ∀ xs c, xs ++ [.sent c] <+: posts → ∀ d, .sent d ∈ xs → ∃ body, .answered d (.ok body) ∈ xs
  failedPost : ∀ c outcome, .answered c outcome ∈ posts → outcome.isOk = false →
    talk = .ended (outcome.map fun _ => ()) ∧ posts.getLast? = some (.answered c outcome)
  complete : talk = .ended (.ok ()) → posts.filterMap Event.sent? = (s.missing (seen listed)).map s.postOf

lemma isStale_iff {e : AppCommand} : isStale s.registry.published e = true ↔ ¬s.Live e := by
  rw [Live, ← not_isStale, Bool.not_eq_false]

lemma Settling.writes {listed : Result BotError (List AppCommand)}
    (h : s.Settling (seen listed) deletes posts talk)
    (hlisted : ∀ e, listed = .error e → ∃ m, e = .forbidden m) (hover : listed ≠ .overflow) :
    s.Writes listed deletes posts talk where
  stale x hx := by
    obtain ⟨e, he, id, hid, hcall⟩ := h.mem_deletes hx
    obtain ⟨hmem, hstale⟩ := mem_stale.mp he
    exact ⟨e, hmem, id, hid, hcall, isStale_iff.mp hstale⟩
  spares e _ hlive hown id hid x hx hcall := by
    obtain ⟨f, hf, id', hid', hcall'⟩ := h.mem_deletes hx
    obtain ⟨hmem, hstale⟩ := mem_stale.mp hf
    obtain ⟨hguild, hsame⟩ := deleteOf_cancel (hcall'.symm.trans hcall)
    have hids : f.id = e.id := by rw [Option.mem_def.mp hid, Option.mem_def.mp hid', hsame]
    rw [hown f hmem hguild hids] at hstale
    exact isStale_iff.mp hstale hlive
  failedRemoval c outcome := h.of_failed
  removed hposts e he hdead := h.of_posts hposts e (mem_stale.mpr ⟨he, isStale_iff.mpr hdead⟩)
  unlisted e he := by
    obtain ⟨m, rfl⟩ := hlisted e he
    subst he
    refine ⟨List.eq_nil_iff_forall_not_mem.mpr fun x hx => ?_, fun hother => absurd rfl (hother m)⟩
    obtain ⟨e, he, -⟩ := h.mem_deletes hx
    cases he
  overflow hlisted := absurd hlisted hover
  missing x hx := by
    rcases h.additions with ⟨rfl, -⟩ | hadded
    · cases hx
    · obtain ⟨c, hc, hcall⟩ := List.mem_map.mp (hadded.mem hx)
      obtain ⟨hpublished, hfree⟩ := mem_missing.mp hc
      exact ⟨c, hpublished, hcall.symm, fun e he hlive => hfree e he (not_isStale.mpr hlive)⟩
  inOrder := by
    rcases h.additions with ⟨rfl, -⟩ | hadded
    · exact List.nil_prefix
    · exact hadded.sent
  waits xs c hc d hd := by
    rcases h.additions with ⟨rfl, -⟩ | hadded
    · simp at hc
    · exact hadded.waits hc hd
  failedPost c outcome hx hbad := by
    rcases h.additions with ⟨rfl, -⟩ | hadded
    · cases hx
    · exact hadded.stop hx hbad
  complete htalk := by
    rcases h.additions with ⟨-, hnot⟩ | hadded
    · exact absurd htalk hnot
    · subst htalk
      exact hadded.of_ok

lemma writes_none {listed : Result BotError (List AppCommand)} {result : Result BotError Unit}
    (hlisted : (listed.map fun _ => ()) = result) (hbad : listed.isOk = false) :
    s.Writes listed [] [] (.ended result) where
  stale := List.forall_mem_nil _
  spares _ _ _ _ _ _ := List.forall_mem_nil _
  failedRemoval _ _ h := absurd h List.not_mem_nil
  removed h := by
    subst hlisted
    cases listed <;> simp [Result.map] at h
    cases hbad
  unlisted e he := by
    subst he hlisted
    exact ⟨rfl, fun _ => ⟨rfl, rfl⟩⟩
  overflow he := by
    subst he hlisted
    exact ⟨rfl, rfl, rfl⟩
  missing := List.forall_mem_nil _
  inOrder := List.nil_prefix
  waits xs c h := by simp at h
  failedPost _ _ h := absurd h List.not_mem_nil
  complete h := by
    subst hlisted
    cases listed <;> simp [Result.map] at h
    cases hbad

end Writes

section Listed

lemma writes_of_proceed {listed : Except BotError (List AppCommand)}
    (h : (s.proceed listed).talk.Course es talk) :
    ∃ deletes posts, es = deletes ++ posts ∧ s.Writes (.ofExcept listed) deletes posts talk := by
  cases listed with
  | ok stored =>
    obtain ⟨deletes, posts, rfl, hsettling⟩ := settling h
    exact ⟨deletes, posts, rfl, Settling.writes hsettling nofun nofun⟩
  | error e =>
    by_cases hforbidden : ∃ m, e = .forbidden m
    · obtain ⟨m, rfl⟩ := hforbidden
      obtain ⟨deletes, posts, rfl, hsettling⟩ := settling h
      refine ⟨deletes, posts, rfl, Settling.writes hsettling (fun e he => ⟨m, ?_⟩) nofun⟩
      exact (Result.error.inj he).symm
    · have hended : s.proceed (.error e) = .ended (.error e) := by
        cases e <;> first | rfl | exact absurd ⟨_, rfl⟩ hforbidden
      rw [hended] at h
      obtain ⟨rfl, rfl⟩ := h.of_ended
      exact ⟨[], [], rfl, writes_none rfl rfl⟩

lemma listing_of_answers {bodies : List (Option Json)}
    (h : Round ((scopes guilds).map fun g => .ok (s.listCall g)) gets (.ok bodies)) :
    s.Listing guilds gets (.ofExcept (readLists bodies)) := by
  obtain ⟨answered, hbatch, hperm, rfl⟩ := h.of_ok
  cases hread : readLists (answered.map Prod.snd) with
  | error e =>
    obtain ⟨rfl, j, hj, hnone⟩ := readLists_eq_error hread
    obtain ⟨x, hx, hxj⟩ := List.mem_map.mp hj
    refine .unread (c := x.1) ?_ hnone nofun
    rw [← hxj]
    exact hperm.mem_iff.mpr (List.mem_flatMap.mpr ⟨x, hx, List.mem_cons_of_mem _ List.mem_cons_self⟩)
  | ok cs =>
    obtain ⟨lists, hall, rfl⟩ := readLists_eq_ok hread
    refine .heard ?_ hperm hall
    have hcalls := congrArg (List.filterMap Except.toOption) hbatch
    simpa [List.filterMap_map, Function.comp_def, Except.toOption, listCall_eq] using hcalls.symm

lemma listing_of_error {e : BotError}
    (h : Round ((scopes guilds).map fun g => .ok (s.listCall g)) gets (.error e)) :
    s.Listing guilds gets (.error e) := by
  rcases h.of_error with himpossible | ⟨c, hlast⟩
  · obtain ⟨g, -, hg⟩ := List.mem_map.mp himpossible
    cases hg
  · exact .failed hlast

end Listed

/-- A sync asks for the stored commands and does nothing else until it knows them or that it cannot. It
removes only commands whose name and guild no published command has, and none if it does not know them. What it
sends are published commands that agree with none of those kept, in their order, each to its own place and
when the one before has been created. It sends none unless all removals have succeeded, nor if the commands
could not be listed for another reason than that the bot may not see them. The first call that fails is the
last one, and its error is the result. -/
theorem ordered_writes (hfresh : s.started = false) (h : (s.start guilds).1.talk.Course es talk) :
    ∃ gets deletes posts, es = gets ++ (deletes ++ posts) ∧
      (∀ x ∈ gets, ∃ g ∈ scopes guilds, x.call = s.getOf g) ∧
      ((deletes = [] ∧ posts = [] ∧ ∀ result, talk ≠ .ended result) ∨
        ∃ listed, s.Listing guilds gets listed ∧ s.Writes listed deletes posts talk) := by
  have hstart : (s.start guilds).1 = s.bringInLine guilds := by simp [start, hfresh]
  rw [hstart, bringInLine_eq] at h
  have hgets {x : Event}
      (hx : .ok x.call ∈ (scopes guilds).map fun g => Except.ok (ε := BotError) (s.listCall g)) :
      ∃ g ∈ scopes guilds, x.call = s.getOf g := by
    obtain ⟨g, hg, hcall⟩ := List.mem_map.mp hx
    exact ⟨g, hg, by rw [← listCall_eq, Except.ok.inj hcall]⟩
  cases h.begun with
  | waiting hopen =>
    exact ⟨es, [], [], (List.append_nil es).symm, fun x hx => hgets (hopen.of_mem hx).2,
      .inl ⟨rfl, rfl, fun _ h => by cases h⟩⟩
  | overflow hround =>
    obtain ⟨c, hlast⟩ := hround.of_overflow
    exact ⟨es, [], [], (List.append_nil es).symm, fun x hx => hgets (hround.of_mem hx),
      .inr ⟨_, .overflow hlast, writes_none rfl rfl⟩⟩
  | answered hround hcourse =>
    obtain ⟨deletes, posts, rfl, hwrites⟩ := writes_of_proceed hcourse
    exact ⟨_, deletes, posts, rfl, fun x hx => hgets (hround.of_mem hx),
      .inr ⟨_, listing_of_answers hround, hwrites⟩⟩
  | failed hround hcourse =>
    obtain ⟨deletes, posts, rfl, hwrites⟩ := writes_of_proceed hcourse
    exact ⟨_, deletes, posts, rfl, fun x hx => hgets (hround.of_mem hx),
      .inr ⟨_, listing_of_error hround, hwrites⟩⟩

lemma ping_published : ∃ c, CommandStore.ping.registry.published = [c] := ⟨_, rfl⟩

theorem ping_ordered_writes : CommandStore.ping.started = false ∧ ∃ es c,
    CommandStore.ping.registry.published = [c] ∧
    (CommandStore.ping.start [⟨5⟩]).1.talk.Course es (.ended (.error (.notFound "post"))) ∧
    es = [.sent (CommandStore.ping.getOf none), .sent (CommandStore.ping.getOf (some ⟨5⟩)),
      .answered (CommandStore.ping.getOf (some ⟨5⟩)) (.ok none),
      .answered (CommandStore.ping.getOf none) (.ok none),
      .sent (CommandStore.ping.postOf c), .answered (CommandStore.ping.postOf c) (.error (.notFound "post"))] ∧
    ∃ gets deletes posts, es = gets ++ (deletes ++ posts) ∧
      (∀ x ∈ gets, ∃ g ∈ scopes [⟨5⟩], x.call = CommandStore.ping.getOf g) ∧
      ∃ listed, CommandStore.ping.Listing [⟨5⟩] gets listed ∧
        CommandStore.ping.Writes listed deletes posts (.ended (.error (.notFound "post"))) := by
  obtain ⟨c, hc⟩ := ping_published
  have hmissing : CommandStore.ping.missing [] = [c] := by
    rw [missing, hc]
    rfl
  have hadd : (CommandStore.ping.addInTurn [c]).talk.Course
      ([.sent (CommandStore.ping.postOf c)] ++
        [.answered (CommandStore.ping.postOf c) (.error (.notFound "post"))])
      (.ended (.error (.notFound "post"))) := by
    rw [addInTurn_cons, addCall_eq]
    exact .trans (.single (.sends [] [])) (.single (.fails [] [] _))
  have hsettle : (CommandStore.ping.settle []).talk.Course _ _ :=
    .trans (.single (@Talk.Step.completes _ [] _)) (hmissing ▸ hadd)
  have hcourse : (Program.asks ((scopes [⟨5⟩]).map fun g => .ok (CommandStore.ping.listCall g)) fun bodies =>
      CommandStore.ping.proceed (bodies.bind readLists)).talk.Course _ _ :=
    .trans (.single (.sends [] [_])) <| .trans (.single (.sends [_] [])) <|
      .trans (.single (.answers [_] [] none)) <| .trans (.single (.answers [] [_] none)) <|
        .trans (.single (@Talk.Step.completes _ [(_, none), (_, none)] _)) hsettle
  rw [← bringInLine_eq] at hcourse
  refine ⟨rfl, _, c, hc, hcourse, rfl, ?_⟩
  obtain ⟨gets, deletes, posts, hes, hgets, ⟨-, -, hnot⟩ | hwrites⟩ :=
    @ordered_writes CommandStore.ping [⟨5⟩] _ _ rfl hcourse
  · exact absurd rfl (hnot _)
  · exact ⟨gets, deletes, posts, hes, hgets, hwrites⟩

end CommandSync

end DiscordBot
