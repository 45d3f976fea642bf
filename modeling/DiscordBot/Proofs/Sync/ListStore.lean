import DiscordBot.Proofs.Sync.Store
import Mathlib.Data.List.Basic
import Mathlib.Logic.Function.Basic

/-! A server that keeps all commands in one list and finds them by their routes. -/

namespace DiscordBot

open Rest (Call Outcome)

namespace Snowflake

lemma takeWhile_text_append (i : Snowflake) (xs : List Char) :
    (i.text.toList ++ '/' :: xs).takeWhile Decimal.isDigit = i.text.toList := by
  have hslash : Decimal.isDigit '/' = false := by decide
  rw [List.takeWhile_append_of_pos fun c hc => isDigit_of_mem_text hc]
  simp [hslash]

lemma text_append_cancel {i j : Snowflake} {xs ys : List Char}
    (h : i.text.toList ++ '/' :: xs = j.text.toList ++ '/' :: ys) : i = j ∧ xs = ys := by
  have htext := congrArg (List.takeWhile Decimal.isDigit) h
  rw [takeWhile_text_append, takeWhile_text_append] at htext
  obtain rfl := text_injective (String.toList_injective htext)
  exact ⟨rfl, (List.cons.inj (List.append_cancel_left h)).2⟩

end Snowflake

namespace CommandSync

lemma listRoute_none (s : CommandSync) :
    s.listRoute none = "applications/" ++ s.applicationId.text ++ "/commands" := rfl

lemma listRoute_some (s : CommandSync) (g : Snowflake) :
    s.listRoute (some g) =
      "applications/" ++ s.applicationId.text ++ "/guilds/" ++ g.text ++ "/commands" := rfl

lemma route_injective {s : CommandSync} {g h : Option Snowflake} {x y : String}
    (heq : s.listRoute g ++ "/" ++ x = s.listRoute h ++ "/" ++ y) : g = h ∧ x = y := by
  have hcommands : "/commands".toList = '/' :: 'c' :: "ommands".toList := rfl
  have hguilds : "/guilds/".toList = '/' :: 'g' :: "uilds/".toList := rfl
  have hlist := congrArg String.toList heq
  cases g with
  | none =>
    cases h with
    | none =>
      simp only [listRoute_none, String.toList_append, List.append_assoc,
        List.append_cancel_left_eq] at hlist
      exact ⟨rfl, String.toList_injective hlist⟩
    | some h =>
      simp only [listRoute_none, listRoute_some, String.toList_append, List.append_assoc,
        List.append_cancel_left_eq, hcommands, hguilds, List.cons_append, List.cons.injEq,
        true_and] at hlist
      exact absurd hlist.1 (by decide)
  | some g =>
    cases h with
    | none =>
      simp only [listRoute_none, listRoute_some, String.toList_append, List.append_assoc,
        List.append_cancel_left_eq, hcommands, hguilds, List.cons_append, List.cons.injEq,
        true_and] at hlist
      exact absurd hlist.1 (by decide)
    | some h =>
      simp only [listRoute_some, String.toList_append, List.append_assoc,
        List.append_cancel_left_eq, hcommands, List.cons_append] at hlist
      obtain ⟨rfl, hrest⟩ := Snowflake.text_append_cancel hlist
      simp only [List.cons.injEq, List.append_cancel_left_eq, true_and] at hrest
      exact ⟨rfl, String.toList_injective hrest⟩

lemma listRoute_injective (s : CommandSync) : Function.Injective s.listRoute := fun g h heq =>
  (route_injective (x := "") (y := "") (by rw [heq])).1

lemma commandRoute_eq_ok {s : CommandSync} {e : AppCommand} {g : Option Snowflake} {id : Snowflake} :
    s.commandRoute e = .ok (s.listRoute g ++ "/" ++ id.text) ↔ e.guildId = g ∧ e.id = some id := by
  cases hid : e.id with
  | none => simp [commandRoute, hid]
  | some i =>
    simp only [commandRoute, hid, Except.ok.injEq, Option.some.injEq]
    constructor
    · intro h
      obtain ⟨hguild, htext⟩ := route_injective h
      exact ⟨hguild, Snowflake.text_injective htext⟩
    · rintro ⟨rfl, rfl⟩
      rfl

end CommandSync

def nextId (cs : List AppCommand) : Snowflake :=
  ⟨(cs.foldl (fun n c => max n (c.id.elim 0 fun i => i.id.toNat)) 0 + 1).toUInt64⟩

def sameEntry (g : Option Snowflake) (c e : AppCommand) : Bool :=
  e.guildId == g && e.kind == c.kind && e.name == c.name

lemma not_sameEntry {g : Option Snowflake} {c e : AppCommand} :
    (!sameEntry g c e) = true ↔ ¬(e.guildId = g ∧ e.kind = c.kind ∧ e.name = c.name) := by
  rw [Bool.not_eq_true', ← Bool.not_eq_true]
  simp only [sameEntry, Bool.and_eq_true, beq_iff_eq, and_assoc]

def newEntry (cs : List AppCommand) (g : Option Snowflake) (c : AppCommand) : AppCommand :=
  { c.uploaded with
    id := ((cs.find? (sameEntry g c)).bind (·.id)).or (some (nextId cs))
    guildId := g }

def upsert (cs : List AppCommand) (g : Option Snowflake) (c : AppCommand) : List AppCommand :=
  newEntry cs g c :: cs.filter fun e => !sameEntry g c e

open Classical in
noncomputable def listServer (s : CommandSync) (cs : List AppCommand) (call : Call) :
    Outcome × List AppCommand :=
  match call.method, call.data with
  | .get, _ =>
    (.ok (some (toJson (cs.filter fun e =>
      s.listRoute e.guildId = call.route ∧ e.id ≠ none ∧ e.Plain))), cs)
  | .delete, _ => (.ok none, cs.filter fun e => ¬s.commandRoute e = .ok call.route)
  | .post, some j =>
    match Function.partialInv s.listRoute call.route, AppCommand.ofJson? j with
    | some g, some c =>
      if c.Plain then (.ok (some (toJson (newEntry cs g c))), upsert cs g c)
      else (.error (.badRequest call.route), cs)
    | _, _ => (.error (.badRequest call.route), cs)
  | _, _ => (.error (.methodNotAllowed call.route), cs)

open Classical in
noncomputable def listStore (s : CommandSync) : CommandStore (List AppCommand) s where
  server := listServer s
  stored cs g := cs.filter fun e => e.guildId = g ∧ e.id ≠ none ∧ e.Plain
  guildId_stored cs g e he := by
    simp only [List.mem_filter, decide_eq_true_eq] at he
    exact he.2.1
  id_stored cs g e he := by
    simp only [List.mem_filter, decide_eq_true_eq] at he
    exact he.2.2.1
  list cs cs' g body h := by
    simp only [CommandSync.listCall, listServer, s.listRoute_injective.eq_iff, Prod.mk.injEq,
      Result.ok.injEq] at h
    obtain ⟨rfl, rfl⟩ := h
    refine ⟨?_, rfl⟩
    have hread : ReadsBack (cs.filter fun e => e.guildId = g ∧ e.id ≠ none ∧ e.Plain) :=
      ReadsBack.list fun e he => by
        simp only [List.mem_filter, decide_eq_true_eq] at he
        exact he.2.2.2.readsBack
    simp only [CommandSync.readList, hread.ofJson_toJson, decoded]
  delete cs cs' g id body h i e := by
    simp only [CommandSync.removeCall, listServer, Prod.mk.injEq, CommandSync.commandRoute_eq_ok] at h
    obtain ⟨-, rfl⟩ := h
    simp only [List.mem_filter, decide_eq_true_eq]
    constructor
    · rintro ⟨⟨he, hother⟩, rfl, hproper⟩
      exact ⟨⟨he, rfl, hproper⟩, hother⟩
    · rintro ⟨⟨he, rfl, hproper⟩, hother⟩
      exact ⟨⟨he, hother⟩, rfl, hproper⟩
  create cs cs' g j body h := by
    simp only [listServer, Function.partialInv_left s.listRoute_injective] at h
    cases hj : AppCommand.ofJson? j with
    | none =>
      rw [hj] at h
      cases h
    | some c =>
      simp only [hj] at h
      split at h
      · rename_i hplain
        simp only [Prod.mk.injEq] at h
        obtain ⟨-, rfl⟩ := h
        refine ⟨c, newEntry cs g c, rfl, rfl, fun i e => ?_⟩
        have hnew : (newEntry cs g c).id ≠ none ∧ (newEntry cs g c).Plain := by
          refine ⟨?_, hplain.kind, hplain.options⟩
          simp [newEntry]
        simp only [upsert, List.mem_filter, List.mem_cons, not_sameEntry, decide_eq_true_eq]
        constructor
        · rintro ⟨rfl | ⟨he, hother⟩, rfl, hproper⟩
          · exact Or.inl ⟨rfl, rfl⟩
          · exact Or.inr ⟨⟨he, rfl, hproper⟩, hother⟩
        · rintro (⟨rfl, rfl⟩ | ⟨⟨he, rfl, hproper⟩, hother⟩)
          · exact ⟨Or.inl rfl, rfl, hnew⟩
          · exact ⟨Or.inr ⟨he, hother⟩, rfl, hproper⟩
      · cases h

lemma listStore_reliable (s : CommandSync) : (listStore s).Reliable where
  list cs g := ⟨_, _, rfl⟩
  delete cs g e he id hid := ⟨_, _, rfl⟩
  create cs c hplain := by
    have hread : AppCommand.ofJson? c.payload = some c.uploaded := hplain.ofJson_payload
    have hup : c.uploaded.Plain := ⟨hplain.kind, hplain.options⟩
    refine ⟨some (toJson (newEntry cs c.guildId c.uploaded)), upsert cs c.guildId c.uploaded, ?_⟩
    simp only [listStore, listServer, CommandSync.addCall,
      Function.partialInv_left s.listRoute_injective, hread, if_pos hup]

end DiscordBot
