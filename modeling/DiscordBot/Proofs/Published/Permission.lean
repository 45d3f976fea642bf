import DiscordBot.Proofs.Command.ReadBack
import DiscordBot.Proofs.Published.Leaves
import DiscordBot.Proofs.Registry.Rules

/-! Who may use what is published. What is published as it was declared keeps what was declared for it; a
group lets everyone in, whatever was declared for the commands in it. -/

namespace DiscordBot

lemma map_updateFirst {α β : Type} {p : β → Bool} {f : β → β} {f' : α → α} (view : α → β)
    (hf : ∀ x, view (f' x) = f (view x)) (new : α) (xs : List α) :
    (updateFirst (p ∘ view) f' new xs).map view = updateFirst p f (view new) (xs.map view) := by
  induction xs with
  | nil => simp [updateFirst, hf]
  | cons x xs ih =>
    rw [updateFirst, List.map_cons, updateFirst, Function.comp_apply]
    split
    · rw [List.map_cons, hf]
    · rw [List.map_cons, ih]

/-- A published command, with the registered ones that ended up in it. -/
structure Gathered where
  top : AppCommand
  members : List RegisteredCommand

namespace RegisteredCommand

def gather (built : List Gathered) (c : RegisteredCommand) : List Gathered :=
  match c.group with
  | none => built ++ [⟨c.app, [c]⟩]
  | some g =>
    updateFirst
      ((fun t => t.name == g.name && t.guildId == c.app.guildId && t.kind == .chatInput && t.isGroup) ∘
        Gathered.top)
      (fun p => ⟨c.addTo p.top, p.members ++ [c]⟩) ⟨g.published c.app.guildId, []⟩ built

variable {c : RegisteredCommand} {cs : List RegisteredCommand}

lemma map_top_gather (built : List Gathered) (c : RegisteredCommand) :
    (gather built c).map Gathered.top = publish (built.map Gathered.top) c := by
  unfold gather publish
  cases c.group with
  | none => simp
  | some g => exact map_updateFirst Gathered.top (fun _ => rfl) _ built

lemma flatMap_members_gather (built : List Gathered) (c : RegisteredCommand) :
    ((gather built c).flatMap Gathered.members).Perm (built.flatMap Gathered.members ++ [c]) := by
  unfold gather
  cases c.group with
  | none => simp
  | some g => exact flatMap_updateFirst_perm (fun _ _ => .refl _) (.refl _)

lemma mem_gather {built : List Gathered} {p : Gathered} (h : p ∈ gather built c) :
    p ∈ built ∨ (c.group = none ∧ p = ⟨c.app, [c]⟩) ∨ ∃ g ∈ c.group, ∃ q,
      (q ∈ built ∨ q = ⟨g.published c.app.guildId, []⟩) ∧ p = ⟨c.addTo q.top, q.members ++ [c]⟩ := by
  unfold gather at h
  cases hg : c.group with
  | none =>
    rw [hg] at h
    rcases List.mem_append.mp h with h | h
    · exact .inl h
    · exact .inr (.inl ⟨rfl, List.mem_singleton.mp h⟩)
  | some g =>
    rw [hg] at h
    rcases mem_updateFirst h with h | rfl | ⟨q, hq, -, rfl⟩
    · exact .inl h
    · exact .inr (.inr ⟨g, rfl, _, .inr rfl, rfl⟩)
    · exact .inr (.inr ⟨g, rfl, q, .inl hq, rfl⟩)

end RegisteredCommand

namespace Gathered

inductive Formed : Gathered → Prop
  | plain {top : AppCommand} {c : RegisteredCommand} {rest : List RegisteredCommand} :
      top.defaultPermission = c.app.defaultPermission → c.group = none → (∀ d ∈ rest, d.group ≠ none) →
      Formed ⟨top, c :: rest⟩
  | group {top : AppCommand} {members : List RegisteredCommand} :
      top.defaultPermission = some true → (∀ d ∈ members, d.group ≠ none) → Formed ⟨top, members⟩

variable {p : Gathered} {c : RegisteredCommand}

lemma Formed.add (h : p.Formed) (hc : c.group ≠ none) :
    Formed ⟨c.addTo p.top, p.members ++ [c]⟩ := by
  rw [RegisteredCommand.addTo_eq]
  cases h with
  | plain htop hnone hrest =>
    exact .plain htop hnone (List.forall_mem_append.mpr ⟨hrest, List.forall_mem_singleton.mpr hc⟩)
  | group htop hmembers =>
    exact .group htop (List.forall_mem_append.mpr ⟨hmembers, List.forall_mem_singleton.mpr hc⟩)

lemma formed_gather {built : List Gathered} (h : ∀ p ∈ built, p.Formed) :
    ∀ p ∈ RegisteredCommand.gather built c, p.Formed := by
  intro p hp
  rcases RegisteredCommand.mem_gather hp with hp | ⟨hnone, rfl⟩ | ⟨g, hg, q, hq, rfl⟩
  · exact h p hp
  · exact .plain rfl hnone (by simp)
  · have hgroup : c.group ≠ none := by simp [Option.mem_def.mp hg]
    rcases hq with hq | rfl
    · exact (h q hq).add hgroup
    · exact Formed.add (p := ⟨g.published c.app.guildId, []⟩) (.group rfl (by simp)) hgroup

lemma Formed.defaultPermission (h : p.Formed) :
    (∀ c ∈ p.members, c.group = none → p.top.defaultPermission = c.app.defaultPermission) ∧
      ((∀ c ∈ p.members, c.group ≠ none) → p.top.defaultPermission = some true) := by
  cases h with
  | @plain top c rest htop hnone hrest =>
    refine ⟨fun d hd hdnone => ?_, fun hall => absurd hnone (hall c List.mem_cons_self)⟩
    rcases List.mem_cons.mp hd with rfl | hd
    · exact htop
    · exact absurd hdnone (hrest d hd)
  | group htop hmembers => exact ⟨fun d hd hdnone => absurd hdnone (hmembers d hd), fun _ => htop⟩

end Gathered

lemma AppCommand.bool_payload (t : AppCommand) :
    t.payload.bool? "default_permission" = t.defaultPermission := by
  change ((Json.written t.payloadFields).lookup "default_permission").bind Json.asBool? = _
  rw [Json.lookup_written t.nodup_payloadFields]
  change (t.defaultPermission.map DiscordBot.toJson).bind Json.asBool? = _
  cases t.defaultPermission <;> rfl

namespace Registry

def gathered (r : Registry) : List Gathered := r.commands.foldl RegisteredCommand.gather []

lemma map_top_foldl_gather (built : List Gathered) (cs : List RegisteredCommand) :
    (cs.foldl RegisteredCommand.gather built).map Gathered.top =
      cs.foldl RegisteredCommand.publish (built.map Gathered.top) := by
  induction cs generalizing built with
  | nil => rfl
  | cons c cs ih => rw [List.foldl_cons, List.foldl_cons, ih, RegisteredCommand.map_top_gather]

lemma flatMap_members_foldl_gather (built : List Gathered) (cs : List RegisteredCommand) :
    ((cs.foldl RegisteredCommand.gather built).flatMap Gathered.members).Perm
      (built.flatMap Gathered.members ++ cs) := by
  induction cs generalizing built with
  | nil => simp
  | cons c cs ih =>
    have hstep := (RegisteredCommand.flatMap_members_gather built c).append_right cs
    simpa using (ih (RegisteredCommand.gather built c)).trans hstep

lemma formed_gathered (r : Registry) : ∀ p ∈ r.gathered, p.Formed := by
  apply List.foldlRecOn r.commands RegisteredCommand.gather (motive := fun built => ∀ p ∈ built, p.Formed)
  · simp
  · exact fun _ h _ _ => Gathered.formed_gather h

variable {r : Registry}

lemma Reachable.declares (h : r.Reachable) {c : RegisteredCommand} (hc : c ∈ r.commands) :
    ∃ d : Declaration, d.Declares c := by
  obtain ⟨d, -, hcheck⟩ := h.declared hc
  exact ⟨d, (Declaration.check_eq_ok_iff.mp hcheck).1⟩

/-- Each registered command ends up in one published command. One that is in no group is published with the
permission that was declared for it, also if others are added to it. If all that ends up in a published
command was declared in a group, everyone may use it, whatever was declared. -/
theorem published_permissions (h : r.Reachable) :
    r.gathered.map Gathered.top = r.published ∧
    (r.gathered.flatMap Gathered.members).Perm r.commands ∧
    ∀ p ∈ r.gathered, p.top.payload.bool? "default_permission" = p.top.defaultPermission ∧
      (∀ c ∈ p.members, c.group = none →
        ∃ d : Declaration, d.Declares c ∧ p.top.defaultPermission = some d.enabledByDefault) ∧
      ((∀ c ∈ p.members, c.group ≠ none) → p.top.defaultPermission = some true) := by
  have hperm := flatMap_members_foldl_gather [] r.commands
  refine ⟨map_top_foldl_gather [] r.commands, hperm, fun p hp => ?_⟩
  obtain ⟨hplain, hgroup⟩ := (r.formed_gathered p hp).defaultPermission
  refine ⟨p.top.bool_payload, fun c hc hnone => ?_, hgroup⟩
  have hmem : c ∈ r.commands := hperm.mem_iff.mp (List.mem_flatMap.mpr ⟨p, hp, hc⟩)
  obtain ⟨d, hd⟩ := h.declares hmem
  exact ⟨d, hd, (hplain c hc hnone).trans hd.enabled⟩

def restricted : List Declaration :=
  let declare (name : String) (parent : Option Parent) : Declaration :=
    { Declaration.chatInput name with
      handler := some fun _ _ => .ok .none, parent := parent, enabledByDefault := false }
  let admin : Parent := .group { name := "admin" }
  [declare "shutdown" none, declare "ban" admin, declare "kick" admin]

lemma restricted_reachable : (registerAll restricted).Reachable :=
  reachable_registerAll (by simp [restricted, Declaration.chatInput])

lemma restricted_gathered : ∃ plain group : Gathered,
    (registerAll restricted).gathered = [plain, group] ∧
    (∃ c ∈ plain.members, c.group = none ∧ c.app.defaultPermission = some false) ∧
    ∀ c ∈ group.members, c.group ≠ none ∧ c.app.defaultPermission = some false :=
  ⟨_, _, rfl, ⟨_, List.mem_cons_self, rfl, rfl⟩, by decide⟩

theorem restricted_published_permissions :
    (registerAll restricted).Reachable ∧
    ∃ plain ∈ (registerAll restricted).gathered, ∃ group ∈ (registerAll restricted).gathered,
      plain.top.payload.bool? "default_permission" = some false ∧
      (∀ c ∈ group.members, c.app.defaultPermission = some false) ∧
      group.top.payload.bool? "default_permission" = some true := by
  obtain ⟨plain, group, hall, ⟨c, hc, hnone, hfalse⟩, hgroup⟩ := restricted_gathered
  obtain ⟨-, -, hpermissions⟩ := published_permissions restricted_reachable
  have hplain : plain ∈ (registerAll restricted).gathered := by simp [hall]
  have hmem : group ∈ (registerAll restricted).gathered := by simp [hall]
  obtain ⟨hpayload, hown, -⟩ := hpermissions plain hplain
  obtain ⟨d, hd, htop⟩ := hown c hc hnone
  obtain ⟨hpayload', -, heveryone⟩ := hpermissions group hmem
  refine ⟨restricted_reachable, plain, hplain, group, hmem, ?_, fun c hc => (hgroup c hc).2, ?_⟩
  · rw [hpayload, htop, ← hd.enabled, hfalse]
  · rw [hpayload', heveryone fun c hc => (hgroup c hc).1]

theorem group_for_everyone :
    ∃ ds : List Declaration, (∀ d ∈ ds, d.kind = .chatInput ∧ d.enabledByDefault = false) ∧
      ∃ t ∈ (registerAll ds).published, t.payload.bool? "default_permission" = some true := by
  refine ⟨restricted, by simp [restricted, Declaration.chatInput], ?_⟩
  obtain ⟨t, ht, hall⟩ : ∃ t ∈ (registerAll restricted).published, t.defaultPermission = some true := by
    decide
  exact ⟨t, ht, t.bool_payload.trans hall⟩

end Registry

end DiscordBot
