import DiscordBot.Proofs.Command.ReadBack
import DiscordBot.Proofs.Published.Groups

/-! Published commands that read back: nothing is lost of them if nothing is lost of the arguments. -/

namespace DiscordBot

namespace RegisteredCommand

variable {c : RegisteredCommand} {t : AppCommand}

lemma nested_plain (hc : ∀ o ∈ c.app.options.getD [], o.Plain) : c.nested.Plain :=
  .intro rfl (by simp [nested, CommandOption.named]) (by simp [nested, CommandOption.named])
    (by simp [nested, CommandOption.named]) (by simp [nested, CommandOption.named]) hc

lemma addTo_plain (hc : ∀ o ∈ c.app.options.getD [], o.Plain) (ht : t.Plain) : (c.addTo t).Plain := by
  rw [addTo_eq]
  refine ⟨ht.kind, fun o ho => ?_⟩
  rcases mem_nestIn ho with ho | rfl | ⟨q, hq, -, rfl⟩
  · exact ht.options o ho
  · exact nested_plain hc
  · have hplain : q.Plain := by
      rcases hq with hq | ⟨s, -, rfl⟩
      · exact ht.options q hq
      · exact .intro rfl (by simp [Subgroup.published, CommandOption.named])
          (by simp [Subgroup.published, CommandOption.named])
          (by simp [Subgroup.published, CommandOption.named])
          (by simp [Subgroup.published, CommandOption.named])
          (by simp [Subgroup.published, CommandOption.named])
    obtain ⟨kind, choices, types, least, greatest, options⟩ := hplain
    refine .intro kind choices types least greatest fun p hp => ?_
    rcases List.mem_append.mp hp with hp | hp
    · exact options p hp
    · rw [List.mem_singleton.mp hp]
      exact nested_plain hc

end RegisteredCommand

lemma Registry.published_plain {r : Registry} (h : r.Reachable)
    (hplain : ∀ c ∈ r.commands, ∀ o ∈ c.app.options.getD [], o.Plain) :
    ∀ t ∈ r.published, t.Plain := by
  refine RegisteredCommand.forall_foldl_publish [] (fun c hc _ => ⟨?_, hplain c hc⟩) ?_ ?_ (by simp)
  · have hkind := h.kind_mem hc
    simp only [List.mem_cons, List.not_mem_nil, or_false] at hkind
    rcases hkind with hk | hk | hk <;> rw [hk] <;> rfl
  · intro c hc g _
    exact RegisteredCommand.addTo_plain (hplain c hc) ⟨rfl, by simp [Group.published]⟩
  · intro c hc _ _ t _ ht
    exact RegisteredCommand.addTo_plain (hplain c hc) ht

end DiscordBot
