import DiscordBot.Command.Option
import Mathlib.Tactic.Lemma

/-! Options with all that stands in them, at any depth. -/

namespace DiscordBot.CommandOption

lemma sizeOf_nested {o p : CommandOption} (h : p ∈ o.options.getD []) : sizeOf p < sizeOf o := by
  obtain ⟨kind, name, description, required, choices, options, channelTypes, minValue, maxValue⟩ := o
  cases options with
  | none => simp at h
  | some os =>
    have hlist : sizeOf p < sizeOf os := List.sizeOf_lt_of_mem h
    simp only [mk.sizeOf_spec, Option.some.sizeOf_spec]
    omega

theorem nestedInduction {P : CommandOption → Prop}
    (step : ∀ o, (∀ p ∈ o.options.getD [], P p) → P o) (o : CommandOption) : P o :=
  step o fun p _ => nestedInduction step p
termination_by sizeOf o
decreasing_by exact sizeOf_nested ‹_›

inductive Everywhere (P : CommandOption → Prop) : CommandOption → Prop
  | intro {o : CommandOption} (here : P o) (below : ∀ q ∈ o.options.getD [], q.Everywhere P) :
      Everywhere P o

lemma everywhere_iff {P : CommandOption → Prop} {o : CommandOption} :
    o.Everywhere P ↔ P o ∧ ∀ q ∈ o.options.getD [], q.Everywhere P :=
  ⟨fun ⟨here, below⟩ => ⟨here, below⟩, fun h => .intro h.1 h.2⟩

end DiscordBot.CommandOption
