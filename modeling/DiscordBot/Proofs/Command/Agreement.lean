import DiscordBot.Proofs.Command.NormalForm
import DiscordBot.Proofs.Command.ReadBack

/-! A command agrees with what is stored of it. Of all numbers only NaN differs from itself. -/

namespace DiscordBot

lemma isNaN_of_isFinite {x : Float} (h : x.isFinite = true) : x.isNaN = false := by
  change x.toModel.unpack.isFinite = true at h
  change x.toModel.unpack.isNaN = false
  generalize x.toModel.unpack = u at h ⊢
  cases u with
  | notANumber => cases h
  | _ => rfl

namespace CommandOption

lemma Plain.comparable {o : CommandOption} (h : o.Plain) : o.Everywhere Comparable := by
  induction h with
  | intro _ choices _ minValue maxValue _ ih =>
    refine .intro ⟨fun c hc x hx => ?_, fun x hx => isNaN_of_isFinite (minValue x hx),
      fun x hx => isNaN_of_isFinite (maxValue x hx)⟩ ih
    have hfinite := choices c hc
    rw [hx] at hfinite
    exact isNaN_of_isFinite hfinite

theorem Plain.agrees_self {o : CommandOption} (h : o.Plain) : o.agrees o = true :=
  agrees_self_iff.mpr h.comparable

end CommandOption

namespace AppCommand

theorem Plain.agrees {c e : AppCommand} (h : c.Plain) (hguild : e.guildId = c.guildId)
    (he : e.uploaded = c.uploaded) : c.agrees e = true := by
  simp only [uploaded, mk.injEq, true_and, and_true] at he
  obtain ⟨hkind, hname, hdescription, hoptions, hdefault⟩ := he
  refine agrees_iff.mpr ⟨⟨hname.symm, hkind.symm, hguild.symm, hdescription.symm, by rw [hdefault]⟩, ?_⟩
  rw [hoptions, List.forall₂_same]
  exact fun o ho => (h.options o ho).agrees_self

end AppCommand

end DiscordBot
