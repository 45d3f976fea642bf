import DiscordBot.Proofs.Json.Scalars
import DiscordBot.Proofs.Snowflake.Text

/-! The forms of a snowflake: the text of its id, that text as a JSON string, and the id as a JSON number.
What is read from each of them, and that all three are read from what is written. -/

namespace DiscordBot.Snowflake

variable {s : Snowflake}

lemma ofJson_int {n : Int} : ofJson? (.int n) = some s ↔ n = s.id.toNat := by
  have hs := s.id.toNat_lt
  rw [ofJson?]
  constructor
  · intro h
    split_ifs at h with hn
    obtain rfl := Option.some.inj h
    rw [toNat_toUInt64 (by omega)]
    omega
  · rintro rfl
    rw [if_pos (by omega)]
    simp

lemma ofJson_quote (text : String) : (Json.parse? (Json.quote text)).bind ofJson? =
    (parse text).toOption := by
  rw [Json.parse?_quote, Option.bind_some, ofJson_str, parse?]

lemma ofJson_toString {n : Int} : (Json.parse? (toString n)).bind ofJson? = some s ↔ n = s.id.toNat := by
  by_cases hn : -0x8000000000000000 ≤ n ∧ n ≤ 0xFFFFFFFFFFFFFFFF
  · rw [Json.parse?_wholeNumber hn, Option.bind_some, ofJson_int]
  · have hs := s.id.toNat_lt
    have hwide : n < -0x8000000000000000 ∨ 0xFFFFFFFFFFFFFFFF < n := by omega
    constructor
    · intro h
      obtain ⟨j, hj, hread⟩ := Option.bind_eq_some_iff.mp h
      obtain ⟨x, rfl⟩ := Json.parse?_wide hwide hj
      cases hread
    · rintro rfl
      omega

lemma toString_id (s : Snowflake) : toString (s.id.toNat : Int) = s.text := by
  simp [text, Int.toString_eq_repr, Int.repr]

lemma render_toJson (s : Snowflake) : (toJson s).render = Json.quote s.text := by
  change (Json.str s.text).render = _
  rw [Json.render]

/-- A text is read as a snowflake exactly if it is a number below `2^64` between white space, and so is a
JSON string of it. A whole number in JSON is read exactly if it lies in the same range. What is written for a
snowflake is read back from its text, as a number and as a string. -/
theorem forms_read :
    (∀ text s, parse text = .ok s ↔ Written text s.id.toNat) ∧
    (∀ text, ofJson? (.str text) = (parse text).toOption ∧
      (Json.parse? (Json.quote text)).bind ofJson? = (parse text).toOption) ∧
    (∀ (n : Int) s, (ofJson? (.int n) = some s ↔ n = s.id.toNat) ∧
      ((Json.parse? (toString n)).bind ofJson? = some s ↔ n = s.id.toNat)) ∧
    ∀ s : Snowflake, parse s.text = .ok s ∧ (Json.parse? s.text).bind ofJson? = some s ∧
      ofJson? (toJson s) = some s ∧ (Json.parse? (toJson s).render).bind ofJson? = some s := by
  refine ⟨fun _ _ => parse_eq_ok_iff, fun text => ⟨ofJson_str text, ofJson_quote text⟩,
    fun n s => ⟨ofJson_int, ofJson_toString⟩, fun s => ⟨s.parse_text, ?_, s.readsBack.ofJson_toJson, ?_⟩⟩
  · rw [← toString_id, ofJson_toString]
  · rw [render_toJson, ofJson_quote]
    exact parse?_text s

end DiscordBot.Snowflake
