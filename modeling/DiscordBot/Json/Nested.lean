import DiscordBot.Json.Form

/-! Records that hold records of their own kind. A field of a record is a smaller value, so that reading
them ends. -/

namespace DiscordBot

namespace Json

theorem sizeOf_lookup {ms : List (String × Json)} {name : String} {j : Json}
    (h : ms.lookup name = some j) : sizeOf j < sizeOf ms := by
  induction ms with
  | nil => simp at h
  | cons m ms ih =>
    obtain ⟨k, v⟩ := m
    rw [List.lookup_cons] at h
    split at h
    · cases h
      simp +arith
    · have := ih h
      simp only [List.cons.sizeOf_spec]
      omega

theorem sizeOf_zip (names : List String) (items : List Json) :
    ∀ {name : String} {j : Json}, (names.zip items).lookup name = some j →
      sizeOf j < sizeOf items := by
  induction names generalizing items with
  | nil => intro name j h; simp at h
  | cons n names ih =>
    intro name j h
    cases items with
    | nil => simp at h
    | cons i items =>
      rw [List.zip_cons_cons, List.lookup_cons] at h
      split at h
      · cases h
        simp +arith
      · have := ih items h
        simp only [List.cons.sizeOf_spec]
        omega

theorem sizeOf_field {names : List String} {j v : Json} {fs : Fields} {name : String}
    (hf : fields? names j = some fs) (h : fs.lookup name = some v) : sizeOf v < sizeOf j := by
  unfold fields? at hf
  split at hf
  · cases hf
    have := sizeOf_lookup h
    simp only [Json.obj.sizeOf_spec]
    omega
  · split at hf
    · cases hf
      have := sizeOf_zip _ _ h
      simp only [Json.arr.sizeOf_spec]
      omega
    · cases hf
  · cases hf

def nestedItems? (fs : Fields) (name : String) : Option (Option (List Json)) :=
  match fs.lookup name with
  | none | some .null => some none
  | some (.arr items) => some (some items)
  | some _ => none

theorem sizeOf_nestedItem {names : List String} {j x : Json} {fs : Fields} {name : String}
    {items : List Json} (hf : fields? names j = some fs)
    (h : nestedItems? fs name = some (some items)) (hx : x ∈ items) : sizeOf x < sizeOf j := by
  unfold nestedItems? at h
  split at h
  · cases h
  · cases h
  · rename_i v hv
    cases h
    have h1 := sizeOf_field hf hv
    have h2 := List.sizeOf_lt_of_mem hx
    simp only [Json.arr.sizeOf_spec] at h1
    omega
  · cases h

/-- Reads a record of the fields `names` that may hold records of its own kind in the field `inner`, which
`ofFields?` takes beside the other fields. -/
def nested? {α : Type} (names : List String) (inner : String)
    (ofFields? : Fields → Option (List α) → Option α) (j : Json) : Option α :=
  match _hf : fields? names j with
  | none => none
  | some fs =>
    match _hi : nestedItems? fs inner with
    | none => none
    | some none => ofFields? fs none
    | some (some items) => do
      ofFields? fs (some (← items.attach.mapM fun x => nested? names inner ofFields? x.1))
termination_by sizeOf j
decreasing_by exact sizeOf_nestedItem _hf _hi x.2

end Json

end DiscordBot
