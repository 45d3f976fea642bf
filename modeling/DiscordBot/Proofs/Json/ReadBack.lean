import DiscordBot.Json.Nested
import Mathlib.Data.List.Nodup

/-! Values that are read from what was written for them. A record reads back if its fields do. -/

namespace DiscordBot

structure ReadsBack {α : Type} [JsonForm α] (x : α) : Prop where
  ofJson_toJson : ofJson? (toJson x) = some x
  ne_null : toJson x ≠ .null

lemma ReadsBack.bool (b : Bool) : ReadsBack b := ⟨rfl, nofun⟩

lemma ReadsBack.string (s : String) : ReadsBack s := ⟨rfl, nofun⟩

namespace Json

lemma asIntWithin_of_mem {least greatest n : Int} (h : least ≤ n ∧ n ≤ greatest) :
    asIntWithin? least greatest (.int n) = some n := by
  simp [asIntWithin?, h]

lemma ofFloat_of_isFinite {x : Float} (h : x.isFinite = true) : ofFloat x = .float ⟨x, h⟩ := by
  simp [ofFloat, h]

end Json

lemma ReadsBack.uint8 (n : UInt8) : ReadsBack n := by
  refine ⟨?_, nofun⟩
  have hn : (0 : Int) ≤ n.toNat ∧ (n.toNat : Int) ≤ 0xFF := by
    have := n.toNat_lt
    omega
  change ((Json.int n.toNat).asIntWithin? 0 0xFF).map (fun m => m.toNat.toUInt8) = some n
  rw [Json.asIntWithin_of_mem hn]
  simp

lemma ReadsBack.int64 (n : Int64) : ReadsBack n := by
  refine ⟨?_, nofun⟩
  have hn : -0x8000000000000000 ≤ n.toInt ∧ n.toInt ≤ 0x7FFFFFFFFFFFFFFF := by
    have := n.toInt_lt
    have := n.le_toInt
    omega
  change ((Json.int n.toInt).asIntWithin? (-0x8000000000000000) 0x7FFFFFFFFFFFFFFF).map Int64.ofInt =
    some n
  rw [Json.asIntWithin_of_mem hn]
  simp

lemma ReadsBack.float {x : Float} (h : x.isFinite = true) : ReadsBack x := by
  constructor <;> simp [ofJson?, toJson, Json.ofFloat_of_isFinite h, Json.asFloat?]

lemma Coded.ofJson_toJson {α : Type} [Coded α] (x : α) :
    ofJson? (toJson x) = some (Coded.ofCode (Coded.code x) : α) := by
  change (ofJson? (toJson (Coded.code x)) : Option UInt8).map Coded.ofCode = _
  rw [(ReadsBack.uint8 _).ofJson_toJson, Option.map_some]

lemma ReadsBack.coded {α : Type} [Coded α] {x : α} (h : Coded.ofCode (Coded.code x) = x) :
    ReadsBack x :=
  ⟨by rw [Coded.ofJson_toJson, h], (ReadsBack.uint8 _).ne_null⟩

lemma mapM_ofJson {α : Type} {write : α → Json} {read : Json → Option α} {xs : List α}
    (h : ∀ x ∈ xs, read (write x) = some x) : (xs.map write).mapM read = some xs := by
  induction xs with
  | nil => rfl
  | cons x xs ih =>
    have hx := h x List.mem_cons_self
    have hxs := ih fun y hy => h y (List.mem_cons_of_mem _ hy)
    simp [hx, hxs]

lemma ReadsBack.list {α : Type} [JsonForm α] {xs : List α} (h : ∀ x ∈ xs, ReadsBack x) :
    ReadsBack xs :=
  ⟨mapM_ofJson fun x hx => (h x hx).ofJson_toJson, nofun⟩

namespace Json

def written (fs : List (String × Option Json)) : Fields :=
  fs.filterMap fun f => f.2.map fun j => (f.1, j)

lemma fields_record {names : List String} {fs : List (String × Option Json)} :
    fields? names (record fs) = some (written fs) := rfl

lemma lookup_written {fs : List (String × Option Json)} (hnames : (fs.map Prod.fst).Nodup)
    (name : String) : (written fs).lookup name = (fs.lookup name).join := by
  induction fs with
  | nil => rfl
  | cons f fs ih =>
    obtain ⟨n, x⟩ := f
    obtain ⟨hnot, htail⟩ := List.nodup_cons.mp hnames
    have hrest := ih htail
    rw [List.lookup_cons]
    by_cases hn : name = n
    · subst hn
      have hnone : fs.lookup name = none := by
        refine List.lookup_eq_none_iff.mpr fun p hp => bne_iff_ne.mpr fun he => ?_
        exact hnot (List.mem_map.mpr ⟨p, hp, he.symm⟩)
      cases x with
      | none => simpa [written, hnone] using hrest
      | some j => simp [written]
    · have hn' : (name == n) = false := by simpa using hn
      rw [hn']
      cases x with
      | none => simpa [written] using hrest
      | some j => simpa [written, List.lookup_cons, hn'] using hrest

section Field

variable {α : Type} [JsonForm α] {fs : List (String × Option Json)} {name : String}
  (hnames : (fs.map Prod.fst).Nodup)

include hnames

lemma required_written {x : α} (hf : fs.lookup name = some (some (toJson x))) (hx : ReadsBack x) :
    required (written fs) name = some x := by
  simp [required, lookup_written hnames, hf, hx.ofJson_toJson]

lemma defaulted_written {x y : α} (hf : fs.lookup name = some (some (toJson x)))
    (hx : ofJson? (toJson x) = some y) (value : α) :
    defaulted (written fs) name value = some y := by
  simp [defaulted, lookup_written hnames, hf, hx]

lemma optional_written {x : Option α} (hf : fs.lookup name = some (x.map toJson))
    (hx : ∀ y ∈ x, ReadsBack y) : optional (written fs) name = some x := by
  unfold optional
  rw [lookup_written hnames, hf]
  cases x with
  | none => rfl
  | some y =>
    have hy := hx y rfl
    simp only [Option.map_some, Option.join_some]
    split
    · rename_i h
      cases h
    · rename_i h
      exact absurd (Option.some.inj h) hy.ne_null
    · rename_i h
      cases h
      rw [hy.ofJson_toJson, Option.map_some]

lemma optional_unwritten (hf : fs.lookup name = none) :
    optional (written fs) name = some (none : Option α) := by
  simp [optional, lookup_written hnames, hf]

end Field

def nestedList? {α : Type} (read : Json → Option α) (fs : Fields) (name : String) :
    Option (Option (List α)) :=
  (nestedItems? fs name).bind fun
    | none => some none
    | some items => (items.mapM read).map some

section Nested

variable {α : Type} {names : List String} {inner : String}
  {ofFields? : Fields → Option (List α) → Option α}

lemma exists_fields_of_nested {j : Json} {x : α} (h : nested? names inner ofFields? j = some x) :
    ∃ fs, fields? names j = some fs := by
  rw [nested?] at h
  split at h
  · cases h
  · rename_i fs hfs
    exact ⟨fs, hfs⟩

lemma nested_of_fields {j : Json} {fs : Fields} (hfs : fields? names j = some fs) :
    nested? names inner ofFields? j =
      (nestedList? (nested? names inner ofFields?) fs inner).bind (ofFields? fs) := by
  rw [nested?, nestedList?]
  split
  · rename_i h
    cases hfs.symm.trans h
  · rename_i fs' h
    obtain rfl := Option.some.inj (h.symm.trans hfs)
    split
    · rename_i hi
      simp [hi]
    · rename_i hi
      simp [hi]
    · rename_i items hi
      have hattach : (items.attach.mapM fun x => nested? names inner ofFields? x.1) =
          items.mapM (nested? names inner ofFields?) := by
        change items.attach.mapM (nested? names inner ofFields? ∘ Subtype.val) = _
        rw [← List.mapM_map, List.attach_map_subtype_val]
      cases hread : items.mapM (nested? names inner ofFields?) <;> simp [hi, hattach, hread]

/-- Records that are written as the fields `gs`, with the records of their own kind that they hold, `inside`,
in the field `inner`. -/
structure NestedForm (inner : String) (write : α → Json) (gs : α → List (String × Option Json))
    (inside : α → Option (List α)) : Prop where
  write_eq (x : α) : write x = record (gs x)
  nodup (x : α) : ((gs x).map Prod.fst).Nodup
  lookup_inner (x : α) : (gs x).lookup inner = some ((inside x).map fun xs => .arr (xs.map write))

lemma nestedToJson_eq_map {write : α → Json} {nestedToJson : Option (List α) → Option Json}
    {listToJson : List α → List Json} (hnone : nestedToJson none = none)
    (hsome : ∀ xs, nestedToJson (some xs) = some (.arr (listToJson xs))) (hnil : listToJson [] = [])
    (hcons : ∀ x xs, listToJson (x :: xs) = write x :: listToJson xs) (inside : Option (List α)) :
    nestedToJson inside = inside.map fun xs => .arr (xs.map write) := by
  cases inside with
  | none => exact hnone
  | some xs =>
    have hlist : listToJson xs = xs.map write := by
      induction xs with
      | nil => exact hnil
      | cons x xs ih => rw [hcons, ih, List.map_cons]
    rw [hsome, hlist, Option.map_some]

variable {write : α → Json} {gs : α → List (String × Option Json)} {inside : α → Option (List α)}

lemma NestedForm.lookup_written (k : NestedForm inner write gs inside) (x : α) :
    (written (gs x)).lookup inner = (inside x).map fun xs => .arr (xs.map write) := by
  rw [Json.lookup_written (k.nodup x), k.lookup_inner, Option.join_some]

lemma NestedForm.nestedList_written (k : NestedForm inner write gs inside) {read : Json → Option α}
    {x : α} (h : ∀ y ∈ (inside x).getD [], read (write y) = some y) :
    nestedList? read (written (gs x)) inner = some (inside x) := by
  rw [nestedList?, nestedItems?, k.lookup_written]
  cases hxs : inside x with
  | none => rfl
  | some xs =>
    rw [hxs, Option.getD_some] at h
    simp [mapM_ofJson h]

lemma NestedForm.nested_write (k : NestedForm inner write gs inside) {x : α}
    (h : ∀ y ∈ (inside x).getD [], nested? names inner ofFields? (write y) = some y) :
    nested? names inner ofFields? (write x) = ofFields? (written (gs x)) (inside x) := by
  rw [k.write_eq, nested_of_fields fields_record, k.nestedList_written h, Option.bind_some]

end Nested

end Json

end DiscordBot
