import DiscordBot.Proofs.Decimal.WholeFloat
import DiscordBot.Proofs.Json.Fits
import DiscordBot.Proofs.Snowflake.Text
import DiscordBot.Proofs.Time.ReadBack

/-! Types of which every value that was read is read again from what is written for it. -/

namespace DiscordBot

/-- What was read, from a value that is not `null`, is not written as `null`, since that reads as absent. -/
class Faithful (α : Type) [JsonForm α] : Prop where
  keeps {j : Json} {x : α} (hj : j.Fits) (h : ofJson? j = some x) : ofJson? (toJson x) = some x
  ne_null {j : Json} {x : α} (hj : j.Fits) (hnull : j ≠ .null) (h : ofJson? j = some x) :
    toJson x ≠ .null

lemma Faithful.of_readsBack {α : Type} [JsonForm α]
    (h : ∀ {j : Json} {x : α}, j.Fits → ofJson? j = some x → ReadsBack x) : Faithful α :=
  ⟨fun hj hx => (h hj hx).ofJson_toJson, fun hj _ hx => (h hj hx).ne_null⟩

lemma Faithful.of_toJson_eq {α : Type} [JsonForm α]
    (h : ∀ {j : Json} {x : α}, ofJson? j = some x → toJson x = j) : Faithful α :=
  ⟨fun _ hx => (congrArg ofJson? (h hx)).trans hx, fun _ hnull hx => h hx ▸ hnull⟩

lemma Json.asIntWithin_eq_some {least greatest n : Int} {j : Json} :
    j.asIntWithin? least greatest = some n ↔ j = .int n ∧ least ≤ n ∧ n ≤ greatest := by
  cases j with
  | int m =>
    simp only [asIntWithin?, Json.int.injEq]
    split
    · rename_i h
      rw [Option.some.injEq]
      exact ⟨fun heq => ⟨heq, heq ▸ h⟩, And.left⟩
    · rename_i h
      simp only [reduceCtorEq, false_iff]
      rintro ⟨rfl, hn⟩
      exact h hn
  | _ => simp [asIntWithin?]

section Scalar

instance : Faithful Json := .of_toJson_eq fun h => (Option.some.inj h).symm

instance : Faithful Bool := .of_readsBack fun _ _ => .bool _

instance : Faithful String := .of_readsBack fun _ _ => .string _

instance : Faithful Snowflake := .of_readsBack fun _ _ => Snowflake.readsBack _

lemma toJson_integer {α : Type} {least greatest : Int} (ofInt : Int → α) (toInt : α → Int)
    (hinv : ∀ n, least ≤ n ∧ n ≤ greatest → toInt (ofInt n) = n) {j : Json} {x : α}
    (h : (j.asIntWithin? least greatest).map ofInt = some x) : Json.int (toInt x) = j := by
  obtain ⟨n, hread, rfl⟩ := Option.map_eq_some_iff.mp h
  obtain ⟨rfl, hn⟩ := Json.asIntWithin_eq_some.mp hread
  rw [hinv n hn]

lemma toJson_uint8 {j : Json} {n : UInt8} (h : ofJson? j = some n) : toJson n = j :=
  toJson_integer (fun m => m.toNat.toUInt8) (fun n => n.toNat) (fun m hm => by simp; omega) h

instance : Faithful UInt8 := .of_toJson_eq toJson_uint8

instance : Faithful UInt32 := .of_toJson_eq fun h =>
  toJson_integer (fun m => m.toNat.toUInt32) (fun n => n.toNat) (fun m hm => by simp; omega) h

instance : Faithful UInt64 := .of_toJson_eq fun h =>
  toJson_integer (fun m => m.toNat.toUInt64) (fun n => n.toNat) (fun m hm => by simp; omega) h

instance : Faithful Int32 := .of_toJson_eq fun h =>
  toJson_integer Int32.ofInt Int32.toInt (fun _ hm => Int32.toInt_ofInt_of_le hm.1 (by omega)) h

instance : Faithful Int64 := .of_readsBack fun _ _ => .int64 _

lemma Json.Fits.isFinite {j : Json} {x : Float} (hj : j.Fits) (h : j.asFloat? = some x) :
    x.isFinite = true := by
  cases hj with
  | int hn =>
    cases h
    exact Decimal.isFinite_ofInt hn
  | float y =>
    cases h
    exact y.2
  | _ => cases h

instance : Faithful Float := .of_readsBack fun hj h => .float (hj.isFinite h)

instance : Faithful Time.Timestamp := by
  refine .of_readsBack fun {j t} _ h => ⟨?_, nofun⟩
  change j.asString?.bind Time.Timestamp.parse? = some t at h
  obtain ⟨s, -, hs⟩ := Option.bind_eq_some_iff.mp h
  change (some t.text).bind Time.Timestamp.parse? = some t
  rw [Option.bind_some, Time.Timestamp.parse_text_of_parse hs]

end Scalar

lemma exists_of_mem_mapM {α β : Type} {f : α → Option β} {xs : List α} {ys : List β}
    (h : xs.mapM f = some ys) {y : β} (hy : y ∈ ys) : ∃ x ∈ xs, f x = some y := by
  induction xs generalizing ys with
  | nil =>
    cases h
    cases hy
  | cons x xs ih =>
    rw [List.mapM_cons] at h
    obtain ⟨z, hz, h⟩ := Option.bind_eq_some_iff.mp h
    obtain ⟨zs, hzs, h⟩ := Option.bind_eq_some_iff.mp h
    cases h
    rcases List.mem_cons.mp hy with rfl | hy
    · exact ⟨x, List.mem_cons_self, hz⟩
    · obtain ⟨w, hw, hwy⟩ := ih hzs hy
      exact ⟨w, List.mem_cons_of_mem _ hw, hwy⟩

instance {α : Type} [JsonForm α] [Faithful α] : Faithful (List α) where
  keeps {j xs} hj h := by
    obtain ⟨items, hitems, hxs⟩ := Option.bind_eq_some_iff.mp h
    cases j with
    | arr _ =>
      cases hitems
      refine mapM_ofJson fun x hx => ?_
      obtain ⟨i, hi, hix⟩ := exists_of_mem_mapM hxs hx
      exact Faithful.keeps (Json.fits_arr.mp hj i hi) hix
    | _ => cases hitems
  ne_null _ _ _ := nofun

class LawfulCoded (α : Type) [Coded α] : Prop where
  code_ofCode (n : UInt8) : Coded.code (Coded.ofCode n : α) = n

lemma toJson_coded {α : Type} [Coded α] [LawfulCoded α] {j : Json} {x : α} (h : ofJson? j = some x) :
    toJson x = j := by
  obtain ⟨n, hn, rfl⟩ := Option.map_eq_some_iff.mp h
  change toJson (Coded.code (Coded.ofCode n : α)) = j
  rw [LawfulCoded.code_ofCode, toJson_uint8 hn]

instance {α : Type} [Coded α] [LawfulCoded α] : Faithful α := .of_toJson_eq toJson_coded

namespace Json

lemma fits_fields {names : List String} {j : Json} {fs : Fields} (hj : j.Fits)
    (hfs : fields? names j = some fs) : ∀ f ∈ fs, f.2.Fits := by
  cases hj with
  | obj h =>
    cases hfs
    exact h
  | arr h =>
    rw [fields?] at hfs
    split at hfs
    · cases hfs
      exact fun f hf => h f.2 (List.of_mem_zip hf).2
    · cases hfs
  | _ => cases hfs

lemma exists_of_nestedList {α : Type} {read : Json → Option α} {fs : Fields} {name : String}
    {os : List α} (h : nestedList? read fs name = some (some os)) :
    ∃ items, nestedItems? fs name = some (some items) ∧ items.mapM read = some os := by
  obtain ⟨given, hgiven, h⟩ := Option.bind_eq_some_iff.mp h
  cases given with
  | none => cases h
  | some items =>
    obtain ⟨_, hread, heq⟩ := Option.map_eq_some_iff.mp h
    exact ⟨items, hgiven, hread.trans heq⟩

lemma lookup_of_nestedItems {fs : Fields} {name : String} {items : List Json}
    (h : nestedItems? fs name = some (some items)) : fs.lookup name = some (.arr items) := by
  unfold nestedItems? at h
  split at h
  · cases h
  · cases h
  · rename_i hlookup
    cases h
    exact hlookup
  · cases h

structure Rewritten (fs : Fields) (gs : List (String × Option Json)) : Prop where
  fits : ∀ f ∈ fs, f.2.Fits
  nodup : (gs.map Prod.fst).Nodup

namespace Rewritten

variable {fs : Fields} {gs : List (String × Option Json)} {name : String} (k : Rewritten fs gs)

include k

lemma fits_lookup {j : Json} (h : fs.lookup name = some j) : j.Fits := by
  obtain ⟨before, after, rfl, -⟩ := List.lookup_eq_some_iff.mp h
  exact k.fits (name, j) (by simp)

variable {α : Type} [JsonForm α] [Faithful α]

lemma required {x : α} (hx : required fs name = some x)
    (hg : gs.lookup name = some (some (toJson x))) : Json.required (written gs) name = some x := by
  obtain ⟨j, hj, hread⟩ := Option.bind_eq_some_iff.mp hx
  have hkeeps := Faithful.keeps (k.fits_lookup hj) hread
  simp [Json.required, lookup_written k.nodup, hg, hkeeps]

lemma optional {x : Option α} (hx : optional fs name = some x)
    (hg : gs.lookup name = some (x.map toJson)) : Json.optional (written gs) name = some x := by
  refine optional_written k.nodup hg ?_
  rintro y rfl
  unfold Json.optional at hx
  split at hx
  · cases hx
  · cases hx
  · rename_i j hnull hj
    obtain ⟨z, hz, heq⟩ := Option.map_eq_some_iff.mp hx
    obtain rfl := Option.some.inj heq
    have hfits := k.fits_lookup hj
    exact ⟨Faithful.keeps hfits hz, Faithful.ne_null hfits hnull hz⟩

lemma keeps_defaulted {value x : α} (hvalue : ofJson? (toJson value) = some value)
    (hx : defaulted fs name value = some x) : ofJson? (toJson x) = some x := by
  unfold Json.defaulted at hx
  split at hx
  · cases hx
    exact hvalue
  · rename_i j hj
    exact Faithful.keeps (k.fits_lookup hj) hx

lemma defaulted {value x : α} (hvalue : ofJson? (toJson value) = some value)
    (hx : defaulted fs name value = some x) (hg : gs.lookup name = some (some (toJson x))) :
    Json.defaulted (written gs) name value = some x :=
  defaulted_written k.nodup hg (k.keeps_defaulted hvalue hx) value

end Rewritten

theorem keeps_nested {α : Type} {names : List String} {inner : String}
    {ofFields? : Fields → Option (List α) → Option α} {write : α → Json}
    {gs : α → List (String × Option Json)} {inside : α → Option (List α)}
    (k : NestedForm inner write gs inside)
    (hfields : ∀ {fs os x}, Rewritten fs (gs x) → ofFields? fs os = some x →
      inside x = os ∧ ofFields? (written (gs x)) os = some x) {j : Json} {x : α} (hj : j.Fits)
    (h : nested? names inner ofFields? j = some x) :
    nested? names inner ofFields? (write x) = some x := by
  -- By induction on the size: the records inside were read from smaller values.
  obtain ⟨fs, hfs⟩ := exists_fields_of_nested h
  rw [nested_of_fields hfs] at h
  obtain ⟨os, hos, hx⟩ := Option.bind_eq_some_iff.mp h
  have hrewritten : Rewritten fs (gs x) := ⟨fits_fields hj hfs, k.nodup x⟩
  obtain ⟨rfl, hwritten⟩ := hfields hrewritten hx
  rw [k.nested_write, hwritten]
  intro y hy
  cases hinside : inside x with
  | none => simp [hinside] at hy
  | some ys =>
    rw [hinside] at hy hos
    obtain ⟨items, hitems, hread⟩ := exists_of_nestedList hos
    obtain ⟨i, hi, hiy⟩ := exists_of_mem_mapM hread hy
    have hfits : (Json.arr items).Fits :=
      hrewritten.fits_lookup (lookup_of_nestedItems hitems)
    have hsmaller := sizeOf_nestedItem hfs hitems hi
    exact keeps_nested k hfields (fits_arr.mp hfits i hi) hiy
termination_by sizeOf j

lemma exists_fields {names : List String} {j : Json} {fs : Fields}
    {gs : List (String × Option Json)} {P : Fields → Prop} (hj : j.Fits)
    (hfs : fields? names j = some fs) (hnodup : (gs.map Prod.fst).Nodup)
    (h : Rewritten fs gs → P (written gs)) : ∃ fs', fields? names (record gs) = some fs' ∧ P fs' :=
  ⟨_, fields_record, h ⟨fits_fields hj hfs, hnodup⟩⟩

lemma bind_eq_some {α β : Type} {p : Option α} {f : α → Option β} {y : β} :
    (p >>= f) = some y ↔ ∃ x, p = some x ∧ f x = some y := Option.bind_eq_some_iff

end Json

end DiscordBot
