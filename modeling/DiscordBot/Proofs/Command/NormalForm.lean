import DiscordBot.Command.AppCommand
import DiscordBot.Proofs.Command.Nested
import Mathlib

/-! The normal form of a command, in which nothing is absent that stands for a value. Commands agree if and
only if they have the same normal form. -/

namespace DiscordBot

section Lists

variable {α : Type} {R S : α → α → Prop} {xs ys zs : List α}

lemma forall₂_of_mem (h : ∀ x ∈ xs, ∀ y, R x y → S x y) (hxy : List.Forall₂ R xs ys) :
    List.Forall₂ S xs ys :=
  ((List.forall₂_and_left xs ys).mpr ⟨h, hxy⟩).imp fun _ y hx => hx.1 y hx.2

lemma forall₂_congr_of_mem (h : ∀ x ∈ xs, ∀ y, R x y ↔ S x y) :
    List.Forall₂ R xs ys ↔ List.Forall₂ S xs ys :=
  ⟨forall₂_of_mem fun x hx y => (h x hx y).mp, forall₂_of_mem fun x hx y => (h x hx y).mpr⟩

lemma forall₂_symm_of_mem (h : ∀ x ∈ xs, ∀ y, R x y → R y x) (hxy : List.Forall₂ R xs ys) :
    List.Forall₂ R ys xs :=
  (forall₂_of_mem (S := flip R) h hxy).flip

lemma forall₂_trans_of_mem (h : ∀ x ∈ xs, ∀ y z, R x y → R y z → R x z)
    (hxy : List.Forall₂ R xs ys) (hyz : List.Forall₂ R ys zs) : List.Forall₂ R xs zs := by
  induction hxy generalizing zs with
  | nil => exact hyz
  | cons hx _ ih =>
    obtain ⟨z, zs, hz, hrest, rfl⟩ := List.forall₂_cons_left_iff.mp hyz
    obtain ⟨hhere, hlater⟩ := List.forall_mem_cons.mp h
    exact .cons (hhere _ _ hx hz) (ih hlater hrest)

lemma list_beq_iff [BEq α] : (xs == ys) = true ↔ List.Forall₂ (fun x y => (x == y) = true) xs ys := by
  induction xs generalizing ys with
  | nil => cases ys <;> simp
  | cons x xs ih => cases ys <;> simp [ih]

end Lists

section PartialEquiv

variable {α : Type} [BEq α] [PartialEquivBEq α]

instance listPartialEquiv : PartialEquivBEq (List α) where
  symm h := list_beq_iff.mpr (forall₂_symm_of_mem (fun _ _ _ => BEq.symm) (list_beq_iff.mp h))
  trans hxy hyz := list_beq_iff.mpr
    (forall₂_trans_of_mem (fun _ _ _ _ => BEq.trans) (list_beq_iff.mp hxy) (list_beq_iff.mp hyz))

instance optionPartialEquiv : PartialEquivBEq (Option α) where
  symm {x y} h := by
    cases x <;> cases y <;> simp_all [BEq.comm]
  trans {x y z} hxy hyz := by
    cases x <;> cases y <;> cases z <;> simp_all
    exact BEq.trans hxy hyz

end PartialEquiv

namespace ChoiceValue

variable {u v w : ChoiceValue}

lemma beq_symm (h : (v == w) = true) : (w == v) = true := by
  change v.same w = true at h
  change w.same v = true
  cases v <;> cases w <;> simp only [same, Bool.false_eq_true] at h ⊢
  all_goals exact BEq.symm h

lemma beq_trans (huv : (u == v) = true) (hvw : (v == w) = true) : (u == w) = true := by
  change u.same v = true at huv
  change v.same w = true at hvw
  change u.same w = true
  cases u <;> cases v <;> simp only [same, Bool.false_eq_true] at huv <;>
    cases w <;> simp only [same, Bool.false_eq_true] at hvw ⊢
  all_goals exact BEq.trans huv hvw

instance : PartialEquivBEq ChoiceValue := ⟨beq_symm, beq_trans⟩

lemma beq_self_iff : (v == v) = true ↔ ∀ x, v = .number x → x.isNaN = false := by
  change v.same v = true ↔ _
  cases v <;> simp [same]

end ChoiceValue

lemma Choice.beq_iff {c d : Choice} : (c == d) = true ↔ c.name = d.name ∧ (c.value == d.value) = true := by
  obtain ⟨name, value⟩ := c
  obtain ⟨name', value'⟩ := d
  change (name == name' && value == value') = true ↔ _
  simp

instance : PartialEquivBEq Choice where
  symm h := by
    obtain ⟨hname, hvalue⟩ := Choice.beq_iff.mp h
    exact Choice.beq_iff.mpr ⟨hname.symm, BEq.symm hvalue⟩
  trans hcd hde := by
    obtain ⟨hname, hvalue⟩ := Choice.beq_iff.mp hcd
    obtain ⟨hname', hvalue'⟩ := Choice.beq_iff.mp hde
    exact Choice.beq_iff.mpr ⟨hname.trans hname', BEq.trans hvalue hvalue'⟩

namespace CommandOption

mutual

def normal : CommandOption → CommandOption
  | ⟨kind, name, description, required, choices, options, channelTypes, minValue, maxValue⟩ =>
    ⟨kind, name, description, some (required.getD false), some (choices.getD []),
      some (nestedNormal options), some (channelTypes.getD []), minValue, maxValue⟩

def nestedNormal : Option (List CommandOption) → List CommandOption
  | none => []
  | some os => listNormal os

def listNormal : List CommandOption → List CommandOption
  | [] => []
  | o :: os => normal o :: listNormal os

end

lemma listNormal_eq (os : List CommandOption) : listNormal os = os.map normal := by
  induction os with
  | nil => simp [listNormal]
  | cons o os ih => simp [listNormal, ih]

lemma normal_eq (o : CommandOption) : o.normal = { o with
    required := some (o.required.getD false)
    choices := some (o.choices.getD [])
    options := some ((o.options.getD []).map normal)
    channelTypes := some (o.channelTypes.getD []) } := by
  obtain ⟨kind, name, description, required, choices, options, channelTypes, minValue, maxValue⟩ := o
  cases options <;> simp [normal, nestedNormal, listNormal_eq]

lemma listAgree_iff {os ps : List CommandOption} :
    listAgree os ps = true ↔ List.Forall₂ (fun o p => o.agrees p = true) os ps := by
  induction os generalizing ps with
  | nil => cases ps <;> simp [listAgree]
  | cons o os ih => cases ps <;> simp [listAgree, ih]

lemma nestedAgree_iff {os : Option (List CommandOption)} {ps : List CommandOption} :
    nestedAgree os ps = true ↔ List.Forall₂ (fun o p => o.agrees p = true) (os.getD []) ps := by
  cases os with
  | none => simp [nestedAgree]
  | some os => simp [nestedAgree, listAgree_iff]

lemma listSame_iff {os ps : List CommandOption} :
    listSame os ps = true ↔ List.Forall₂ (fun o p => (o == p) = true) os ps := by
  induction os generalizing ps with
  | nil => cases ps <;> simp [listSame]
  | cons o os ih =>
    cases ps with
    | nil => simp [listSame]
    | cons p ps =>
      change (o == p && listSame os ps) = true ↔ _
      simp [ih]

structure AgreesHere (o p : CommandOption) : Prop where
  kind : o.kind = p.kind
  name : o.name = p.name
  description : o.description = p.description
  required : o.required.getD false = p.required.getD false
  choices : (o.choices.getD [] == p.choices.getD []) = true
  channelTypes : o.channelTypes.getD [] = p.channelTypes.getD []
  minValue : (o.minValue == p.minValue) = true
  maxValue : (o.maxValue == p.maxValue) = true

variable {o p q : CommandOption}

lemma agrees_iff : o.agrees p = true ↔ o.AgreesHere p ∧
    List.Forall₂ (fun o p => o.agrees p = true) (o.options.getD []) (p.options.getD []) := by
  obtain ⟨kind, name, description, required, choices, options, channelTypes, minValue, maxValue⟩ := o
  simp only [agrees, Bool.and_eq_true, beq_iff_eq, nestedAgree_iff, and_assoc]
  constructor
  · rintro ⟨h₁, h₂, h₃, h₄, h₅, h₆, h₇, h₈, h⟩
    exact ⟨⟨h₁, h₂, h₃, h₄, h₅, h₆, h₇, h₈⟩, h⟩
  · rintro ⟨⟨h₁, h₂, h₃, h₄, h₅, h₆, h₇, h₈⟩, h⟩
    exact ⟨h₁, h₂, h₃, h₄, h₅, h₆, h₇, h₈, h⟩

lemma normal_beq_iff : (o.normal == p.normal) = true ↔ o.AgreesHere p ∧
    List.Forall₂ (fun o p => (o.normal == p.normal) = true) (o.options.getD []) (p.options.getD []) := by
  change o.normal.same p.normal = true ↔ _
  rw [normal_eq, normal_eq]
  simp only [same, nestedSame, listSame_iff, Bool.and_eq_true, beq_iff_eq, Option.some_beq_some,
    List.forall₂_map_left_iff, List.forall₂_map_right_iff, and_assoc]
  constructor
  · rintro ⟨h₁, h₂, h₃, h₄, h₅, h, h₆, h₇, h₈⟩
    exact ⟨⟨h₁, h₂, h₃, h₄, h₅, h₆, h₇, h₈⟩, h⟩
  · rintro ⟨⟨h₁, h₂, h₃, h₄, h₅, h₆, h₇, h₈⟩, h⟩
    exact ⟨h₁, h₂, h₃, h₄, h₅, h, h₆, h₇, h₈⟩

lemma agrees_iff_normal_beq : o.agrees p = true ↔ (o.normal == p.normal) = true := by
  induction o using nestedInduction generalizing p with
  | step o ih =>
    rw [agrees_iff, normal_beq_iff]
    exact and_congr_right' (forall₂_congr_of_mem fun o ho _ => ih o ho)

lemma AgreesHere.symm (h : o.AgreesHere p) : p.AgreesHere o :=
  ⟨h.kind.symm, h.name.symm, h.description.symm, h.required.symm, BEq.symm h.choices,
    h.channelTypes.symm, BEq.symm h.minValue, BEq.symm h.maxValue⟩

lemma AgreesHere.trans (hop : o.AgreesHere p) (hpq : p.AgreesHere q) : o.AgreesHere q :=
  ⟨hop.kind.trans hpq.kind, hop.name.trans hpq.name, hop.description.trans hpq.description,
    hop.required.trans hpq.required, BEq.trans hop.choices hpq.choices,
    hop.channelTypes.trans hpq.channelTypes, BEq.trans hop.minValue hpq.minValue,
    BEq.trans hop.maxValue hpq.maxValue⟩

lemma agrees_symm (h : o.agrees p = true) : p.agrees o = true := by
  induction o using nestedInduction generalizing p with
  | step o ih =>
    obtain ⟨hhere, hnested⟩ := agrees_iff.mp h
    exact agrees_iff.mpr ⟨hhere.symm, forall₂_symm_of_mem (fun o ho _ => ih o ho) hnested⟩

lemma agrees_trans (hop : o.agrees p = true) (hpq : p.agrees q = true) : o.agrees q = true := by
  induction o using nestedInduction generalizing p q with
  | step o ih =>
    obtain ⟨hhere, hnested⟩ := agrees_iff.mp hop
    obtain ⟨hhere', hnested'⟩ := agrees_iff.mp hpq
    exact agrees_iff.mpr ⟨hhere.trans hhere',
      forall₂_trans_of_mem (fun o ho _ _ => ih o ho) hnested hnested'⟩

structure Comparable (o : CommandOption) : Prop where
  choices : ∀ c ∈ o.choices.getD [], ∀ x, c.value = .number x → x.isNaN = false
  minValue : ∀ x ∈ o.minValue, x.isNaN = false
  maxValue : ∀ x ∈ o.maxValue, x.isNaN = false

lemma agreesHere_self_iff : o.AgreesHere o ↔ o.Comparable := by
  have hlist (cs : List Choice) : (cs == cs) = true ↔
      ∀ c ∈ cs, ∀ x, c.value = .number x → x.isNaN = false := by
    simp [list_beq_iff, List.forall₂_same, Choice.beq_iff, ChoiceValue.beq_self_iff]
  have hbound (x : Option Float) : (x == x) = true ↔ ∀ y ∈ x, y.isNaN = false := by
    cases x <;> simp
  exact ⟨fun h => ⟨(hlist _).mp h.choices, (hbound _).mp h.minValue, (hbound _).mp h.maxValue⟩,
    fun h => ⟨rfl, rfl, rfl, rfl, (hlist _).mpr h.choices, rfl, (hbound _).mpr h.minValue,
      (hbound _).mpr h.maxValue⟩⟩

lemma agrees_self_iff : o.agrees o = true ↔ o.Everywhere Comparable := by
  induction o using nestedInduction with
  | step o ih =>
    rw [agrees_iff, agreesHere_self_iff, List.forall₂_same, everywhere_iff]
    exact and_congr_right' (forall₂_congr ih)

/-- One absent field, of the option itself or of one in it, is replaced by what it stands for. -/
inductive Fills : CommandOption → CommandOption → Prop
  | required {o : CommandOption} : o.required = none → Fills o { o with required := some false }
  | choices {o : CommandOption} : o.choices = none → Fills o { o with choices := some [] }
  | channelTypes {o : CommandOption} :
      o.channelTypes = none → Fills o { o with channelTypes := some [] }
  | options {o : CommandOption} : o.options = none → Fills o { o with options := some [] }
  | nested {o p q : CommandOption} {before after : List CommandOption} :
      o.options = some (before ++ p :: after) → Fills p q →
        Fills o { o with options := some (before ++ q :: after) }

lemma Fills.normal_eq (h : o.Fills p) : o.normal = p.normal := by
  induction h with
  | @nested o p q before after hoptions _ ih =>
    rw [CommandOption.normal_eq o, CommandOption.normal_eq { o with options := _ }]
    simp [hoptions, ih]
  | required hnone | choices hnone | channelTypes hnone | options hnone =>
    simp [CommandOption.normal_eq, hnone]

end CommandOption

namespace AppCommand

def normal (c : AppCommand) : AppCommand :=
  { c with
    id := none
    applicationId := none
    options := some ((c.options.getD []).map CommandOption.normal)
    defaultPermission := some (c.defaultPermission.getD true)
    version := none }

structure AgreesHere (a b : AppCommand) : Prop where
  name : a.name = b.name
  kind : a.kind = b.kind
  guildId : a.guildId = b.guildId
  description : a.description = b.description
  defaultPermission : a.defaultPermission.getD true = b.defaultPermission.getD true

variable {a b c : AppCommand}

lemma agrees_iff : a.agrees b = true ↔ a.AgreesHere b ∧
    List.Forall₂ (fun o p => o.agrees p = true) (a.options.getD []) (b.options.getD []) := by
  simp only [agrees, Bool.and_eq_true, beq_iff_eq, CommandOption.nestedAgree_iff, and_assoc]
  constructor
  · rintro ⟨h₁, h₂, h₃, h₄, h₅, h⟩
    exact ⟨⟨h₁, h₂, h₃, h₄, h₅⟩, h⟩
  · rintro ⟨⟨h₁, h₂, h₃, h₄, h₅⟩, h⟩
    exact ⟨h₁, h₂, h₃, h₄, h₅, h⟩

lemma normal_beq_iff : (a.normal == b.normal) = true ↔ a.AgreesHere b ∧
    List.Forall₂ (fun o p => (o.normal == p.normal) = true) (a.options.getD []) (b.options.getD []) := by
  change a.normal.same b.normal = true ↔ _
  simp only [same, normal, list_beq_iff, Bool.and_eq_true, beq_iff_eq, Option.some_beq_some,
    List.forall₂_map_left_iff, List.forall₂_map_right_iff, and_assoc, true_and, and_true]
  constructor
  · rintro ⟨h₁, h₂, h₃, h₄, h, h₅⟩
    exact ⟨⟨h₃, h₁, h₂, h₄, h₅⟩, h⟩
  · rintro ⟨⟨h₁, h₂, h₃, h₄, h₅⟩, h⟩
    exact ⟨h₂, h₃, h₁, h₄, h, h₅⟩

lemma agrees_iff_normal_beq : a.agrees b = true ↔ (a.normal == b.normal) = true := by
  rw [agrees_iff, normal_beq_iff]
  exact and_congr_right' (forall₂_congr_of_mem fun _ _ _ => CommandOption.agrees_iff_normal_beq)

lemma AgreesHere.symm (h : a.AgreesHere b) : b.AgreesHere a :=
  ⟨h.name.symm, h.kind.symm, h.guildId.symm, h.description.symm, h.defaultPermission.symm⟩

lemma AgreesHere.trans (hab : a.AgreesHere b) (hbc : b.AgreesHere c) : a.AgreesHere c :=
  ⟨hab.name.trans hbc.name, hab.kind.trans hbc.kind, hab.guildId.trans hbc.guildId,
    hab.description.trans hbc.description, hab.defaultPermission.trans hbc.defaultPermission⟩

lemma agrees_symm (h : a.agrees b = true) : b.agrees a = true := by
  obtain ⟨hhere, hnested⟩ := agrees_iff.mp h
  exact agrees_iff.mpr ⟨hhere.symm,
    forall₂_symm_of_mem (fun _ _ _ => CommandOption.agrees_symm) hnested⟩

lemma agrees_trans (hab : a.agrees b = true) (hbc : b.agrees c = true) : a.agrees c = true := by
  obtain ⟨hhere, hnested⟩ := agrees_iff.mp hab
  obtain ⟨hhere', hnested'⟩ := agrees_iff.mp hbc
  exact agrees_iff.mpr ⟨hhere.trans hhere',
    forall₂_trans_of_mem (fun _ _ _ _ => CommandOption.agrees_trans) hnested hnested'⟩

lemma agrees_self_iff :
    a.agrees a = true ↔ ∀ o ∈ a.options.getD [], o.Everywhere CommandOption.Comparable := by
  rw [agrees_iff, List.forall₂_same]
  exact ⟨fun h o ho => CommandOption.agrees_self_iff.mp (h.2 o ho),
    fun h => ⟨⟨rfl, rfl, rfl, rfl, rfl⟩, fun o ho => CommandOption.agrees_self_iff.mpr (h o ho)⟩⟩

/-- One absent field, of the command itself or of an option in it, is replaced by what it stands for. -/
inductive Fills : AppCommand → AppCommand → Prop
  | defaultPermission {c : AppCommand} :
      c.defaultPermission = none → Fills c { c with defaultPermission := some true }
  | options {c : AppCommand} : c.options = none → Fills c { c with options := some [] }
  | nested {c : AppCommand} {o p : CommandOption} {before after : List CommandOption} :
      c.options = some (before ++ o :: after) → o.Fills p →
        Fills c { c with options := some (before ++ p :: after) }

lemma Fills.normal_eq (h : a.Fills b) : a.normal = b.normal := by
  cases h with
  | nested hoptions hfills => simp [normal, hoptions, hfills.normal_eq]
  | defaultPermission hnone | options hnone => simp [normal, hnone]

lemma normal_eq_of_fills (h : Relation.ReflTransGen Fills a b) : a.normal = b.normal := by
  induction h with
  | refl => rfl
  | tail _ hfills ih => exact ih.trans hfills.normal_eq

/-- Commands agree if and only if their normal forms are equal. To agree is symmetric and transitive, and
reflexive on the commands without NaN. It makes no difference whether what is absent in them is replaced by
what it stands for. -/
theorem agrees_iff_normal :
    (∀ a b : AppCommand, a.agrees b = true ↔ (a.normal == b.normal) = true) ∧
    (∀ a : AppCommand, a.agrees a = true ↔
      ∀ o ∈ a.options.getD [], o.Everywhere CommandOption.Comparable) ∧
    (∀ a b : AppCommand, a.agrees b = true → b.agrees a = true) ∧
    (∀ a b c : AppCommand, a.agrees b = true → b.agrees c = true → a.agrees c = true) ∧
    ∀ a a' b b' : AppCommand, Relation.ReflTransGen Fills a a' → Relation.ReflTransGen Fills b b' →
      a.agrees b = a'.agrees b' := by
  refine ⟨fun _ _ => agrees_iff_normal_beq, fun _ => agrees_self_iff, fun _ _ => agrees_symm,
    fun _ _ _ => agrees_trans, fun a a' b b' ha hb => ?_⟩
  rw [Bool.eq_iff_iff, agrees_iff_normal_beq, agrees_iff_normal_beq, normal_eq_of_fills ha,
    normal_eq_of_fills hb]

def volume (level : CommandOption) : AppCommand where
  __ := named .chatInput "volume" "How loud it is"
  options := some [{ CommandOption.named .subCommand "set" "Sets it" with options := some [level] }]
  defaultPermission := none

def level : CommandOption :=
  { CommandOption.named .number "level" "From 0 to 11" with
    choices := some [⟨"off", .number 0⟩, ⟨"loud", .integer 11⟩]
    maxValue := some 11 }

def listedLevel : CommandOption :=
  { level with required := some false, channelTypes := some [] }

lemma level_number {c : Choice} (hc : c ∈ level.choices.getD []) {x : Float} (hx : c.value = .number x) :
    x = 0 := by
  rcases List.mem_pair.mp hc with rfl | rfl
  · exact (ChoiceValue.number.inj hx).symm
  · cases hx

lemma level_comparable : level.Everywhere CommandOption.Comparable := by
  have hzero : (0 : Float).isNaN = false := by decide
  have heleven : (11 : Float).isNaN = false := by decide
  exact .intro ⟨fun _ hc _ hx => level_number hc hx ▸ hzero, by simp [level, CommandOption.named],
    by simpa [level] using heleven⟩ (by simp [level, CommandOption.named])

theorem volume_agrees : (volume level).agrees (volume level) = true ∧
    { volume listedLevel with defaultPermission := some true }.agrees (volume level) = true := by
  obtain ⟨-, hself, hsymm, -, hfills⟩ := agrees_iff_normal
  have hvolume : (volume level).agrees (volume level) = true := by
    refine (hself _).mpr fun o ho => ?_
    obtain rfl := List.mem_singleton.mp ho
    refine .intro ⟨by simp [CommandOption.named], by simp [CommandOption.named],
      by simp [CommandOption.named]⟩ fun p hp => ?_
    exact List.mem_singleton.mp hp ▸ level_comparable
  have hset {l l' : CommandOption} (h : l.Fills l') :
      Fills { volume l with defaultPermission := some true }
        { volume l' with defaultPermission := some true } :=
    @Fills.nested _ _ _ [] [] rfl (@CommandOption.Fills.nested _ _ _ [] [] rfl h)
  have hlevel : Relation.ReflTransGen Fills (volume level)
      { volume listedLevel with defaultPermission := some true } :=
    ((Relation.ReflTransGen.single (.defaultPermission rfl)).tail (hset (.required rfl))).tail
      (hset (.channelTypes rfl))
  refine ⟨hvolume, hsymm _ _ ?_⟩
  rw [← hfills _ _ _ _ .refl hlevel]
  exact hvolume

end AppCommand

end DiscordBot
