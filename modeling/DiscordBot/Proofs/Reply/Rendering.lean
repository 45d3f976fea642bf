import DiscordBot.Proofs.Reply.Template
import Mathlib.Data.List.Basic

/-! A reply is rendered in one pass, part by part. What stands for a word in curly brackets comes in as it
is. -/

namespace DiscordBot

def plainText : Json → String
  | .str s => s
  | j => j.render

namespace Reply

def Mentions (cs word : List Char) : Prop :=
  IsWord word ∧ ∃ before after, cs = before ++ '\x7b' :: (word ++ '\x7d' :: after)

def Straddled (a b : List Char) : Prop :=
  ∃ before left right after, IsWord (left ++ right) ∧ a = before ++ '\x7b' :: left ∧
    b = right ++ '\x7d' :: after

section Pieces

variable {a b cs word : List Char} {c : Char}

lemma Mentions.prepend (h : Mentions cs word) (ds : List Char) : Mentions (ds ++ cs) word := by
  obtain ⟨hword, before, after, rfl⟩ := h
  exact ⟨hword, ds ++ before, after, (List.append_assoc ..).symm⟩

lemma Straddled.prepend (h : Straddled a b) (cs : List Char) : Straddled (cs ++ a) b := by
  obtain ⟨before, left, right, after, hword, rfl, hb⟩ := h
  exact ⟨cs ++ before, left, right, after, hword, (List.append_assoc ..).symm, hb⟩

lemma not_straddled_of_cons (hword : Text.isWordChar c = false) (hc : c ≠ '\x7d') :
    ¬Straddled a (c :: b) := by
  rintro ⟨before, left, right, after, ⟨-, hright⟩, -, hb⟩
  cases right with
  | nil => exact hc (List.cons.inj hb).1
  | cons d right =>
    have hd := hright d (List.mem_append_right left List.mem_cons_self)
    rw [← (List.cons.inj hb).1, hword] at hd
    cases hd

lemma text_append_of_text (h : ¬Straddled (c :: cs) b)
    (htext : ∀ word rest, IsWord word → c :: cs ≠ '\x7b' :: (word ++ '\x7d' :: rest)) (word rest : List Char)
    (hword : IsWord word) : c :: (cs ++ b) ≠ '\x7b' :: (word ++ '\x7d' :: rest) := by
  intro heq
  obtain ⟨rfl, htail⟩ := List.cons.inj heq
  obtain ⟨right, rfl, hb⟩ | ⟨rest', hcs, hrest⟩ := List.append_eq_append_iff.mp htail
  · -- the word goes on into the second text
    exact h ⟨[], cs, right, rest, hword, rfl, hb⟩
  · cases rest' with
    | nil =>
      -- the word ends with the first text, and the second begins with the closing bracket
      rw [List.append_nil] at hcs
      exact h ⟨[], cs, [], rest, by rwa [List.append_nil, hcs], rfl, hrest.symm⟩
    | cons d rest' =>
      obtain ⟨rfl, -⟩ := List.cons.inj hrest
      exact htext word rest' hword (by rw [hcs])

lemma pieces_append (h : ¬Straddled a b) : pieces (a ++ b) = pieces a ++ pieces b := by
  -- What is a placeholder in the first text is one in both; only what is none there may look past its end.
  fun_induction pieces a with
  | case1 => rfl
  | case2 cs word rest hfound hlength ih =>
    obtain ⟨hword, rfl⟩ := closing?_eq_some.mp hfound
    have hrest : ¬Straddled rest b := fun hs =>
      h (by simpa using hs.prepend ('\x7b' :: (word ++ ['\x7d'])))
    rw [List.cons_append, List.append_assoc, List.cons_append, pieces_placeholder hword, ih hrest,
      List.cons_append]
  | case3 cs hnone ih =>
    have htext : ∀ word rest, IsWord word → '\x7b' :: cs ≠ '\x7b' :: (word ++ '\x7d' :: rest) := by
      intro word rest hword heq
      cases hnone.symm.trans (closing?_eq_some.mpr ⟨hword, (List.cons.inj heq).2⟩)
    rw [List.cons_append, pieces_text (text_append_of_text h htext), ih fun hs => h (hs.prepend ['\x7b']),
      List.cons_append]
  | case4 c cs hc ih =>
    have htext : ∀ word rest, IsWord word → c :: cs ≠ '\x7b' :: (word ++ '\x7d' :: rest) :=
      fun word rest _ heq => hc (List.cons.inj heq).1
    rw [List.cons_append, pieces_text (text_append_of_text h htext), ih fun hs => h (hs.prepend [c]),
      List.cons_append]

lemma pieces_mention (hword : IsWord word) :
    pieces (a ++ '\x7b' :: (word ++ '\x7d' :: b)) = pieces a ++ .placeholder (String.ofList word) :: pieces b := by
  rw [pieces_append (not_straddled_of_cons (by decide) (by decide)), pieces_placeholder hword]

lemma mentions_iff {name : String} : Mentions cs name.toList ↔ .placeholder name ∈ pieces cs := by
  constructor
  · rintro ⟨hword, before, after, rfl⟩
    rw [pieces_mention hword, String.ofList_toList]
    exact List.mem_append_right _ List.mem_cons_self
  · intro hmem
    fun_induction pieces cs with
    | case1 => cases hmem
    | case2 cs word rest hfound hlength ih =>
      obtain ⟨hword, rfl⟩ := closing?_eq_some.mp hfound
      rcases List.mem_cons.mp hmem with heq | hrest
      · obtain rfl := Piece.placeholder.inj heq
        rw [String.toList_ofList]
        exact ⟨hword, [], rest, rfl⟩
      · simpa using (ih hrest).prepend ('\x7b' :: (word ++ ['\x7d']))
    | case3 cs hnone ih => exact (ih (by simpa using hmem)).prepend ['\x7b']
    | case4 c cs hc ih => exact (ih (by simpa using hmem)).prepend [c]

lemma pieces_plain (h : ∀ word, ¬Mentions cs word) : pieces cs = cs.map .text := by
  fun_induction pieces cs with
  | case1 => rfl
  | case2 cs word rest hfound hlength ih =>
    obtain ⟨hword, rfl⟩ := closing?_eq_some.mp hfound
    exact absurd ⟨hword, [], rest, rfl⟩ (h word)
  | case3 cs hnone ih =>
    rw [ih fun word hmention => h word (hmention.prepend [_]), List.map_cons]
  | case4 c cs hc ih =>
    rw [ih fun word hmention => h word (hmention.prepend [_]), List.map_cons]

end Pieces

namespace Static

def withTemplate (s : Static) (template : String) : Static := { s with template := template }

/-- What stands for a word in curly brackets. An argument that has a value comes in as it is, or as a mention
if that is the kind of the option; one without a value leaves nothing. The author is mentioned unless an
argument has that name, and any other word stays. -/
inductive Stands (s : Static) (author : Snowflake) (args : Arguments) (word : String) : String → Prop
  | plain {value : Json} : args.entries.lookup word = some (some value) →
      s.kindOf? word ∉ [some .user, some .channel, some .role] → Stands s author args word (plainText value)
  | user {value : Json} : args.entries.lookup word = some (some value) → s.kindOf? word = some .user →
      Stands s author args word ("<@" ++ plainText value ++ ">")
  | channel {value : Json} : args.entries.lookup word = some (some value) → s.kindOf? word = some .channel →
      Stands s author args word ("<#" ++ plainText value ++ ">")
  | role {value : Json} : args.entries.lookup word = some (some value) → s.kindOf? word = some .role →
      Stands s author args word ("<@&" ++ plainText value ++ ">")
  | empty : args.entries.lookup word = some none → Stands s author args word ""
  | author : args.entries.lookup word = none → word = "author" →
      Stands s author args word ("<@" ++ author.text ++ ">")
  | unknown : args.entries.lookup word = none → word ≠ "author" →
      Stands s author args word ("\x7b" ++ word ++ "\x7d")

variable {s : Static} {ctx ctx' : MessageContext} {args args' : Arguments} {word text : String}

lemma valueText_kind (kind : Option OptionType) (value : Json) : valueText kind value =
    match kind with
    | some .user => "<@" ++ plainText value ++ ">"
    | some .channel => "<#" ++ plainText value ++ ">"
    | some .role => "<@&" ++ plainText value ++ ">"
    | _ => plainText value := by
  cases value <;> rfl

lemma valueText_of_plain {kind : Option OptionType} (h : kind ∉ [some .user, some .channel, some .role])
    (value : Json) : valueText kind value = plainText value := by
  rw [valueText_kind]
  rcases kind with _ | kind
  · rfl
  · cases kind <;> first | rfl | simp at h

lemma placeholderText_of_value {value : Json} (h : args.entries.lookup word = some (some value)) :
    s.placeholderText ctx args word = valueText (s.kindOf? word) value := by
  simp [placeholderText, Arguments.contains, Arguments.get?, h]

lemma placeholderText_of_no_value (h : args.entries.lookup word = some none) :
    s.placeholderText ctx args word = "" := by
  simp [placeholderText, Arguments.contains, Arguments.get?, h]

lemma placeholderText_of_missing (h : args.entries.lookup word = none) : s.placeholderText ctx args word =
    if word = "author" then "<@" ++ ctx.author.id.text ++ ">" else "\x7b" ++ word ++ "\x7d" := by
  simp [placeholderText, Arguments.contains, h, User.mention]

lemma stands_placeholderText : s.Stands ctx.author.id args word (s.placeholderText ctx args word) := by
  rcases hvalue : args.entries.lookup word with _ | _ | value
  · rw [placeholderText_of_missing hvalue]
    by_cases hword : word = "author"
    · rw [if_pos hword]
      exact .author hvalue hword
    · rw [if_neg hword]
      exact .unknown hvalue hword
  · rw [placeholderText_of_no_value hvalue]
    exact .empty hvalue
  · rw [placeholderText_of_value hvalue]
    by_cases hplain : s.kindOf? word ∈ [some .user, some .channel, some .role]
    · simp only [List.mem_cons, List.not_mem_nil, or_false] at hplain
      rcases hplain with hkind | hkind | hkind
      · rw [hkind, valueText_kind]
        exact .user hvalue hkind
      · rw [hkind, valueText_kind]
        exact .channel hvalue hkind
      · rw [hkind, valueText_kind]
        exact .role hvalue hkind
    · rw [valueText_of_plain hplain]
      exact .plain hvalue hplain

lemma stands_iff : s.Stands ctx.author.id args word text ↔ text = s.placeholderText ctx args word := by
  constructor
  · intro h
    cases h with
    | plain hvalue hkind => rw [placeholderText_of_value hvalue, valueText_of_plain hkind]
    | user hvalue hkind | channel hvalue hkind | role hvalue hkind =>
      rw [placeholderText_of_value hvalue, hkind, valueText_kind]
    | empty hvalue => rw [placeholderText_of_no_value hvalue]
    | author hvalue hword => rw [placeholderText_of_missing hvalue, if_pos hword]
    | unknown hvalue hword => rw [placeholderText_of_missing hvalue, if_neg hword]
  · rintro rfl
    exact stands_placeholderText

lemma placeholderText_congr (hauthor : ctx'.author.id = ctx.author.id)
    (hentry : args'.entries.lookup word = args.entries.lookup word) :
    s.placeholderText ctx' args' word = s.placeholderText ctx args word := by
  rcases hvalue : args.entries.lookup word with _ | _ | value
  · rw [placeholderText_of_missing hvalue, placeholderText_of_missing (hentry.trans hvalue), hauthor]
  · rw [placeholderText_of_no_value hvalue, placeholderText_of_no_value (hentry.trans hvalue)]
  · rw [placeholderText_of_value hvalue, placeholderText_of_value (hentry.trans hvalue)]

lemma toList_render : (s.render ctx args).toList =
    (pieces s.template.toList).flatMap (Piece.filled (s.placeholderText ctx args)) :=
  filled_iff.mp ((filled_render s ctx args).mpr rfl)

lemma render_append {a b : String} (h : ¬Straddled a.toList b.toList) :
    (s.withTemplate (a ++ b)).render ctx args =
      (s.withTemplate a).render ctx args ++ (s.withTemplate b).render ctx args := by
  rw [← String.toList_inj, String.toList_append, toList_render, toList_render, toList_render]
  simp only [withTemplate, String.toList_append, pieces_append h, List.flatMap_append]
  rfl

lemma render_of_plain {a : String} (h : ∀ word, ¬Mentions a.toList word) :
    (s.withTemplate a).render ctx args = a := by
  have hpieces : pieces a.toList = a.toList.map .text := pieces_plain h
  rw [← String.toList_inj, toList_render, withTemplate, hpieces, List.flatMap_map]
  exact List.flatMap_singleton' ..

lemma render_mention {a b : String} (hword : IsWord word.toList) :
    (s.withTemplate (a ++ "\x7b" ++ word ++ "\x7d" ++ b)).render ctx args =
      (s.withTemplate a).render ctx args ++ s.placeholderText ctx args word ++
        (s.withTemplate b).render ctx args := by
  have htemplate : (a ++ "\x7b" ++ word ++ "\x7d" ++ b).toList =
      a.toList ++ '\x7b' :: (word.toList ++ '\x7d' :: b.toList) := by
    simp
  rw [← String.toList_inj, String.toList_append, String.toList_append, toList_render, toList_render,
    toList_render]
  simp only [withTemplate, htemplate, pieces_mention hword, List.flatMap_append, List.flatMap_cons,
    Piece.filled, String.ofList_toList, List.append_assoc]
  rfl

lemma render_congr (hauthor : ctx'.author.id = ctx.author.id)
    (hentries : ∀ word : String, Mentions s.template.toList word.toList →
      args'.entries.lookup word = args.entries.lookup word) : s.render ctx' args' = s.render ctx args := by
  rw [← String.toList_inj, toList_render, toList_render]
  refine List.flatMap_congr fun p hp => ?_
  cases p with
  | text c => rfl
  | placeholder word =>
    rw [Piece.filled, Piece.filled, placeholderText_congr hauthor (hentries word (mentions_iff.mpr hp))]

/-- Two templates are rendered apart unless a word straddles them, one without a word in curly brackets is
its own rendering, and exactly what stands for a word comes in its place, whatever it looks like. Beside
the author's id only the arguments that the template mentions count. -/
theorem rendered_once (s : Static) (ctx : MessageContext) (args : Arguments) :
    (∀ a b : String, ¬Straddled a.toList b.toList →
      (s.withTemplate (a ++ b)).render ctx args =
        (s.withTemplate a).render ctx args ++ (s.withTemplate b).render ctx args) ∧
    (∀ a : String, (∀ word, ¬Mentions a.toList word) → (s.withTemplate a).render ctx args = a) ∧
    (∀ a word b : String, IsWord word.toList → ∀ text, s.Stands ctx.author.id args word text ↔
      (s.withTemplate (a ++ "\x7b" ++ word ++ "\x7d" ++ b)).render ctx args =
        (s.withTemplate a).render ctx args ++ text ++ (s.withTemplate b).render ctx args) ∧
    ∀ (ctx' : MessageContext) (args' : Arguments), ctx'.author.id = ctx.author.id →
      (∀ word : String, Mentions s.template.toList word.toList →
        args'.entries.lookup word = args.entries.lookup word) →
      s.render ctx' args' = s.render ctx args := by
  refine ⟨fun _ _ => render_append, fun _ => render_of_plain, fun a word b hword text => ?_,
    fun _ _ => render_congr⟩
  rw [stands_iff, render_mention hword]
  constructor
  · rintro rfl
    rfl
  · intro h
    simpa [← String.toList_inj] using h.symm

def greeting : Static := { template := "\x7b\x7bwho\x7d \x7bauthor\x7d" }

def greeter (name : String) : MessageContext :=
  { (default : MessageContext) with author := { (default : User) with id := ⟨7⟩, username := name } }

def greeted : Arguments := ⟨[("who", some (.str "\x7bauthor\x7d"))]⟩

theorem greeting_rendered_once :
    (¬Straddled "\x7b\x7bwho\x7d".toList " \x7bauthor\x7d".toList ∧
      (greeting.withTemplate ("\x7b\x7bwho\x7d" ++ " \x7bauthor\x7d")).render (greeter "ada") greeted =
        (greeting.withTemplate "\x7b\x7bwho\x7d").render (greeter "ada") greeted ++
          (greeting.withTemplate " \x7bauthor\x7d").render (greeter "ada") greeted) ∧
    ((∀ word, ¬Mentions "\x7b\x7d".toList word) ∧
      (greeting.withTemplate "\x7b\x7d").render (greeter "ada") greeted = "\x7b\x7d") ∧
    (IsWord "who".toList ∧
      (greeting.withTemplate ("\x7b" ++ "\x7b" ++ "who" ++ "\x7d" ++ "!")).render (greeter "ada") greeted =
        (greeting.withTemplate "\x7b").render (greeter "ada") greeted ++ "\x7bauthor\x7d" ++
          (greeting.withTemplate "!").render (greeter "ada") greeted) ∧
    (greeter "bob").author.id = (greeter "ada").author.id ∧
      greeting.render (greeter "bob") (greeted.insert "why" none) =
        greeting.render (greeter "ada") greeted := by
  obtain ⟨happend, hplain, hmention, hcongr⟩ := rendered_once greeting (greeter "ada") greeted
  have hapart : ¬Straddled "\x7b\x7bwho\x7d".toList " \x7bauthor\x7d".toList :=
    not_straddled_of_cons (by decide) (by decide)
  have hpieces : pieces "\x7b\x7d".toList = [.text '\x7b', .text '\x7d'] := by decide +kernel
  have hnone : ∀ word, ¬Mentions "\x7b\x7d".toList word := by
    intro word hmentioned
    rw [← String.toList_ofList (l := word), mentions_iff, hpieces] at hmentioned
    simp at hmentioned
  have hword : IsWord "who".toList := ⟨by decide, List.all_eq_true.mp (by decide)⟩
  have hvalue : greeted.entries.lookup "who" = some (some (.str "\x7bauthor\x7d")) := rfl
  have hgiven : greeting.Stands (greeter "ada").author.id greeted "who" "\x7bauthor\x7d" :=
    .plain hvalue (by decide)
  have hwhy : ¬Mentions greeting.template.toList "why".toList := by
    rw [mentions_iff]
    decide +kernel
  refine ⟨⟨hapart, happend _ _ hapart⟩, ⟨hnone, hplain _ hnone⟩, ⟨hword, (hmention _ _ _ hword _).mp hgiven⟩,
    rfl, hcongr _ _ rfl fun word hmentioned => ?_⟩
  have hne : word ≠ "why" := by
    rintro rfl
    exact hwhy hmentioned
  simp [greeted, Arguments.insert, Arguments.put, List.lookup_cons, beq_false_of_ne hne]

end Static

end Reply

end DiscordBot
