import DiscordBot.Command.AppCommand
import DiscordBot.Proofs.Snowflake.Text

/-! Commands and options that are read from what is written for them: all numbers in them are finite, and
no kind hides behind its number. -/

namespace DiscordBot

open Json (record field optionalField)

def ChoiceValue.Finite : ChoiceValue → Prop
  | number x => x.isFinite = true
  | _ => True

lemma ChoiceValue.readsBack {v : ChoiceValue} (h : v.Finite) : ReadsBack v := by
  cases v with
  | integer n =>
    have hn : (DiscordBot.ofJson? (.int n.toInt) : Option Int64) = some n :=
      (ReadsBack.int64 n).ofJson_toJson
    refine ⟨?_, nofun⟩
    change ChoiceValue.ofJson? (.int n.toInt) = some (.integer n)
    simp only [ChoiceValue.ofJson?, hn]
  | number x =>
    have hx : Json.ofFloat x = .float ⟨x, h⟩ := Json.ofFloat_of_isFinite h
    have hjson : DiscordBot.toJson (ChoiceValue.number x) = .float ⟨x, h⟩ := hx
    constructor
    · rw [hjson]
      rfl
    · rw [hjson]
      nofun
  | string s => exact ⟨rfl, nofun⟩

lemma Choice.readsBack {c : Choice} (h : c.value.Finite) : ReadsBack c := by
  refine ⟨?_, nofun⟩
  have hnames : ([field "name" c.name, field "value" c.value].map Prod.fst).Nodup := by
    simp [field]
  change Choice.ofJson? (record [field "name" c.name, field "value" c.value]) = some c
  rw [Choice.ofJson?, Json.fields_record]
  simp only [Option.bind_eq_bind, Option.bind_some]
  rw [Json.required_written hnames rfl (ReadsBack.string c.name),
    Json.required_written hnames rfl (ChoiceValue.readsBack h)]
  rfl

namespace CommandOption

inductive Plain : CommandOption → Prop
  | intro {o : CommandOption} (kind : OptionType.ofCode o.kind.code = o.kind)
      (choices : ∀ c ∈ o.choices.getD [], c.value.Finite)
      (channelTypes : ∀ t ∈ o.channelTypes.getD [], ChannelType.ofCode t.code = t)
      (minValue : ∀ x ∈ o.minValue, x.isFinite = true)
      (maxValue : ∀ x ∈ o.maxValue, x.isFinite = true)
      (options : ∀ p ∈ o.options.getD [], p.Plain) : Plain o

def writtenFields (o : CommandOption) : List (String × Option Json) :=
  o.fieldsAround (o.options.map fun os => .arr (os.map toJson))

lemma nestedForm : Json.NestedForm "options" toJson writtenFields options where
  write_eq o := by
    cases o
    rw [toJson, Json.nestedToJson_eq_map nestedToJson.eq_1 nestedToJson.eq_2 listToJson.eq_1
      listToJson.eq_2]
    rfl
  nodup o := by simp [writtenFields, fieldsAround, field, optionalField]
  lookup_inner o := rfl

theorem Plain.ofJson_toJson {o : CommandOption} (h : o.Plain) : ofJson? o.toJson = some o := by
  induction h with
  | @intro o kind choices channelTypes minValue maxValue _ ih =>
    have hn := nestedForm.nodup o
    have hchoices : ∀ cs ∈ o.choices, ReadsBack cs := by
      intro cs hcs
      rw [Option.mem_def.mp hcs, Option.getD_some] at choices
      exact ReadsBack.list fun c hc => Choice.readsBack (choices c hc)
    have htypes : ∀ ts ∈ o.channelTypes, ReadsBack ts := by
      intro ts hts
      rw [Option.mem_def.mp hts, Option.getD_some] at channelTypes
      exact ReadsBack.list fun t ht => ReadsBack.coded (channelTypes t ht)
    rw [ofJson?, nestedForm.nested_write ih, ofFields?,
      Json.required_written hn rfl (ReadsBack.coded kind),
      Json.required_written hn rfl (ReadsBack.string o.name),
      Json.required_written hn rfl (ReadsBack.string o.description),
      Json.optional_written hn rfl fun b _ => ReadsBack.bool b,
      Json.optional_written hn rfl hchoices, Json.optional_written hn rfl htypes,
      Json.optional_written hn rfl fun x hx => ReadsBack.float (minValue x hx),
      Json.optional_written hn rfl fun x hx => ReadsBack.float (maxValue x hx)]
    cases o
    rfl

lemma Plain.readsBack {o : CommandOption} (h : o.Plain) : ReadsBack o :=
  ⟨h.ofJson_toJson, by simp [DiscordBot.toJson, nestedForm.write_eq, record]⟩

end CommandOption

namespace AppCommand

structure Plain (c : AppCommand) : Prop where
  kind : CommandType.ofCode c.kind.code = c.kind
  options : ∀ o ∈ c.options.getD [], o.Plain

def uploaded (c : AppCommand) : AppCommand :=
  { c with id := none, applicationId := none, guildId := none, version := none }

lemma Plain.readsBack_options {c : AppCommand} (h : c.Plain) : ∀ os ∈ c.options, ReadsBack os := by
  intro os hos
  have hplain := h.options
  rw [Option.mem_def.mp hos, Option.getD_some] at hplain
  exact ReadsBack.list fun o ho => (hplain o ho).readsBack

lemma nodup_payloadFields (c : AppCommand) : (c.payloadFields.map Prod.fst).Nodup := by
  simp [payloadFields, field, optionalField]

lemma nodup_writtenFields (c : AppCommand) : (c.writtenFields.map Prod.fst).Nodup := by
  simp [writtenFields, field, optionalField]

theorem Plain.ofJson_payload {c : AppCommand} (h : c.Plain) :
    ofJson? c.payload = some c.uploaded := by
  have hn := c.nodup_payloadFields
  change ofJson? (record c.payloadFields) = _
  rw [ofJson?, Json.fields_record]
  simp only [Option.bind_eq_bind, Option.bind_some]
  rw [Json.optional_unwritten hn rfl,
    Json.defaulted_written hn rfl (ReadsBack.coded h.kind).ofJson_toJson,
    Json.optional_unwritten hn rfl, Json.optional_unwritten hn rfl,
    Json.required_written hn rfl (ReadsBack.string c.name),
    Json.defaulted_written hn rfl (ReadsBack.string c.description).ofJson_toJson,
    Json.optional_written hn rfl h.readsBack_options,
    Json.optional_written hn rfl fun b _ => ReadsBack.bool b, Json.optional_unwritten hn rfl]
  rfl

lemma ofJson_payload_eq_some {c d : AppCommand} (h : ofJson? c.payload = some d) :
    d.name = c.name ∧ d.kind = CommandType.ofCode c.kind.code := by
  have hn := c.nodup_payloadFields
  change ofJson? (record c.payloadFields) = _ at h
  rw [ofJson?, Json.fields_record] at h
  simp only [Option.bind_eq_bind, Option.bind_some] at h
  rw [Json.optional_unwritten hn rfl, Json.defaulted_written hn rfl (Coded.ofJson_toJson c.kind),
    Json.optional_unwritten hn rfl, Json.optional_unwritten hn rfl,
    Json.required_written hn rfl (ReadsBack.string c.name),
    Json.defaulted_written hn rfl (ReadsBack.string c.description).ofJson_toJson] at h
  simp only [Option.bind_some, Option.bind_eq_some_iff, Option.some.injEq] at h
  obtain ⟨_, -, _, -, _, -, rfl⟩ := h
  exact ⟨rfl, rfl⟩

theorem Plain.ofJson_toJson {c : AppCommand} (h : c.Plain) : ofJson? c.toJson = some c := by
  have hn := c.nodup_writtenFields
  change ofJson? (record c.writtenFields) = _
  rw [ofJson?, Json.fields_record]
  simp only [Option.bind_eq_bind, Option.bind_some]
  rw [Json.optional_written hn rfl fun i _ => i.readsBack,
    Json.defaulted_written hn rfl (ReadsBack.coded h.kind).ofJson_toJson,
    Json.optional_written hn rfl fun i _ => i.readsBack,
    Json.optional_written hn rfl fun i _ => i.readsBack,
    Json.required_written hn rfl (ReadsBack.string c.name),
    Json.defaulted_written hn rfl (ReadsBack.string c.description).ofJson_toJson,
    Json.optional_written hn rfl h.readsBack_options,
    Json.optional_written hn rfl fun b _ => ReadsBack.bool b,
    Json.optional_written hn rfl fun i _ => i.readsBack]
  rfl

lemma Plain.readsBack {c : AppCommand} (h : c.Plain) : ReadsBack c :=
  ⟨h.ofJson_toJson, by simp [DiscordBot.toJson, toJson, record]⟩

end AppCommand

end DiscordBot
