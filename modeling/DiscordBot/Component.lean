import DiscordBot.Error
import DiscordBot.Snowflake

/-! Buttons and select menus, and the rows they stand in. -/

namespace DiscordBot

open Json (fields? required optional defaulted field optionalField record)

inductive ComponentType where
  | actionRow
  | button
  | selectMenu
  | unknown (n : UInt8)
  deriving DecidableEq, Repr, Inhabited

namespace ComponentType

def code : ComponentType → UInt8
  | actionRow => 1
  | button => 2
  | selectMenu => 3
  | unknown n => n

def ofCode (n : UInt8) : ComponentType :=
  match n with
  | 1 => actionRow
  | 2 => button
  | 3 => selectMenu
  | n => unknown n

def label : ComponentType → String
  | actionRow => "ActionRow"
  | button => "Button"
  | selectMenu => "SelectMenu"
  | unknown n => unknownLabel n

instance : Coded ComponentType := ⟨code, ofCode, label⟩

end ComponentType

inductive ButtonStyle where
  | primary
  | secondary
  | success
  | danger
  | link
  | unknown (n : UInt8)
  deriving DecidableEq, Repr, Inhabited

namespace ButtonStyle

def code : ButtonStyle → UInt8
  | primary => 1
  | secondary => 2
  | success => 3
  | danger => 4
  | link => 5
  | unknown n => n

def ofCode (n : UInt8) : ButtonStyle :=
  match n with
  | 1 => primary
  | 2 => secondary
  | 3 => success
  | 4 => danger
  | 5 => link
  | n => unknown n

def label : ButtonStyle → String
  | primary => "Primary"
  | secondary => "Secondary"
  | success => "Success"
  | danger => "Danger"
  | link => "Link"
  | unknown n => unknownLabel n

instance : Coded ButtonStyle := ⟨code, ofCode, label⟩

end ButtonStyle

structure Emoji where
  id : Option Snowflake
  name : Option String
  animated : Option Bool
  deriving DecidableEq, Repr, Inhabited

namespace Emoji

def fieldNames : List String := ["id", "name", "animated"]

def toJson (e : Emoji) : Json := record [
  optionalField "id" e.id,
  optionalField "name" e.name,
  optionalField "animated" e.animated]

def ofJson? (j : Json) : Option Emoji := do
  let fs ← fields? fieldNames j
  some {
    id := ← optional fs "id"
    name := ← optional fs "name"
    animated := ← optional fs "animated" }

instance : JsonForm Emoji := ⟨toJson, ofJson?⟩

end Emoji

structure Button where
  kind : ComponentType
  style : ButtonStyle
  label : Option String
  emoji : Option Emoji
  customId : Option String
  url : Option String
  disabled : Option Bool
  deriving DecidableEq, Repr, Inhabited

namespace Button

def fieldNames : List String := ["type", "style", "label", "emoji", "custom_id", "url", "disabled"]

def toJson (b : Button) : Json := record [
  field "type" b.kind,
  field "style" b.style,
  optionalField "label" b.label,
  optionalField "emoji" b.emoji,
  optionalField "custom_id" b.customId,
  optionalField "url" b.url,
  optionalField "disabled" b.disabled]

def ofJson? (j : Json) : Option Button := do
  let fs ← fields? fieldNames j
  some {
    kind := ← required fs "type"
    style := ← required fs "style"
    label := ← optional fs "label"
    emoji := ← optional fs "emoji"
    customId := ← optional fs "custom_id"
    url := ← optional fs "url"
    disabled := ← optional fs "disabled" }

instance : JsonForm Button := ⟨toJson, ofJson?⟩

def labelled (style : ButtonStyle) (label : String) : Button where
  kind := .button
  style := style
  label := some label
  emoji := none
  customId := none
  url := none
  disabled := none

def link (label url : String) : Button := { labelled .link label with url := some url }

def validate (b : Button) : Except BotError Unit :=
  match b.style == .link, b.url.isSome, b.customId.isSome with
  | true, true, false | false, false, true => .ok ()
  | true, _, _ => .error (.invalidComponent "link buttons need a url and no custom_id")
  | false, _, _ => .error (.invalidComponent "non-link buttons need a custom_id and no url")

end Button

structure SelectOption where
  label : String
  value : String
  description : Option String
  emoji : Option Emoji
  isDefault : Option Bool
  deriving DecidableEq, Repr, Inhabited

namespace SelectOption

def fieldNames : List String := ["label", "value", "description", "emoji", "default"]

def toJson (o : SelectOption) : Json := record [
  field "label" o.label,
  field "value" o.value,
  optionalField "description" o.description,
  optionalField "emoji" o.emoji,
  optionalField "default" o.isDefault]

def ofJson? (j : Json) : Option SelectOption := do
  let fs ← fields? fieldNames j
  some {
    label := ← required fs "label"
    value := ← required fs "value"
    description := ← optional fs "description"
    emoji := ← optional fs "emoji"
    isDefault := ← optional fs "default" }

instance : JsonForm SelectOption := ⟨toJson, ofJson?⟩

def labelled (label : String) : SelectOption := ⟨label, label, none, none, none⟩

end SelectOption

structure SelectMenu where
  kind : ComponentType
  customId : String
  options : List SelectOption
  placeholder : Option String
  minValues : Option UInt8
  maxValues : Option UInt8
  disabled : Option Bool
  deriving DecidableEq, Repr, Inhabited

namespace SelectMenu

def fieldNames : List String := [
  "type", "custom_id", "options", "placeholder", "min_values", "max_values", "disabled"]

def writtenFields (m : SelectMenu) : List (String × Option Json) := [
  field "type" m.kind,
  field "custom_id" m.customId,
  field "options" m.options,
  optionalField "placeholder" m.placeholder,
  optionalField "min_values" m.minValues,
  optionalField "max_values" m.maxValues,
  optionalField "disabled" m.disabled]

def toJson (m : SelectMenu) : Json := record m.writtenFields

def ofJson? (j : Json) : Option SelectMenu := do
  let fs ← fields? fieldNames j
  some {
    kind := ← required fs "type"
    customId := ← required fs "custom_id"
    options := ← required fs "options"
    placeholder := ← optional fs "placeholder"
    minValues := ← optional fs "min_values"
    maxValues := ← optional fs "max_values"
    disabled := ← optional fs "disabled" }

instance : JsonForm SelectMenu := ⟨toJson, ofJson?⟩

def ofOptions (customId : String) (options : List SelectOption) : SelectMenu :=
  ⟨.selectMenu, customId, options, none, none, none, none⟩

def validate (m : SelectMenu) : Except BotError Unit :=
  if m.options.isEmpty || 25 < m.options.length then
    .error (.invalidComponent ("select menu `" ++ m.customId
      ++ "` needs between 1 and 25 options, got " ++ toString m.options.length))
  else
    match m.minValues, m.maxValues with
    | some least, some greatest =>
      if greatest < least then
        .error (.invalidComponent ("select menu `" ++ m.customId ++ "` has min_values > max_values"))
      else .ok ()
    | _, _ => .ok ()

end SelectMenu

inductive Component where
  | button (b : Button)
  | selectMenu (m : SelectMenu)
  deriving DecidableEq, Repr, Inhabited

namespace Component

def toJson : Component → Json
  | button b => b.toJson
  | selectMenu m => m.toJson

def ofJson? (j : Json) : Option Component :=
  match Button.ofJson? j with
  | some b => some (button b)
  | none => (SelectMenu.ofJson? j).map selectMenu

instance : JsonForm Component := ⟨toJson, ofJson?⟩

end Component

structure ActionRow where
  kind : ComponentType
  components : List Component
  deriving DecidableEq, Repr, Inhabited

namespace ActionRow

def fieldNames : List String := ["type", "components"]

def toJson (r : ActionRow) : Json := record [field "type" r.kind, field "components" r.components]

def ofJson? (j : Json) : Option ActionRow := do
  let fs ← fields? fieldNames j
  some { kind := ← required fs "type", components := ← required fs "components" }

instance : JsonForm ActionRow := ⟨toJson, ofJson?⟩

def ofComponents (components : List Component) : ActionRow := ⟨.actionRow, components⟩

end ActionRow

end DiscordBot
