import DiscordBot.Dispatcher
import Mathlib.Data.List.Basic
import Mathlib.Data.List.Induction

/-! The arguments of a call as the entries that are put in one after another. The last entry of a name is
the one that counts. -/

namespace DiscordBot

namespace Arguments

abbrev Entry := String × Option Json

def ofEntries (entries : List Entry) : Arguments := entries.foldl (fun args e => args.insert e.1 e.2) {}

lemma lookup_put (name n : String) (value : Option Json) (es : List Entry) :
    (put name value es).lookup n = if n == name then some value else es.lookup n := by
  induction es with
  | nil => cases h : n == name <;> simp [put, List.lookup_cons, h]
  | cons e es ih =>
    obtain ⟨k, v⟩ := e
    unfold put
    cases hk : k == name with
    | true =>
      obtain rfl := eq_of_beq hk
      cases h : n == k <;> simp [List.lookup_cons, h]
    | false =>
      cases h : n == k with
      | true =>
        obtain rfl := eq_of_beq h
        simp [hk]
      | false => simp [List.lookup_cons, ih, h]

def lastOf? (entries : List Entry) (name : String) : Option (Option Json) := entries.reverse.lookup name

lemma lastOf?_concat (entries : List Entry) (e : Entry) (name : String) :
    lastOf? (entries ++ [e]) name = if name == e.1 then some e.2 else lastOf? entries name := by
  rw [lastOf?, List.reverse_concat, List.lookup_cons]
  cases name == e.1 <;> rfl

lemma lookup_ofEntries (entries : List Entry) (name : String) :
    (ofEntries entries).entries.lookup name = lastOf? entries name := by
  induction entries using List.reverseRecOn with
  | nil => rfl
  | append_singleton entries e ih =>
    rw [lastOf?_concat, ← ih, ofEntries, List.foldl_concat]
    exact lookup_put ..

lemma ofOptions_eq (declared : List CommandOption) (provided : List InteractionOption) :
    ofOptions declared provided =
      ofEntries (declared.map (fun o => (o.name, none)) ++ provided.map fun o => (o.name, o.value)) := by
  rw [ofOptions, ofEntries, List.foldl_append, List.foldl_map, List.foldl_map]

end Arguments

namespace Dispatcher

open Arguments (Entry ofEntries)

def targetEntries (kind : CommandType) (data : InteractionData) : List Entry :=
  match data.targetId with
  | none => []
  | some target =>
    ("target_id", some (.str target.text)) ::
      match kind with
      | .user => [("user", resolved data "users" target.text),
        ("member", resolved data "members" target.text)]
      | .message => [("message", resolved data "messages" target.text)]
      | _ => []

def argumentEntries (declared : List String) (kind : CommandType) (i : Interaction) (path : CommandPath) :
    List Entry :=
  declared.map (fun name => (name, none)) ++ path.options.map (fun o => (o.name, o.value)) ++
    (i.data.map (targetEntries kind)).getD []

theorem arguments_eq (c : RegisteredCommand) (i : Interaction) (path : CommandPath) :
    arguments c i path =
      ofEntries (argumentEntries ((c.app.options.getD []).map (·.name)) c.app.kind i path) := by
  unfold arguments argumentEntries
  rw [Arguments.ofOptions_eq, List.map_map, Function.comp_def]
  cases i.data with
  | none => simp
  | some data =>
    simp only [Option.map_some, Option.getD_some, targetEntries]
    cases data.targetId with
    | none => simp
    | some target =>
      simp only [ofEntries, List.foldl_append, List.foldl_cons]
      cases c.app.kind <;> rfl

end Dispatcher

end DiscordBot
