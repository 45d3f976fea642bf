import DiscordBot.ComponentRegistry
import DiscordBot.Proofs.Registry.Rules

/-! The handlers that a registry of components keeps, whatever calls have been made of it: one for each call that
succeeded, under the id of that call. -/

namespace DiscordBot

namespace ComponentRegistry

variable {r r' : ComponentRegistry} {customId label : String} {style : ButtonStyle}
    {handler : ComponentHandler}
  {options : List SelectOption}

lemma isEmpty_or_long_iff : (customId.isEmpty || decide (100 < customId.length)) = false ↔
    1 ≤ customId.length ∧ customId.length ≤ 100 := by
  rw [Bool.or_eq_false_iff, decide_eq_false_iff_not, Nat.not_lt]
  refine and_congr_left fun _ => ?_
  rw [Bool.eq_false_iff, ne_eq, String.isEmpty_iff, Nat.one_le_iff_ne_zero, ne_eq, String.length_eq_zero_iff]

lemma component_eq_ok : r.component customId handler = (.ok (), r') ↔
    1 ≤ customId.length ∧ customId.length ≤ 100 ∧ r.get? customId = none ∧
      r' = ⟨r.handlers ++ [(customId, handler)]⟩ := by
  rw [← and_assoc, ← isEmpty_or_long_iff, Bool.eq_false_iff]
  unfold component
  split
  · rename_i hbad
    simp [hbad]
  · rename_i hgood
    cases r.get? customId with
    | some taken => simp
    | none => simp [hgood, eq_comm]

lemma component_eq_error {e : BotError} (h : r.component customId handler = (.error e, r')) : r' = r := by
  unfold component at h
  split at h
  · exact (Prod.mk.inj h).2.symm
  · split at h
    · exact (Prod.mk.inj h).2.symm
    · cases h

lemma handOut_eq_ok {α : Type} {valid : Except BotError Unit} {made given : α} :
    r.handOut customId handler valid made = (.ok given, r') ↔
      valid = .ok () ∧ r.component customId handler = (.ok (), r') ∧ given = made := by
  unfold handOut
  cases valid with
  | error e => simp
  | ok u =>
    obtain ⟨result, next⟩ := r.component customId handler
    cases result <;> simp [Except.map, and_comm, eq_comm]

lemma handOut_eq_error {α : Type} {valid : Except BotError Unit} {made : α} {e : BotError}
    (h : r.handOut customId handler valid made = (.error e, r')) : r' = r := by
  unfold handOut at h
  cases valid with
  | error e => exact (Prod.mk.inj h).2.symm
  | ok u =>
    cases hcomponent : r.component customId handler with
    | mk result next =>
      rw [hcomponent] at h
      cases result with
      | ok u => cases h
      | error e =>
        rw [← (Prod.mk.inj h).2]
        exact component_eq_error hcomponent

lemma validate_named (h : style ≠ .link) (label customId : String) :
    Button.validate { Button.labelled style label with customId := some customId } = .ok () := by
  have hstyle : (style == ButtonStyle.link) = false := beq_false_of_ne h
  simp only [Button.validate, Button.labelled, hstyle]
  rfl

lemma button_eq_ok {b : Button} : r.button customId style label handler = (.ok b, r') ↔
    style ≠ .link ∧ r.component customId handler = (.ok (), r') ∧
      b = { Button.labelled style label with customId := some customId } := by
  unfold button
  split
  · rename_i hlink
    simp [beq_iff_eq.mp hlink]
  · rename_i hstyle
    have hstyle' : style ≠ .link := fun h => hstyle (beq_iff_eq.mpr h)
    simp [handOut_eq_ok, validate_named hstyle', hstyle']

lemma button_eq_error {e : BotError} (h : r.button customId style label handler = (.error e, r')) :
    r' = r := by
  unfold button at h
  split at h
  · exact (Prod.mk.inj h).2.symm
  · exact handOut_eq_error h

lemma validate_ofOptions (customId : String) : (SelectMenu.ofOptions customId options).validate = .ok () ↔
    1 ≤ options.length ∧ options.length ≤ 25 := by
  have hcount : (options.isEmpty || decide (25 < options.length)) = false ↔
      1 ≤ options.length ∧ options.length ≤ 25 := by
    rw [Bool.or_eq_false_iff, decide_eq_false_iff_not, Nat.not_lt]
    refine and_congr_left fun _ => ?_
    cases options <;> simp
  rw [← hcount]
  unfold SelectMenu.validate SelectMenu.ofOptions
  split
  · rename_i hbad
    simp [hbad]
  · rename_i hgood
    simpa using hgood

lemma selectMenu_eq_ok {m : SelectMenu} : r.selectMenu customId options handler = (.ok m, r') ↔
    (1 ≤ options.length ∧ options.length ≤ 25) ∧ r.component customId handler = (.ok (), r') ∧
      m = .ofOptions customId options := by
  rw [← validate_ofOptions customId]
  exact handOut_eq_ok

lemma selectMenu_eq_error {e : BotError} (h : r.selectMenu customId options handler = (.error e, r')) :
    r' = r :=
  handOut_eq_error h

lemma get?_append (r : ComponentRegistry) (customId id : String) (handler : ComponentHandler) :
    get? ⟨r.handlers ++ [(customId, handler)]⟩ id =
      (r.get? id).or (if customId = id then some handler else none) := by
  unfold get?
  rw [List.lookup_append, List.lookup_cons, List.lookup_nil]
  by_cases h : customId = id
  · simp [h]
  · simp [h, beq_false_of_ne (Ne.symm h)]

end ComponentRegistry

inductive ComponentCall where
  | button (customId : String) (style : ButtonStyle) (label : String) (handler : ComponentHandler)
  | selectMenu (customId : String) (options : List SelectOption) (handler : ComponentHandler)
  | component (customId : String) (handler : ComponentHandler)

namespace ComponentCall

variable {r r' : ComponentRegistry} {call : ComponentCall}

def customId : ComponentCall → String
  | button customId _ _ _ | selectMenu customId _ _ | component customId _ => customId

def handler : ComponentCall → ComponentHandler
  | button _ _ _ handler | selectMenu _ _ handler | component _ handler => handler

def perform (r : ComponentRegistry) : ComponentCall → Except BotError Unit × ComponentRegistry
  | button customId style label handler =>
    let (result, r) := r.button customId style label handler
    (result.map fun _ => (), r)
  | selectMenu customId options handler =>
    let (result, r) := r.selectMenu customId options handler
    (result.map fun _ => (), r)
  | component customId handler => r.component customId handler

def WellMade : ComponentCall → Prop
  | button _ style _ _ => style ≠ .link
  | selectMenu _ options _ => 1 ≤ options.length ∧ options.length ≤ 25
  | component _ _ => True

lemma map_unit_eq_ok {α : Type} {x : Except BotError α × ComponentRegistry} :
    (x.1.map (fun _ => ()), x.2) = (.ok (), r') ↔ ∃ a, x = (.ok a, r') := by
  obtain ⟨result, next⟩ := x
  cases result <;> simp [Except.map]

lemma map_unit_eq_error {α : Type} {x : Except BotError α × ComponentRegistry} {e : BotError}
    (h : (x.1.map (fun _ => ()), x.2) = (.error e, r')) : x = (.error e, r') := by
  obtain ⟨result, next⟩ := x
  cases result with
  | error e' =>
    obtain ⟨herror, rfl⟩ := Prod.mk.inj h
    rw [Except.error.inj herror]
  | ok a => cases h

lemma perform_eq_ok : call.perform r = (.ok (), r') ↔
    call.WellMade ∧ r.component call.customId call.handler = (.ok (), r') := by
  cases call with
  | button customId style label handler =>
    refine (map_unit_eq_ok (x := r.button customId style label handler)).trans ?_
    simp [ComponentRegistry.button_eq_ok, WellMade, ComponentCall.customId, ComponentCall.handler]
  | selectMenu customId options handler =>
    refine (map_unit_eq_ok (x := r.selectMenu customId options handler)).trans ?_
    simp [ComponentRegistry.selectMenu_eq_ok, WellMade, ComponentCall.customId, ComponentCall.handler]
  | component customId handler => simp [perform, WellMade, ComponentCall.customId, ComponentCall.handler]

lemma perform_eq_error {e : BotError} (h : call.perform r = (.error e, r')) : r' = r := by
  cases call with
  | button customId style label handler => exact ComponentRegistry.button_eq_error (map_unit_eq_error h)
  | selectMenu customId options handler =>
    exact ComponentRegistry.selectMenu_eq_error (map_unit_eq_error h)
  | component customId handler => exact ComponentRegistry.component_eq_error h

end ComponentCall

namespace ComponentRegistry

structure Course where
  registry : ComponentRegistry := {}
  done : List ComponentCall := []

namespace Course

def next (s : Course) (call : ComponentCall) : Course :=
  match call.perform s.registry with
  | (.ok (), r) => ⟨r, s.done ++ [call]⟩
  | (.error _, r) => ⟨r, s.done⟩

def ofCalls (calls : List ComponentCall) : Course := calls.foldl next {}

variable {s : Course} {call : ComponentCall} {r : ComponentRegistry}

lemma next_of_ok (h : call.perform s.registry = (.ok (), r)) : s.next call = ⟨r, s.done ++ [call]⟩ := by
  rw [next, h]

lemma next_of_error {e : BotError} (h : call.perform s.registry = (.error e, r)) : s.next call = s := by
  rw [next, h, ComponentCall.perform_eq_error h]

lemma ofCalls_concat (calls : List ComponentCall) (call : ComponentCall) :
    ofCalls (calls ++ [call]) = (ofCalls calls).next call := List.foldl_concat ..

/-- What a registry finds is what the calls that succeeded have brought, at most one handler for an id. -/
structure Lawful (s : Course) : Prop where
  size : s.registry.size = s.done.length
  found : ∀ id, (s.done.filter (·.customId == id)).map (·.handler) = (s.registry.get? id).toList
  length : ∀ call ∈ s.done, 1 ≤ call.customId.length ∧ call.customId.length ≤ 100

lemma Lawful.next (hs : s.Lawful) (call : ComponentCall) : (s.next call).Lawful := by
  rcases h : call.perform s.registry with ⟨e | u, r⟩
  · rwa [next_of_error h]
  · obtain ⟨-, hcomponent⟩ := ComponentCall.perform_eq_ok.mp h
    obtain ⟨hpos, hmax, hfree, rfl⟩ := component_eq_ok.mp hcomponent
    rw [next_of_ok h]
    constructor
    · simp [ComponentRegistry.size, ← hs.size]
    · intro id
      have hfound := hs.found id
      rw [get?_append, List.filter_append, List.map_append, hfound]
      by_cases hid : call.customId = id
      · rw [← hid, hfree]
        simp
      · simp [hid]
    · exact List.forall_mem_append.mpr ⟨hs.length, List.forall_mem_singleton.mpr ⟨hpos, hmax⟩⟩

lemma Lawful.get?_eq_some_iff (hs : s.Lawful) {id : String} {handler : ComponentHandler} :
    s.registry.get? id = some handler ↔
      ∃ call, s.done.filter (·.customId == id) = [call] ∧ call.handler = handler := by
  have hfound := hs.found id
  constructor
  · intro h
    rw [h, Option.toList_some] at hfound
    exact List.map_eq_singleton_iff.mp hfound
  · rintro ⟨call, hfilter, rfl⟩
    rw [hfilter] at hfound
    exact Option.toList_eq_singleton_iff.mp hfound.symm

lemma Lawful.get?_eq_none_iff (hs : s.Lawful) {id : String} :
    s.registry.get? id = none ↔ ∀ call ∈ s.done, call.customId ≠ id := by
  rw [← Option.toList_eq_nil_iff, ← hs.found id, List.map_eq_nil_iff, List.filter_eq_nil_iff]
  simp only [beq_iff_eq, ne_eq]

lemma Lawful.succeeds_iff (hs : s.Lawful) (call : ComponentCall) :
    (∃ r, call.perform s.registry = (.ok (), r)) ↔
      call.WellMade ∧ 1 ≤ call.customId.length ∧ call.customId.length ≤ 100 ∧
        ∀ other ∈ s.done, other.customId ≠ call.customId := by
  simp only [ComponentCall.perform_eq_ok, component_eq_ok, hs.get?_eq_none_iff, exists_and_left,
    exists_eq, and_true]

lemma get?_of_component {r r' : ComponentRegistry} {customId : String} {handler : ComponentHandler}
    (h : r.component customId handler = (.ok (), r')) : r'.get? customId = some handler := by
  obtain ⟨-, -, hfree, rfl⟩ := component_eq_ok.mp h
  rw [get?_append, hfree, if_pos rfl, Option.none_or]

lemma lawful_ofCalls (calls : List ComponentCall) : (ofCalls calls).Lawful := by
  induction calls using List.reverseRecOn with
  | nil => exact ⟨rfl, fun id => rfl, nofun⟩
  | append_singleton calls call ih =>
    rw [ofCalls_concat]
    exact ih.next call

end Course

/-- After any calls of a new registry it holds as many handlers as calls have succeeded, and finds one for an id
exactly if a single one of them had that id: the handler of that call. All ids have between 1 and 100 characters.
One more call succeeds exactly if what it brings is well made and its id is of that length and free; one that fails
changes nothing. A button or a menu that is handed out is valid and has the id under which its handler is found. -/
theorem handlers_kept (calls : List ComponentCall) :
    let s := Course.ofCalls calls
    s.registry.size = s.done.length ∧
    (∀ id handler, s.registry.get? id = some handler ↔
      ∃ call, s.done.filter (·.customId == id) = [call] ∧ call.handler = handler) ∧
    (∀ id handler, s.registry.get? id = some handler → 1 ≤ id.length ∧ id.length ≤ 100) ∧
    (∀ call : ComponentCall, (∃ r, call.perform s.registry = (.ok (), r)) ↔
      call.WellMade ∧ 1 ≤ call.customId.length ∧ call.customId.length ≤ 100 ∧
        ∀ other ∈ s.done, other.customId ≠ call.customId) ∧
    (∀ (call : ComponentCall) e r, call.perform s.registry = (.error e, r) →
      r = s.registry ∧ Course.ofCalls (calls ++ [call]) = s) ∧
    (∀ id style label handler b r, s.registry.button id style label handler = (.ok b, r) →
      b.validate = .ok () ∧ b.customId = some id ∧ r.get? id = some handler) ∧
    ∀ id options handler m r, s.registry.selectMenu id options handler = (.ok m, r) →
      m.validate = .ok () ∧ m.customId = id ∧ r.get? id = some handler := by
  intro s
  have hs : s.Lawful := Course.lawful_ofCalls calls
  refine ⟨hs.size, fun id handler => hs.get?_eq_some_iff, ?_, hs.succeeds_iff, ?_, ?_, ?_⟩
  · intro id handler hget
    obtain ⟨call, hfilter, -⟩ := hs.get?_eq_some_iff.mp hget
    have hmem : call ∈ s.done.filter (·.customId == id) := by rw [hfilter]; exact List.mem_cons_self
    obtain ⟨hdone, hid⟩ := List.mem_filter.mp hmem
    rw [← beq_iff_eq.mp hid]
    exact hs.length call hdone
  · intro call e r herror
    rw [Course.ofCalls_concat]
    exact ⟨ComponentCall.perform_eq_error herror, Course.next_of_error herror⟩
  · intro id style label handler b r hbutton
    obtain ⟨hstyle, hcomponent, rfl⟩ := button_eq_ok.mp hbutton
    exact ⟨validate_named hstyle label id, rfl, Course.get?_of_component hcomponent⟩
  · intro id options handler m r hmenu
    obtain ⟨hoptions, hcomponent, rfl⟩ := selectMenu_eq_ok.mp hmenu
    exact ⟨(validate_ofOptions id).mpr hoptions, rfl, Course.get?_of_component hcomponent⟩

def pressed : ComponentHandler := fun _ values => .ok (.ofText (", ".intercalate values ++ " selected"))

def mixedCalls : List ComponentCall := [
  .button "yes" .success "Yes" pressed, .component "yes" pressed, .button "docs" .link "Docs" pressed,
  .selectMenu "colors" [] pressed, .selectMenu "colors" [.labelled "Red"] pressed, .component "" pressed]

theorem mixed_handlers_kept :
    let s := Course.ofCalls mixedCalls
    s.done.map (·.customId) = ["yes", "colors"] ∧ s.registry.size = 2 ∧
      s.registry.get? "colors" = some pressed ∧
    ∃ b r, s.registry.button "no" .danger "No" pressed = (.ok b, r) ∧ b.validate = .ok () ∧
      b.customId = some "no" ∧ r.get? "no" = some pressed := by
  intro s
  have hdone : s.done =
      [.button "yes" .success "Yes" pressed, .selectMenu "colors" [.labelled "Red"] pressed] := rfl
  obtain ⟨hsize, hget, -, -, -, hbutton, -⟩ := handlers_kept mixedCalls
  obtain ⟨b, r, hok⟩ : ∃ b r, s.registry.button "no" .danger "No" pressed = (.ok b, r) := ⟨_, _, rfl⟩
  refine ⟨by rw [hdone]; rfl, hsize.trans (by rw [hdone]; rfl), ?_, b, r, hok, hbutton _ _ _ _ _ _ hok⟩
  exact (hget "colors" pressed).mpr ⟨.selectMenu "colors" [.labelled "Red"] pressed, by rw [hdone]; rfl, rfl⟩

end ComponentRegistry

end DiscordBot
