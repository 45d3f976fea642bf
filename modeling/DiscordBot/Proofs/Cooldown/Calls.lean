import DiscordBot.Cooldown.Throttler
import DiscordBot.Proofs.Cooldown.Window
import Mathlib.Data.List.Induction

/-! Calls that a throttler handles one after another. Each is answered from the window of its key, and
changes that window only. -/

namespace DiscordBot

/-- Two contexts share the cooldown of a command with some scope. A scope of an unknown kind is taken for
that of a user. -/
def ThrottleScope.Shares (a b : MessageContext) : ThrottleScope → Prop
  | .user | .unknown _ => a.author.id = b.author.id
  | .guild => a.guildId = b.guildId
  | .channel => a.channelId = b.channelId
  | .global => True

namespace Cooldown

open Time (Instant)

structure Call (ι : Type) where
  command : ι
  context : MessageContext
  time : Instant

instance (s : ThrottleScope) (a b : MessageContext) : Decidable (s.Shares a b) :=
  match s with
  | .user | .unknown _ => inferInstanceAs (Decidable (a.author.id = b.author.id))
  | .guild => inferInstanceAs (Decidable (a.guildId = b.guildId))
  | .channel => inferInstanceAs (Decidable (a.channelId = b.channelId))
  | .global => inferInstanceAs (Decidable True)

lemma scopeKey_eq_iff {a b : MessageContext} {s : ThrottleScope} :
    scopeKey a s = scopeKey b s ↔ s.Shares a b := by
  cases s <;> simp [scopeKey, ThrottleScope.Shares]

variable {ι : Type} (commands : ι → RegisteredCommand)

namespace Call

def key (c : Call ι) : WindowKey := windowKey c.context (commands c.command)

def Alike (c d : Call ι) : Prop :=
  c.command = d.command ∧ (commands c.command).cooldownScope.Shares c.context d.context

instance [DecidableEq ι] (c d : Call ι) : Decidable (c.Alike commands d) :=
  inferInstanceAs (Decidable (_ ∧ _))

/-- A period after the call there still is an instant of the clock. -/
def Fits (c : Call ι) : Prop :=
  ∀ period, Time.Duration.ofSeconds? (commands c.command).cooldownScale = some period →
    c.time + period ≤ Time.greatestInstant

def Ordered (cs : List (Call ι)) : Prop := cs.Pairwise fun c d => c.time ≤ d.time

variable {commands}

lemma Alike.key_eq {c d : Call ι} (h : c.Alike commands d) : c.key commands = d.key commands := by
  have hscope := scopeKey_eq_iff.mpr h.2
  unfold key windowKey
  rw [h.1] at hscope ⊢
  rw [hscope]

lemma key_eq_iff (hnames : Function.Injective fun i => (commands i).qualifiedName) {c d : Call ι} :
    c.key commands = d.key commands ↔ c.Alike commands d := by
  refine ⟨fun h => ?_, Alike.key_eq⟩
  obtain ⟨hname, hscope⟩ := Prod.mk.inj h
  have hcommand : c.command = d.command := hnames hname
  refine ⟨hcommand, scopeKey_eq_iff.mp ?_⟩
  rw [hscope, hcommand]

end Call

namespace Throttler

lemma lookup_setWindow (key k : WindowKey) (w : SlidingWindow) (ws : List (WindowKey × SlidingWindow)) :
    (setWindow key w ws).lookup k = if k = key then some w else ws.lookup k := by
  have hother : ∀ l : WindowKey, k ≠ l → (k == l) = false := fun l h => beq_eq_false_iff_ne.mpr h
  induction ws with
  | nil =>
    by_cases h : k = key
    · simp [setWindow, h]
    · simp [setWindow, List.lookup_cons, h, hother key h]
  | cons e ws ih =>
    obtain ⟨l, v⟩ := e
    by_cases hl : l = key
    · subst hl
      by_cases h : k = l
      · simp [setWindow, h]
      · simp [setWindow, List.lookup_cons, h, hother l h]
    · by_cases hk : k = l
      · subst hk
        simp [setWindow, hl]
      · simp [setWindow, List.lookup_cons, hl, hother l hk, ih]

section Handle

variable {t t' : Throttler} {now : Instant} {ctx : MessageContext} {c : RegisteredCommand}
  {period : Time.Duration} {k : WindowKey}

lemma handle_of_cooldown_eq_zero (h : c.cooldown = 0) : t.handle now ctx c = (.ok (), t) := by
  simp [handle, h]

def unusableScale (c : RegisteredCommand) : BotError :=
  .invalidValue ("cooldown_scale of `" ++ c.qualifiedName ++ "`") (Decimal.plainText c.cooldownScale)
    "Cooldown scale must be a finite, non-negative number of seconds"

lemma handle_of_unusable (h : c.cooldown ≠ 0) (hnone : Time.Duration.ofSeconds? c.cooldownScale = none) :
    t.handle now ctx c = (.error (unusableScale c), t) := by
  simp [handle, h, hnone, unusableScale]

lemma handle_of_poisoned (h : c.cooldown ≠ 0)
    (hsome : Time.Duration.ofSeconds? c.cooldownScale = some period) (hp : t.poisoned = true) :
    t.handle now ctx c = (.error (.handler "throttle state poisoned"), t) := by
  simp [handle, h, hsome, hp]

lemma handle_eq (h : c.cooldown ≠ 0) (hsome : Time.Duration.ofSeconds? c.cooldownScale = some period)
    (hp : t.poisoned = false) :
    t.handle now ctx c =
      let (verdict, w) := (t.window (windowKey ctx c)).hit now c.cooldown.toNat period
      (verdict.mapError fun wait => .cooldown c.qualifiedName wait.toSeconds,
        ⟨setWindow (windowKey ctx c) w t.windows, decide (verdict = .overflow)⟩) := by
  unfold handle
  rw [if_neg (by simpa using h), hsome, hp]
  dsimp only
  generalize (t.window (windowKey ctx c)).hit now c.cooldown.toNat period = outcome
  obtain ⟨verdict, w⟩ := outcome
  cases verdict <;> rfl

lemma handle_cases (t : Throttler) (now : Instant) (ctx : MessageContext) (c : RegisteredCommand) :
    t.handle now ctx c = (.ok (), t) ∨ (∃ e, t.handle now ctx c = (.error e, t)) ∨
      ∃ period, Time.Duration.ofSeconds? c.cooldownScale = some period ∧ c.cooldown ≠ 0 ∧
        t.poisoned = false := by
  by_cases h : c.cooldown = 0
  · exact .inl (handle_of_cooldown_eq_zero h)
  · cases hscale : Time.Duration.ofSeconds? c.cooldownScale with
    | none => exact .inr (.inl ⟨_, handle_of_unusable h hscale⟩)
    | some period =>
      cases hp : t.poisoned with
      | true => exact .inr (.inl ⟨_, handle_of_poisoned h hscale hp⟩)
      | false => exact .inr (.inr ⟨period, rfl, h, rfl⟩)

lemma window_handle_of_ne (hk : k ≠ windowKey ctx c) :
    (t.handle now ctx c).2.window k = t.window k := by
  obtain h | ⟨e, h⟩ | ⟨period, hscale, hc, hp⟩ := handle_cases t now ctx c
  · rw [h]
  · rw [h]
  · rw [handle_eq hc hscale hp]
    simp only [window]
    rw [lookup_setWindow, if_neg hk]

lemma window_handle (h : c.cooldown ≠ 0)
    (hsome : Time.Duration.ofSeconds? c.cooldownScale = some period) (hp : t.poisoned = false) :
    (t.handle now ctx c).2.window (windowKey ctx c) =
      ((t.window (windowKey ctx c)).hit now c.cooldown.toNat period).2 := by
  rw [handle_eq h hsome hp]
  simp only [window]
  rw [lookup_setWindow, if_pos rfl, Option.getD_some]

lemma poisoned_handle :
    (t.handle now ctx c).2.poisoned = true ↔
      t.poisoned = true ∨ (t.handle now ctx c).1 = .overflow := by
  obtain h | ⟨e, h⟩ | ⟨period, hscale, hc, hp⟩ := handle_cases t now ctx c
  · simp [h]
  · simp [h]
  · rw [handle_eq hc hscale hp, hp]
    simp

lemma handle_congr (hp : t.poisoned = false) (hp' : t'.poisoned = false)
    (hw : t.window (windowKey ctx c) = t'.window (windowKey ctx c)) :
    (t.handle now ctx c).1 = (t'.handle now ctx c).1 ∧
      (t.handle now ctx c).2.window (windowKey ctx c) =
        (t'.handle now ctx c).2.window (windowKey ctx c) := by
  by_cases h : c.cooldown = 0
  · rw [handle_of_cooldown_eq_zero h, handle_of_cooldown_eq_zero h]
    exact ⟨rfl, hw⟩
  · cases hscale : Time.Duration.ofSeconds? c.cooldownScale with
    | none =>
      rw [handle_of_unusable h hscale, handle_of_unusable h hscale]
      exact ⟨rfl, hw⟩
    | some period =>
      rw [window_handle h hscale hp, window_handle h hscale hp', handle_eq h hscale hp,
        handle_eq h hscale hp', hw]
      exact ⟨rfl, rfl⟩

def Past (t : Throttler) (now : Instant) : Prop := ∀ key, ∀ s ∈ (t.window key).calls, s ≤ now

lemma past_empty : Past {} now := fun _ _ hs => absurd hs List.not_mem_nil

lemma Past.mono {later : Instant} (h : t.Past now) (hle : now ≤ later) : t.Past later :=
  fun key s hs => Nat.le_trans (h key s hs) hle

lemma Past.handle (h : t.Past now) : (t.handle now ctx c).2.Past now := by
  obtain heq | ⟨e, heq⟩ | ⟨period, hscale, hc, hp⟩ := handle_cases t now ctx c
  · rwa [heq]
  · rwa [heq]
  · intro key s hs
    by_cases hk : key = windowKey ctx c
    · subst hk
      rw [window_handle hc hscale hp] at hs
      exact SlidingWindow.past_hit (h _) s hs
    · rw [window_handle_of_ne hk] at hs
      exact h key s hs

lemma handle_ne_overflow (h : t.Past now)
    (hfits : ∀ period, Time.Duration.ofSeconds? c.cooldownScale = some period →
      now + period ≤ Time.greatestInstant) : (t.handle now ctx c).1 ≠ .overflow := by
  obtain heq | ⟨e, heq⟩ | ⟨period, hscale, hc, hp⟩ := handle_cases t now ctx c
  · simp [heq]
  · simp [heq]
  · have hhit := SlidingWindow.hit_ne_overflow c.cooldown.toNat (h (windowKey ctx c)) (hfits period hscale)
    rw [handle_eq hc hscale hp]
    exact fun hover => hhit (Result.mapError_eq_overflow.mp hover)

end Handle

section Calls

def respond (t : Throttler) (c : Call ι) : Result BotError Unit × Throttler :=
  t.handle c.time c.context (commands c.command)

def after (t : Throttler) (cs : List (Call ι)) : Throttler :=
  cs.foldl (fun t c => (t.respond commands c).2) t

def log (t : Throttler) : List (Call ι) → List (Call ι × Result BotError Unit)
  | [] => []
  | c :: cs => (c, (t.respond commands c).1) :: log (t.respond commands c).2 cs

def allowed (cs : List (Call ι)) : List (Call ι) :=
  ((log commands {} cs).filter fun e => e.2.isOk).map Prod.fst

def reply (earlier : List (Call ι)) (c : Call ι) : Result BotError Unit :=
  ((after commands {} earlier).respond commands c).1

variable {commands} {t t' : Throttler} {cs ds : List (Call ι)} {c : Call ι} {k : WindowKey}

lemma after_append : t.after commands (cs ++ ds) = (t.after commands cs).after commands ds :=
  List.foldl_append

lemma log_append :
    t.log commands (cs ++ ds) = t.log commands cs ++ (t.after commands cs).log commands ds := by
  induction cs generalizing t with
  | nil => rfl
  | cons c cs ih =>
    simp only [List.cons_append, log, ih]
    rfl

lemma log_concat : log commands {} (cs ++ [c]) = log commands {} cs ++ [(c, reply commands cs c)] :=
  log_append

lemma map_fst_log : (t.log commands cs).map Prod.fst = cs := by
  induction cs generalizing t with
  | nil => rfl
  | cons c cs ih => rw [log, List.map_cons, ih]

lemma allowed_concat :
    allowed commands (cs ++ [c]) =
      allowed commands cs ++ if (reply commands cs c).isOk then [c] else [] := by
  unfold allowed
  rw [log_concat, List.filter_append, List.map_append]
  cases h : (reply commands cs c).isOk <;> simp [h]

lemma poisoned_after :
    (t.after commands cs).poisoned = true ↔
      t.poisoned = true ∨ ∃ e ∈ t.log commands cs, e.2 = .overflow := by
  induction cs generalizing t with
  | nil => simp [after, log]
  | cons c cs ih =>
    change ((t.respond commands c).2.after commands cs).poisoned = true ↔ _
    rw [ih, log, respond, poisoned_handle, or_assoc]
    simp

lemma not_poisoned_respond (ht : t.poisoned = false) (hc : (t.respond commands c).1 ≠ .overflow) :
    (t.respond commands c).2.poisoned = false := by
  rw [← Bool.not_eq_true, respond, poisoned_handle, ht]
  rintro (h | h)
  · exact Bool.false_ne_true h
  · exact hc h

lemma past_after (hordered : Call.Ordered (cs ++ [c])) : (after commands {} cs).Past c.time := by
  induction cs using List.reverseRecOn generalizing c with
  | nil => exact past_empty
  | append_singleton cs d ih =>
    obtain ⟨hinit, -, hlast⟩ := List.pairwise_append.mp hordered
    rw [after_append]
    exact (ih hinit).handle.mono (hlast d (by simp) c (List.mem_singleton_self c))

lemma not_poisoned_after (hordered : Call.Ordered cs) (hfits : ∀ c ∈ cs, c.Fits commands) :
    (after commands {} cs).poisoned = false := by
  induction cs using List.reverseRecOn with
  | nil => rfl
  | append_singleton cs c ih =>
    obtain ⟨hcs, hc⟩ := List.forall_mem_append.mp hfits
    have hbefore := ih (List.pairwise_append.mp hordered).1 hcs
    rw [after_append]
    exact not_poisoned_respond hbefore
      (handle_ne_overflow (past_after hordered) (hc c (List.mem_singleton_self c)))

lemma log_ne_overflow (hordered : Call.Ordered cs) (hfits : ∀ c ∈ cs, c.Fits commands) :
    ∀ e ∈ log commands {} cs, e.2 ≠ .overflow := by
  intro e he hover
  have hpoisoned := poisoned_after.mpr (.inr ⟨e, he, hover⟩)
  rw [not_poisoned_after hordered hfits] at hpoisoned
  exact Bool.false_ne_true hpoisoned

lemma mem_of_mem_allowed (h : c ∈ allowed commands cs) : c ∈ cs := by
  obtain ⟨e, he, rfl⟩ := List.mem_map.mp h
  have hmade : e.1 ∈ (log commands {} cs).map Prod.fst :=
    List.mem_map.mpr ⟨e, List.mem_of_mem_filter he, rfl⟩
  rwa [map_fst_log] at hmade

lemma log_filter (keep : Call ι → Bool) {p : Call ι → Bool}
    (hkeep : ∀ c ∈ cs, keep c = true → ∀ d ∈ cs, d.key commands = c.key commands → p d = true)
    (ht : t.poisoned = false) (hcs : ∀ e ∈ t.log commands cs, e.2 ≠ .overflow)
    (ht' : t'.poisoned = false) (hcs' : ∀ e ∈ t'.log commands (cs.filter p), e.2 ≠ .overflow)
    (hsame : ∀ c ∈ cs, keep c = true → t.window (c.key commands) = t'.window (c.key commands)) :
    (t.log commands cs).filter (fun e => keep e.1) =
      (t'.log commands (cs.filter p)).filter fun e => keep e.1 := by
  induction cs generalizing t t' with
  | nil => rfl
  | cons c cs ih =>
    have hkeep' : ∀ d ∈ cs, keep d = true → ∀ e ∈ cs, e.key commands = d.key commands → p e = true :=
      fun d hd hk e he => hkeep d (List.mem_cons_of_mem _ hd) hk e (List.mem_cons_of_mem _ he)
    obtain ⟨hc, hrest⟩ := List.forall_mem_cons.mp hcs
    have hnot := not_poisoned_respond ht hc
    by_cases hp : p c = true
    · rw [List.filter_cons_of_pos hp] at hcs' ⊢
      obtain ⟨hc', hrest'⟩ := List.forall_mem_cons.mp hcs'
      have hnext : ∀ d ∈ cs, keep d = true →
          (t.respond commands c).2.window (d.key commands) =
            (t'.respond commands c).2.window (d.key commands) := by
        intro d hd hk
        have hw := hsame d (List.mem_cons_of_mem _ hd) hk
        by_cases hkey : d.key commands = c.key commands
        · rw [hkey] at hw ⊢
          exact (handle_congr ht ht' hw).2
        · rw [respond, respond, window_handle_of_ne hkey, window_handle_of_ne hkey, hw]
      rw [log, log, List.filter_cons, List.filter_cons,
        ih hkeep' hnot hrest (not_poisoned_respond ht' hc') hrest' hnext]
      by_cases hk : keep c = true
      · have hanswer : (t.respond commands c).1 = (t'.respond commands c).1 :=
          (handle_congr ht ht' (hsame c List.mem_cons_self hk)).1
        rw [hanswer]
      · rw [if_neg hk, if_neg hk]
    · -- A dropped call is not kept, and the windows of the kept ones are not its own.
      rw [List.filter_cons_of_neg hp] at hcs' ⊢
      have hother : ∀ d ∈ c :: cs, keep d = true → d.key commands ≠ c.key commands := by
        intro d hd hk hkey
        exact hp (hkeep d hd hk c List.mem_cons_self hkey.symm)
      have hnext : ∀ d ∈ cs, keep d = true →
          (t.respond commands c).2.window (d.key commands) = t'.window (d.key commands) := by
        intro d hd hk
        rw [respond, window_handle_of_ne (hother d (List.mem_cons_of_mem _ hd) hk)]
        exact hsame d (List.mem_cons_of_mem _ hd) hk
      have hnot' : ¬keep c = true := fun hk => hother c List.mem_cons_self hk rfl
      rw [log, List.filter_cons, if_neg hnot', ih hkeep' hnot hrest ht' hcs' hnext]

end Calls

end Throttler

end Cooldown

end DiscordBot
