import DiscordBot.Proofs.Cooldown.Calls
import Mathlib.Data.List.Induction

/-! The limit that a cooldown sets: of the calls of one command under one key no more are let through
within a period than the command allows, and no call is held back as long as there are fewer. -/

namespace DiscordBot.Cooldown

variable {ι : Type} {commands : ι → RegisteredCommand}

namespace Throttler

variable (commands) in
def times (k : WindowKey) (cs : List (Call ι)) : List Nat :=
  (cs.filter fun c => decide (c.key commands = k)).map Call.time

variable {cs ds : List (Call ι)} {c : Call ι} {k : WindowKey} {i : ι} {period now : Nat}

lemma times_nil : times commands k [] = [] := rfl

lemma times_append : times commands k (cs ++ ds) = times commands k cs ++ times commands k ds := by
  rw [times, List.filter_append, List.map_append]
  rfl

lemma times_singleton : times commands k [c] = if c.key commands = k then [c.time] else [] := by
  by_cases h : c.key commands = k <;> simp [times, h]

lemma times_ite {b : Bool} :
    times commands k (if b then [c] else []) = if b = true ∧ c.key commands = k then [c.time] else [] := by
  cases b <;> simp [times_nil, times_singleton]

structure Lane (commands : ι → RegisteredCommand) (i : ι) (period : Nat) (k : WindowKey)
    (cs : List (Call ι)) : Prop where
  cooldown : (commands i).cooldown ≠ 0
  period : Time.Duration.ofSeconds? (commands i).cooldownScale = some period
  command : ∀ c ∈ cs, c.key commands = k → c.command = i
  ordered : Call.Ordered cs
  fits : ∀ c ∈ cs, c.Fits commands

lemma Lane.sublist (h : Lane commands i period k cs) (hs : ds.Sublist cs) :
    Lane commands i period k ds where
  cooldown := h.cooldown
  period := h.period
  command c hc := h.command c (hs.subset hc)
  ordered := h.ordered.sublist hs
  fits c hc := h.fits c (hs.subset hc)

lemma Lane.init (h : Lane commands i period k (cs ++ [c])) : Lane commands i period k cs :=
  h.sublist (List.sublist_append_left cs [c])

lemma Lane.time_le (h : Lane commands i period k (cs ++ [c])) : ∀ d ∈ cs, d.time ≤ c.time :=
  fun d hd => (List.pairwise_append.mp h.ordered).2.2 d hd c (List.mem_singleton_self c)

lemma Lane.command_last (h : Lane commands i period k (cs ++ [c])) (hk : c.key commands = k) :
    c.command = i :=
  h.command c (by simp) hk

lemma lane (hnames : Function.Injective fun i => (commands i).qualifiedName)
    (hcooldown : (commands c.command).cooldown ≠ 0)
    (hperiod : Time.Duration.ofSeconds? (commands c.command).cooldownScale = some period)
    (hordered : Call.Ordered cs) (hfits : ∀ c ∈ cs, c.Fits commands) :
    Lane commands c.command period (c.key commands) cs where
  cooldown := hcooldown
  period := hperiod
  command _ _ hk := ((Call.key_eq_iff hnames).mp hk).1
  ordered := hordered
  fits := hfits

section Reply

def answerAt (commands : ι → RegisteredCommand) (i : ι) (period now : Nat) (ts : List Nat) :
    Result BotError Unit :=
  (SlidingWindow.answer period now (commands i).cooldown.toNat (recent period now ts)).mapError
    fun wait => .cooldown (commands i).qualifiedName wait.toSeconds

lemma isOk_answerAt {ts : List Nat} :
    (answerAt commands i period now ts).isOk = true ↔
      (recent period now ts).length < (commands i).cooldown.toNat := by
  rw [answerAt, Result.isOk_mapError, SlidingWindow.isOk_answer]

lemma reply_of_covers (h : Lane commands i period k (cs ++ [c])) (hk : c.key commands = k)
    {ts : List Nat} (hw : ((after commands {} cs).window k).Covers period c.time ts) :
    reply commands cs c = answerAt commands i period c.time ts := by
  have hsound := not_poisoned_after h.init.ordered h.init.fits
  obtain rfl := h.command_last hk
  unfold reply respond answerAt
  rw [handle_eq h.cooldown h.period hsound]
  change Result.mapError _ (((after commands {} cs).window (c.key commands)).hit _ _ _).1 = _
  rw [hk, hw.hit_eq]

lemma window_respond (h : Lane commands i period k (cs ++ [c])) (hk : c.key commands = k) :
    ((after commands {} cs).respond commands c).2.window k =
      (((after commands {} cs).window k).hit c.time (commands i).cooldown.toNat period).2 := by
  have hsound := not_poisoned_after h.init.ordered h.init.fits
  obtain rfl := h.command_last hk
  obtain rfl := hk
  exact window_handle h.cooldown h.period hsound

lemma covers_after (h : Lane commands i period k cs) (hnow : ∀ c ∈ cs, c.time ≤ now) :
    ((after commands {} cs).window k).Covers period now (times commands k (allowed commands cs)) := by
  induction cs using List.reverseRecOn generalizing now with
  | nil => exact SlidingWindow.covers_empty
  | append_singleton cs c ih =>
    have hc : c.time ≤ now := hnow c (by simp)
    have hw := ih h.init h.time_le
    have hafter : after commands {} (cs ++ [c]) = ((after commands {} cs).respond commands c).2 :=
      after_append
    rw [hafter, allowed_concat, times_append, times_ite]
    by_cases hk : c.key commands = k
    · have hhit := hw.hit (commands i).cooldown.toNat
      rw [window_respond h hk, reply_of_covers h hk hw]
      refine SlidingWindow.Covers.mono ?_ hc
      -- It is let through, and then remembered, unless the limit is reached.
      by_cases hfull : (commands i).cooldown.toNat ≤
          (recent period c.time (times commands k (allowed commands cs))).length
      · rw [if_pos hfull] at hhit
        rw [if_neg fun hok => Nat.not_le_of_lt (isOk_answerAt.mp hok.1) hfull, List.append_nil]
        exact hhit
      · rw [if_neg hfull] at hhit
        rw [if_pos ⟨isOk_answerAt.mpr (Nat.lt_of_not_le hfull), hk⟩]
        exact hhit
    · rw [if_neg fun hok => hk hok.2, List.append_nil, respond, window_handle_of_ne (Ne.symm hk)]
      exact hw.mono hc

lemma reply_eq (h : Lane commands i period k (cs ++ [c])) (hk : c.key commands = k) :
    reply commands cs c =
      answerAt commands i period c.time (times commands k (allowed commands cs)) :=
  reply_of_covers h hk (covers_after h.init h.time_le)

lemma kept_sublist {kept : Call ι × Result BotError Unit → Bool} :
    ((((log commands {} cs).filter kept).map Prod.fst) ++ [c]).Sublist (cs ++ [c]) := by
  have hfst := (List.filter_sublist : ((log commands {} cs).filter kept).Sublist _).map Prod.fst
  rw [map_fst_log] at hfst
  exact hfst.append (List.Sublist.refl [c])

lemma times_allowed_kept (h : Lane commands i period k cs)
    {kept : Call ι × Result BotError Unit → Bool}
    (hkept : ∀ c : Call ι, c.key commands = k → kept (c, .ok ()) = true) :
    times commands k (allowed commands (((log commands {} cs).filter kept).map Prod.fst)) =
      times commands k (allowed commands cs) := by
  -- By induction on the calls: what is dropped was refused or is of another key.
  induction cs using List.reverseRecOn with
  | nil => rfl
  | append_singleton cs c ih =>
    have hrest := ih h.init
    rw [log_concat, List.filter_append, List.map_append, allowed_concat, times_append]
    by_cases hkeep : kept (c, reply commands cs c) = true
    · rw [List.filter_cons_of_pos hkeep, List.filter_nil, List.map_singleton, allowed_concat,
        times_append, hrest]
      congr 1
      by_cases hk : c.key commands = k
      · rw [reply_eq h hk, reply_eq (h.sublist kept_sublist) hk, hrest]
      · rw [times_ite, times_ite, if_neg fun hok => hk hok.2, if_neg fun hok => hk hok.2]
    · rw [List.filter_cons_of_neg hkeep, List.filter_nil, List.map_nil, List.append_nil, hrest]
      -- A call that is dropped was refused or is of another key.
      have hnot : ¬((reply commands cs c).isOk = true ∧ c.key commands = k) := by
        rintro ⟨hok, hk⟩
        cases hreply : reply commands cs c with
        | error e => simp [hreply, Result.isOk] at hok
        | overflow => simp [hreply, Result.isOk] at hok
        | ok u => exact hkeep (hreply ▸ hkept c hk)
      rw [times_ite, if_neg hnot, List.append_nil]

end Reply

section Limit

variable [DecidableEq ι]

variable (commands) in
def counted (period : Nat) (c : Call ι) (cs : List (Call ι)) : List (Call ι) :=
  cs.filter fun d => decide (d.Alike commands c ∧ c.time < d.time + period ∧ d.time ≤ c.time)

lemma recent_times (hnames : Function.Injective fun i => (commands i).qualifiedName) :
    recent period c.time (times commands (c.key commands) cs) =
      (counted commands period c cs).map Call.time := by
  unfold recent times counted
  rw [List.filter_map, List.filter_filter]
  congr 1
  apply List.filter_congr
  intro d _
  simp only [Function.comp_apply, Call.key_eq_iff hnames, ← Bool.decide_and]
  apply decide_eq_decide.mpr
  rw [and_comm]

lemma isOk_reply_iff (hnames : Function.Injective fun i => (commands i).qualifiedName)
    (hcooldown : (commands c.command).cooldown ≠ 0)
    (hperiod : Time.Duration.ofSeconds? (commands c.command).cooldownScale = some period)
    (hordered : Call.Ordered (cs ++ [c])) (hfits : ∀ d ∈ cs ++ [c], d.Fits commands) :
    (reply commands cs c).isOk = true ↔
      (counted commands period c (allowed commands cs)).length <
        (commands c.command).cooldown.toNat := by
  rw [reply_eq (lane hnames hcooldown hperiod hordered hfits) rfl, isOk_answerAt, recent_times hnames,
    List.length_map]

lemma length_allowed_le (hnames : Function.Injective fun i => (commands i).qualifiedName)
    (hcooldown : (commands c.command).cooldown ≠ 0)
    (hperiod : Time.Duration.ofSeconds? (commands c.command).cooldownScale = some period)
    (hordered : Call.Ordered cs) (hfits : ∀ d ∈ cs, d.Fits commands) (inside : Nat → Prop)
    [DecidablePred inside] (hinside : ∀ s t, inside s → inside t → t < s + period) :
    ((allowed commands cs).filter fun d => decide (d.Alike commands c ∧ inside d.time)).length ≤
      (commands c.command).cooldown.toNat := by
  induction cs using List.reverseRecOn with
  | nil => exact Nat.zero_le _
  | append_singleton cs d ih =>
    obtain ⟨hinit, -, htime⟩ := List.pairwise_append.mp hordered
    have hfits' := (List.forall_mem_append.mp hfits).1
    rw [allowed_concat]
    by_cases hd : (reply commands cs d).isOk = true ∧ d.Alike commands c ∧ inside d.time
    · obtain ⟨hok, halike, hin⟩ := hd
      rw [← halike.1] at hcooldown hperiod ⊢
      have hfew := (isOk_reply_iff hnames hcooldown hperiod hordered hfits).mp hok
      -- All of them that came before count when the last one is made.
      have hsub : ((allowed commands cs).filter fun e =>
          decide (e.Alike commands c ∧ inside e.time)).length ≤
            (counted commands period d (allowed commands cs)).length := by
        unfold counted
        rw [← List.countP_eq_length_filter, ← List.countP_eq_length_filter]
        refine List.countP_mono_left ?_
        intro e he hall
        obtain ⟨he₁, he₂⟩ := of_decide_eq_true hall
        exact decide_eq_true ⟨(Call.key_eq_iff hnames).mp (he₁.key_eq.trans halike.key_eq.symm), hinside _ _ he₂ hin,
          htime e (mem_of_mem_allowed he) d (List.mem_singleton_self d)⟩
      rw [if_pos hok, List.filter_append, List.length_append]
      have hone := List.length_filter_le (fun e : Call ι =>
        decide (e.Alike commands c ∧ inside e.time)) [d]
      rw [List.length_singleton] at hone
      omega
    · have hnone : (if (reply commands cs d).isOk then [d] else []).filter (fun e =>
          decide (e.Alike commands c ∧ inside e.time)) = [] := by
        split
        · rename_i hok
          exact List.filter_cons_of_neg (by simpa using fun h₁ h₂ => hd ⟨hok, h₁, h₂⟩)
        · rfl
      rw [List.filter_append, hnone, List.append_nil]
      exact ih hinit hfits'

/-- A call of a command with a cooldown is let through if and only if fewer calls than it allows, of that
command and by those who share its cooldown with the caller, were let through less than a period before.
Refused calls, other commands and other callers have no influence, and no half-open interval as long as a
period has more calls in it. -/
theorem limited (hnames : Function.Injective fun i => (commands i).qualifiedName)
    {calls : List (Call ι)} (hordered : Call.Ordered calls) (hfits : ∀ c ∈ calls, c.Fits commands)
    (c : Call ι) (hcooldown : (commands c.command).cooldown ≠ 0)
    (hperiod : Time.Duration.ofSeconds? (commands c.command).cooldownScale = some period) :
    (∀ earlier later, calls = earlier ++ c :: later →
      (reply commands earlier c = .ok () ↔
        (counted commands period c (allowed commands earlier)).length <
          (commands c.command).cooldown.toNat) ∧
      ∀ kept : Call ι × Result BotError Unit → Bool,
        (∀ d : Call ι, d.Alike commands c → kept (d, .ok ()) = true) →
          reply commands (((log commands {} earlier).filter kept).map Prod.fst) c =
            reply commands earlier c) ∧
    ∀ start,
      ((allowed commands calls).filter fun d => decide (d.Alike commands c ∧
        start ≤ d.time ∧ d.time < start + period)).length ≤ (commands c.command).cooldown.toNat ∧
      ((allowed commands calls).filter fun d => decide (d.Alike commands c ∧
        start < d.time ∧ d.time ≤ start + period)).length ≤ (commands c.command).cooldown.toNat := by
  refine ⟨?_, fun start => ⟨?_, ?_⟩⟩
  · rintro earlier later rfl
    have hsub : (earlier ++ [c]).Sublist (earlier ++ c :: later) := by
      rw [List.append_cons earlier c later]
      exact List.sublist_append_left _ later
    have hprefix : Call.Ordered (earlier ++ [c]) := hordered.sublist hsub
    have hfits' : ∀ d ∈ earlier ++ [c], d.Fits commands := fun d hd => hfits d (hsub.subset hd)
    refine ⟨?_, fun kept hkept => ?_⟩
    · rw [← isOk_reply_iff hnames hcooldown hperiod hprefix hfits']
      cases reply commands earlier c <;> simp [Result.isOk]
    · have hlane := lane hnames hcooldown hperiod hprefix hfits'
      rw [reply_eq hlane rfl, reply_eq (hlane.sublist kept_sublist) rfl,
        times_allowed_kept hlane.init fun d hd => hkept d ((Call.key_eq_iff hnames).mp hd)]
  · refine length_allowed_le hnames hcooldown hperiod hordered hfits
      (fun t => start ≤ t ∧ t < start + period) ?_
    omega
  · refine length_allowed_le hnames hcooldown hperiod hordered hfits
      (fun t => start < t ∧ t ≤ start + period) ?_
    omega

def pingPong (pong : Bool) : RegisteredCommand :=
  let d := if pong then { Declaration.chatInput "pong" with cooldown := 1, cooldownScale := 5 }
    else { Declaration.chatInput "ping" with
      cooldown := 2, cooldownScale := 10, cooldownScope := .guild }
  d.command (fun _ _ => .ok .none) none

def pingPongCall (pong : Bool) (seconds : Nat) : Call Bool where
  command := pong
  context := { (default : MessageContext) with guildId := some ⟨7⟩ }
  time := Time.Duration.ofWholeSeconds seconds

lemma pingPong_names : Function.Injective fun i => (pingPong i).qualifiedName := by
  intro i j h
  have hdiffer : (pingPong false).qualifiedName ≠ (pingPong true).qualifiedName := by decide
  cases i <;> cases j
  · rfl
  · exact absurd h hdiffer
  · exact absurd h.symm hdiffer
  · rfl

lemma pingPong_period (pong : Bool) :
    Time.Duration.ofSeconds? (pingPong pong).cooldownScale =
      some (Time.Duration.ofWholeSeconds (if pong then 5 else 10)) := by
  cases pong <;> decide

lemma pingPong_fits {pong : Bool} {seconds : Nat} (h : seconds ≤ 10) :
    (pingPongCall pong seconds).Fits pingPong := by
  intro period hperiod
  have hsome := (pingPong_period pong).symm.trans hperiod
  have hle : period ≤ Time.Duration.ofWholeSeconds 10 := by
    rw [← Option.some.inj hsome]
    cases pong <;> decide
  have htime : (pingPongCall pong seconds).time ≤ Time.Duration.ofWholeSeconds 10 :=
    Nat.mul_le_mul_right _ h
  exact Nat.le_trans (Nat.add_le_add htime hle) (by decide)

theorem pingPong_limited :
    let earlier := [pingPongCall false 0, pingPongCall false 4, pingPongCall true 4]
    reply pingPong earlier (pingPongCall false 9) ≠ .ok () ∧
      reply pingPong (earlier ++ [pingPongCall false 9]) (pingPongCall false 10) = .ok () := by
  have hordered : Call.Ordered [pingPongCall false 0, pingPongCall false 4, pingPongCall true 4,
      pingPongCall false 9, pingPongCall false 10] := by
    unfold Call.Ordered
    decide
  have hfits : ∀ c ∈ [pingPongCall false 0, pingPongCall false 4, pingPongCall true 4,
      pingPongCall false 9, pingPongCall false 10], c.Fits pingPong := by
    simp only [List.forall_mem_cons]
    refine ⟨pingPong_fits ?_, pingPong_fits ?_, pingPong_fits ?_, pingPong_fits ?_, pingPong_fits ?_,
      by simp⟩ <;> decide
  have hcooldown : (pingPong false).cooldown ≠ 0 := by decide
  have hperiod : Time.Duration.ofSeconds? (pingPong false).cooldownScale =
      some (Time.Duration.ofWholeSeconds 10) := pingPong_period false
  have hnine := (limited pingPong_names hordered hfits (pingPongCall false 9) hcooldown hperiod).1
  have hten := (limited pingPong_names hordered hfits (pingPongCall false 10) hcooldown hperiod).1
  refine ⟨?_, ?_⟩
  · rw [Ne, (hnine [_, _, _] [_] rfl).1]
    decide
  · exact (hten [_, _, _, _] [] rfl).1.mpr (by decide)

end Limit

end Throttler

end DiscordBot.Cooldown
