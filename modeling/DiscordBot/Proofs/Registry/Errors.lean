import DiscordBot.Proofs.Registry.Rules

/-! The errors with which a registration fails: all of them are about the command that is declared. -/

namespace DiscordBot

inductive BotError.OfCommand : BotError → Prop
  | name (text : String) : OfCommand (.invalidCommandName text)
  | guild (text : String) : OfCommand (.invalidCommandGuild text)
  | description (text : String) : OfCommand (.descriptionTooLong text)
  | count (text : String) : OfCommand (.tooManyArguments text)
  | argument (text : String) : OfCommand (.invalidArgument text)
  | taken (text : String) : OfCommand (.alreadyRegistered text)

def FailsByCommand {α : Type} (x : Except BotError α) : Prop := ∀ e, x = .error e → e.OfCommand

section Checks

variable {α β : Type}

lemma failsByCommand_ok (a : α) : FailsByCommand (.ok a) := nofun

lemma failsByCommand_error {e : BotError} (h : e.OfCommand) :
    FailsByCommand (.error e : Except BotError α) := by
  rintro _ ⟨⟩
  exact h

lemma FailsByCommand.bind {x : Except BotError α} {f : α → Except BotError β} (hx : FailsByCommand x)
    (hf : ∀ a, FailsByCommand (f a)) : FailsByCommand (x >>= f) := by
  cases x with
  | ok a => exact hf a
  | error e => exact failsByCommand_error (hx e rfl)

lemma failsByCommand_require {e : BotError} (h : e.OfCommand) (condition : Bool) :
    FailsByCommand (require condition e) := by
  cases condition with
  | true => exact failsByCommand_ok ()
  | false => exact failsByCommand_error h

lemma CommandOption.failsByCommand_checkChoices (o : CommandOption) : FailsByCommand o.checkChoices := by
  unfold checkChoices
  cases o.choices with
  | none => exact failsByCommand_ok ()
  | some choices =>
    refine (failsByCommand_require (.argument _) _).bind fun _ => ?_
    refine (failsByCommand_require (.argument _) _).bind fun _ => ?_
    exact failsByCommand_require (.argument _) _

lemma CommandOption.failsByCommand_checkArgument (o : CommandOption) (command : String) :
    FailsByCommand (o.checkArgument command) := by
  refine (failsByCommand_require (.argument _) _).bind fun _ => ?_
  refine (failsByCommand_require (.description _) _).bind fun _ => ?_
  refine o.failsByCommand_checkChoices.bind fun _ => ?_
  refine (failsByCommand_require (.argument _) _).bind fun _ => ?_
  refine (failsByCommand_require (.argument _) _).bind fun _ => ?_
  exact failsByCommand_require (.argument _) _

end Checks

namespace Declaration

variable {d : Declaration}

lemma failsByCommand_checkArguments (command : String) (as : List Argument) :
    FailsByCommand (checkArguments command as) := by
  induction as with
  | nil => exact failsByCommand_ok ()
  | cons a as ih => exact (a.option.failsByCommand_checkArgument command).bind fun _ => ih

lemma failsByCommand_readGuild (d : Declaration) : FailsByCommand d.readGuild := by
  unfold readGuild
  cases d.guild with
  | none => exact failsByCommand_ok none
  | some text =>
    dsimp only
    cases Snowflake.parse? text with
    | none => exact failsByCommand_error (.guild _)
    | some id => exact failsByCommand_ok _

lemma failsByCommand_checkMenu (d : Declaration) : FailsByCommand d.checkMenu :=
  (failsByCommand_require (.argument _) _).bind fun _ => failsByCommand_require (.name _) _

lemma failsByCommand_checkParent (d : Declaration) : FailsByCommand d.checkParent := by
  have hname (name : String) : FailsByCommand (checkGroupName name) := failsByCommand_require (.name _) _
  unfold checkParent
  rcases d.parent with _ | g | s
  · exact failsByCommand_ok ()
  · exact hname g.name
  · exact (hname s.parent.name).bind fun _ => hname s.name

lemma failsByCommand_check {handler : CommandHandler} (h : d.handler = some handler) :
    FailsByCommand d.check := by
  have hhandler : FailsByCommand d.requireHandler := by
    rw [requireHandler_eq_ok.mpr h]
    exact failsByCommand_ok handler
  refine (failsByCommand_require (.name _) _).bind fun _ => hhandler.bind fun _ => ?_
  refine d.failsByCommand_readGuild.bind fun _ => ?_
  refine (failsByCommand_require (.description _) _).bind fun _ => ?_
  refine (failsByCommand_require (.count _) _).bind fun _ => ?_
  refine d.failsByCommand_checkMenu.bind fun _ => ?_
  refine (failsByCommand_checkArguments d.name d.arguments).bind fun _ => ?_
  exact d.failsByCommand_checkParent.bind fun _ => failsByCommand_ok _

end Declaration

lemma Registry.failsByCommand_register (r : Registry) {d : Declaration} {handler : CommandHandler}
    (h : d.handler = some handler) : FailsByCommand (r.register d).1 := by
  have hcheck := Declaration.failsByCommand_check h
  unfold register
  cases hd : d.check with
  | error e =>
    rw [hd] at hcheck
    exact failsByCommand_error (hcheck e rfl)
  | ok c =>
    dsimp only
    split
    · exact failsByCommand_error (.taken _)
    · exact failsByCommand_ok _

end DiscordBot
