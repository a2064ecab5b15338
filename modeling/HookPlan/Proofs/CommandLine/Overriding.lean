import HookPlan.Proofs.CommandLine.Endings

/-!
# Switches before settings

A request can say itself what is otherwise set: the path of the configuration, and the format of a
plan. Then the run takes nothing from the settings. It still makes them, and fails if it cannot.

* `Reading.words_of_awaiting`: a switch that waits for a value takes the next word, or nothing is
  read at all.
* `request_of_planArguments`: the request in arguments that name a path and a format.
* `Request.Overrides.answer_eq`: a request that says all itself has one answer in all places that
  differ in what is set.
* `flags_override_settings`: for whole runs, with what happens if settings cannot be made.
-/

namespace HookPlan.CommandLine

/-! ### Values of switches -/

namespace Reading

variable {r r' : Reading} {s : Switch} {w value : String} {ws : List String}

theorem settled_of_awaiting (h : r.pending = .awaiting s) :
    r.settled = .error (.misuse r.command (.valueMissing s)) := by
  unfold settled settle
  rw [h]

theorem add_of_awaiting (h : r.pending = .awaiting s) (t : Switch) (value : String) :
    r.add t value = .error (.misuse r.command (.valueMissing s)) := by
  unfold add
  rw [settled_of_awaiting h]
  rfl

theorem flag_of_awaiting (h : r.pending = .awaiting s) (t : Switch) :
    r.flag t = .error (.misuse r.command (.valueMissing s)) := by
  unfold flag
  rw [settled_of_awaiting h]
  rfl

theorem await_of_awaiting (h : r.pending = .awaiting s) (t : Switch) :
    r.await t = .error (.misuse r.command (.valueMissing s)) := by
  unfold await
  rw [settled_of_awaiting h]
  rfl

theorem long_ne_ok_of_awaiting (h : r.pending = .awaiting s) (name : String)
    (value : Option String) (rest : List String) : r.long name value rest ≠ .ok r' := by
  unfold long
  split
  · nofun
  · split
    · rw [add_of_awaiting h]
      nofun
    · nofun
  · split
    · rw [await_of_awaiting h]
      nofun
    · rw [flag_of_awaiting h]
      nofun

theorem letters_ne_ok_of_awaiting (h : r.pending = .awaiting s) (c : Char) (cs : List Char) :
    r.letters (c :: cs) ≠ .ok r' := by
  unfold letters
  split
  · nofun
  · split
    · split
      · rw [await_of_awaiting h]
        nofun
      · rw [add_of_awaiting h]
        nofun
      · rw [add_of_awaiting h]
        nofun
    · rw [flag_of_awaiting h]
      nofun

theorem operand_ne_ok_of_awaiting (h : r.pending = .awaiting s) (isAfterDashes : Bool) :
    r.operand w isAfterDashes ≠ .ok r' := by
  unfold operand
  split
  · rw [settled_of_awaiting h]
    nofun
  · split <;> nofun
  · nofun

/-- A switch that waits for a value takes the next word, which cannot be a switch itself. -/
theorem word_of_awaiting (h : r.pending = .awaiting s) (hw : r.word w ws = .ok r') :
    r' = { r with pending := .valued s w } := by
  unfold word at hw
  split at hw
  · exact absurd hw (long_ne_ok_of_awaiting h _ _ _)
  · exact absurd hw (letters_ne_ok_of_awaiting h _ _)
  · next hs _ _ =>
    cases h.symm.trans hs
    exact (Except.ok.inj hw).symm
  · next hno => exact absurd h (hno s)

/-- **Words after a switch that waits for a value** can be read only if the first is its value.
After two dashes there is no value for it any more. -/
theorem words_of_awaiting {out : Reading × Option (Command × List String)} {last : Reading}
    (h : r.pending = .awaiting s) (hout : r.words (w :: ws) = .ok out)
    (hlast : out.1.settled = .ok last) :
    ({ r with pending := .valued s w } : Reading).words ws = .ok out := by
  have hnamed : r.named? w = none := by
    unfold named?
    rw [h]
  unfold words at hout
  rw [hnamed] at hout
  dsimp only at hout
  split at hout
  · -- two dashes: while the switch waits, no word after them is taken, nor can they be the last
    obtain ⟨r', hr', hout⟩ := bind_eq_ok_iff.1 hout
    cases hout
    cases ws with
    | nil =>
      cases hr'
      rw [settled_of_awaiting h] at hlast
      cases hlast
    | cons v vs =>
      obtain ⟨_, hv, -⟩ := bind_eq_ok_iff.1 hr'
      exact absurd hv (operand_ne_ok_of_awaiting h true)
  · obtain ⟨r', hr', hout⟩ := bind_eq_ok_iff.1 hout
    rw [← word_of_awaiting h hr']
    exact hout

/-- A switch is taken with its value, if it is taken. -/
theorem settled_of_valued (h : r.pending = .valued s value) (hr : r.settled = .ok r') :
    r' = { r with pending := .nothing, switches := r.switches ++ [(s, value)] } := by
  unfold settled settle at hr
  rw [h] at hr
  dsimp only at hr
  unfold take at hr
  dsimp only at hr
  split at hr
  · next hout =>
    split at hout
    · cases hout
    · rw [← Except.ok.inj hr]
      exact (congrArg Prod.fst hout).symm
  · cases hr

end Reading

/-- The arguments for a plan in JSON of the configuration at a path, for one hook only if there is
one to keep. -/
def planArguments (path : String) (hook : Option String) : List String :=
  ["plan", "--json", "--config", path] ++ hook.toList.flatMap (["--hook", ·])

variable {path : String} {hook : Option String} {place place' : Surroundings Id} {r : Request}
  {s s' : Settings} {p : Plan} {inColour : Bool}

/-- Whatever the path and the hook are, the request is for them. -/
theorem request_of_planArguments (h : Request.ofArguments (planArguments path hook) = .ok r) :
    r = { action := .plan true, configuration := some path, hook } := by
  unfold Request.ofArguments at h
  obtain ⟨⟨outer, next⟩, hroot, h⟩ := bind_eq_ok_iff.1 h
  cases hroot
  obtain ⟨⟨inner, next⟩, hwords, h⟩ := bind_eq_ok_iff.1 h
  obtain ⟨last, hlast, h⟩ := bind_eq_ok_iff.1 h
  -- the words up to the path are known, so reading them is a computation
  have hpath : ({ command := .plan, switches := [(.json, "")], pending := .awaiting .configuration } :
      Reading).words (path :: hook.toList.flatMap (["--hook", ·])) = .ok (inner, next) := hwords
  replace hpath := Reading.words_of_awaiting rfl hpath hlast
  cases hook with
  | none =>
    cases hpath
    cases Reading.settled_of_valued rfl hlast
    cases h
    rfl
  | some id =>
    -- the next switch settles the path, and waits in turn
    obtain ⟨waiting, hawait, hhook⟩ := bind_eq_ok_iff.1
      (show (Reading.await _ .hook >>= fun r => r.words [id]) = .ok (inner, next) from hpath)
    obtain ⟨taken, htaken, hwaiting⟩ := bind_eq_ok_iff.1 hawait
    cases Reading.settled_of_valued rfl htaken
    cases hwaiting
    cases Reading.words_of_awaiting rfl hhook hlast
    cases Reading.settled_of_valued rfl hlast
    cases h
    rfl

/-! ### Places that differ in what is set -/

/-- Two places that differ in what is set. The variables with other names are the same, and so is
what can be read at a path. All else may differ, as do the files in which things are set. -/
structure Surroundings.SameBut (path : String) (place place' : Surroundings Id) : Prop where
  environment : ∀ name, (∀ x : Setting, name ≠ x.envName) →
    place.environment name = place'.environment name
  read : place.files.read path = place'.files.read path

namespace Surroundings.SameBut

theorem isPainted_eq (h : place.SameBut path place') :
    isPainted place.environment = isPainted place'.environment := by
  unfold isPainted forcesColour
  rw [h.environment "CLICOLOR_FORCE" fun x => by cases x <;> decide]

theorem isStyled_eq (h : place.SameBut path place') :
    isStyled place.environment = isStyled place'.environment := by
  have hforced : forcesColour place.environment = forcesColour place'.environment := h.isPainted_eq
  unfold isStyled
  rw [hforced, h.environment "NO_COLOR" fun x => by cases x <;> decide]

theorem load_eq (h : place.SameBut path place') :
    Configuration.load place.files path = Configuration.load place'.files path := by
  unfold Configuration.load Files.Access.readText
  rw [h.read]

end Surroundings.SameBut

/-! ### Requests that say all themselves -/

/-- A request that names its configuration, and does not leave the format of a plan open. -/
structure Request.Overrides (r : Request) (path : String) : Prop where
  configuration : r.configuration = some path
  action : r.action ≠ .plan false

namespace Request.Overrides

/-- The path that is set is not looked at, and none is looked for. -/
theorem path_eq (hr : r.Overrides path) : r.path s place = return path := by
  unfold Request.path
  rw [hr.configuration]
  rfl

theorem plan_eq (hr : r.Overrides path) (h : place.SameBut path place') :
    r.plan s place = r.plan s' place' := by
  unfold Request.plan
  rw [hr.path_eq, hr.path_eq]
  simp only [pure_bind, h.load_eq]

theorem perform_eq (hr : r.Overrides path) :
    r.action.perform inColour s p = r.action.perform inColour s' p := by
  cases h : r.action with
  | plan json =>
    cases json with
    | true => rfl
    | false => exact absurd h hr.action
  | check => rfl
  | select paths => rfl

end Request.Overrides

/-- After the settings come the plan and what is asked about it. -/
theorem answer_of_settings (hs : place.settings = .ok s) :
    r.answer place = (do
      let p ← r.plan s place
      ask id (return r.action.perform (isPainted place.environment) s p)) := by
  show (ask (m := Id) .settings place.settings >>= _) = _
  rw [hs]
  rfl

/-- **A request that says all itself** has the same answer with all settings that can be made. -/
theorem Request.Overrides.answer_eq (hr : r.Overrides path) (h : place.SameBut path place')
    (hs : place.settings = .ok s) (hs' : place'.settings = .ok s') :
    r.answer place = r.answer place' := by
  have hplan : r.plan s place = r.plan s' place' := hr.plan_eq h
  have hperform : ∀ p, r.action.perform (isPainted place.environment) s p =
      r.action.perform (isPainted place'.environment) s' p := by
    intro p
    rw [h.isPainted_eq, hr.perform_eq]
  rw [answer_of_settings hs, answer_of_settings hs', hplan]
  simp only [hperform]

/-! ### Runs -/

/-- Arguments that make no sense are refused alike. -/
theorem run_eq_of_stop {arguments : List String} {stop : Stop}
    (ha : Request.ofArguments arguments = .error stop) (h : place.SameBut path place') :
    run arguments place = run arguments place' := by
  unfold run
  rw [ha]
  show stop.outcome (isStyled place.environment) = stop.outcome (isStyled place'.environment)
  rw [h.isStyled_eq]

/-- Settings that cannot be made fail the run, whatever is asked for. -/
theorem run_failsWith_of_settings {arguments : List String} {cause : Plan.Format.Unknown}
    (ha : Request.ofArguments arguments = .ok r) (hs : place.settings = .error cause) :
    (run arguments place).FailsWith (isPainted place.environment) (.settings cause) := by
  rw [run_eq ha]
  exact failsWith_of_fails (.settings hs)

theorem run_planArguments_eq (h : place.SameBut path place') (hs : place.settings = .ok s)
    (hs' : place'.settings = .ok s') :
    run (planArguments path hook) place = run (planArguments path hook) place' := by
  cases ha : Request.ofArguments (planArguments path hook) with
  | error stop => exact run_eq_of_stop ha h
  | ok r =>
    have hr : r.Overrides path := by
      rw [request_of_planArguments ha]
      exact ⟨rfl, nofun⟩
    rw [run_eq ha, run_eq ha, h.isPainted_eq, hr.answer_eq h hs hs']

/-- **Flags count before what is set, if the settings can be made.** Then a plan whose format and
configuration are asked for is the same in places that differ in what is set. Settings that cannot
be made fail the run although nothing would be taken from them. So what is set in another place
makes no difference to a run that goes well just if the settings there can be made. -/
theorem flags_override_settings (path : String) (hook : Option String)
    {place place' : Surroundings Id} (h : place.SameBut path place') :
    let arguments := planArguments path hook
    (∀ s s', place.settings = .ok s → place'.settings = .ok s' →
      run arguments place = run arguments place') ∧
    (∀ stop, Request.ofArguments arguments = .error stop →
      run arguments place = run arguments place') ∧
    ∀ r, Request.ofArguments arguments = .ok r →
      (∀ cause, place.settings = .error cause →
        (run arguments place).FailsWith (isPainted place.environment) (.settings cause)) ∧
      ((run arguments place).exit = 0 →
        (run arguments place' = run arguments place ↔ ∃ s', place'.settings = .ok s')) := by
  intro arguments
  refine ⟨fun s s' => run_planArguments_eq h, fun stop ha => run_eq_of_stop ha h, fun r ha =>
    ⟨fun cause => run_failsWith_of_settings ha, fun hexit => ⟨fun heq => ?_, ?_⟩⟩⟩
  · cases hs' : place'.settings with
    | ok s' => exact ⟨s', rfl⟩
    | error cause =>
      have hfails := (run_failsWith_of_settings ha hs').exit
      rw [heq, hexit] at hfails
      cases hfails
  · rintro ⟨s', hs'⟩
    cases hs : place.settings with
    | ok s => exact (run_planArguments_eq h hs hs').symm
    | error cause =>
      have hfails := (run_failsWith_of_settings ha hs).exit
      rw [hexit] at hfails
      cases hfails

/-- Without a format that is set there is a plan; a set format that is none fails the run. -/
theorem run_planArguments_unknown_format :
    let place : Surroundings Id := .holding Configuration.smallText fun _ => none
    let place' : Surroundings Id := { place with
      environment := fun name => if name = Setting.format.envName then some "xml" else none }
    place.SameBut "p" place' ∧
      (run (planArguments "p" none) place).exit = 0 ∧
      run (planArguments "p" none) place' =
        { exit := 1, errors := "unknown output format 'xml' (expected text or json)\n" } := by
  intro place place'
  refine ⟨⟨fun name hname => (if_neg (hname .format)).symm, rfl⟩, ?_, rfl⟩
  rw [run_eq (r := { action := .plan true, configuration := some "p" }) rfl]
  exact (succeeds_of_answer (plans_small _) rfl).exit

/-- It makes no difference that a format is set to be text. -/
theorem flags_override_settings_text :
    let place : Surroundings Id := .holding Configuration.smallText fun _ => none
    let place' : Surroundings Id := { place with
      environment := fun name => if name = Setting.format.envName then some " Text" else none }
    place.SameBut "p" place' ∧ (∃ r, Request.ofArguments (planArguments "p" (some "a")) = .ok r) ∧
      run (planArguments "p" (some "a")) place = run (planArguments "p" (some "a")) place' := by
  intro place place'
  have hsame : place.SameBut "p" place' := ⟨fun name hname => (if_neg (hname .format)).symm, rfl⟩
  exact ⟨hsame, ⟨_, rfl⟩, (flags_override_settings "p" (some "a") hsame).1 {} {} rfl rfl⟩

end HookPlan.CommandLine
