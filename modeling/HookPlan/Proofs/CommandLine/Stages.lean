import HookPlan.CommandLine.Run
import HookPlan.Proofs.Traversal

/-!
# The stages of a run

A run goes from one stage to the next: settings, path, text, configuration, plan, and last what is
asked about the plan. Here the files do not change while it runs. It ends at the first stage that
fails.

* `Request.Plans`: the plan that a run comes to, with all the stages before it.
* `Request.Fails`: the failures, each at its stage.
* `answer_eq_ok_iff`, `answer_eq_error_iff`: a run has an answer from its plan, or it fails so.
-/

namespace HookPlan.CommandLine

variable {α β ε : Type} {r : Request} {place : Surroundings Id} {s : Settings} {path : String}
  {c : Configuration} {p : Plan} {e : Error} {f : Failure}

/-! ### What a run comes to -/

/-- The settings that hold in a place. -/
def Surroundings.settings (place : Surroundings Id) : Except Plan.Format.Unknown Settings :=
  Settings.load place.files place.environment place.home

/-- A path that is named with the request counts before one that is set; without either it is
looked for from the working directory on. -/
inductive Request.Locates (r : Request) (place : Surroundings Id) (s : Settings) : String → Prop
  | named {path : String} (h : (r.configuration <|> s.configuration) = some path) :
    r.Locates place s path
  | found {here path : String} (hn : (r.configuration <|> s.configuration) = none)
    (hhere : place.files.realPath "." = .ok here)
    (h : Configuration.discover place.files place.home here = .ok path) : r.Locates place s path

/-- The plan is the whole one, or what is left of it for one hook. -/
def Request.Keeps (r : Request) (whole p : Plan) : Prop :=
  match r.hook with
  | none => p = whole
  | some id => whole.retain id = .ok p

/-- The settings and the configuration that a request comes to. -/
inductive Request.Reads (r : Request) (place : Surroundings Id) (s : Settings)
    (c : Configuration) : Prop
  | intro {path text : String} (hs : place.settings = .ok s) (hpath : r.Locates place s path)
    (htext : place.files.readText path = .ok text) (hc : Configuration.parse text = .ok c)

/-- The settings and the plan that a request comes to. -/
inductive Request.Plans (r : Request) (place : Surroundings Id) (s : Settings) (p : Plan) : Prop
  | intro {c : Configuration} {whole : Plan} (hc : r.Reads place s c)
    (hwhole : c.resolve .declaredOnly = .ok whole) (hp : r.Keeps whole p)

/-- The failures of a request. Each happens at one stage, and the stages before it are done. -/
inductive Request.Fails (r : Request) (place : Surroundings Id) : Failure → Prop
  | settings {cause : Plan.Format.Unknown} (h : place.settings = .error cause) :
    r.Fails place (.settings cause)
  | workingDirectory {s : Settings} {cause : Files.Fault} (hs : place.settings = .ok s)
    (hn : (r.configuration <|> s.configuration) = none)
    (h : place.files.realPath "." = .error cause) : r.Fails place (.workingDirectory cause)
  | discovery {s : Settings} {here : String} {e : Error} (hs : place.settings = .ok s)
    (hn : (r.configuration <|> s.configuration) = none)
    (hhere : place.files.realPath "." = .ok here)
    (h : Configuration.discover place.files place.home here = .error e) : r.Fails place (.plan e)
  | reading {s : Settings} {path : String} {cause : Files.Fault} (hs : place.settings = .ok s)
    (hpath : r.Locates place s path) (h : place.files.readText path = .error cause) :
    r.Fails place (.plan (.documentRead path cause))
  | parsing {s : Settings} {path text : String} {e : Error} (hs : place.settings = .ok s)
    (hpath : r.Locates place s path) (htext : place.files.readText path = .ok text)
    (h : Configuration.parse text = .error e) : r.Fails place (.plan e)
  | resolution {s : Settings} {c : Configuration} {e : Error} (hc : r.Reads place s c)
    (h : c.resolve .declaredOnly = .error e) : r.Fails place (.plan e)
  | restriction {s : Settings} {c : Configuration} {whole : Plan} {id : String} {e : Error}
    (hc : r.Reads place s c) (hwhole : c.resolve .declaredOnly = .ok whole)
    (hid : r.hook = some id) (h : whole.retain id = .error e) : r.Fails place (.plan e)
  | selection {s : Settings} {p : Plan} {paths : List String} {e : Error} (hp : r.Plans place s p)
    (ha : r.action = .select paths)
    (h : (Matcher.select ⟨p, []⟩ paths).1 = .error e) : r.Fails place (.plan e)

/-! ### Stage by stage -/

theorem ask_eq_ok_iff {failure : ε → Failure} {question : Id (Except ε α)} {a : α} :
    (ask failure question).run = .ok a ↔ question = .ok a := mapError_eq_ok_iff

theorem ask_eq_error_iff {failure : ε → Failure} {question : Id (Except ε α)} :
    (ask failure question).run = .error f ↔ ∃ cause, question = .error cause ∧ f = failure cause :=
  mapError_eq_error_iff

theorem run_bind_eq_ok_iff {x : ExceptT Failure Id α} {next : α → ExceptT Failure Id β} {b : β} :
    (x >>= next).run = .ok b ↔ ∃ a, x.run = .ok a ∧ (next a).run = .ok b := by
  rw [exceptT_bind_eq]
  exact bind_eq_ok_iff

theorem run_bind_eq_error_iff {x : ExceptT Failure Id α} {next : α → ExceptT Failure Id β} :
    (x >>= next).run = .error f ↔ x.run = .error f ∨ ∃ a, x.run = .ok a ∧ (next a).run = .error f := by
  rw [exceptT_bind_eq]
  exact bind_eq_error_iff

/-- **The path of the configuration** is the one that a request locates. -/
theorem path_eq_ok_iff : (r.path s place).run = .ok path ↔ r.Locates place s path := by
  unfold Request.path
  cases hn : r.configuration <|> s.configuration with
  | some named =>
    constructor
    · intro h
      cases h
      exact .named hn
    · rintro (h | ⟨h, -, -⟩)
      · rw [hn] at h
        cases h
        rfl
      · rw [hn] at h
        cases h
  | none =>
    dsimp only
    simp only [run_bind_eq_ok_iff, ask_eq_ok_iff]
    constructor
    · rintro ⟨here, hhere, h⟩
      exact .found hn hhere h
    · rintro (h | ⟨-, hhere, h⟩)
      · rw [hn] at h
        cases h
      · exact ⟨_, hhere, h⟩

theorem path_eq_error_iff :
    (r.path s place).run = .error f ↔ (r.configuration <|> s.configuration) = none ∧
      ((∃ cause, place.files.realPath "." = .error cause ∧ f = .workingDirectory cause) ∨
        ∃ here, place.files.realPath "." = .ok here ∧
          ∃ e, Configuration.discover place.files place.home here = .error e ∧ f = .plan e) := by
  unfold Request.path
  cases hn : r.configuration <|> s.configuration with
  | some named => exact ⟨nofun, fun h => nomatch h.1⟩
  | none =>
    dsimp only
    simp only [run_bind_eq_error_iff, ask_eq_ok_iff, ask_eq_error_iff, true_and]

theorem load_eq_ok_iff {files : Files.Access Id} :
    Configuration.load files path = .ok c ↔
      ∃ text, files.readText path = .ok text ∧ Configuration.parse text = .ok c := by
  unfold Configuration.load
  show (match files.readText path with | .ok text => _ | .error cause => _) = _ ↔ _
  cases files.readText path with
  | ok text => exact ⟨fun h => ⟨text, rfl, h⟩, fun ⟨_, ht, h⟩ => by cases ht; exact h⟩
  | error cause => exact ⟨nofun, nofun⟩

theorem load_eq_error_iff {files : Files.Access Id} :
    Configuration.load files path = .error e ↔
      (∃ cause, files.readText path = .error cause ∧ e = .documentRead path cause) ∨
        ∃ text, files.readText path = .ok text ∧ Configuration.parse text = .error e := by
  unfold Configuration.load
  show (match files.readText path with | .ok text => _ | .error cause => _) = _ ↔ _
  cases files.readText path with
  | ok text =>
    constructor
    · intro h
      exact Or.inr ⟨text, rfl, h⟩
    · rintro (⟨_, h, -⟩ | ⟨_, ht, h⟩)
      · cases h
      · cases ht
        exact h
  | error cause =>
    constructor
    · intro h
      cases h
      exact Or.inl ⟨cause, rfl, rfl⟩
    · rintro (⟨_, hc, rfl⟩ | ⟨_, h, -⟩)
      · cases hc
        rfl
      · cases h

theorem planOf_eq_ok_iff :
    r.planOf c = .ok p ↔ ∃ whole, c.resolve .declaredOnly = .ok whole ∧ r.Keeps whole p := by
  unfold Request.planOf Request.Keeps
  rw [bind_eq_ok_iff]
  cases r.hook with
  | none => simp only [pure, Except.pure, Except.ok.injEq, eq_comm]
  | some id => rfl

theorem planOf_eq_error_iff :
    r.planOf c = .error e ↔ c.resolve .declaredOnly = .error e ∨
      ∃ whole, c.resolve .declaredOnly = .ok whole ∧
        ∃ id, r.hook = some id ∧ whole.retain id = .error e := by
  unfold Request.planOf
  rw [bind_eq_error_iff]
  cases r.hook with
  | none => simp [pure, Except.pure]
  | some id => simp

theorem perform_eq_error_iff {inColour : Bool} {a : Action} :
    a.perform inColour s p = .error f ↔
      ∃ paths, a = .select paths ∧
        ∃ e, (Matcher.select ⟨p, []⟩ paths).1 = .error e ∧ f = .plan e := by
  cases a with
  | plan json => exact ⟨nofun, fun ⟨_, h, _⟩ => nomatch h⟩
  | check => exact ⟨nofun, fun ⟨_, h, _⟩ => nomatch h⟩
  | select paths =>
    unfold Action.perform
    cases hfound : (Matcher.select ⟨p, []⟩ paths).1 with
    | ok found => simp [hfound]
    | error e => simp [hfound, eq_comm]

/-! ### All stages -/

/-- **The plan that a run comes to** goes through all stages before it. -/
theorem plan_eq_ok_iff (hs : place.settings = .ok s) :
    (r.plan s place).run = .ok p ↔ r.Plans place s p := by
  unfold Request.plan
  simp only [run_bind_eq_ok_iff, ask_eq_ok_iff, path_eq_ok_iff]
  constructor
  · rintro ⟨path, hpath, c, hc, hp⟩
    obtain ⟨text, htext, hc⟩ := load_eq_ok_iff.1 hc
    obtain ⟨whole, hwhole, hp⟩ := planOf_eq_ok_iff.1 hp
    exact ⟨⟨hs, hpath, htext, hc⟩, hwhole, hp⟩
  · rintro ⟨⟨-, hpath, htext, hc⟩, hwhole, hp⟩
    exact ⟨_, hpath, _, load_eq_ok_iff.2 ⟨_, htext, hc⟩, planOf_eq_ok_iff.2 ⟨_, hwhole, hp⟩⟩

theorem Request.Plans.settings (h : r.Plans place s p) : place.settings = .ok s := by
  obtain ⟨⟨hs, -, -, -⟩, -, -⟩ := h
  exact hs

/-- No two plans are those of one run. -/
theorem Request.Plans.unique {q : Plan} (hp : r.Plans place s p) (hq : r.Plans place s q) :
    p = q := by
  have h := (plan_eq_ok_iff hp.settings).2 hp
  rw [(plan_eq_ok_iff hp.settings).2 hq] at h
  exact (Except.ok.inj h).symm

/-- **A run has an answer** if it comes to a plan that it can do with what is asked. -/
theorem answer_eq_ok_iff {out : String × Bool} :
    (r.answer place).run = .ok out ↔
      ∃ s p, r.Plans place s p ∧
        r.action.perform (isPainted place.environment) s p = .ok out := by
  unfold Request.answer
  simp only [run_bind_eq_ok_iff, ask_eq_ok_iff]
  constructor
  · rintro ⟨s, hs, p, hp, h⟩
    exact ⟨s, p, (plan_eq_ok_iff hs).1 hp, h⟩
  · rintro ⟨s, p, hp, h⟩
    exact ⟨s, hp.settings, p, (plan_eq_ok_iff hp.settings).2 hp, h⟩

/-- **A run fails** as one of its stages does. -/
theorem answer_eq_error_iff : (r.answer place).run = .error f ↔ r.Fails place f := by
  unfold Request.answer Request.plan
  simp only [run_bind_eq_error_iff, run_bind_eq_ok_iff, ask_eq_ok_iff, ask_eq_error_iff,
    path_eq_ok_iff, path_eq_error_iff]
  -- now the left side says for each stage that it fails and that those before it do not
  constructor
  · rintro (⟨cause, h, rfl⟩ | ⟨s, hs, (hpath | ⟨path, hpath, hload⟩) | ⟨p, hp, hperform⟩⟩)
    · exact .settings h
    · obtain ⟨hn, ⟨cause, h, rfl⟩ | ⟨here, hhere, e, h, rfl⟩⟩ := hpath
      · exact .workingDirectory hs hn h
      · exact .discovery hs hn hhere h
    · rcases hload with ⟨e, h, rfl⟩ | ⟨c, hc, e, h, rfl⟩
      · rcases load_eq_error_iff.1 h with ⟨cause, htext, rfl⟩ | ⟨text, htext, hparse⟩
        · exact .reading hs hpath htext
        · exact .parsing hs hpath htext hparse
      · obtain ⟨text, htext, hparse⟩ := load_eq_ok_iff.1 hc
        rcases planOf_eq_error_iff.1 h with hr | ⟨whole, hwhole, id, hid, hr⟩
        · exact .resolution ⟨hs, hpath, htext, hparse⟩ hr
        · exact .restriction ⟨hs, hpath, htext, hparse⟩ hwhole hid hr
    · obtain ⟨path, hpath, c, hc, hplan⟩ := hp
      obtain ⟨text, htext, hparse⟩ := load_eq_ok_iff.1 hc
      obtain ⟨whole, hwhole, hkeeps⟩ := planOf_eq_ok_iff.1 hplan
      obtain ⟨_, hperform, rfl⟩ := hperform
      obtain ⟨paths, ha, e, he, rfl⟩ := perform_eq_error_iff.1 hperform
      exact .selection ⟨⟨hs, hpath, htext, hparse⟩, hwhole, hkeeps⟩ ha he
  · intro h
    cases h with
    | settings h => exact Or.inl ⟨_, h, rfl⟩
    | workingDirectory hs hn h =>
      exact Or.inr ⟨_, hs, Or.inl (Or.inl ⟨hn, Or.inl ⟨_, h, rfl⟩⟩)⟩
    | discovery hs hn hhere h =>
      exact Or.inr ⟨_, hs, Or.inl (Or.inl ⟨hn, Or.inr ⟨_, hhere, _, h, rfl⟩⟩)⟩
    | reading hs hpath h =>
      have hload := load_eq_error_iff.2 (Or.inl ⟨_, h, rfl⟩)
      exact Or.inr ⟨_, hs, Or.inl (Or.inr ⟨_, hpath, Or.inl ⟨_, hload, rfl⟩⟩)⟩
    | parsing hs hpath htext h =>
      have hload := load_eq_error_iff.2 (Or.inr ⟨_, htext, h⟩)
      exact Or.inr ⟨_, hs, Or.inl (Or.inr ⟨_, hpath, Or.inl ⟨_, hload, rfl⟩⟩)⟩
    | resolution hc h =>
      obtain ⟨hs, hpath, htext, hc⟩ := hc
      have hload := load_eq_ok_iff.2 ⟨_, htext, hc⟩
      have hplan := (planOf_eq_error_iff (r := r)).2 (Or.inl h)
      exact Or.inr ⟨_, hs, Or.inl (Or.inr ⟨_, hpath, Or.inr ⟨_, hload, _, hplan, rfl⟩⟩)⟩
    | restriction hc hwhole hid h =>
      obtain ⟨hs, hpath, htext, hc⟩ := hc
      have hload := load_eq_ok_iff.2 ⟨_, htext, hc⟩
      have hplan := (planOf_eq_error_iff (r := r)).2 (Or.inr ⟨_, hwhole, _, hid, h⟩)
      exact Or.inr ⟨_, hs, Or.inl (Or.inr ⟨_, hpath, Or.inr ⟨_, hload, _, hplan, rfl⟩⟩)⟩
    | selection hp ha h =>
      obtain ⟨⟨hs, hpath, htext, hc⟩, hwhole, hkeeps⟩ := hp
      have hload := load_eq_ok_iff.2 ⟨_, htext, hc⟩
      have hplan := planOf_eq_ok_iff.2 ⟨_, hwhole, hkeeps⟩
      refine Or.inr ⟨_, hs, Or.inr ⟨_, ⟨_, hpath, _, hload, hplan⟩, _, ?_, rfl⟩⟩
      exact perform_eq_error_iff.2 ⟨_, ha, _, h, rfl⟩

/-- No two failures are those of one run. -/
theorem Request.Fails.unique {g : Failure} (hf : r.Fails place f) (hg : r.Fails place g) :
    f = g := by
  have h := answer_eq_error_iff.2 hf
  rw [answer_eq_error_iff.2 hg] at h
  exact (Except.error.inj h).symm

/-- A run has an answer or it fails. -/
theorem exists_answer_or_fails (r : Request) (place : Surroundings Id) :
    (∃ out, (r.answer place).run = .ok out) ∨ ∃ f, r.Fails place f := by
  cases h : (r.answer place).run with
  | ok out => exact Or.inl ⟨out, rfl⟩
  | error f => exact Or.inr ⟨f, answer_eq_error_iff.1 h⟩

/-! ### A place for small runs -/

/-- A place whose files all hold one text. It has no directories, so no repository is found. -/
def Surroundings.holding (text : String) (environment : Environment) : Surroundings Id where
  files := {
    kind := fun _ => none
    read := fun _ => .ok text.toByteArray
    realPath := fun _ => .error .missing }
  environment
  home := ""

theorem readText_holding (text : String) (environment : Environment) (path : String) :
    (Surroundings.holding text environment).files.readText path = .ok text := by
  have h : String.fromUTF8? text.toByteArray = some text := dif_pos text.isValidUTF8
  unfold Files.Access.readText
  dsimp only [Surroundings.holding, bind, pure]
  rw [h]

theorem reads_holding {text : String} {environment : Environment}
    (hs : (Surroundings.holding text environment).settings = .ok s)
    (hpath : r.configuration = some path) (hc : Configuration.parse text = .ok c) :
    r.Reads (.holding text environment) s c :=
  ⟨hs, .named (by rw [hpath]; rfl), readText_holding _ _ _, hc⟩

end HookPlan.CommandLine
