import HookPlan.Proofs.Formats
import HookPlan.Proofs.Traversal
import HookPlan.Settings

/-!
# Which layer decides a setting

The environment counts before the configuration of the repository, and that before the one of the
home directory. Each setting is decided by the first layer that gives a value for it, whatever the
layers behind it say. A value that makes no sense decides all the same, so it is not made up for by
one that would.

* `Layers.Gives`, `Layers.Decides`: what a layer gives for a setting, and the first one that does.
* `Layers.value?_eq_some_iff`: the value of a setting is the one from the layer that decides.
* `Layers.Decides.of_agreeDownTo`: layers behind the one that decides make no difference.
* `Git.Config.get?_eq_some_iff`: what is in a layer of git.
* `Layers.settings_by_first_layer`: the settings, and when there are none.
-/

namespace HookPlan

/-! ### Variables of git -/

namespace Git.Config

variable {vs : List Variable} {name v : String}

/-- The last variable with a name has this text as its value, or has no value and the text is
empty. A value that is no text does not count. -/
def Sets (vs : List Variable) (name v : String) : Prop :=
  ∃ before x after, vs = before ++ x :: after ∧ x.name = name.toList ∧
    (∀ y ∈ after, y.name ≠ name.toList) ∧ decode? (x.value.getD []) = some v

theorem get?_eq_some_iff : get? vs name = some v ↔ Sets vs name v := by
  rw [get?, find?, Option.bind_eq_some_iff]
  constructor
  · rintro ⟨x, hx, hv⟩
    obtain ⟨hname, after, before, hvs, hafter⟩ := List.find?_eq_some_iff_append.1 hx
    refine ⟨before.reverse, x, after.reverse, ?_, by simpa using hname, fun y hy => ?_, hv⟩
    · rw [← List.reverse_reverse vs, hvs]
      simp
    · simpa using hafter y (List.mem_reverse.1 hy)
  · rintro ⟨before, x, after, rfl, hname, hafter, hv⟩
    refine ⟨x, List.find?_eq_some_iff_append.2 ⟨by simpa using hname, after.reverse,
      before.reverse, by simp, fun y hy => ?_⟩, hv⟩
    simpa using hafter y (List.mem_reverse.1 hy)

end Git.Config

/-! ### Layers -/

/-- Where the value of a setting can come from. -/
inductive Origin where
  | environment
  | inner
  | outer

namespace Origin

/-- The order in which the origins count. -/
def rank : Origin → ℕ
  | environment => 0
  | inner => 1
  | outer => 2

theorem rank_lt_inner_iff {o : Origin} : o.rank < inner.rank ↔ o = environment := by
  cases o <;> simp [rank]

theorem rank_lt_outer_iff {o : Origin} : o.rank < outer.rank ↔ o = environment ∨ o = inner := by
  cases o <;> simp [rank]

end Origin

/-- The environment, and the configurations of a repository and of a home directory as far as there
are any. -/
structure Layers where
  environment : Environment
  inner : Option Layer
  outer : Option Layer

namespace Layers

variable {ls ls' : Layers} {x : Setting} {o : Origin} {v : String} {s : Settings}
  {cause : Plan.Format.Unknown}

/-- The value that a layer gives for a setting. A variable of the environment that is empty gives
none, but in a configuration of git the empty text is a value. -/
inductive Gives (ls : Layers) (x : Setting) : Origin → String → Prop
  | environment {v : String} (h : ls.environment x.envName = some v) (hv : v ≠ "") :
    ls.Gives x .environment v
  | inner {l : Layer} {v : String} (hl : ls.inner = some l) (h : l x.key = some v) :
    ls.Gives x .inner v
  | outer {l : Layer} {v : String} (hl : ls.outer = some l) (h : l x.key = some v) :
    ls.Gives x .outer v

/-- The first layer that gives a value for a setting. -/
structure Decides (ls : Layers) (x : Setting) (o : Origin) (v : String) : Prop where
  gives : ls.Gives x o v
  first : ∀ o' w, ls.Gives x o' w → o.rank ≤ o'.rank

/-- Down to a layer, the same values are given for a setting. -/
def AgreeDownTo (ls : Layers) (x : Setting) (o : Origin) (ls' : Layers) : Prop :=
  ∀ o', o'.rank ≤ o.rank → ∀ v, ls.Gives x o' v ↔ ls'.Gives x o' v

/-- What an origin has for a setting. -/
def said? (ls : Layers) (x : Setting) : Origin → Option String
  | .environment => (ls.environment x.envName).filter (!·.isEmpty)
  | .inner => ls.inner.bind (· x.key)
  | .outer => ls.outer.bind (· x.key)

/-- The value of a setting. -/
def value? (ls : Layers) (x : Setting) : Option String :=
  x.value? ls.environment ls.inner ls.outer

/-- The settings that the layers make. -/
def settings (ls : Layers) : Except Plan.Format.Unknown Settings :=
  Settings.ofLayers ls.environment ls.inner ls.outer

/-- The layers of the working directory. A configuration of git that cannot be opened is none. -/
def opened (files : Files.Access Id) (environment : Environment) (home : String) : Layers where
  environment
  inner := Settings.layer ((Git.Repository.discover files home ".").run.map (·.config))
  outer := Settings.layer (Git.Config.loadGlobal files home).run

/-! ### The layer that decides -/

theorem gives_iff : ls.Gives x o v ↔ ls.said? x o = some v := by
  constructor
  · rintro (⟨h, hv⟩ | ⟨hl, h⟩ | ⟨hl, h⟩)
    · exact Option.filter_eq_some_iff.2 ⟨h, by simpa using hv⟩
    · exact Option.bind_eq_some_iff.2 ⟨_, hl, h⟩
    · exact Option.bind_eq_some_iff.2 ⟨_, hl, h⟩
  · intro h
    cases o with
    | environment =>
      obtain ⟨h, hv⟩ := Option.filter_eq_some_iff.1 h
      exact .environment h (by simpa using hv)
    | inner =>
      obtain ⟨l, hl, h⟩ := Option.bind_eq_some_iff.1 h
      exact .inner hl h
    | outer =>
      obtain ⟨l, hl, h⟩ := Option.bind_eq_some_iff.1 h
      exact .outer hl h

/-- The layer that decides is the one with a value behind others without. -/
theorem decides_iff : ls.Decides x o v ↔
    ls.said? x o = some v ∧ ∀ o', o'.rank < o.rank → ls.said? x o' = none := by
  constructor
  · intro h
    refine ⟨gives_iff.1 h.gives, fun o' ho => ?_⟩
    cases hs : ls.said? x o' with
    | none => rfl
    | some w => exact absurd (h.first o' w (gives_iff.2 hs)) (not_le.2 ho)
  · rintro ⟨hv, hbefore⟩
    refine ⟨gives_iff.2 hv, fun o' w hw => ?_⟩
    by_contra hlt
    rw [gives_iff, hbefore o' (not_le.1 hlt)] at hw
    cases hw

theorem value?_eq_some_iff_said? : ls.value? x = some v ↔
    ls.said? x .environment = some v ∨ ls.said? x .environment = none ∧
      (ls.said? x .inner = some v ∨ ls.said? x .inner = none ∧ ls.said? x .outer = some v) := by
  have h : ls.value? x =
      (ls.said? x .environment).or ((ls.said? x .inner).or (ls.said? x .outer)) := by
    show (ls.said? x .environment <|> ls.said? x .inner <|> ls.said? x .outer) = _
    simp only [Option.orElse_eq_orElse, Option.orElse_eq_or]
  rw [h, Option.or_eq_some_iff, Option.or_eq_some_iff]

/-- **The value of a setting** is the one from the layer that decides. -/
theorem value?_eq_some_iff : ls.value? x = some v ↔ ∃ o, ls.Decides x o v := by
  simp only [value?_eq_some_iff_said?, decides_iff]
  constructor
  · rintro (h | ⟨he, h | ⟨hi, h⟩⟩)
    · exact ⟨.environment, h, fun o' ho => absurd ho (Nat.not_lt_zero _)⟩
    · refine ⟨.inner, h, fun o' ho => ?_⟩
      obtain rfl := Origin.rank_lt_inner_iff.1 ho
      exact he
    · refine ⟨.outer, h, fun o' ho => ?_⟩
      rcases Origin.rank_lt_outer_iff.1 ho with rfl | rfl
      · exact he
      · exact hi
  · rintro ⟨o, h, hbefore⟩
    cases o with
    | environment => exact Or.inl h
    | inner => exact Or.inr ⟨hbefore .environment (by decide), Or.inl h⟩
    | outer =>
      exact Or.inr ⟨hbefore .environment (by decide), Or.inr ⟨hbefore .inner (by decide), h⟩⟩

theorem value?_eq_none_iff : ls.value? x = none ↔ ∀ o v, ¬ ls.Decides x o v := by
  rw [Option.eq_none_iff_forall_ne_some]
  simp only [ne_eq, value?_eq_some_iff, not_exists]
  exact forall_comm

/-- **Layers behind the one that decides make no difference.** -/
theorem Decides.of_agreeDownTo (h : ls.Decides x o v) (ha : ls.AgreeDownTo x o ls') :
    ls'.Decides x o v where
  gives := (ha o le_rfl v).1 h.gives
  first o' w hw := by
    -- an origin before this one would give the value in the other layers too
    by_contra hlt
    exact hlt (h.first o' w ((ha o' (Nat.le_of_not_le hlt) w).2 hw))

/-! ### The settings -/

/-- The format that the layers name. Without a name it is text. -/
def format (ls : Layers) : Except Plan.Format.Unknown Plan.Format :=
  match ls.value? .format with
  | none => .ok .text
  | some name => Plan.Format.parse name

theorem settings_eq (ls : Layers) : ls.settings =
    ls.format.map fun format => { configuration := ls.value? .configuration, format } := by
  show (match ls.value? .format with | none => _ | some name => _) = _
  unfold format
  cases ls.value? .format with
  | none => rfl
  | some name =>
    dsimp only
    cases Plan.Format.parse name <;> rfl

theorem format_eq_ok_iff {f : Plan.Format} : ls.format = .ok f ↔
    (∀ o v, ls.Decides .format o v → f.Names v) ∧
      ((∀ o v, ¬ ls.Decides .format o v) → f = .text) := by
  unfold format
  cases hv : ls.value? .format with
  | none =>
    have hnone := value?_eq_none_iff.1 hv
    constructor
    · rintro ⟨⟩
      exact ⟨fun o v h => absurd h (hnone o v), fun _ => rfl⟩
    · rintro ⟨-, h⟩
      rw [h hnone]
  | some name =>
    obtain ⟨o, ho⟩ := value?_eq_some_iff.1 hv
    dsimp only
    rw [Plan.Format.parse_eq_ok_iff]
    constructor
    · refine fun h => ⟨fun o' v hv' => ?_, fun hnone => absurd ho (hnone o name)⟩
      cases hv.symm.trans (value?_eq_some_iff.2 ⟨o', hv'⟩)
      exact h
    · exact fun h => h.1 o name ho

theorem format_eq_error_iff : ls.format = .error cause ↔ ∃ o v, ls.Decides .format o v ∧
    (∀ f : Plan.Format, ¬ f.Names v) ∧ cause.name = Plan.Format.normalize v := by
  unfold format
  cases hv : ls.value? .format with
  | none => exact ⟨nofun, fun ⟨o, v, h, _⟩ => absurd h (value?_eq_none_iff.1 hv o v)⟩
  | some name =>
    dsimp only
    rw [Plan.Format.parse_eq_error_iff]
    constructor
    · obtain ⟨o, ho⟩ := value?_eq_some_iff.1 hv
      exact fun h => ⟨o, name, ho, h⟩
    · rintro ⟨o, v, ho, h⟩
      cases hv.symm.trans (value?_eq_some_iff.2 ⟨o, ho⟩)
      exact h

theorem settings_eq_ok_iff : ls.settings = .ok s ↔
    (∀ v, s.configuration = some v ↔ ∃ o, ls.Decides .configuration o v) ∧
      (∀ o v, ls.Decides .format o v → s.format.Names v) ∧
      ((∀ o v, ¬ ls.Decides .format o v) → s.format = .text) := by
  obtain ⟨configuration, format⟩ := s
  rw [settings_eq, ← format_eq_ok_iff]
  simp only [← value?_eq_some_iff]
  cases ls.format with
  | error cause => exact ⟨nofun, fun h => nomatch h.2⟩
  | ok f =>
    constructor
    · rintro ⟨⟩
      exact ⟨fun _ => Iff.rfl, rfl⟩
    · rintro ⟨h, ⟨⟩⟩
      obtain rfl : configuration = ls.value? .configuration := Option.ext h
      rfl

theorem settings_eq_error_iff : ls.settings = .error cause ↔ ∃ o v, ls.Decides .format o v ∧
    (∀ f : Plan.Format, ¬ f.Names v) ∧ cause.name = Plan.Format.normalize v := by
  rw [settings_eq, ← format_eq_error_iff]
  cases ls.format with
  | ok f => exact ⟨nofun, nofun⟩
  | error cause' =>
    constructor
    · rintro ⟨⟩
      rfl
    · rintro ⟨⟩
      rfl

/-! ### Layers of git -/

/-- A layer of git gives what its variables set, if it can be opened. -/
theorem bind_layer_eq_some_iff {opening : Except Git.Fault Git.Variables} {name : String} :
    (Settings.layer opening).bind (· name) = some v ↔
      ∃ vs, opening = .ok vs ∧ Git.Config.Sets vs name v := by
  cases opening with
  | error fault => exact ⟨nofun, fun ⟨_, h, _⟩ => nomatch h⟩
  | ok vs =>
    show Git.Config.get? vs name = some v ↔ _
    rw [Git.Config.get?_eq_some_iff]
    constructor
    · exact fun h => ⟨vs, rfl, h⟩
    · rintro ⟨_, ⟨⟩, h⟩
      exact h

section Opened

variable {files : Files.Access Id} {environment : Environment} {home : String}

theorem gives_inner_opened_iff : (opened files environment home).Gives x .inner v ↔
    ∃ r, (Git.Repository.discover files home ".").run = .ok r ∧
      Git.Config.Sets r.config x.key v := by
  rw [gives_iff]
  refine bind_layer_eq_some_iff.trans ?_
  cases (Git.Repository.discover files home ".").run with
  | error fault => constructor <;> rintro ⟨_, ⟨⟩, _⟩
  | ok r =>
    constructor
    · rintro ⟨_, ⟨⟩, h⟩
      exact ⟨r, rfl, h⟩
    · rintro ⟨_, ⟨⟩, h⟩
      exact ⟨r.config, rfl, h⟩

theorem gives_outer_opened_iff : (opened files environment home).Gives x .outer v ↔
    ∃ vs, (Git.Config.loadGlobal files home).run = .ok vs ∧ Git.Config.Sets vs x.key v := by
  rw [gives_iff]
  exact bind_layer_eq_some_iff

end Opened

/-- **Each setting is decided by the first layer that gives a value**, independently of the other
setting. The path is that value as it is. The format is the one that the value names, or text if no
layer gives any; there are no settings just if it names none, whatever the layers behind would say.
Layers that agree down to the one that decides give the same value. In a directory the layers are
those that can be opened there, with the values that their variables have. -/
theorem settings_by_first_layer (ls : Layers) :
    (∀ x v, ls.value? x = some v ↔ ∃ o, ls.Decides x o v) ∧
    (∀ s, ls.settings = .ok s ↔
      (∀ v, s.configuration = some v ↔ ∃ o, ls.Decides .configuration o v) ∧
      (∀ o v, ls.Decides .format o v → s.format.Names v) ∧
      ((∀ o v, ¬ ls.Decides .format o v) → s.format = .text)) ∧
    (∀ cause, ls.settings = .error cause ↔ ∃ o v, ls.Decides .format o v ∧
      (∀ f : Plan.Format, ¬ f.Names v) ∧ cause.name = Plan.Format.normalize v) ∧
    (∀ x o v ls', ls.Decides x o v → ls.AgreeDownTo x o ls' →
      ls.value? x = some v ∧ ls'.value? x = some v) ∧
    ∀ files home, let here := opened files ls.environment home
      Settings.load files ls.environment home = here.settings ∧
      (∀ x v, here.Gives x .inner v ↔
        ∃ r, (Git.Repository.discover files home ".").run = .ok r ∧
          Git.Config.Sets r.config x.key v) ∧
      ∀ x v, here.Gives x .outer v ↔
        ∃ vs, (Git.Config.loadGlobal files home).run = .ok vs ∧
          Git.Config.Sets vs x.key v := by
  refine ⟨fun x v => value?_eq_some_iff, fun s => settings_eq_ok_iff,
    fun cause => settings_eq_error_iff, fun x o v ls' h ha => ⟨?_, ?_⟩, fun files home =>
      ⟨rfl, fun x v => gives_inner_opened_iff, fun x v => gives_outer_opened_iff⟩⟩
  · exact value?_eq_some_iff.2 ⟨o, h⟩
  · exact value?_eq_some_iff.2 ⟨o, h.of_agreeDownTo ha⟩

/-- In the environment the empty format does not count, so the inner one decides, which is none,
although the outer one would do. The empty path of the inner layer counts, and with it the outer
layer makes no difference. -/
theorem settings_by_first_layer_shadowed :
    let ls : Layers := {
      environment := fun name => if name = Setting.format.envName then some "" else none
      inner := some fun key => if key = Setting.format.key then some "xml" else some ""
      outer := some fun _ => some " JSON" }
    let ls' : Layers := { ls with outer := none }
    (∃ cause, ls.settings = .error cause ∧ cause.name = "xml") ∧
      ls.value? .configuration = some "" ∧ ls'.value? .configuration = some "" ∧
      Layers.settings { ls with inner := none } =
        .ok { configuration := some " JSON", format := .json } := by
  intro ls ls'
  obtain ⟨-, -, herror, hagree, -⟩ := settings_by_first_layer ls
  have hinner : ∀ x v, ls.said? x .environment = none → ls.said? x .inner = some v →
      ls.Decides x .inner v := fun x v he hv => decides_iff.2 ⟨hv, fun o ho => by
    obtain rfl := Origin.rank_lt_inner_iff.1 ho
    exact he⟩
  have hsame : ls.AgreeDownTo .configuration .inner ls' := by
    intro o ho v
    rw [gives_iff, gives_iff]
    cases o with
    | environment | inner => exact Iff.rfl
    | outer => exact absurd ho (by decide)
  have hno : ∀ f : Plan.Format, ¬ f.Names "xml" := fun f hf => by
    have hparse : Plan.Format.parse "xml" = .error ⟨"xml"⟩ := rfl
    rw [Plan.Format.parse_eq_ok_iff.2 hf] at hparse
    cases hparse
  obtain ⟨hv, hv'⟩ := hagree _ _ _ _ (hinner .configuration "" rfl rfl) hsame
  exact ⟨⟨⟨"xml"⟩, (herror _).2 ⟨_, _, hinner .format "xml" rfl rfl, hno, rfl⟩, rfl⟩, hv, hv', rfl⟩

end Layers

end HookPlan
