import HookPlan.Yaml.Scan
import Mathlib.Data.List.Basic

/-!
# Reading goes forward

Whatever is read of a text, what is left is an end of what was there. What starts with a sign of its
own takes at least that sign.

* `Ensures`, `Gives`: what a computation that may fail gives, and how it fails.
* `Cursor.Reaches`: a cursor that is reached by going forward.
* `gives_name`, `gives_tag`, `gives_directive`, `gives_quoted`, `gives_plain`, `gives_block`: what
  each reader takes.
-/

namespace HookPlan.Yaml

variable {α β ε : Type} {E : ε → Prop} {P Q : α → Prop} {R : β → Prop}

/-! ### Computations that may fail -/

/-- What a computation gives has one property, and how it fails has another. -/
def Ensures (E : ε → Prop) (Q : α → Prop) : Except ε α → Prop
  | .ok a => Q a
  | .error e => E e

/-- What a computation gives if it does not fail. -/
abbrev Gives (Q : α → Prop) (x : Except ε α) : Prop := Ensures (fun _ => True) Q x

namespace Ensures

theorem bind {x : Except ε α} {f : α → Except ε β} (hx : Ensures E P x)
    (hf : ∀ a, P a → Ensures E R (f a)) : Ensures E R (x >>= f) := by
  cases x with
  | ok a => exact hf a hx
  | error e => exact hx

/-- What comes first does not matter. -/
theorem bind_of_forall {x : Except ε α} {f : α → Except ε β} (hf : ∀ a, Gives R (f a)) :
    Gives R (x >>= f) := by
  cases x with
  | ok a => exact hf a
  | error e => trivial

theorem imp {x : Except ε α} (hx : Ensures E P x) (h : ∀ a, P a → Q a) : Ensures E Q x := by
  cases x with
  | ok a => exact h a hx
  | error e => exact hx

theorem map {x : Except ε α} {f : α → β} (hx : Ensures E (fun _ => True) x) :
    Ensures E (fun _ => True) (f <$> x) := by
  cases x with
  | ok a => trivial
  | error e => exact hx

theorem ite {p : Prop} [Decidable p] {x y : Except ε α} (hx : p → Ensures E Q x)
    (hy : ¬ p → Ensures E Q y) : Ensures E Q (if p then x else y) := by
  split
  case isTrue h => exact hx h
  case isFalse h => exact hy h

end Ensures

namespace Cursor

variable {b c c' : Cursor} {start : Mark}

/-- From one cursor another one is reached by going forward. -/
def Reaches (c c' : Cursor) : Prop := c'.rest <:+ c.rest

/-! ### Characters -/

theorem Reaches.refl (c : Cursor) : c.Reaches c := List.suffix_rfl

theorem Reaches.trans (h : b.Reaches c) (h' : c.Reaches c') : b.Reaches c' :=
  List.IsSuffix.trans h' h

theorem rest_advance (c : Cursor) : c.advance.rest = c.rest.tail := by
  unfold advance
  split <;> simp_all

theorem reaches_advance (c : Cursor) : c.Reaches c.advance := by
  unfold Reaches
  rw [rest_advance]
  exact List.tail_suffix _

/-- A cursor that goes on from the next character has less left. -/
theorem Reaches.length_lt (h : c.advance.Reaches c') (hc : c.rest ≠ []) :
    c'.rest.length < c.rest.length := by
  have hle : c'.rest.length ≤ c.rest.tail.length := rest_advance c ▸ h.length_le
  have hpos : 0 < c.rest.length := List.length_pos_iff.2 hc
  rw [List.length_tail] at hle
  omega

theorem reaches_advanceBy (n : ℕ) (c : Cursor) : c.Reaches (c.advanceBy n) := by
  induction n generalizing c with
  | zero => exact .refl c
  | succ n ih => exact (reaches_advance c).trans (ih c.advance)

theorem reaches_advanceLine (c : Cursor) : c.Reaches c.advanceLine.2 := by
  obtain ⟨m, rest⟩ := c
  unfold advanceLine Reaches
  dsimp only
  split
  · exact (List.suffix_cons _ _).trans (List.suffix_cons _ _)
  · split
    · exact List.suffix_cons _ _
    · split
      · exact List.suffix_cons _ _
      · exact List.suffix_rfl
  · exact List.suffix_rfl

theorem reaches_span (p : Char → Bool) (c : Cursor) : c.Reaches (c.span p).2 :=
  List.dropWhile_suffix p

theorem reaches_skipBlanks (c : Cursor) : c.Reaches c.skipBlanks := reaches_span _ c

theorem reaches_skipComment (c : Cursor) : c.Reaches c.skipComment := by
  unfold skipComment
  split
  · exact reaches_span _ c
  · exact .refl c

/-! ### Names, tags and directives -/

theorem gives_name (isReference : Bool) (c : Cursor) :
    Gives (fun r => c.advance.Reaches r.2) (c.name isReference) := by
  unfold name
  dsimp only
  split
  · trivial
  · exact reaches_span _ _

theorem gives_tagOctets {activity : Activity} (n value : ℕ) (c : Cursor) :
    Gives (fun r => c.Reaches r.2) (tagOctets activity start n value c) := by
  induction n generalizing value c with
  | zero => exact .refl c
  | succ n ih =>
    rw [tagOctets]
    split
    · trivial
    · split
      · exact (ih _ _).imp fun _ h => (reaches_advanceBy 3 c).trans h
      · trivial

theorem gives_tagEscape {activity : Activity} (c : Cursor) :
    Gives (fun r => c.Reaches r.2) (c.tagEscape activity start) := by
  have hmore : ∀ n lead : ℕ, Gives (fun r => c.Reaches r.2) (do
      let r ← tagOctets activity start n lead (c.advanceBy 3)
      pure (Char.ofNat r.1, r.2)) := fun n lead =>
    (gives_tagOctets n lead _).bind fun _ h => (reaches_advanceBy 3 c).trans h
  unfold tagEscape
  split
  · trivial
  · exact .ite (fun _ => hmore _ _) fun _ => .ite (fun _ => hmore _ _) fun _ =>
      .ite (fun _ => hmore _ _) fun _ => .ite (fun _ => hmore _ _) fun _ => trivial

theorem gives_tagChars {verbatim : Bool} {activity : Activity} (fuel : ℕ) (acc : List Char)
    (c : Cursor) :
    Gives (fun r => c.Reaches r.2) (tagChars verbatim activity start fuel acc c) := by
  induction fuel generalizing acc c with
  | zero => exact .refl c
  | succ fuel ih =>
    rw [tagChars]
    split
    · exact .refl c
    · refine .ite (fun _ => ?_) fun _ => .ite (fun _ => ?_) fun _ => Reaches.refl c
      · exact (gives_tagEscape c).bind fun r h => (ih _ r.2).imp fun _ h' => h.trans h'
      · exact (ih _ _).imp fun _ h => (reaches_advance c).trans h

theorem gives_tagSuffix {verbatim : Bool} {activity : Activity} (head : List Char) (c : Cursor) :
    Gives (fun r => c.Reaches r.2) (c.tagSuffix verbatim activity head start) := by
  unfold tagSuffix
  refine (gives_tagChars _ _ c).bind fun r h => .ite (fun _ => ?_) fun _ => ?_
  · trivial
  · exact h

/-- A handle takes the exclamation mark that it starts with. -/
theorem gives_tagHandle (inDirective : Bool) (c : Cursor) :
    Gives (fun r => c.advance.Reaches r.2) (c.tagHandle inDirective start) := by
  unfold tagHandle
  refine .ite (fun _ => ?_) fun _ => trivial
  have hspan := reaches_span isWordChar c.advance
  refine .ite (fun _ => ?_) fun _ => .ite (fun _ => trivial) fun _ => hspan
  exact hspan.trans (reaches_advance _)

theorem gives_tag (inFlow : Bool) (c : Cursor) :
    Gives (fun r => c.advance.Reaches r.2) (c.tag inFlow) := by
  unfold tag
  extract_lets start finish
  have hfinish : ∀ x, c.advance.Reaches x.2.2 →
      Gives (fun r => c.advance.Reaches r.2) (finish x) :=
    fun x h => .ite (fun _ => h) fun _ => trivial
  refine .ite (fun _ => ?_) fun _ => ?_
  · refine (gives_tagSuffix _ (c.advanceBy 2)).bind fun ⟨suffix, c₁⟩ h =>
      .ite (fun _ => ?_) fun _ => trivial
    exact hfinish ("", suffix, c₁.advance)
      (((reaches_advanceBy 1 _).trans h).trans (reaches_advance _))
  · refine (gives_tagHandle false c).bind fun ⟨handle, c₁⟩ h => .ite (fun _ => ?_) fun _ => ?_
    · exact (gives_tagSuffix _ c₁).bind fun ⟨suffix, c₂⟩ h' =>
        hfinish (String.ofList handle, suffix, c₂) (h.trans h')
    · refine (gives_tagSuffix _ c₁).bind fun ⟨suffix, c₂⟩ h' =>
        hfinish (if suffix.isEmpty then ("", "!", c₂) else ("!", suffix, c₂)) ?_
      split <;> exact h.trans h'

theorem gives_versionNumber (c : Cursor) :
    Gives (fun r => c.Reaches r.2) (c.versionNumber start) := by
  unfold versionNumber
  exact .ite (fun _ => trivial) fun _ => .ite (fun _ => trivial) fun _ => reaches_span _ c

theorem gives_directive (c : Cursor) : Gives (fun r => c.advance.Reaches r.2) c.directive := by
  unfold directive
  extract_lets start
  have hname := reaches_span isWordChar c.advance
  revert hname
  rcases c.advance.span isWordChar with ⟨run, c₁⟩
  intro hname
  refine .ite (fun _ => trivial) fun hrun => .ite (fun hends => ?_) fun _ => trivial
  rename_i finish
  have hfinish : ∀ x, c.advance.Reaches x.2 →
      Gives (fun r => c.advance.Reaches r.2) (finish x) := fun ⟨_, c₂⟩ h =>
    .ite (fun _ => ((h.trans (reaches_skipBlanks _)).trans (reaches_skipComment _)).trans
      (reaches_advanceLine _)) fun _ => trivial
  have hblanks : c.advance.Reaches c₁.skipBlanks := hname.trans (reaches_skipBlanks c₁)
  split
  · refine (gives_versionNumber _).bind fun ⟨major, c₂⟩ h => .ite (fun _ => ?_) fun _ => trivial
    refine (gives_versionNumber _).bind fun ⟨minor, c₃⟩ h' =>
      hfinish (.version major minor, c₃) ?_
    exact ((hblanks.trans h).trans (reaches_advance c₂)).trans h'
  · refine (gives_tagHandle true _).bind fun ⟨handle, c₂⟩ h => .ite (fun _ => ?_) fun _ => trivial
    refine (gives_tagSuffix [] _).bind fun ⟨expansion, c₃⟩ h' => .ite (fun _ => ?_) fun _ => trivial
    refine hfinish (.tagHandle (String.ofList handle) expansion, c₃) ?_
    exact (((hblanks.trans (reaches_advance _)).trans h).trans (reaches_skipBlanks c₂)).trans h'
  · trivial

/-! ### Quoted scalars -/

theorem gives_gap {check : Gap → Cursor → Option Fault} (fuel : ℕ) (g : Gap) (c : Cursor) :
    Gives (fun r => c.Reaches r.2) (gap check fuel g c) := by
  induction fuel generalizing g c with
  | zero => exact .refl c
  | succ fuel ih =>
    rw [gap]
    split
    · exact .refl c
    · refine .ite (fun _ => ?_) fun _ => .ite (fun _ => ?_) fun _ => Reaches.refl c
      · split
        · trivial
        · exact (ih _ _).imp fun _ h => (reaches_advance c).trans h
      · exact (ih _ _).imp fun _ h => (reaches_advanceLine c).trans h

theorem gives_readEscape (c : Cursor) : Gives (fun r => c.Reaches r.2) (c.readEscape start) := by
  unfold readEscape
  split
  · trivial
  · exact reaches_advanceBy 2 c
  · dsimp only
    split
    · exact .ite (fun _ => (reaches_advanceBy 2 c).trans (reaches_advanceBy _ _)) fun _ => trivial
    · trivial

theorem gives_quotedWord {q : Quote} (fuel : ℕ) (acc : List Char) (c : Cursor) :
    Gives (fun r => c.Reaches r.2.2) (quotedWord q start fuel acc c) := by
  induction fuel generalizing acc c with
  | zero => exact .refl c
  | succ fuel ih =>
    rw [quotedWord]
    split
    · exact .refl c
    · refine .ite (fun _ => .refl c) fun _ => .ite (fun _ => ?_) fun _ => .ite (fun _ => .refl c)
        fun _ => .ite (fun _ => .ite (fun _ => ?_) fun _ => ?_) fun _ => ?_
      · exact (ih _ _).imp fun _ h => (reaches_advanceBy 2 c).trans h
      · exact (reaches_advance c).trans (reaches_advanceLine _)
      · exact (gives_readEscape c).bind fun ⟨escaped, c₁⟩ h =>
          (ih (escaped :: acc) c₁).imp fun _ h' => h.trans h'
      · exact (ih _ _).imp fun _ h => (reaches_advance c).trans h

theorem gives_quotedWords {q : Quote} (fuel : ℕ) (acc : List Char) (c : Cursor) :
    Gives (fun r => c.Reaches r.2) (quotedWords q start fuel acc c) := by
  induction fuel generalizing acc c with
  | zero => exact .refl c
  | succ fuel ih =>
    rw [quotedWords]
    refine .ite (fun _ => trivial) fun _ => .ite (fun _ => trivial) fun _ => ?_
    refine (gives_quotedWord _ _ c).bind fun ⟨acc₁, joined, c₁⟩ h => .ite (fun _ => ?_) fun _ => ?_
    · exact h.trans (reaches_advance c₁)
    · exact (gives_gap _ _ c₁).bind fun ⟨g, c₂⟩ h' =>
        (ih _ c₂).imp fun _ h'' => (h.trans h').trans h''

theorem gives_quoted (q : Quote) (c : Cursor) :
    Gives (fun r => c.advance.Reaches r.2) (c.quoted q) := by
  unfold quoted
  exact (gives_quotedWords _ _ _).bind fun ⟨acc, c₁⟩ h => h

/-! ### Plain scalars -/

theorem gives_plainWord {inFlow : Bool} (fuel : ℕ) (acc : List Char) (c : Cursor) :
    Gives (fun r => c.Reaches r.2) (plainWord inFlow start fuel acc c) := by
  induction fuel generalizing acc c with
  | zero => exact .refl c
  | succ fuel ih =>
    rw [plainWord]
    split
    · exact .refl c
    · refine .ite (fun _ => .refl c) fun _ => .ite (fun _ => trivial) fun _ =>
        .ite (fun _ => .refl c) fun _ => ?_
      exact (ih _ _).imp fun _ h => (reaches_advance c).trans h

/-- A character that a plain scalar may start with is taken. -/
theorem gives_plainWord_cons {inFlow : Bool} {ch : Char} {next acc : List Char}
    (hc : c.rest = ch :: next) (hspace : (isBlank ch || isBreak ch) = false)
    (hsign : (ch == ':' && blankOrEnd next || inFlow && isFlowIndicator ch) = false) :
    Gives (fun r => c.advance.Reaches r.2) (c.plainWord inFlow start c.rest.length acc) := by
  rw [hc, List.length_cons, plainWord, hc]
  refine .ite (fun h => ?_) fun _ => .ite (fun _ => trivial) fun _ => .ite (fun h => ?_) fun _ => ?_
  · rw [hspace] at h
    contradiction
  · rw [hsign] at h
    contradiction
  · exact gives_plainWord _ _ _

/-- Only the first word matters for how far the words go. -/
theorem gives_plainWords_succ {inFlow : Bool} {indent : Int} {fuel : ℕ} {acc : List Char} {g : Gap}
    {stop : Mark}
    (hmore : ∀ acc g stop c,
      Gives (fun r => c.Reaches r.2.2.2) (plainWords inFlow indent start fuel acc g stop c))
    (hends : (c.atSeparator || c.looksAt '#') = true → b.Reaches c)
    (hword : Gives (fun r => b.Reaches r.2) (c.plainWord inFlow start c.rest.length [])) :
    Gives (fun r => b.Reaches r.2.2.2)
      (plainWords inFlow indent start (fuel + 1) acc g stop c) := by
  rw [plainWords]
  refine .ite hends fun _ => hword.bind fun ⟨word, c₁⟩ h => ?_
  dsimp only
  refine .ite (fun _ => ?_) fun _ => h
  refine (gives_gap _ _ c₁).bind fun ⟨g₁, c₂⟩ h' => .ite (fun _ => h.trans h') fun _ => ?_
  exact (hmore _ _ _ c₂).imp fun _ h'' => (h.trans h').trans h''

theorem gives_plainWords {inFlow : Bool} {indent : Int} (fuel : ℕ) (acc : List Char) (g : Gap)
    (stop : Mark) (c : Cursor) :
    Gives (fun r => c.Reaches r.2.2.2) (plainWords inFlow indent start fuel acc g stop c) := by
  induction fuel generalizing acc g stop c with
  | zero => exact .refl c
  | succ fuel ih => exact gives_plainWords_succ ih (fun _ => .refl c) (gives_plainWord _ _ c)

theorem gives_plain {inFlow : Bool} {ch : Char} {next : List Char} (indent : Int)
    (hc : c.rest = ch :: next) (hends : (c.atSeparator || c.looksAt '#') = false)
    (hspace : (isBlank ch || isBreak ch) = false)
    (hsign : (ch == ':' && blankOrEnd next || inFlow && isFlowIndicator ch) = false) :
    Gives (fun r => c.advance.Reaches r.2.2) (c.plain inFlow indent) := by
  unfold plain
  refine (gives_plainWords_succ (gives_plainWords _) (fun h => ?_)
    (gives_plainWord_cons hc hspace hsign)).bind fun ⟨acc, stop, broken, c₁⟩ h => h
  rw [hends] at h
  contradiction

/-! ### Block scalars -/

theorem gives_readIncrement (c : Cursor) :
    Gives (fun r => c.Reaches r.2) (c.readIncrement start) := by
  unfold readIncrement
  split
  · exact .ite (fun _ => trivial) fun _ => .ite (fun _ => reaches_advance c) fun _ => Reaches.refl c
  · exact .refl c

theorem gives_readHeader (c : Cursor) :
    Gives (fun r => c.Reaches r.2.2) (c.readHeader start) := by
  unfold readHeader
  split
  · exact (gives_readIncrement _).bind fun ⟨increment, c₁⟩ h => (reaches_advance c).trans h
  · refine (gives_readIncrement c).bind fun ⟨increment, c₁⟩ h => ?_
    dsimp only
    split
    · exact h.trans (reaches_advance c₁)
    · exact h

theorem gives_blockBreaks {indent : Option ℕ} (fuel : ℕ) (acc : List Char) (deepest : ℕ)
    (stop : Mark) (c : Cursor) : Gives (fun r => c.Reaches r.2.2.2)
      (blockBreaks indent start fuel acc deepest stop c) := by
  induction fuel generalizing acc deepest stop c with
  | zero => exact .refl c
  | succ fuel ih =>
    unfold blockBreaks
    refine .ite (fun _ => trivial) fun _ => .ite (fun _ => ?_) fun _ => reaches_advanceBy _ c
    exact (ih _ _ _ _).imp fun _ h =>
      ((reaches_advanceBy _ c).trans (reaches_advanceLine _)).trans h

theorem gives_blockLines {folded : Bool} {indent : ℕ} (fuel : ℕ) (acc lead more : List Char)
    (blank : Bool) (stop : Mark) (c : Cursor) : Gives (fun r => c.Reaches r.2.2.2.2)
      (blockLines folded indent start fuel acc lead more blank stop c) := by
  induction fuel generalizing acc lead more blank stop c with
  | zero => exact .refl c
  | succ fuel ih =>
    rw [blockLines]
    refine .ite (fun _ => ?_) fun _ => Reaches.refl c
    have hline := (reaches_span (fun ch => !isBreak ch) c).trans (reaches_advanceLine _)
    exact (gives_blockBreaks _ _ _ _ _).bind fun ⟨more₁, _, stop₁, c₁⟩ h =>
      (ih _ _ _ _ _ c₁).imp fun _ h' => (hline.trans h).trans h'

theorem gives_block (folded : Bool) (parent : Int) (c : Cursor) :
    Gives (fun r => c.advance.Reaches r.2) (c.block folded parent) := by
  unfold block
  refine (gives_readHeader _).bind fun ⟨chomp, increment, c₁⟩ h =>
    .ite (fun _ => ?_) fun _ => trivial
  have hheader := ((h.trans (reaches_skipBlanks c₁)).trans (reaches_skipComment _)).trans
    (reaches_advanceLine _)
  refine (gives_blockBreaks _ _ _ _ _).bind fun ⟨more, deepest, stop, c₂⟩ h' => ?_
  exact (gives_blockLines _ _ _ _ _ _ c₂).bind fun ⟨acc, lead, more₁, stop₁, c₃⟩ h'' =>
    (hheader.trans h').trans h''

end Cursor

end HookPlan.Yaml
