import HookPlan.Proofs.Yaml.Forward

/-!
# A scan comes to the end

Each step of a scan takes a character, or there is none left and the end of the stream is found. So
a scan has steps enough for its text, and stops early for a fault only.

* `Closed`: the end of the stream comes last.
* `gives_token`, `gives_step`: what one step takes.
* `Tokens.closed_of_fault_eq_none`: the tokens of a text without a fault.
-/

namespace HookPlan.Yaml

/-- The end of the stream is the last of these tokens. -/
def Closed (ts : List Token) : Prop := ∃ t ∈ ts.getLast?, t.lexeme = .streamEnd

namespace Scan

variable {s s' : Scan} {ch : Char} {next : List Char}

/-! ### What takes nothing -/

theorem gives_dropExpired (s : Scan) :
    Gives (fun s' => s'.cursor = s.cursor ∧ s'.tokens = s.tokens) s.dropExpired := by
  unfold dropExpired
  exact .bind_of_forall fun _ => .bind_of_forall fun _ => ⟨rfl, rfl⟩

theorem gives_dropKey (s : Scan) :
    Gives (fun s' => s'.cursor = s.cursor ∧ s'.inFlow = s.inFlow) s.dropKey := by
  unfold dropKey
  exact .bind_of_forall fun _ => ⟨rfl, rfl⟩

theorem gives_saveKey (s : Scan) :
    Gives (fun s' => s'.cursor = s.cursor ∧ s'.inFlow = s.inFlow) s.saveKey := by
  unfold saveKey
  exact .ite (fun _ => (gives_dropKey s).bind fun _ h => h) fun _ => ⟨rfl, rfl⟩

theorem cursor_roll (s : Scan) (column position : ℕ) (l : Lexeme) (m : Mark) :
    (s.roll column position l m).cursor = s.cursor := by
  unfold roll
  split <;> rfl

theorem cursor_unroll (s : Scan) (column : Int) : (s.unroll column).cursor = s.cursor := by
  unfold unroll
  split
  · rfl
  · exact List.foldlRecOn (motive := fun s' : Scan => s'.cursor = s.cursor) _ _ rfl
      fun _ h _ _ => h

theorem gives_openBlock (s : Scan) (l : Lexeme) (cause : Cause) :
    Gives (fun s' => s'.cursor = s.cursor) (s.openBlock l cause) := by
  unfold openBlock
  exact .ite (fun _ => rfl) fun _ => .ite (fun _ => cursor_roll _ _ _ _ _) fun _ => trivial

theorem gives_betweenDocuments (s : Scan) :
    Gives (fun s' => s'.cursor = s.cursor) s.betweenDocuments := by
  unfold betweenDocuments
  exact (gives_dropKey _).bind fun _ h => h.1.trans (cursor_unroll s _)

/-! ### Tokens -/

/-- The end of the stream has been found, or it went on from the next character. -/
def Advances (s s' : Scan) : Prop :=
  s'.done ∨ s.cursor.rest ≠ [] ∧ s.cursor.advance.Reaches s'.cursor

theorem gives_finish (s : Scan) : Gives (fun s' => s'.done) s.finish := by
  unfold finish
  refine (gives_dropKey _).bind fun s₁ _ => ?_
  show Scan.done _ = true
  unfold done pushHere push
  rw [Array.back?_push]
  rfl

theorem gives_flowStart (s : Scan) (l : Lexeme) :
    Gives (fun s' => s'.cursor = s.cursor.advance) (s.flowStart l) := by
  unfold flowStart
  exact (gives_saveKey s).bind fun s' h => congrArg Cursor.advance h.1

theorem gives_flowEnd (s : Scan) (l : Lexeme) :
    Gives (fun s' => s'.cursor = s.cursor.advance) (s.flowEnd l) := by
  unfold flowEnd
  refine (gives_dropKey s).bind fun s' h => ?_
  show Cursor.advance _ = _
  dsimp only
  split <;> exact congrArg Cursor.advance h.1

theorem gives_flowEntry (s : Scan) :
    Gives (fun s' => s'.cursor = s.cursor.advance) s.flowEntry := by
  unfold flowEntry
  exact (gives_dropKey s).bind fun s' h => congrArg Cursor.advance h.1

theorem gives_blockEntry (s : Scan) :
    Gives (fun s' => s'.cursor = s.cursor.advance) s.blockEntry := by
  unfold blockEntry
  exact (gives_openBlock s _ _).bind fun s₁ h =>
    (gives_dropKey s₁).bind fun s₂ h' => congrArg Cursor.advance (h'.1.trans h)

theorem gives_explicitKey (s : Scan) :
    Gives (fun s' => s'.cursor = s.cursor.advance) s.explicitKey := by
  unfold explicitKey
  exact (gives_openBlock s _ _).bind fun s₁ h =>
    (gives_dropKey s₁).bind fun s₂ h' => congrArg Cursor.advance (h'.1.trans h)

theorem gives_value (s : Scan) : Gives (fun s' => s'.cursor = s.cursor.advance) s.value := by
  unfold value
  split
  · exact congrArg Cursor.advance (cursor_roll _ _ _ _ _)
  · exact (gives_openBlock s _ _).bind fun s₁ h => congrArg Cursor.advance h

theorem gives_keyLike {read : Cursor → Except Fault (Token × Cursor)}
    (hread : ∀ c, Gives (fun r => c.advance.Reaches r.2) (read c)) (s : Scan) :
    Gives (fun s' => s.cursor.advance.Reaches s'.cursor) (s.keyLike read) := by
  unfold keyLike
  exact (gives_saveKey s).bind fun s₁ h => (hread s₁.cursor).bind fun r h' => h.1 ▸ h'

theorem gives_blockScalar (s : Scan) (folded : Bool) :
    Gives (fun s' => s.cursor.advance.Reaches s'.cursor) (s.blockScalar folded) := by
  unfold blockScalar
  exact (gives_dropKey s).bind fun s₁ h =>
    (Cursor.gives_block folded _ s₁.cursor).bind fun r h' => h.1 ▸ h'

theorem gives_directive (s : Scan) :
    Gives (fun s' => s.cursor.advance.Reaches s'.cursor) s.directive := by
  unfold directive
  exact (gives_betweenDocuments s).bind fun s₁ h =>
    (Cursor.gives_directive s₁.cursor).bind fun r h' => h ▸ h'

/-- A character that is no indicator is none of those that end a plain scalar. -/
theorem of_isIndicator_eq_false (h : isIndicator ch = false) :
    ch ≠ '#' ∧ ch ≠ ':' ∧ Cursor.isFlowIndicator ch = false := by
  simp only [isIndicator, String.reduceToList, List.contains_eq_mem, List.mem_cons,
    List.not_mem_nil, or_false, not_or, decide_eq_false_iff_not] at h
  simp [Cursor.isFlowIndicator, h]

/-- Where a plain scalar may start, its first character belongs to it. -/
theorem startsPlain_cons (hp : s.startsPlain) (hc : s.cursor.rest = ch :: next) :
    s.cursor.looksAt '#' = false ∧ (isBlank ch || isBreak ch) = false ∧
      (ch == ':' && blankOrEnd next || s.inFlow && Cursor.isFlowIndicator ch) = false := by
  unfold startsPlain at hp
  unfold Cursor.looksAt
  rw [hc] at hp ⊢
  simp only [Bool.or_eq_true, Bool.and_eq_true, Bool.not_eq_true', Bool.or_eq_false_iff] at hp
  rcases hp with (⟨hspace, hsign⟩ | ⟨hdash, -⟩) | ⟨⟨hflow, hsign⟩, hnext⟩
  · obtain ⟨hhash, hcolon, hflow⟩ := of_isIndicator_eq_false hsign
    simp [hspace, hhash, hcolon, hflow]
  · obtain rfl := beq_iff_eq.1 hdash
    simp [isBlank, isBreak, Cursor.isFlowIndicator]
  · obtain rfl | rfl := hsign.imp beq_iff_eq.1 beq_iff_eq.1 <;>
      simp [isBlank, isBreak, hflow, hnext]

theorem gives_plainScalar (hp : s.startsPlain) (hc : s.cursor.rest = ch :: next)
    (hends : s.cursor.atSeparator = false) :
    Gives (fun s' => s.cursor.advance.Reaches s'.cursor) s.plainScalar := by
  obtain ⟨hhash, hspace, hsign⟩ := startsPlain_cons hp hc
  unfold plainScalar
  refine (gives_saveKey s).bind fun s₁ ⟨hcursor, hflow⟩ => ?_
  rw [hcursor, hflow]
  exact (Cursor.gives_plain _ hc (by rw [hends, hhash]; rfl) hspace hsign).bind fun r h => h

/-- Whatever a token starts with, it takes that. -/
theorem gives_token (s : Scan) : Gives s.Advances s.token := by
  unfold token
  dsimp only
  split
  case h_1 => exact (gives_finish s).imp fun _ h => Or.inl h
  case h_2 ch next hc =>
    have hne : s.cursor.rest ≠ [] := by rw [hc]; exact List.cons_ne_nil _ _
    have hadvances : ∀ s', s.cursor.advance.Reaches s'.cursor → s.Advances s' := fun s' h =>
      Or.inr ⟨hne, h⟩
    have hstep : ∀ s', s'.cursor = s.cursor.advance → s.Advances s' := fun s' h =>
      hadvances s' (h ▸ Cursor.Reaches.refl _)
    refine .ite (fun _ => (gives_directive s).imp hadvances) fun _ =>
      .ite (fun _ => ?_) fun hends => ?_
    · refine (gives_betweenDocuments s).bind fun s₁ h => hadvances _ ?_
      exact h ▸ Cursor.reaches_advanceBy 2 s₁.cursor.advance
    split
    · exact (gives_flowStart s _).imp hstep
    · exact (gives_flowStart s _).imp hstep
    · exact (gives_flowEnd s _).imp hstep
    · exact (gives_flowEnd s _).imp hstep
    · exact (gives_flowEntry s).imp hstep
    · exact (gives_keyLike (Cursor.gives_name true) s).imp hadvances
    · exact (gives_keyLike (Cursor.gives_name false) s).imp hadvances
    · exact (gives_keyLike (Cursor.gives_tag _) s).imp hadvances
    · exact (gives_keyLike (Cursor.gives_quoted .single) s).imp hadvances
    · exact (gives_keyLike (Cursor.gives_quoted .double) s).imp hadvances
    · refine .ite (fun _ => (gives_blockEntry s).imp hstep) fun _ =>
        .ite (fun _ => (gives_explicitKey s).imp hstep) fun _ =>
        .ite (fun _ => (gives_value s).imp hstep) fun _ =>
        .ite (fun _ => (gives_blockScalar s false).imp hadvances) fun _ =>
        .ite (fun _ => (gives_blockScalar s true).imp hadvances) fun _ =>
        .ite (fun hp => ?_) fun _ => trivial
      exact (gives_plainScalar hp hc (by simpa using hends)).imp hadvances

/-! ### Steps -/

theorem reaches_skipSpace (fuel : ℕ) (s : Scan) : s.cursor.Reaches (skipSpace fuel s).cursor := by
  induction fuel generalizing s with
  | zero => exact .refl _
  | succ fuel ih =>
    unfold skipSpace
    extract_lets c tabs c'
    have hmark : s.cursor.Reaches c := by
      unfold c
      split
      · exact Cursor.reaches_advance _
      · exact .refl _
    have hspace : s.cursor.Reaches c' :=
      (hmark.trans (Cursor.reaches_span _ c)).trans (Cursor.reaches_skipComment _)
    split
    · exact (hspace.trans (Cursor.reaches_advanceLine c')).trans (ih _)
    · exact hspace

/-- **A step takes a character**, unless it finds the end of the stream. -/
theorem gives_step (s : Scan) :
    Gives (fun s' => s'.done ∨ s'.cursor.rest.length < s.cursor.rest.length) s.step := by
  unfold step
  refine (gives_dropExpired _).bind fun s₁ h₁ => (gives_token _).bind fun s₂ h₂ =>
    (gives_dropExpired s₂).imp fun s₃ h₃ => ?_
  have hspace : s.cursor.Reaches s₁.cursor := by
    rw [h₁.1]
    exact reaches_skipSpace _ s
  rcases h₂ with hdone | ⟨hne, h⟩
  · left
    unfold done at hdone ⊢
    rw [h₃.2]
    exact hdone
  · right
    rw [h₃.1]
    have hlt := h.length_lt hne
    rw [cursor_unroll] at hlt
    exact Nat.lt_of_lt_of_le hlt hspace.length_le

theorem closed_of_done (h : s.done) : Closed s.tokens.toList := by
  unfold done at h
  cases ht : s.tokens.back? with
  | none =>
    rw [ht] at h
    cases h
  | some t =>
    rw [ht] at h
    exact ⟨t, by rw [Array.getLast?_toList, ht]; rfl, beq_iff_eq.1 h⟩

/-- A scan that has a step for each character, and some more, finds the end of the stream. -/
theorem closed_run {fuel : ℕ} (s : Scan) (hfuel : s.done ∨ s.cursor.rest.length + 1 < fuel)
    (h : (run fuel s).2 = none) : Closed (run fuel s).1 := by
  -- on the steps that are left: there stay more of them than characters
  induction fuel generalizing s with
  | zero => exact closed_of_done (hfuel.resolve_right (Nat.not_lt_zero _))
  | succ fuel ih =>
    unfold run at h ⊢
    by_cases hdone : s.done = true
    · rw [if_pos hdone]
      exact closed_of_done hdone
    · rw [if_neg hdone] at h ⊢
      have hstep := gives_step s
      cases hs : s.step with
      | error fault =>
        rw [hs] at h
        cases h
      | ok s' =>
        rw [hs] at h hstep
        have hroom := hfuel.resolve_left hdone
        exact ih s' (Or.imp_right (fun hlt => by omega) hstep) h

end Scan

/-- **The tokens of a text without a fault** end with the end of the stream. -/
theorem Tokens.closed_of_fault_eq_none {text : String} (h : (Tokens.ofString text).fault = none) :
    Closed (Tokens.ofString text).list := by
  unfold Tokens.ofString at h ⊢
  dsimp only at h ⊢
  split at h
  case isTrue => cases h
  case isFalse hfine =>
    rw [if_neg hfine]
    exact Scan.closed_run _ (Or.inr (Nat.lt_succ_self _)) h

end HookPlan.Yaml
