import HookPlan.Proofs.Json.Nested

/-!
# Skipping values

A value that nobody looks at is skipped as a whole, whatever it is and however deep it is nested,
and what follows it is left as it is. The induction is on the grammar. Its invariant counts steps:
a reader that skips a value makes at most two for each character.

* `skipString_apply`, `exists_lexeme`: strings and numbers.
* `skipItems_apply`, `skipMembers_apply`: what stands between brackets.
* `takes_skip`: all values.
-/

namespace HookPlan.Json

/-! ### Strings -/

theorem skipEscape_short {e : Char} (h : e ∈ shortEscapes.map Prod.fst) (cs : List Char) :
    skipEscape (e :: cs) = .ok ((), cs) := by
  simp only [shortEscapes, List.map_cons, List.map_nil, List.mem_cons, List.not_mem_nil,
    or_false] at h
  rcases h with rfl | rfl | rfl | rfl | rfl | rfl | rfl | rfl <;> rfl

theorem skipEscape_code {n : ℕ} {ds : List Char} (h : FourDigits n ds) (cs : List Char) :
    skipEscape ('u' :: (ds ++ cs)) = .ok ((), cs) := by
  unfold skipEscape
  rw [bind_apply (a := some 'u') rfl]
  show (drop >>= fun _ => fourDigits >>= _) ('u' :: _) = _
  rw [bind_apply (a := ()) rfl]
  exact bind_apply (fourDigits_apply h cs)

theorem skipStringFrom_escape {cs rest : List Char} (h : skipEscape cs = .ok ((), rest))
    (fuel : ℕ) : skipStringFrom (fuel + 1) ('\\' :: cs) = skipStringFrom fuel rest := by
  rw [skipStringFrom, bind_apply (a := some '\\') rfl]
  show (drop >>= fun _ => skipEscape >>= _) ('\\' :: cs) = _
  rw [bind_apply (a := ()) (t := cs) rfl, bind_apply h]

theorem skipStringFrom_fragment {part : List Char} (h : IsFragment part) (fuel : ℕ)
    (cs : List Char) : skipStringFrom (fuel + 1) (part ++ cs) = skipStringFrom fuel cs := by
  cases h with
  | @plain c h =>
    obtain ⟨hquote, hslash, hcontrol⟩ := h
    rw [skipStringFrom, List.cons_append, bind_apply (a := some c) (t := c :: ([] ++ cs)) rfl]
    generalize hnext : some c = next
    split
    all_goals cases hnext
    · exact absurd rfl hquote
    · exact absurd rfl hslash
    · rw [if_neg (by simpa [isControl] using hcontrol)]
      exact bind_apply (a := ()) rfl
  | short h => exact skipStringFrom_escape (skipEscape_short h cs) fuel
  | code h => exact skipStringFrom_escape (skipEscape_code h cs) fuel

theorem skipStringFrom_apply {parts : List (List Char)} (h : ∀ p ∈ parts, IsFragment p)
    (rest : List Char) {fuel : ℕ} (hfuel : parts.flatten.length < fuel) :
    skipStringFrom fuel (parts.flatten ++ '"' :: rest) = .ok ((), rest) := by
  induction parts generalizing fuel with
  | nil =>
    obtain ⟨fuel, rfl⟩ : ∃ k, fuel = k + 1 := ⟨fuel - 1, by omega⟩
    rfl
  | cons p parts ih =>
    obtain ⟨fuel, rfl⟩ : ∃ k, fuel = k + 1 := ⟨fuel - 1, by omega⟩
    -- a fragment is one step and one character at least
    have hp : 0 < p.length := by cases h p List.mem_cons_self <;> exact Nat.succ_pos _
    rw [List.flatten_cons, List.length_append] at hfuel
    rw [List.flatten_cons, List.append_assoc,
      skipStringFrom_fragment (h p List.mem_cons_self)]
    exact ih (fun q hq => h q (List.mem_cons_of_mem _ hq)) (by omega)

theorem IsString.exists_cons {cs : List Char} (h : IsString cs) : ∃ key, cs = '"' :: key := by
  obtain ⟨parts, -, rfl⟩ := h
  exact ⟨_, rfl⟩

theorem skipString_apply {cs : List Char} (h : IsString cs) (rest : List Char) :
    skipString (cs ++ rest) = .ok ((), rest) := by
  obtain ⟨parts, hparts, rfl⟩ := h
  set body := parts.flatten ++ '"' :: rest with hbody
  have htext : '"' :: (parts.flatten ++ ['"']) ++ rest = '"' :: body := by simp [hbody]
  have hfuel : parts.flatten.length < body.length + 1 := by
    rw [hbody, List.length_append]
    omega
  unfold skipString
  rw [htext, bind_apply (a := ()) (t := body) rfl, bind_apply (a := body) (t := body) rfl]
  exact hbody ▸ skipStringFrom_apply hparts rest (hbody ▸ hfuel)

/-! ### Numbers -/

theorem fractionDigits_apply {ds rest : List Char} (h : IsDigits ds) (hr : NoDigit rest)
    (atEnd : Cause) : fractionDigits atEnd ('.' :: (ds ++ rest)) = .ok (ds, rest) := by
  unfold fractionDigits
  rw [bind_apply (a := ()) (t := ds ++ rest) rfl, bind_apply (digits_apply h.2 hr), if_neg]
  · rfl
  · simpa using h.1

theorem exists_exponentDigits {e : Char} {sign ds rest : List Char}
    (hs : sign = [] ∨ sign = ['+'] ∨ sign = ['-']) (hd : IsDigits ds) (hr : NoDigit rest)
    (atEnd : Cause) :
    ∃ n, exponentDigits atEnd false (e :: (sign ++ (ds ++ rest))) = .ok (n, rest) := by
  obtain ⟨d, ds, rfl⟩ := List.exists_cons_of_ne_nil hd.1
  have hdigit := hd.2 d List.mem_cons_self
  have hvalue : exponentValue false (d :: ds ++ rest) =
      .ok (Number.digitsValue (d :: ds), rest) := by
    unfold exponentValue
    rw [bind_apply (a := d :: ds ++ rest) (t := d :: ds ++ rest) rfl,
      bind_apply (digits_apply hd.2 hr)]
    rfl
  unfold exponentDigits
  rw [bind_apply (a := ()) (t := sign ++ (d :: ds ++ rest)) rfl]
  rcases hs with rfl | rfl | rfl
  case' inl =>
    rw [List.nil_append, bind_apply (a := some d) (t := d :: ds ++ rest) rfl]
    dsimp only
    generalize hnext : some d = next
    split
    iterate 2
      cases hnext
      cases hdigit
    rw [bind_apply (a := false) (t := d :: ds ++ rest) rfl]
  case' inr.inl =>
    rw [bind_apply (a := some '+') rfl]
    show ∃ n, (drop >>= fun _ => pure false >>= _) _ = _
    rw [bind_apply (a := ()) (t := d :: ds ++ rest) rfl,
      bind_apply (a := false) (t := d :: ds ++ rest) rfl]
    dsimp only
  case' inr.inr =>
    rw [bind_apply (a := some '-') rfl]
    show ∃ n, (drop >>= fun _ => pure true >>= _) _ = _
    rw [bind_apply (a := ()) (t := d :: ds ++ rest) rfl,
      bind_apply (a := true) (t := d :: ds ++ rest) rfl]
    dsimp only
  -- after the sign all three are read alike
  all_goals
    rw [bind_apply (a := some d) (t := d :: ds ++ rest) rfl]
    dsimp only
    rw [if_pos hdigit, Bool.false_and, bind_apply (bind_apply hvalue)]
    exact ⟨_, rfl⟩

/-- Digits are followed by a fraction, an exponent or the end of the number. -/
theorem IsExponent.noDigit {exponent rest : List Char} (h : IsExponent exponent) (hr : Ends rest) :
    NoDigit (exponent ++ rest) ∧ (exponent ++ rest).head? ≠ some '.' := by
  rcases h with rfl | ⟨e, sign, ds, rfl | rfl, -, -, rfl⟩
  · exact ⟨hr.noDigit, hr.head?_ne_point⟩
  · exact ⟨by simp [NoDigit], by simp⟩
  · exact ⟨by simp [NoDigit], by simp⟩

theorem IsFraction.noDigit {fraction rest : List Char} (h : IsFraction fraction)
    (hr : NoDigit rest) : NoDigit (fraction ++ rest) := by
  rcases h with rfl | ⟨ds, -, rfl⟩
  · exact hr
  · simp [NoDigit]

theorem ite_bind_apply {α β : Type} {b : Bool} {x y : Reader α} {f : α → Reader β}
    {s t : List Char} {a : α} (h : (if b then x else y) s = .ok (a, t)) :
    (if b then x >>= f else y >>= f) s = f a t := by
  cases b <;> exact bind_apply h

theorem exists_fraction {fraction rest : List Char} (h : IsFraction fraction) (hr : NoDigit rest)
    (hp : rest.head? ≠ some '.') (atEnd : Cause) :
    ∃ ds, (if (fraction ++ rest).head? == some '.' then fractionDigits atEnd else pure [])
      (fraction ++ rest) = .ok (ds, rest) := by
  rcases h with rfl | ⟨ds, hds, rfl⟩
  · rw [List.nil_append, if_neg (by simpa using hp)]
    exact ⟨[], rfl⟩
  · exact ⟨ds, fractionDigits_apply hds hr atEnd⟩

theorem exists_exponent {exponent rest : List Char} (h : IsExponent exponent) (hr : Ends rest)
    (atEnd : Cause) :
    ∃ n, (if startsExponent (exponent ++ rest).head? then exponentDigits atEnd false else pure 0)
      (exponent ++ rest) = .ok (n, rest) := by
  rcases h with rfl | ⟨e, sign, ds, he, hs, hds, rfl⟩
  · rw [List.nil_append, hr.startsExponent_eq_false]
    exact ⟨0, rfl⟩
  · have his : startsExponent (some e) = true := by
      rcases he with rfl | rfl <;> rfl
    rw [List.cons_append, List.head?_cons, his, List.append_assoc]
    exact exists_exponentDigits hs hds hr.noDigit atEnd

/-- Every number is taken, and nothing else. -/
theorem exists_lexeme {cs rest : List Char} (h : IsNumber cs) (hr : Ends rest) (atEnd : Cause) :
    ∃ l, lexeme atEnd false (cs ++ rest) = .ok (l, rest) := by
  obtain ⟨sign, whole, fraction, exponent, hs, hw, hf, he, rfl⟩ := h
  obtain ⟨hdigit, hpoint⟩ := he.noDigit hr
  obtain ⟨ds, hfraction⟩ := exists_fraction hf hdigit hpoint atEnd
  obtain ⟨n, hexponent⟩ := exists_exponent he hr atEnd
  have hwhole := wholeDigits_apply hw (hf.noDigit hdigit) atEnd
  have hfirst : ((whole ++ (fraction ++ (exponent ++ rest))).head? == some '-') = false := by
    obtain ⟨d, ds, rfl, hd⟩ := hw.exists_cons
    rw [beq_eq_false_iff_ne]
    rintro ⟨⟩
    cases hd
  simp only [List.append_assoc]
  unfold lexeme
  rcases hs with rfl | rfl
  case' inl =>
    rw [List.nil_append, bind_apply (a := List.head? _) rfl]
    dsimp only
    rw [hfirst, if_neg Bool.false_ne_true]
  case' inr =>
    rw [bind_apply (a := some '-') rfl]
    dsimp only
    rw [if_pos (beq_self_eq_true _),
      bind_apply (a := ()) (t := whole ++ (fraction ++ (exponent ++ rest))) rfl]
  -- after the sign both are read alike
  all_goals
    rw [bind_apply hwhole, bind_apply (a := List.head? _) rfl, ite_bind_apply hfraction,
      bind_apply (a := List.head? _) rfl, Bool.false_and]
    exact ⟨_, ite_bind_apply hexponent⟩

/-- A number starts with its sign or a digit. -/
theorem IsNumber.exists_cons {cs : List Char} (h : IsNumber cs) :
    ∃ c rest, cs = c :: rest ∧ (c == '-' || c.isDigit) = true := by
  obtain ⟨sign, whole, fraction, exponent, rfl | rfl, hw, -, -, rfl⟩ := h
  · obtain ⟨d, ds, rfl, hd⟩ := hw.exists_cons
    exact ⟨d, _, rfl, by rw [hd, Bool.or_true]⟩
  · exact ⟨'-', _, rfl, rfl⟩

/-! ### Brackets -/

theorem IsValue.opens {cs : List Char} (h : IsValue cs) : Opens cs := by
  cases h with
  | null => exact ⟨'n', _, rfl, rfl, ne_closing (by decide) (by decide)⟩
  | boolean b =>
    cases b
    · exact ⟨'f', _, rfl, rfl, ne_closing (by decide) (by decide)⟩
    · exact ⟨'t', _, rfl, rfl, ne_closing (by decide) (by decide)⟩
  | number h =>
    obtain ⟨c, rest, rfl, hc⟩ := h.exists_cons
    refine ⟨c, rest, rfl, ?_, ne_closing ?_ ?_⟩
    · rcases Bool.or_eq_true_iff.1 hc with hc | hc
      · rw [beq_iff_eq.1 hc]
        rfl
      · exact isSpace_eq_false_of_isDigit hc
    · rintro rfl
      cases hc
    · rintro rfl
      cases hc
  | string h =>
    obtain ⟨key, rfl⟩ := h.exists_cons
    exact ⟨'"', key, rfl, rfl, ne_closing (by decide) (by decide)⟩
  | list _ h => exact h.opens
  | object _ _ h => exact h.opens

/-- A text is skipped within two steps for each of its characters. -/
def Skips (cs : List Char) : Prop := ∀ fuel, 2 * cs.length ≤ fuel → Takes (skipFrom fuel) cs ()

/-- The elements of a list are skipped up to the bracket if each of them is. -/
theorem skipItems_apply {parts : List (List Char)} {part tail : List Char}
    (hskips : ∀ p ∈ part :: parts, Skips p) (h : Separated Eq false parts tail) {fuel : ℕ}
    (hfuel : 2 * (part.length + tail.length) < fuel) {pad : List Char} (hp : Blank pad)
    (rest : List Char) :
    skipItems fuel (pad ++ (part ++ (tail ++ ']' :: rest))) = .ok ((), rest) := by
  -- a step is spent on each element, and the comma after it pays for the next one
  induction parts generalizing part tail fuel pad with
  | nil =>
    obtain ⟨fuel, rfl⟩ : ∃ k, fuel = k + 1 := ⟨fuel - 1, by omega⟩
    have hpart := hskips part List.mem_cons_self fuel (by omega) pad _ hp (h.ends .list rest)
    rw [skipItems]
    cases h with
    | nil htail =>
      exact (bind_apply hpart).trans (bind_apply (next?_apply htail rfl rest))
  | cons next parts ih =>
    obtain ⟨fuel, rfl⟩ : ∃ k, fuel = k + 1 := ⟨fuel - 1, by omega⟩
    have hpart := hskips part List.mem_cons_self fuel (by omega) pad _ hp (h.ends .list rest)
    rw [skipItems]
    cases h with
    | @cons _ _ _ _ _ cs hsep hnext hcs =>
      obtain ⟨before, after, hbefore, hafter, rfl⟩ := hsep
      subst hnext
      simp only [List.append_assoc, List.cons_append, List.length_append, List.length_cons]
        at hpart hfuel ⊢
      refine (bind_apply hpart).trans ((bind_apply (next?_apply hbefore rfl _)).trans ?_)
      exact ih (fun p hp => hskips p (List.mem_cons_of_mem _ hp)) hcs (by omega) hafter

theorem skipMembers_succ {m : List Char × List Char} {part : List Char} (hkey : IsString m.1)
    (hskips : Skips m.2) (hpart : IsPair m part) {fuel : ℕ} (hfuel : 2 * part.length ≤ fuel)
    {pad rest : List Char} (hp : Blank pad) (hr : Ends rest) :
    skipMembers (fuel + 1) (pad ++ (part ++ rest)) = (do
      match ← next? with
      | some ',' =>
        drop
        skipMembers fuel
      | some '\x7d' => drop
      | some _ => stopAt .objectCommaOrEnd
      | none => stopAt .objectEnds : Reader Unit) rest := by
  obtain ⟨before, after, hbefore, hafter, rfl⟩ := hpart
  simp only [List.length_append, List.length_cons] at hfuel
  have hvalue := takes_valueOf (hskips fuel (by omega)) hafter before rest hbefore hr
  have hskip := skipString_apply hkey (before ++ (':' :: (after ++ m.2) ++ rest))
  obtain ⟨key, hquote⟩ := hkey.exists_cons
  have htext : m.1 ++ (before ++ ':' :: (after ++ m.2)) ++ rest =
      '"' :: (key ++ (before ++ (':' :: (after ++ m.2) ++ rest))) := by simp [hquote]
  rw [hquote, List.cons_append] at hskip
  rw [skipMembers, htext, bind_apply (next?_apply hp rfl _)]
  show (skipString >>= _) _ = _
  rw [bind_apply hskip]
  exact bind_apply hvalue

/-- The members of an object are skipped up to the bracket if the value of each of them is. -/
theorem skipMembers_apply {ms : List (List Char × List Char)} {m : List Char × List Char}
    {part tail : List Char} (hkeys : ∀ n ∈ m :: ms, IsString n.1)
    (hskips : ∀ n ∈ m :: ms, Skips n.2) (hpart : IsPair m part)
    (h : Separated IsPair false ms tail) {fuel : ℕ}
    (hfuel : 2 * (part.length + tail.length) < fuel) {pad : List Char} (hp : Blank pad)
    (rest : List Char) :
    skipMembers fuel (pad ++ (part ++ (tail ++ '\x7d' :: rest))) = .ok ((), rest) := by
  -- the count of steps is that of a list, where a key and its colon come on top
  induction ms generalizing m part tail fuel pad with
  | nil =>
    obtain ⟨fuel, rfl⟩ : ∃ k, fuel = k + 1 := ⟨fuel - 1, by omega⟩
    have hends : Ends (tail ++ '\x7d' :: rest) := h.ends .object rest
    rw [skipMembers_succ (hkeys m List.mem_cons_self) (hskips m List.mem_cons_self) hpart
      (by omega) hp hends]
    cases h with
    | nil htail => exact bind_apply (next?_apply htail rfl rest)
  | cons next ms ih =>
    obtain ⟨fuel, rfl⟩ : ∃ k, fuel = k + 1 := ⟨fuel - 1, by omega⟩
    have hends : Ends (tail ++ '\x7d' :: rest) := h.ends .object rest
    rw [skipMembers_succ (hkeys m List.mem_cons_self) (hskips m List.mem_cons_self) hpart
      (by omega) hp hends]
    cases h with
    | cons hsep hnext hcs =>
      obtain ⟨before, after, hbefore, hafter, rfl⟩ := hsep
      simp only [List.append_assoc, List.cons_append, List.length_append, List.length_cons]
        at hfuel ⊢
      refine (bind_apply (next?_apply hbefore rfl _)).trans ?_
      exact ih (fun n hn => hkeys n (List.mem_cons_of_mem _ hn))
        (fun n hn => hskips n (List.mem_cons_of_mem _ hn)) hnext hcs (by omega) hafter

/-! ### Values -/

theorem IsNumber.skips {cs : List Char} (h : IsNumber cs) : Skips cs := by
  obtain ⟨_, _, hcons, hspace, -⟩ := (IsValue.number h).opens
  obtain ⟨c, cs, rfl, hc⟩ := h.exists_cons
  obtain ⟨rfl, rfl⟩ := List.cons.inj hcons
  rintro (_ | fuel) hfuel pad rest hp hr
  · simp at hfuel
  obtain ⟨l, hl⟩ := exists_lexeme h hr .number
  rw [skipFrom, List.cons_append, bind_apply (next?_apply hp hspace _)]
  generalize hnext : some c = next
  split
  all_goals cases hnext
  iterate 6 cases hc
  rw [if_pos hc]
  exact bind_apply hl

theorem IsString.skips {cs : List Char} (h : IsString cs) : Skips cs := by
  obtain ⟨key, rfl⟩ := h.exists_cons
  rintro (_ | fuel) hfuel pad rest hp hr
  · simp at hfuel
  rw [skipFrom, List.cons_append, bind_apply (next?_apply hp rfl _)]
  exact skipString_apply h rest

theorem skips_list {parts : List (List Char)} {cs : List Char} (hp : ∀ p ∈ parts, IsValue p)
    (hskips : ∀ p ∈ parts, Skips p) (h : Enclosed .list Eq parts cs) : Skips cs := by
  obtain ⟨inner, hinner, rfl⟩ := h
  rintro (_ | fuel) hfuel pad rest hpad hr
  · simp at hfuel
  rw [skipFrom]
  show (next? >>= _) (pad ++ '[' :: (inner ++ [']'] ++ rest)) = _
  rw [bind_apply (next?_apply hpad rfl _), List.append_assoc]
  show (drop >>= fun _ => next? >>= _) ('[' :: (inner ++ ']' :: rest)) = _
  rw [bind_apply (a := ()) (t := inner ++ ']' :: rest) rfl]
  cases hinner with
  | nil hblank => exact bind_apply (next?_apply hblank rfl rest)
  | @cons _ part parts sep _ cs hsep hpart hcs =>
    subst hpart
    have henough : 2 * (part.length + cs.length) < fuel := by
      simp only [List.length_append, List.length_cons] at hfuel
      omega
    have hitems := skipItems_apply hskips hcs henough blank_nil rest
    obtain ⟨c, text, rfl, hc, hne⟩ := (hp part List.mem_cons_self).opens
    rw [List.append_assoc, List.append_assoc, List.cons_append,
      bind_apply (next?_apply hsep hc _)]
    generalize hnext : some c = next
    split
    all_goals cases hnext
    · exact absurd rfl (hne .list)
    · exact hitems

theorem skips_object {ms : List (List Char × List Char)} {cs : List Char}
    (hk : ∀ m ∈ ms, IsString m.1) (hskips : ∀ m ∈ ms, Skips m.2)
    (h : Enclosed .object IsPair ms cs) : Skips cs := by
  obtain ⟨inner, hinner, rfl⟩ := h
  rintro (_ | fuel) hfuel pad rest hpad hr
  · simp at hfuel
  rw [skipFrom]
  show (next? >>= _) (pad ++ '\x7b' :: (inner ++ ['\x7d'] ++ rest)) = _
  rw [bind_apply (next?_apply hpad rfl _), List.append_assoc]
  show (drop >>= fun _ => next? >>= _) ('\x7b' :: (inner ++ '\x7d' :: rest)) = _
  rw [bind_apply (a := ()) (t := inner ++ '\x7d' :: rest) rfl]
  cases hinner with
  | nil hblank => exact bind_apply (next?_apply hblank rfl rest)
  | @cons _ m ms sep part cs hsep hpart hcs =>
    have henough : 2 * (part.length + cs.length) < fuel := by
      simp only [List.length_append, List.length_cons] at hfuel
      omega
    have hmembers := skipMembers_apply hk hskips hpart hcs henough blank_nil rest
    obtain ⟨before, after, -, -, rfl⟩ := hpart
    obtain ⟨key, hkey⟩ := (hk m List.mem_cons_self).exists_cons
    rw [hkey] at hmembers ⊢
    simp only [List.append_assoc, List.cons_append]
    rw [bind_apply (next?_apply hsep rfl _)]
    simpa using hmembers

/-- **Every value is skipped.** -/
theorem IsValue.skips {cs : List Char} (h : IsValue cs) : Skips cs := by
  induction h with
  | null =>
    rintro (_ | fuel) hfuel pad rest hp hr
    · simp at hfuel
    rw [skipFrom]
    show (next? >>= _) (pad ++ 'n' :: ("ull".toList ++ rest)) = _
    rw [bind_apply (next?_apply hp rfl _)]
    exact word_apply "null".toList rest
  | boolean b =>
    rintro (_ | fuel) hfuel pad rest hp hr
    · cases b <;> simp at hfuel
    rw [skipFrom]
    cases b with
    | true =>
      show (next? >>= _) (pad ++ 't' :: ("rue".toList ++ rest)) = _
      rw [bind_apply (next?_apply hp rfl _)]
      exact word_apply "true".toList rest
    | false =>
      show (next? >>= _) (pad ++ 'f' :: ("alse".toList ++ rest)) = _
      rw [bind_apply (next?_apply hp rfl _)]
      exact word_apply "false".toList rest
  | number h => exact h.skips
  | string h => exact h.skips
  | list hp h ih => exact skips_list hp ih h
  | object hk _ h ih => exact skips_object hk ih h

/-- A value that nobody looks at is taken as a whole. -/
theorem takes_skip {cs : List Char} (h : IsValue cs) : Takes skip cs () := fun pad rest hp hr =>
  (bind_apply (x := get) rfl).trans (h.skips _ (by simp; omega) pad rest hp hr)

end HookPlan.Json
