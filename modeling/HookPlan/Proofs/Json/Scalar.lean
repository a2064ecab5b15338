import HookPlan.Json.Writer
import HookPlan.Proofs.Json.Grammar

/-!
# Reading back strings and numbers

What the writer makes of a value is followed by a line break, a comma or nothing, and may have
spaces before it. A reader takes the value back from there, and takes nothing more.

* `Takes`: what it means that a reader takes a value off a text.
* `takes_string`, `takes_boolean`, `takes_natural`: values without parts.
* `takes_optional`: a value that is not null.
-/

namespace HookPlan.Json

variable {α β : Type}

/-! ### Readers step by step -/

theorem bind_apply {x : Reader α} {f : α → Reader β} {s t : List Char} {a : α}
    (h : x s = .ok (a, t)) : (x >>= f) s = f a t := by
  show Except.bind (x s) _ = _
  rw [h]
  rfl

/-- What may follow a value: nothing that would carry a number on. -/
def Ends (cs : List Char) : Prop :=
  ∀ c ∈ cs.head?, (c.isDigit || c == '.' || c == 'e' || c == 'E') = false

theorem blank_nil : Blank [] := by simp [Blank]

theorem ends_nil : Ends [] := by simp [Ends]

theorem Blank.ends_append {pad cs : List Char} (hp : Blank pad) (hcs : Ends cs) :
    Ends (pad ++ cs) := by
  cases pad with
  | nil => exact hcs
  | cons c pad =>
    intro d hd
    obtain rfl : c = d := by simpa using hd
    have hspace : isSpace c = true := hp c List.mem_cons_self
    simp only [isSpace, Bool.or_eq_true, beq_iff_eq] at hspace
    rcases hspace with ((rfl | rfl) | rfl) | rfl <;> rfl

theorem next?_apply {pad : List Char} (hp : Blank pad) {c : Char} (hc : isSpace c = false)
    (cs : List Char) : next? (pad ++ c :: cs) = .ok (some c, c :: cs) := by
  have hskip : (pad ++ c :: cs).dropWhile isSpace = c :: cs := by
    rw [List.dropWhile_append_of_pos hp, List.dropWhile_cons_of_neg (by simp [hc])]
  show (skipSpace >>= fun _ => peek?) _ = _
  rw [bind_apply (a := ()) rfl]
  show Except.ok (List.head? (List.dropWhile _ _), List.dropWhile _ _) = _
  rw [hskip]
  rfl

/-- A reader takes a value off a text, past spaces before it, and leaves what follows. -/
def Takes (read : Reader α) (text : List Char) (a : α) : Prop :=
  ∀ pad rest, Blank pad → Ends rest → read (pad ++ (text ++ rest)) = .ok (a, rest)

theorem Takes.apply {read : Reader α} {text rest : List Char} {a : α} (h : Takes read text a)
    (hr : Ends rest) : read (text ++ rest) = .ok (a, rest) := h [] rest blank_nil hr

theorem takes_optional {read : Reader α} {c : Char} {text : List Char} {a : α}
    (h : Takes read (c :: text) a) (hc : isSpace c = false) (hn : c ≠ 'n') :
    Takes (optional read) (c :: text) (some a) := by
  intro pad rest hp hr
  unfold optional
  rw [List.cons_append, bind_apply (next?_apply hp hc _)]
  generalize hnext : some c = next
  split
  · exact absurd (Option.some.inj hnext) hn
  · exact bind_apply (h.apply hr)

/-! ### Words -/

theorem word_apply (w rest : List Char) : word w (w ++ rest) = .ok ((), rest) := by
  induction w with
  | nil => rfl
  | cons c w ih =>
    unfold word
    rw [List.cons_append, bind_apply (a := some c) (t := c :: (w ++ rest)) rfl]
    dsimp only
    rw [if_pos (beq_self_eq_true c), bind_apply (a := ()) (t := w ++ rest) rfl]
    exact ih

theorem takes_boolean (b : Bool) : Takes boolean ((if b then "true" else "false").toList) b := by
  intro pad rest hp hr
  unfold boolean
  cases b with
  | true =>
    show (next? >>= _) (pad ++ 't' :: ("rue".toList ++ rest)) = _
    rw [bind_apply (next?_apply hp rfl _)]
    exact bind_apply (word_apply "true".toList rest)
  | false =>
    show (next? >>= _) (pad ++ 'f' :: ("alse".toList ++ rest)) = _
    rw [bind_apply (next?_apply hp rfl _)]
    exact bind_apply (word_apply "false".toList rest)

/-! ### Strings -/

/-- A digit in base sixteen counts the same in either case. -/
theorem hexDigit?_of_toLower {c : Char} {k : ℕ} (hk : k < 16)
    (h : c.toLower = Nat.digitChar k) : hexDigit? c = some k := by
  unfold Char.toLower at h
  split at h
  · rename_i hc
    obtain ⟨j, hj, rfl⟩ : ∃ j < 26, Char.ofNat (65 + j) = c := by
      have hlo : 65 ≤ c.toNat := hc.1
      have hhi : c.toNat ≤ 90 := hc.2
      exact ⟨c.toNat - 65, by omega, by rw [Nat.add_sub_cancel' hlo, Char.ofNat_toNat]⟩
    revert j k
    decide
  · subst h
    revert k
    decide

theorem fourDigits_apply {n : ℕ} {ds : List Char} (h : FourDigits n ds) (cs : List Char) :
    fourDigits (ds ++ cs) = .ok (n, cs) := by
  obtain ⟨hn, hds⟩ := h
  obtain ⟨a, b, c, d, rfl, ha, hb, hc, hd⟩ : ∃ a b c d, ds = [a, b, c, d] ∧
      a.toLower = Nat.digitChar (n / 4096) ∧ b.toLower = Nat.digitChar (n / 256 % 16) ∧
      c.toLower = Nat.digitChar (n / 16 % 16) ∧ d.toLower = Nat.digitChar (n % 16) := by
    simpa [List.map_eq_cons_iff, and_assoc] using hds
  have hvalue : hexValue? [a, b, c, d] = some n := by
    simp only [hexValue?, List.foldlM_cons, List.foldlM_nil]
    rw [hexDigit?_of_toLower (by omega) ha, hexDigit?_of_toLower (by omega) hb,
      hexDigit?_of_toLower (by omega) hc, hexDigit?_of_toLower (by omega) hd]
    exact congrArg some (by omega)
  unfold fourDigits
  rw [bind_apply (a := [a, b, c, d] ++ cs) (t := [a, b, c, d] ++ cs) rfl]
  simp only [List.cons_append, List.nil_append, List.take_succ_cons, List.take_zero, hvalue,
    List.length_cons]
  rw [decide_eq_true (by omega)]
  rfl

/-- No character is half of a pair of codes. -/
theorem isSurrogate_eq_false (c : Char) :
    isLowSurrogate c.toNat = false ∧ isHighSurrogate c.toNat = false := by
  have hvalid : c.toNat < 0xd800 ∨ 0xdfff < c.toNat ∧ c.toNat < 0x110000 := c.valid
  simp only [isLowSurrogate, isHighSurrogate, Bool.and_eq_false_iff, decide_eq_false_iff_not]
  omega

theorem unicodeEscape_code {c : Char} {ds : List Char} (h : FourDigits c.toNat ds)
    (cs : List Char) : unicodeEscape (ds ++ cs) = .ok (c, cs) := by
  obtain ⟨hlow, hhigh⟩ := isSurrogate_eq_false c
  unfold unicodeEscape
  rw [bind_apply (fourDigits_apply h cs), hlow, hhigh, if_neg Bool.false_ne_true,
    if_neg Bool.false_ne_true, Char.ofNat_toNat]
  rfl

theorem unicodeEscape_pair {c : Char} {hs ls : List Char} (hc : 0x10000 ≤ c.toNat)
    (hh : FourDigits (0xd800 + (c.toNat - 0x10000) / 0x400) hs)
    (hl : FourDigits (0xdc00 + (c.toNat - 0x10000) % 0x400) ls) (cs : List Char) :
    unicodeEscape (hs ++ '\\' :: 'u' :: (ls ++ cs)) = .ok (c, cs) := by
  have hmax : c.toNat < 0xd800 ∨ 0xdfff < c.toNat ∧ c.toNat < 0x110000 := c.valid
  set high := 0xd800 + (c.toNat - 0x10000) / 0x400 with hhigh
  set low := 0xdc00 + (c.toNat - 0x10000) % 0x400 with hlow
  have hnot : isLowSurrogate high = false := by
    simp only [isLowSurrogate, Bool.and_eq_false_iff, decide_eq_false_iff_not]
    omega
  have his : isHighSurrogate high = true := by
    simp only [isHighSurrogate, Bool.and_eq_true, decide_eq_true_eq]
    omega
  have hsecond : isLowSurrogate low = true := by
    simp only [isLowSurrogate, Bool.and_eq_true, decide_eq_true_eq]
    omega
  have hsum : 0x10000 + (high - 0xd800) * 0x400 + (low - 0xdc00) = c.toNat := by omega
  unfold unicodeEscape
  rw [bind_apply (fourDigits_apply hh _), hnot, if_neg Bool.false_ne_true, his, if_pos rfl,
    bind_apply (x := expectInString '\\') (a := ()) (t := 'u' :: (ls ++ cs)) rfl,
    bind_apply (x := expectInString 'u') (a := ()) (t := ls ++ cs) rfl,
    bind_apply (fourDigits_apply hl cs), hsecond, if_pos rfl, hsum, Char.ofNat_toNat]
  rfl

theorem escape_unicode {c : Char} {cs rest : List Char} (h : unicodeEscape cs = .ok (c, rest)) :
    escape ('u' :: cs) = .ok (c, rest) := by
  unfold escape
  rw [bind_apply (a := some 'u') rfl]
  show (drop >>= fun _ => unicodeEscape) ('u' :: cs) = _
  rw [bind_apply (a := ()) rfl]
  exact h

theorem escape_short {e c : Char} (h : (e, c) ∈ shortEscapes) (cs : List Char) :
    escape (e :: cs) = .ok (c, cs) := by
  simp only [shortEscapes, List.mem_cons, List.not_mem_nil, or_false, Prod.mk.injEq] at h
  rcases h with ⟨rfl, rfl⟩ | ⟨rfl, rfl⟩ | ⟨rfl, rfl⟩ | ⟨rfl, rfl⟩ | ⟨rfl, rfl⟩ | ⟨rfl, rfl⟩ |
    ⟨rfl, rfl⟩ | ⟨rfl, rfl⟩ <;> rfl

theorem stringFrom_escape {c : Char} {cs rest : List Char} (h : escape cs = .ok (c, rest))
    (fuel : ℕ) : stringFrom (fuel + 1) ('\\' :: cs) =
      (stringFrom fuel >>= fun s => pure (c :: s)) rest := by
  rw [stringFrom, bind_apply (a := some '\\') rfl]
  show (drop >>= fun _ => escape >>= _) ('\\' :: cs) = _
  rw [bind_apply (a := ()) (t := cs) rfl, bind_apply h]

/-- A character is read from every text that stands for it. -/
theorem stringFrom_spells {part : List Char} {c : Char} (h : Spells part c) (fuel : ℕ)
    (cs : List Char) : stringFrom (fuel + 1) (part ++ cs) =
      (stringFrom fuel >>= fun s => pure (c :: s)) cs := by
  cases h with
  | plain h =>
    obtain ⟨hquote, hslash, hcontrol⟩ := h
    rw [stringFrom, List.cons_append, bind_apply (a := some c) (t := c :: ([] ++ cs)) rfl]
    generalize hnext : some c = next
    split
    all_goals cases hnext
    · exact absurd rfl hquote
    · exact absurd rfl hslash
    · rw [if_neg (by simpa [isControl] using hcontrol)]
      exact bind_apply (a := ()) rfl
  | short h => exact stringFrom_escape (escape_short h cs) fuel
  | code h => exact stringFrom_escape (escape_unicode (unicodeEscape_code h cs)) fuel
  | pair hc hh hl =>
    refine stringFrom_escape (escape_unicode ?_) fuel
    simpa using unicodeEscape_pair hc hh hl cs

theorem Spells.ne_nil {part : List Char} {c : Char} (h : Spells part c) : part ≠ [] := by
  cases h <;> exact List.cons_ne_nil _ _

theorem stringFrom_apply {parts : List (List Char)} {s : List Char}
    (h : List.Forall₂ Spells parts s) (rest : List Char) {fuel : ℕ} (hfuel : s.length < fuel) :
    stringFrom fuel (parts.flatten ++ '"' :: rest) = .ok (s, rest) := by
  induction h generalizing fuel with
  | nil =>
    obtain ⟨fuel, rfl⟩ : ∃ k, fuel = k + 1 := ⟨fuel - 1, by omega⟩
    rfl
  | cons h _ ih =>
    obtain ⟨fuel, rfl⟩ : ∃ k, fuel = k + 1 := ⟨fuel - 1, by omega⟩
    rw [List.flatten_cons, List.append_assoc, stringFrom_spells h]
    exact bind_apply (ih (by simpa using hfuel))

theorem length_le_of_spells {parts : List (List Char)} {s : List Char}
    (h : List.Forall₂ Spells parts s) : s.length ≤ parts.flatten.length := by
  induction h with
  | nil => exact Nat.zero_le _
  | cons h _ ih =>
    have := List.length_pos_of_ne_nil h.ne_nil
    rw [List.flatten_cons, List.length_append, List.length_cons]
    omega

theorem quoted_apply {cs : List Char} {s : String} (h : Spelled cs s) (rest : List Char) :
    quoted (cs ++ rest) = .ok (s, rest) := by
  obtain ⟨parts, hparts, rfl⟩ := h
  set body := parts.flatten ++ '"' :: rest with hbody
  have htext : '"' :: (parts.flatten ++ ['"']) ++ rest = '"' :: body := by simp [hbody]
  have hfuel : s.toList.length < body.length + 1 := by
    have := length_le_of_spells hparts
    rw [hbody, List.length_append]
    omega
  unfold quoted
  rw [htext, bind_apply (a := ()) (t := body) rfl, bind_apply (a := body) (t := body) rfl,
    bind_apply (hbody ▸ stringFrom_apply hparts rest (hbody ▸ hfuel)), String.ofList_toList]
  rfl

/-- **A string is read from every text that stands for it.** -/
theorem takes_stringAs (expected : String) {cs : List Char} {s : String} (h : Spelled cs s) :
    Takes (stringAs expected) cs s := by
  intro pad rest hp _
  have hread := quoted_apply h rest
  obtain ⟨parts, -, rfl⟩ := h
  unfold stringAs
  show (next? >>= _) (pad ++ '"' :: _) = _
  rw [bind_apply (next?_apply hp rfl _)]
  exact hread

theorem takes_string {cs : List Char} {s : String} (h : Spelled cs s) : Takes string cs s :=
  takes_stringAs _ h

/-! ### Strings that are written -/

theorem lowerHexDigit_eq : ∀ n < 16, (Text.lowerHexDigit n).toLower = Nat.digitChar n := by
  decide

theorem spells_escapedChar (c : Char) : Spells (escapedChar c) c := by
  unfold escapedChar
  split
  iterate 7 exact .short (by decide)
  rename_i hquote hslash _ _ _ _ _
  by_cases hc : c.toNat < 0x20
  · rw [if_pos hc]
    refine .code ⟨by omega, ?_⟩
    simp only [List.map_cons, List.map_nil, lowerHexDigit_eq _ (show c.toNat / 16 < 16 by omega),
      lowerHexDigit_eq _ (show c.toNat % 16 < 16 by omega)]
    rw [show c.toNat / 4096 = 0 by omega, show c.toNat / 256 % 16 = 0 by omega,
      show c.toNat / 16 % 16 = c.toNat / 16 by omega]
    rfl
  · rw [if_neg hc]
    exact .plain ⟨hquote, hslash, by omega⟩

/-- What is written for a string stands for it. -/
theorem spelled_renderString (s : String) : Spelled (renderString s) s :=
  ⟨s.toList.map escapedChar,
    List.forall₂_map_left_iff.2 (List.forall₂_same.2 fun c _ => spells_escapedChar c), by
      rw [renderString, List.flatMap_def, List.cons_append]⟩

/-! ### Numbers -/

theorem head?_toDigits {n : ℕ} (hn : n ≠ 0) : (Nat.toDigits 10 n).head? ≠ some '0' := by
  induction n using Nat.strongRecOn with
  | ind n ih =>
    rw [Nat.toDigits_eq_if (by omega)]
    split
    · simpa using hn
    · have hne : n / 10 ≠ 0 := by omega
      have := ih (n / 10) (by omega) hne
      cases hd : Nat.toDigits 10 (n / 10) with
      | nil => exact absurd hd Nat.toDigits_ne_nil
      | cons d ds => rw [hd] at this; simpa using this

/-- Digits whose value has 64 bits are all taken. -/
theorem leadingValue_eq {ds : List Char} {n : ℕ} (h : Nat.ofDigitChars 10 ds n ≤ maxNatural) :
    leadingValue n ds = (Nat.ofDigitChars 10 ds n, 0) := by
  induction ds generalizing n with
  | nil => rfl
  | cons d ds ih =>
    rw [Nat.ofDigitChars_cons] at h ⊢
    have hle : 10 * n + (d.toNat - '0'.toNat) ≤ maxNatural := by
      rw [Nat.ofDigitChars_eq_ofDigitChars_zero] at h
      have := Nat.le_mul_of_pos_left (10 * n + (d.toNat - '0'.toNat))
        (Nat.pow_pos (n := ds.length) (show 0 < 10 by decide))
      omega
    rw [leadingValue, if_pos hle, ih h]

theorem Ends.head_not {rest : List Char} (hr : Ends rest) {c : Char} (hc : c ∈ rest.head?) :
    c.isDigit = false ∧ c ≠ '.' ∧ c ≠ 'e' ∧ c ≠ 'E' := by
  have h := hr c hc
  simp only [Bool.or_eq_false_iff, beq_eq_false_iff_ne] at h
  exact ⟨h.1.1.1, h.1.1.2, h.1.2, h.2⟩

/-- No digit is next. -/
def NoDigit (cs : List Char) : Prop := ∀ c ∈ cs.head?, c.isDigit = false

theorem Ends.noDigit {rest : List Char} (hr : Ends rest) : NoDigit rest :=
  fun _ hc => (hr.head_not hc).1

theorem Ends.head?_ne_point {rest : List Char} (hr : Ends rest) : rest.head? ≠ some '.' :=
  fun h => (hr.head_not h).2.1 rfl

theorem Ends.startsExponent_eq_false {rest : List Char} (hr : Ends rest) :
    startsExponent rest.head? = false := by
  unfold startsExponent
  rw [Bool.or_eq_false_iff, beq_eq_false_iff_ne, beq_eq_false_iff_ne]
  exact ⟨fun h => (hr.head_not h).2.2.1 rfl, fun h => (hr.head_not h).2.2.2 rfl⟩

theorem digits_apply {ds rest : List Char} (hds : ∀ c ∈ ds, c.isDigit = true)
    (hr : NoDigit rest) : digits (ds ++ rest) = .ok (ds, rest) := by
  have hrest : rest.takeWhile Char.isDigit = [] ∧ rest.dropWhile Char.isDigit = rest := by
    cases rest with
    | nil => exact ⟨rfl, rfl⟩
    | cons c rest => simp [hr c rfl]
  show Except.ok ((ds ++ rest).takeWhile _, (ds ++ rest).dropWhile _) = _
  rw [List.takeWhile_append_of_pos hds, List.dropWhile_append_of_pos hds, hrest.1, hrest.2,
    List.append_nil]

theorem wholeDigits_apply {ds rest : List Char} (h : IsWhole ds) (hr : NoDigit rest)
    (atEnd : Cause) : wholeDigits atEnd (ds ++ rest) = .ok (ds, rest) := by
  unfold wholeDigits
  rcases h with rfl | ⟨⟨hne, hall⟩, hzero⟩
  · show (peek? >>= _) ('0' :: rest) = _
    rw [bind_apply (a := some '0') rfl]
    show (drop >>= fun _ => peek? >>= _) ('0' :: rest) = _
    rw [bind_apply (a := ()) (t := rest) rfl, bind_apply (a := rest.head?) (t := rest) rfl,
      if_neg]
    · rfl
    · cases hh : rest.head? with
      | none => simp
      | some c => simp [hr c hh]
  · obtain ⟨d, ds, rfl⟩ := List.exists_cons_of_ne_nil hne
    rw [bind_apply (a := some d) (t := d :: ds ++ rest) rfl]
    generalize hnext : some d = next
    split
    all_goals cases hnext
    · exact absurd rfl hzero
    · rw [if_pos (hall d List.mem_cons_self)]
      exact digits_apply hall hr

theorem isWhole_toDigits (n : ℕ) : IsWhole (Nat.toDigits 10 n) := by
  by_cases hn : n = 0
  · exact .inl (hn ▸ Nat.toDigits_zero 10)
  · exact .inr ⟨⟨Nat.toDigits_ne_nil, fun c hc =>
      Nat.isDigit_of_mem_toDigits (by omega) (by omega) hc⟩, head?_toDigits hn⟩

theorem IsWhole.exists_cons {whole : List Char} (h : IsWhole whole) :
    ∃ d ds, whole = d :: ds ∧ d.isDigit = true := by
  rcases h with rfl | ⟨⟨hne, hall⟩, -⟩
  · exact ⟨'0', [], rfl, rfl⟩
  · obtain ⟨d, ds, rfl⟩ := List.exists_cons_of_ne_nil hne
    exact ⟨d, ds, rfl, hall d List.mem_cons_self⟩

theorem isSpace_eq_false_of_isDigit {c : Char} (h : c.isDigit = true) : isSpace c = false := by
  rw [Bool.eq_false_iff]
  intro hs
  simp only [isSpace, Bool.or_eq_true, beq_iff_eq] at hs
  rcases hs with ((rfl | rfl) | rfl) | rfl <;> cases h

/-- Digits alone are a whole number without a sign. -/
theorem lexeme_apply (n : ℕ) {rest : List Char} (hr : Ends rest) :
    lexeme .valueEnds true (Nat.toDigits 10 n ++ rest) =
      .ok (⟨false, Nat.toDigits 10 n, [], 0, false, false⟩, rest) := by
  obtain ⟨d, ds, hds, hd⟩ := (isWhole_toDigits n).exists_cons
  have hsign : (some d == some '-') = false := by
    rw [beq_eq_false_iff_ne]
    rintro ⟨⟩
    cases hd
  have hpoint : (rest.head? == some '.') = false := beq_eq_false_iff_ne.2 hr.head?_ne_point
  have hwhole := wholeDigits_apply (isWhole_toDigits n) hr.noDigit .valueEnds
  unfold lexeme
  rw [bind_apply (a := some d) (t := Nat.toDigits 10 n ++ rest) (by rw [hds]; rfl)]
  dsimp only
  rw [hsign, if_neg Bool.false_ne_true, bind_apply hwhole,
    bind_apply (a := rest.head?) (t := rest) rfl, hpoint, if_neg Bool.false_ne_true,
    bind_apply (a := []) (t := rest) rfl, bind_apply (a := rest.head?) (t := rest) rfl,
    hr.startsExponent_eq_false, if_neg Bool.false_ne_true,
    bind_apply (a := 0) (t := rest) rfl]
  rfl

theorem takes_natural {n : ℕ} (hn : n ≤ maxNatural) : Takes natural (Nat.toDigits 10 n) n := by
  intro pad rest hp hr
  obtain ⟨d, ds, hds, hd⟩ := (isWhole_toDigits n).exists_cons
  have hvalue : leadingValue 0 (Nat.toDigits 10 n) = (n, 0) := by
    have h := Nat.ofDigitChars_ten_toDigits (n := n)
    rw [leadingValue_eq (by rwa [h]), h]
  have hnumeral : numeral (d :: (ds ++ rest)) = .ok (.natural n, rest) := by
    unfold numeral
    rw [← List.cons_append, ← hds, bind_apply (lexeme_apply n hr), Lexeme.numeral?, hvalue]
    rfl
  unfold natural
  rw [hds, List.cons_append, bind_apply (next?_apply hp (isSpace_eq_false_of_isDigit hd) _)]
  dsimp only
  rw [hd, Bool.or_true, if_pos rfl, bind_apply hnumeral]
  rfl

end HookPlan.Json
