import HookPlan.Plan.Format
import Mathlib.Data.List.TakeWhile

/-!
# Texts that name a format

A format is named by its name with white space around it, in any case of the letters. White space
is that of Unicode, the case of letters that of the English alphabet.

* `Unicode.toList_trim_of_padded`, `Unicode.exists_padded`: what is left of a text with white space
  around it.
* `Plan.Format.Names`: the texts that name a format.
* `Plan.Format.parse_eq_ok_iff`, `parse_eq_error_iff`: these texts are read, and no others.
-/

namespace HookPlan

namespace Unicode

variable {s : String} {before word after pad cs : List Char}

/-- No capital letter is white space. -/
theorem toLower_of_isSpace {c : Char} (h : isSpace c = true) : c.toLower = c := by
  have hupper : ¬ ('A'.val ≤ c.val ∧ c.val ≤ 'Z'.val) := by
    rw [UInt32.le_iff_toNat_le, UInt32.le_iff_toNat_le]
    show ¬ (65 ≤ c.toNat ∧ c.toNat ≤ 90)
    simp only [isSpace, Bool.or_eq_true, Bool.and_eq_true, decide_eq_true_eq, beq_iff_eq] at h
    omega
  exact dif_neg hupper

/-- White space in front of a character that is none is dropped, and nothing else. -/
theorem dropWhile_isSpace_append (hp : ∀ c ∈ pad, isSpace c = true)
    (hcs : ∀ c ∈ cs.head?, isSpace c = false) : (pad ++ cs).dropWhile isSpace = cs := by
  rw [List.dropWhile_append_of_pos hp]
  cases cs with
  | nil => rfl
  | cons c cs => exact List.dropWhile_cons_of_neg (by simp [hcs c rfl])

/-- White space around a word is dropped at both ends. -/
theorem toList_trim_of_padded (h : s.toList = before ++ word ++ after)
    (hb : ∀ c ∈ before, isSpace c = true) (ha : ∀ c ∈ after, isSpace c = true)
    (hw : ∀ c ∈ word, isSpace c = false) : (trim s).toList = word := by
  rw [trim, String.toList_ofList, h]
  cases word with
  | nil =>
    have hall : (before ++ [] ++ after).dropWhile isSpace = [] := by
      rw [List.append_nil, List.dropWhile_append_of_pos hb, List.dropWhile_eq_nil_iff]
      exact ha
    rw [hall]
    rfl
  | cons c cs =>
    have hhead : ∀ d ∈ (c :: cs ++ after).head?, isSpace d = false := by
      rintro d ⟨⟩
      exact hw c List.mem_cons_self
    have hlast : ∀ d ∈ (c :: cs).reverse.head?, isSpace d = false := fun d hd =>
      hw d (List.mem_reverse.1 (List.mem_of_mem_head? hd))
    have ha' : ∀ d ∈ after.reverse, isSpace d = true := fun d hd => ha d (List.mem_reverse.1 hd)
    rw [List.append_assoc, dropWhile_isSpace_append hb hhead, List.reverse_append,
      dropWhile_isSpace_append ha' hlast, List.reverse_reverse]

/-- Nothing but white space around it is missing from a trimmed text. -/
theorem exists_padded (s : String) : ∃ before after : List Char,
    s.toList = before ++ (trim s).toList ++ after ∧
      (∀ c ∈ before, isSpace c = true) ∧ ∀ c ∈ after, isSpace c = true := by
  set rest := s.toList.dropWhile isSpace with hrest
  refine ⟨s.toList.takeWhile isSpace, (rest.reverse.takeWhile isSpace).reverse, ?_,
    fun c hc => List.mem_takeWhile_imp hc,
    fun c hc => List.mem_takeWhile_imp (List.mem_reverse.1 hc)⟩
  have hback : (rest.reverse.dropWhile isSpace).reverse ++ (rest.reverse.takeWhile isSpace).reverse =
      rest := by
    rw [← List.reverse_append, List.takeWhile_append_dropWhile, List.reverse_reverse]
  rw [trim, String.toList_ofList, ← hrest, List.append_assoc, hback, hrest,
    List.takeWhile_append_dropWhile]

end Unicode

namespace Plan.Format

open Unicode (isSpace)

variable {f : Format} {s : String} {u : Unknown}

def name : Format → String
  | text => "text"
  | json => "json"

/-- A text names a format if it is the format's name but for the case of letters and for white
space around it. -/
def Names (f : Format) (s : String) : Prop :=
  ∃ before word after : List Char, s.toList = before ++ word ++ after ∧
    (∀ c ∈ before, isSpace c = true) ∧ (∀ c ∈ after, isSpace c = true) ∧
    word.map Char.toLower = f.name.toList.map Char.toLower

theorem map_toLower_name (f : Format) : f.name.toList.map Char.toLower = f.name.toList := by
  cases f <;> rfl

theorem isSpace_of_mem_name {c : Char} (h : c ∈ f.name.toList) : isSpace c = false := by
  have hall : f.name.toList.all (fun c => !isSpace c) = true := by cases f <;> rfl
  simpa using List.all_eq_true.1 hall c h

/-- **Texts that name a format** are those whose normal form is its name. -/
theorem names_iff_normalize : f.Names s ↔ normalize s = f.name := by
  rw [← String.toList_inj, normalize, String.toList_ofList]
  constructor
  · rintro ⟨before, word, after, hs, hb, ha, hword⟩
    rw [map_toLower_name] at hword
    have hw : ∀ c ∈ word, isSpace c = false := by
      intro c hc
      have hlow : isSpace c.toLower = false :=
        isSpace_of_mem_name (hword ▸ List.mem_map_of_mem hc)
      cases hspace : isSpace c with
      | false => rfl
      | true => rw [Unicode.toLower_of_isSpace hspace, hspace] at hlow; cases hlow
    rw [Unicode.toList_trim_of_padded hs hb ha hw, hword]
  · intro h
    obtain ⟨before, after, hs, hb, ha⟩ := Unicode.exists_padded s
    exact ⟨before, _, after, hs, hb, ha, by rw [h, map_toLower_name]⟩

/-- **A format is read from the texts that name it.** -/
theorem parse_eq_ok_iff : parse s = .ok f ↔ f.Names s := by
  rw [names_iff_normalize, parse]
  by_cases ht : normalize s = "text"
  · cases f <;> simp [ht, name]
  · by_cases hj : normalize s = "json"
    · cases f <;> simp [hj, name]
    · cases f <;> simp [ht, hj, name]

example : Names .json "\n jSoN\u00a0" := parse_eq_ok_iff.1 rfl

theorem name_of_parse_eq_error (h : parse s = .error u) : u.name = normalize s := by
  unfold parse at h
  dsimp only at h
  split at h
  · cases h
  · split at h
    · cases h
    · rw [← Except.error.inj h]

/-- Any other text is refused in its normal form. -/
theorem parse_eq_error_iff :
    parse s = .error u ↔ (∀ f : Format, ¬ f.Names s) ∧ u.name = normalize s := by
  constructor
  · intro h
    refine ⟨fun f hf => ?_, name_of_parse_eq_error h⟩
    rw [parse_eq_ok_iff.2 hf] at h
    cases h
  · rintro ⟨hno, hname⟩
    cases hs : parse s with
    | ok f => exact absurd (parse_eq_ok_iff.1 hs) (hno f)
    | error v =>
      obtain ⟨name⟩ := u
      obtain ⟨name'⟩ := v
      obtain rfl : name = name' := hname.trans (name_of_parse_eq_error hs).symm
      rfl

end Plan.Format

end HookPlan
