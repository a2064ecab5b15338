import HookPlan.Json.Reader
import Mathlib.Data.List.Basic
import Mathlib.Data.List.Forall2

/-!
# The grammar of JSON

What texts are strings, numbers, lists and objects, whoever wrote them and however they are laid
out. A string may be written in many ways, and there may be spaces wherever they mean nothing.

* `Spelled`: the texts that stand for a string.
* `Separated`, `Enclosed`: parts with commas between them, and brackets around.
* `IsValue`: the texts of all values, nested as deep as they like.
-/

namespace HookPlan.Json

/-- Characters that readers skip. -/
def Blank (cs : List Char) : Prop := ∀ c ∈ cs, isSpace c = true

/-! ### Strings -/

/-- The escapes of two characters: what follows the backslash, and what that stands for. -/
def shortEscapes : List (Char × Char) :=
  [('"', '"'), ('\\', '\\'), ('/', '/'), ('b', '\x08'), ('f', '\x0c'), ('n', '\n'), ('r', '\r'),
    ('t', '\t')]

/-- Four digits in base sixteen, of which letters may have either case. -/
def FourDigits (n : ℕ) (ds : List Char) : Prop :=
  n < 65536 ∧
    ds.map Char.toLower = [n / 4096, n / 256 % 16, n / 16 % 16, n % 16].map Nat.digitChar

/-- A character that may stand for itself in a string. -/
def IsPlain (c : Char) : Prop := c ≠ '"' ∧ c ≠ '\\' ∧ 0x20 ≤ c.toNat

instance : DecidablePred IsPlain := fun _ => inferInstanceAs (Decidable (_ ∧ _ ∧ _))

/-- A text that stands for a character of a string. -/
inductive Spells : List Char → Char → Prop
  | plain {c : Char} (h : IsPlain c) : Spells [c] c
  | short {e c : Char} (h : (e, c) ∈ shortEscapes) : Spells ['\\', e] c
  | code {c : Char} {ds : List Char} (h : FourDigits c.toNat ds) : Spells ('\\' :: 'u' :: ds) c
  /-- A character beyond the first 65536 takes two codes. -/
  | pair {c : Char} {hs ls : List Char} (hc : 0x10000 ≤ c.toNat)
    (hh : FourDigits (0xd800 + (c.toNat - 0x10000) / 0x400) hs)
    (hl : FourDigits (0xdc00 + (c.toNat - 0x10000) % 0x400) ls) :
    Spells ('\\' :: 'u' :: (hs ++ '\\' :: 'u' :: ls)) c

/-- A text stands for a string, with its quotes. -/
def Spelled (cs : List Char) (s : String) : Prop :=
  ∃ parts : List (List Char), List.Forall₂ Spells parts s.toList ∧
    cs = '"' :: (parts.flatten ++ ['"'])

/-- A part of a string, which need not stand for a character. -/
inductive IsFragment : List Char → Prop
  | plain {c : Char} (h : IsPlain c) : IsFragment [c]
  | short {e : Char} (h : e ∈ shortEscapes.map Prod.fst) : IsFragment ['\\', e]
  | code {n : ℕ} {ds : List Char} (h : FourDigits n ds) : IsFragment ('\\' :: 'u' :: ds)

/-- A string with its quotes, whether or not it stands for anything. -/
def IsString (cs : List Char) : Prop :=
  ∃ parts : List (List Char), (∀ p ∈ parts, IsFragment p) ∧ cs = '"' :: (parts.flatten ++ ['"'])

/-! ### Numbers -/

def IsDigits (ds : List Char) : Prop := ds ≠ [] ∧ ∀ c ∈ ds, c.isDigit = true

/-- The digits before the point, of which the first is zero only if it is the only one. -/
def IsWhole (ds : List Char) : Prop := ds = ['0'] ∨ IsDigits ds ∧ ds.head? ≠ some '0'

/-- A point and digits, or nothing. -/
def IsFraction (cs : List Char) : Prop := cs = [] ∨ ∃ ds, IsDigits ds ∧ cs = '.' :: ds

/-- An exponent, or nothing. -/
def IsExponent (cs : List Char) : Prop :=
  cs = [] ∨ ∃ e sign ds, (e = 'e' ∨ e = 'E') ∧ (sign = [] ∨ sign = ['+'] ∨ sign = ['-']) ∧
    IsDigits ds ∧ cs = e :: (sign ++ ds)

def IsNumber (cs : List Char) : Prop :=
  ∃ sign whole fraction exponent, (sign = [] ∨ sign = ['-']) ∧ IsWhole whole ∧
    IsFraction fraction ∧ IsExponent exponent ∧ cs = sign ++ (whole ++ (fraction ++ exponent))

/-! ### Brackets -/

/-- What stands before a part: spaces, and a comma among them unless it is the first part. -/
def IsSeparator (first : Bool) (cs : List Char) : Prop :=
  if first then Blank cs else ∃ before after, Blank before ∧ Blank after ∧
    cs = before ++ ',' :: after

variable {α : Type}

/-- Parts with separators before them and spaces after the last one. Each part is a text for the
element of the list with the same index. -/
inductive Separated (R : α → List Char → Prop) : Bool → List α → List Char → Prop
  | nil {first : Bool} {pad : List Char} (h : Blank pad) : Separated R first [] pad
  | cons {first : Bool} {a : α} {as : List α} {sep part cs : List Char}
    (hsep : IsSeparator first sep) (ha : R a part) (has : Separated R false as cs) :
    Separated R first (a :: as) (sep ++ (part ++ cs))

def Bracket.opening : Bracket → Char
  | list => '['
  | object => '\x7b'

/-- Parts between brackets. -/
def Enclosed (b : Bracket) (R : α → List Char → Prop) (as : List α) (cs : List Char) : Prop :=
  ∃ inner, Separated R true as inner ∧ cs = b.opening :: (inner ++ [b.closing])

/-- A name and a value with a colon between them. -/
def IsPair (m : List Char × List Char) (cs : List Char) : Prop :=
  ∃ before after, Blank before ∧ Blank after ∧ cs = m.1 ++ (before ++ ':' :: (after ++ m.2))

/-- A text for a member of an object, of which the name and the text of the value are given. -/
def IsMember (m : String × List Char) (cs : List Char) : Prop :=
  ∃ key, Spelled key m.1 ∧ IsPair (key, m.2) cs

/-! ### Values -/

/-- The text of a value. -/
inductive IsValue : List Char → Prop
  | null : IsValue "null".toList
  | boolean (b : Bool) : IsValue (if b then "true" else "false").toList
  | number {cs : List Char} (h : IsNumber cs) : IsValue cs
  | string {cs : List Char} (h : IsString cs) : IsValue cs
  | list {parts : List (List Char)} {cs : List Char} (hp : ∀ p ∈ parts, IsValue p)
    (h : Enclosed .list Eq parts cs) : IsValue cs
  | object {ms : List (List Char × List Char)} {cs : List Char} (hk : ∀ m ∈ ms, IsString m.1)
    (hv : ∀ m ∈ ms, IsValue m.2) (h : Enclosed .object IsPair ms cs) : IsValue cs

end HookPlan.Json
