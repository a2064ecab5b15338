/-!
# References to places in a configuration

An `EntryRef` points at a source, at one of its hooks, or at a line and column of the text.
Every part is optional: faults of form know only a position, and faults of content know
the source and the hook they were looking at.

* `EntryRef.text`: what is known, after ` at`; nothing for an empty reference.
-/

namespace HookPlan

structure EntryRef where
  repoIndex : Option Nat := none
  location : Option String := none
  revision : Option String := none
  hookIndex : Option Nat := none
  hookId : Option String := none
  line : Option Nat := none
  column : Option Nat := none
  deriving Repr, DecidableEq, Inhabited

namespace EntryRef

/-- A text that is worth showing. -/
def nonEmpty (s : String) : Option String := if s.isEmpty then none else some s

/-- A position in the text. -/
def position (line column : Nat) : EntryRef := { line := some line, column := some column }

/-- The source with this index. -/
def source (repoIndex : Nat) (location revision : String) : EntryRef :=
  { repoIndex := some repoIndex, location := nonEmpty location, revision := nonEmpty revision }

/-- The hook with this index in the source referred to. -/
def hook (e : EntryRef) (hookIndex : Nat) (hookId : String) : EntryRef :=
  { e with hookIndex := some hookIndex, hookId := nonEmpty hookId }

def isEmpty (e : EntryRef) : Bool := e == {}

/-- The line, and the column if the line is known. -/
def positionText (e : EntryRef) : String :=
  match e.line, e.column with
  | some l, some c => s!" line {l} column {c}"
  | some l, none => s!" line {l}"
  | none, _ => ""

def repoText (e : EntryRef) : String :=
  match e.repoIndex with
  | some i => s!" repos[{i}]"
  | none => ""

def sourceText (e : EntryRef) : String :=
  match e.location, e.revision with
  | some l, some r => s!" ({l}@{r})"
  | some l, none => s!" ({l})"
  | none, some r => s!" (@{r})"
  | none, none => ""

def hookText (e : EntryRef) : String :=
  match e.hookIndex with
  | some j => s!" hooks[{j}]"
  | none => ""

def idText (e : EntryRef) : String :=
  match e.hookId with
  | some id => s!" '{id}'"
  | none => ""

/-- Whatever is known, from the position to the hook id. -/
def text (e : EntryRef) : String :=
  if e.isEmpty then ""
  else " at" ++ e.positionText ++ e.repoText ++ e.sourceText ++ e.hookText ++ e.idText

end EntryRef

end HookPlan
