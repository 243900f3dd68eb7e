import Mathlib.Tactic.Common

/-!
# Quoting in the commands of a shell

A shell reads a command character by character.  Whether a character stands for itself, or ends
the word, starts another command or is expanded, depends on the quoting in force there.

A program makes up a command from text of its own and text that it is given.  Given text is
`Data` where no character of it acts, and where the quoting behind it is the one before it, so
that the rest of the command is read as the program has written it.  The characters that act are
those that end a word, join or redirect commands, or start an expansion of variables or commands.
Those that only change what a single word stands for, `#`, `*`, `?`, `[` and `~`, do not count as
acting, and neither does the empty text: unquoted data may be a comment, a pattern of file names,
or no word at all, but never a second command or a second argument that the text has spelled out.
-/

namespace Library

/-! ### Quoting -/

/-- The quoting in force before a character: `bare` without quotes, `double` or `single` between
them.  Behind a backslash the next character is quoted, too, which the `Escaped` cases say. -/
inductive Quoting where
  | bare | bareEscaped | double | doubleEscaped | single
deriving DecidableEq

namespace Quoting

def doubleQuote : Char := '\x22'
def singleQuote : Char := '\x27'
def backslash : Char := '\x5c'
def backquote : Char := '\x60'

/-- The quoting that is in force behind a character `c` if `q` is in force before it. -/
def next : Quoting → Char → Quoting
  | .bare, c =>
      if c = backslash then .bareEscaped
      else if c = doubleQuote then .double
      else if c = singleQuote then .single
      else .bare
  | .double, c =>
      if c = backslash then .doubleEscaped else if c = doubleQuote then .bare else .double
  | .single, c => if c = singleQuote then .bare else .single
  | .bareEscaped, _ => .bare
  | .doubleEscaped, _ => .double

/-- The quoting that is in force behind a text `t` if `q` is in force before it. -/
def after (q : Quoting) (t : List Char) : Quoting := t.foldl next q

/-- The characters that act where they are not quoted: they end a word, join or redirect commands,
or start an expansion of variables or commands.  The characters `#`, `*`, `?`, `[` and `~` are not
among them. -/
def metacharacters : List Char :=
  [doubleQuote, backquote, '$', ';', '&', '|', '\n', '<', '>', '(', ')', ' ', '\t']

/-- The characters that act between double quotes. -/
def doubleMetacharacters : List Char := [doubleQuote, backquote, '$']

/-- The character `c` acts under the quoting `q`: it is one of the `metacharacters` without quotes,
or one of the `doubleMetacharacters` between double quotes.  Nothing acts between single quotes or
behind a backslash. -/
def Acts : Quoting → Char → Prop
  | .bare, c => c ∈ metacharacters
  | .double, c => c ∈ doubleMetacharacters
  | _, _ => False

instance (q : Quoting) (c : Char) : Decidable (q.Acts c) := by
  cases q
  all_goals
    unfold Acts
    infer_instance

/-- No character of the text acts, each taken under the quoting that the characters before it leave:
this is what `Quoting.Acts` says of none of them. -/
def Inert : Quoting → List Char → Prop
  | _, [] => True
  | q, c :: t => ¬ q.Acts c ∧ (q.next c).Inert t

instance decidableInert : (q : Quoting) → (t : List Char) → Decidable (q.Inert t)
  | _, [] => .isTrue trivial
  | q, c :: t =>
      have := decidableInert (q.next c) t
      inferInstanceAs (Decidable (¬ q.Acts c ∧ (q.next c).Inert t))

/-- The text `t` is data under the quoting `q`: no character of it acts, and it leaves the quoting
as it is.  The empty text is data, and so is text with `#`, `*`, `?`, `[` or `~` in it. -/
structure Data (q : Quoting) (t : List Char) : Prop where
  inert : q.Inert t
  closed : q.after t = q

instance (q : Quoting) (t : List Char) : Decidable (q.Data t) :=
  decidable_of_iff (q.Inert t ∧ q.after t = q) ⟨fun h => ⟨h.1, h.2⟩, fun h => ⟨h.inert, h.closed⟩⟩

end Quoting

/-! ### Commands -/

/-- A part of a command: `own` text of the program, or text that it was `given`. -/
inductive CommandPart where
  | own (t : List Char)
  | given (t : List Char)
deriving DecidableEq

/-- The text of a part, whoever has written it. -/
def CommandPart.text : CommandPart → List Char
  | .own t | .given t => t

/-- The command that is passed to the shell: the texts of its `parts`, one behind the other. -/
def commandText (parts : List CommandPart) : List Char := parts.flatMap CommandPart.text

/-- All text of the `parts` that was given is data, if the command is read with the quoting `q` in
force at its start. -/
def Quoting.KeepsData : Quoting → List CommandPart → Prop
  | _, [] => True
  | q, .own t :: parts => (q.after t).KeepsData parts
  | q, .given t :: parts => q.Data t ∧ (q.after t).KeepsData parts

instance Quoting.decidableKeepsData :
    (q : Quoting) → (parts : List CommandPart) → Decidable (q.KeepsData parts)
  | _, [] => .isTrue trivial
  | q, .own t :: parts => decidableKeepsData (q.after t) parts
  | q, .given t :: parts =>
      have := decidableKeepsData (q.after t) parts
      inferInstanceAs (Decidable (q.Data t ∧ (q.after t).KeepsData parts))

variable {q : Quoting} {s t u : List Char}

/-- The command whose one part is the program's own text `t` is `t`. -/
theorem commandText_own : commandText [.own t] = t := by simp [commandText, CommandPart.text]

/-- The command in which `t` was given between the program's own texts `s` and `u` is the three
texts one behind the other. -/
theorem commandText_given : commandText [.own s, .given t, .own u] = s ++ t ++ u := by
  simp [commandText, CommandPart.text]

/-- A command that is the program's own text `t` keeps its data, as nothing in it was given. -/
theorem Quoting.keepsData_own : q.KeepsData [.own t] := trivial

/-- A command in which one text `t` was given keeps its data exactly if `t` is data under the
quoting that the program's own text `s` before it leaves. -/
theorem Quoting.keepsData_given : q.KeepsData [.own s, .given t, .own u] ↔ (q.after s).Data t :=
  and_iff_left trivial

end Library
