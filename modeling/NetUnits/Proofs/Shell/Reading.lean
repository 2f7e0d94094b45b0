import NetUnits.Shell.Quote
import NetUnits.Text.Lines
import Mathlib.Data.List.Forall2

/-! # How a shell reads a command

A POSIX shell cuts a command into words at its blanks. Single quotes and backslashes take from the
characters behind them what they mean to the shell; a `>` sends the output to a file. All else that
means something to a shell (expansions, patterns, other operators, comments, assignments, reserved
words) is not read here, so that a text which is read at all holds none of it.

* **`Shell.read?`** — the words of a command, and where its output goes.
* **`Shell.Yields`** — the parts of a command that are read on their own;
  **`Shell.yields_quote`** — a quoted text is one word, whatever it holds.
* **`Shell.tokensFrom_joined`** — parts between blanks are read one after the other;
  **`Shell.tokensFrom_plain`** — so are plain words in front of a command. -/

namespace NetUnits.Shell

open NetUnits.Text

/-! ## Characters and words -/

/-- Blanks of a command: they separate words. -/
def isSeparator (c : Char) : Bool :=
  c == ' ' || c == '\t'

/-- Characters that a shell does not take as they are, somewhere at least. -/
def specialChars : List Char :=
  ['\x00', '|', '&', ';', '<', '>', '(', ')', '$', '\x60', '\\', '"', '\'', ' ', '\t', '\n', '*',
    '?', '[', '#', '~', '!', '\x7b', '\x7d']

/-- Whether a character stands for itself, wherever it stands. -/
def isOrdinary (c : Char) : Bool :=
  !specialChars.contains c

/-- The words that begin another kind of command where a command is named. -/
def reservedWords : List String :=
  ["if", "then", "else", "elif", "fi", "do", "done", "case", "esac", "while", "until", "for"]

/-- Whether a word names a command: it is no reserved word and no assignment. -/
def isCommandName (word : String) : Bool :=
  !reservedWords.contains word && !word.toList.contains '='

/-! ## Tokens -/

/-- **A part of a command.** -/
inductive Token where
  /-- A word, without the quotes around it. -/
  | word (text : String)
  /-- The operator that sends the output to a file. -/
  | redirect
deriving DecidableEq

/-- The word collected in `acc` (last character first), if one is begun. -/
def closeWord : Option (List Char) → List Token
  | some acc => [.word (String.ofList acc.reverse)]
  | none => []

mutual

/-- **The tokens of a text**, outside of quotes, when a word may be begun already. -/
def tokensFrom (word : Option (List Char)) : List Char → Option (List Token)
  | [] => some (closeWord word)
  | c :: cs =>
    if c = '\'' then tokensInQuotes (word.getD []) cs
    else if c = '\\' then tokensAfterBackslash word cs
    else if isSeparator c then (tokensFrom none cs).map (closeWord word ++ ·)
    -- digits before the operator would belong to it, so it must stand apart
    else if c = '>' then
      if word.isNone then (tokensFrom none cs).map (.redirect :: ·) else none
    else if isOrdinary c then tokensFrom (some (c :: word.getD [])) cs
    else none

/-- The tokens of a text inside single quotes: all up to the next quote belongs to the word. No
command holds a NUL. -/
def tokensInQuotes (acc : List Char) : List Char → Option (List Token)
  | [] => none
  | c :: cs =>
    if c = '\'' then tokensFrom (some acc) cs
    else if c = '\x00' then none
    else tokensInQuotes (c :: acc) cs

/-- The tokens of a text after a backslash: the next character belongs to the word, but for a line
feed, which is dropped with the backslash. -/
def tokensAfterBackslash (word : Option (List Char)) : List Char → Option (List Token)
  | [] => none
  | c :: cs =>
    if c = '\n' then tokensFrom word cs
    else if c = '\x00' then none
    else tokensFrom (some (c :: word.getD [])) cs

end

/-! ## Commands -/

/-- **A simple command**: its words, and the file that its output goes to. -/
structure Command where
  /-- The name and the arguments. -/
  words : List String
  /-- The file that the output goes to, if it goes to one. -/
  output : Option String := none
deriving DecidableEq

/-- The command of tokens: words, of which the first names the command, and then at most one
redirection. -/
def commandOf? : List Token → Option Command
  | [] => some ⟨[], none⟩
  | [.redirect, .word file] => some ⟨[], some file⟩
  | .word word :: rest => (commandOf? rest).map fun c => { c with words := word :: c.words }
  | .redirect :: _ => none

/-- Whether the words of a command begin with the name of one. -/
def Command.isNamed (c : Command) : Bool :=
  c.words.head?.any isCommandName

/-- **The command that a shell reads in a text**, if it is a simple one. -/
def read? (text : String) : Option Command :=
  ((tokensFrom none text.toList).bind commandOf?).filter (·.isNamed)

/-! ## Single parts -/

/-- A blank closes the word before it. -/
theorem tokensFrom_space (word : Option (List Char)) (cs : List Char) :
    tokensFrom word (' ' :: cs) = (tokensFrom none cs).map (closeWord word ++ ·) := by
  simp [tokensFrom, isSeparator]

theorem ne_of_isOrdinary {c d : Char} (h : isOrdinary c = true) (hd : d ∈ specialChars) :
    c ≠ d := by
  rintro rfl
  simp [isOrdinary, hd] at h

/-- An ordinary character goes on with the word, or begins one. -/
theorem tokensFrom_cons_of_isOrdinary {c : Char} (h : isOrdinary c = true)
    (word : Option (List Char)) (cs : List Char) :
    tokensFrom word (c :: cs) = tokensFrom (some (c :: word.getD [])) cs := by
  have hquote : c ≠ '\'' := ne_of_isOrdinary h (by decide)
  have hbackslash : c ≠ '\\' := ne_of_isOrdinary h (by decide)
  have hspace : c ≠ ' ' := ne_of_isOrdinary h (by decide)
  have htab : c ≠ '\t' := ne_of_isOrdinary h (by decide)
  have hgreater : c ≠ '>' := ne_of_isOrdinary h (by decide)
  simp [tokensFrom, isSeparator, hquote, hbackslash, hspace, htab, hgreater, h]

/-- **Ordinary characters are read as they are.** -/
theorem tokensFrom_append_of_isOrdinary {cs : List Char} (h : ∀ c ∈ cs, isOrdinary c = true)
    (acc rest : List Char) :
    tokensFrom (some acc) (cs ++ rest) = tokensFrom (some (cs.reverse ++ acc)) rest := by
  induction cs generalizing acc with
  | nil => rfl
  | cons c cs ih =>
    obtain ⟨hc, hcs⟩ := List.forall_mem_cons.1 h
    rw [List.cons_append, tokensFrom_cons_of_isOrdinary hc, ih hcs]
    simp

/-- **The inside of a quoted text is read as the text**: no character of it ends the word. -/
theorem tokensInQuotes_quoteChars {text : List Char} (h : '\x00' ∉ text) (acc rest : List Char) :
    tokensInQuotes acc (quoteChars text ++ '\'' :: rest) =
      tokensFrom (some (text.reverse ++ acc)) rest := by
  induction text generalizing acc with
  | nil => simp [tokensInQuotes]
  | cons c cs ih =>
    obtain ⟨hc, hcs⟩ := not_or.1 (mt List.mem_cons.2 h)
    have hacc : (c :: cs).reverse ++ acc = cs.reverse ++ (c :: acc) := by simp
    rw [quoteChars_cons, hacc, ← ih hcs]
    by_cases hquote : c = '\''
    · -- the quotes are closed, a quote is written with a backslash, and they are opened again
      subst hquote
      simp [tokensInQuotes, tokensFrom, tokensAfterBackslash]
    · simp [tokensInQuotes, hquote, Ne.symm hc]

/-- **A part of a command that is read as one token**, alone or before a blank. -/
structure Yields (part : List Char) (token : Token) : Prop where
  /-- At the end of a command. -/
  alone : tokensFrom none part = some [token]
  /-- Before further parts. -/
  before : ∀ rest, tokensFrom none (part ++ ' ' :: rest) =
    (tokensFrom none rest).map (token :: ·)

/-- A part that leaves a word behind is that word. -/
theorem yields_of_tokensFrom {part acc : List Char}
    (h : ∀ rest, tokensFrom none (part ++ rest) = tokensFrom (some acc) rest) :
    Yields part (.word (String.ofList acc.reverse)) where
  alone := by simpa [tokensFrom, closeWord] using h []
  before rest := by rw [h, tokensFrom_space]; rfl

/-- **A quoted text is one word**, whatever it holds. -/
theorem yields_quote {text : String} (h : '\x00' ∉ text.toList) :
    Yields (quote text).toList (.word text) := by
  have hread : ∀ rest, tokensFrom none ((quote text).toList ++ rest) =
      tokensFrom (some text.toList.reverse) rest := fun rest => by
    have hcons : (quote text).toList ++ rest =
        '\'' :: (quoteChars text.toList ++ '\'' :: rest) := by simp [quote]
    rw [hcons, tokensFrom, if_pos rfl, Option.getD_none, tokensInQuotes_quoteChars h,
      List.append_nil]
  simpa using yields_of_tokensFrom hread

/-- **A word of ordinary characters is read as it is.** -/
theorem yields_of_isOrdinary {word : String} (hne : word ≠ "")
    (h : ∀ c ∈ word.toList, isOrdinary c = true) : Yields word.toList (.word word) := by
  have hread : ∀ rest, tokensFrom none (word.toList ++ rest) =
      tokensFrom (some word.toList.reverse) rest := fun rest => by
    cases hcs : word.toList with
    | nil => exact absurd (String.toList_eq_nil_iff.1 hcs) hne
    | cons c cs =>
      obtain ⟨hc, hrest⟩ := List.forall_mem_cons.1 (hcs ▸ h)
      rw [List.cons_append, tokensFrom_cons_of_isOrdinary hc,
        tokensFrom_append_of_isOrdinary hrest]
      simp
  simpa using yields_of_tokensFrom hread

/-- The operator of a redirection is read as such. -/
theorem yields_redirect : Yields ['>'] .redirect where
  alone := by simp [tokensFrom, isSeparator, closeWord]
  before rest := by
    have hspace : tokensFrom none (' ' :: rest) = tokensFrom none rest := by
      rw [tokensFrom_space]
      cases tokensFrom none rest <;> rfl
    rw [List.singleton_append, tokensFrom]
    simp [isSeparator, hspace]

/-! ## Parts in sequence -/

/-- **Parts between blanks are read one after the other.** -/
theorem tokensFrom_joined {parts : List String} {tokens : List Token}
    (h : List.Forall₂ (fun part token => Yields part.toList token) parts tokens) :
    tokensFrom none (" ".intercalate parts).toList = some tokens := by
  induction h with
  | nil => rfl
  | @cons part token parts tokens hpart hparts ih =>
    cases hparts with
    | nil => rw [String.intercalate_singleton, hpart.alone]
    | @cons next _ rest _ hnext hrest =>
      have hcs : (" ".intercalate (part :: next :: rest)).toList =
          part.toList ++ ' ' :: (" ".intercalate (next :: rest)).toList := by
        rw [String.intercalate_cons_cons, String.toList_append, String.toList_append,
          List.append_assoc]
        rfl
      rw [hcs, hpart.before, ih, Option.map_some]

/-- **Words that a shell takes as they are**: between their blanks all characters are ordinary, and
the first word names a command. -/
structure IsPlain (text : List Char) : Prop where
  /-- Every character separates words or stands for itself. -/
  chars : ∀ c ∈ text, isSeparator c = true ∨ isOrdinary c = true ∧ isBlank c = false
  /-- The first word names a command. -/
  named : ∀ word ∈ (wordsOf text).head?, isCommandName (String.ofList word) = true

/-- A word that is begun, if any character of it is read. -/
def begun (acc : List Char) : Option (List Char) :=
  if acc.isEmpty then none else some acc

/-- Plain words before a blank are read one after the other. -/
theorem tokensFrom_begun {cs : List Char}
    (h : ∀ c ∈ cs, isSeparator c = true ∨ isOrdinary c = true ∧ isBlank c = false)
    (acc rest : List Char) :
    tokensFrom (begun acc) (cs ++ ' ' :: rest) =
      (tokensFrom none rest).map
        (((wordsFrom acc cs).map fun word => .word (String.ofList word)) ++ ·) := by
  induction cs generalizing acc with
  | nil =>
    rw [List.nil_append, tokensFrom_space, wordsFrom]
    cases acc <;> simp [begun, closeWord]
  | cons c cs ih =>
    obtain ⟨hc, hcs⟩ := List.forall_mem_cons.1 h
    rw [List.cons_append]
    rcases hc with hsep | ⟨hord, hblank⟩
    · have hblank : isBlank c = true := by
        rcases (by simpa [isSeparator] using hsep : c = ' ' ∨ c = '\t') with rfl | rfl <;> rfl
      have hstep : tokensFrom (begun acc) (c :: (cs ++ ' ' :: rest)) =
          (tokensFrom (begun []) (cs ++ ' ' :: rest)).map (closeWord (begun acc) ++ ·) := by
        rcases (by simpa [isSeparator] using hsep : c = ' ' ∨ c = '\t') with rfl | rfl <;>
          simp [tokensFrom, isSeparator, begun]
      rw [hstep, ih hcs, wordsFrom, if_pos hblank, Option.map_map]
      cases acc <;> simp [begun, closeWord, Function.comp_def]
    · have hbegun : some (c :: (begun acc).getD []) = begun (c :: acc) := by
        cases acc <;> simp [begun]
      rw [tokensFrom_cons_of_isOrdinary hord, hbegun, ih hcs, wordsFrom, if_neg (by simp [hblank])]

/-- **Plain words in front of a command are read one after the other.** -/
theorem tokensFrom_plain {text : List Char} (h : IsPlain text) (rest : List Char) :
    tokensFrom none (text ++ ' ' :: rest) =
      (tokensFrom none rest).map
        (((wordsOf text).map fun word => .word (String.ofList word)) ++ ·) :=
  tokensFrom_begun h.chars [] rest

/-! ## Whole commands -/

/-- Words in front of a command belong to it. -/
theorem commandOf?_append (words : List String) (tokens : List Token) :
    commandOf? (words.map .word ++ tokens) =
      (commandOf? tokens).map fun c => { c with words := words ++ c.words } := by
  induction words with
  | nil => cases h : commandOf? tokens <;> simp [h]
  | cons word words ih =>
    rw [List.map_cons, List.cons_append, commandOf?, ih]
    cases commandOf? tokens <;> rfl

theorem read?_eq_some_iff {text : String} {c : Command} :
    read? text = some c ↔
      (∃ tokens, tokensFrom none text.toList = some tokens ∧ commandOf? tokens = some c) ∧
        c.isNamed = true := by
  rw [read?, Option.filter_eq_some_iff, Option.bind_eq_some_iff]

/-- **Parts between blanks are read as the command that they make up.** -/
theorem read?_joined {parts : List String} {tokens : List Token} {c : Command}
    (h : List.Forall₂ (fun part token => Yields part.toList token) parts tokens)
    (hcommand : commandOf? tokens = some c) (hnamed : c.isNamed = true) :
    read? (" ".intercalate parts) = some c :=
  read?_eq_some_iff.2 ⟨⟨tokens, tokensFrom_joined h, hcommand⟩, hnamed⟩

/-- **Words between blanks are read as they are meant**, each on its own. -/
theorem read?_words {parts words : List String}
    (h : List.Forall₂ (fun part word => Yields part.toList (.word word)) parts words)
    (hnamed : words.head?.any isCommandName = true) :
    read? (" ".intercalate parts) = some ⟨words, none⟩ := by
  refine read?_joined (List.forall₂_map_right_iff.2 h) ?_ hnamed
  simpa [commandOf?] using commandOf?_append words []

/-- The words of a text, between its blanks. -/
def wordsIn (text : String) : List String :=
  (wordsOf text.toList).map String.ofList

/-- **Plain words in front of a command become its first words.** -/
theorem read?_append_of_isPlain {lead command : String} {c : Command} (hlead : IsPlain lead.toList)
    (h : read? command = some c) :
    read? (lead ++ " " ++ command) = some { c with words := wordsIn lead ++ c.words } := by
  obtain ⟨⟨tokens, htokens, hcommand⟩, hnamed⟩ := read?_eq_some_iff.1 h
  have hcs : (lead ++ " " ++ command).toList = lead.toList ++ ' ' :: command.toList := by
    simp [String.toList_append]
  have hwords : (wordsOf lead.toList).map (fun word => Token.word (String.ofList word)) =
      (wordsIn lead).map .word := by simp [wordsIn, Function.comp_def]
  refine read?_eq_some_iff.2 ⟨⟨(wordsIn lead).map .word ++ tokens, ?_, ?_⟩, ?_⟩
  · rw [hcs, tokensFrom_plain hlead, htokens, hwords, Option.map_some]
  · rw [commandOf?_append, hcommand, Option.map_some]
  · -- the first word is one of those in front, if there are any
    have hfirst := hlead.named
    unfold Command.isNamed wordsIn
    cases hcases : wordsOf lead.toList with
    | nil => exact hnamed
    | cons word words => exact hfirst word (by rw [hcases]; rfl)

end NetUnits.Shell
