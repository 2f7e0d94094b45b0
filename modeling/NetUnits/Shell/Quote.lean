/-!
# Words for a POSIX shell

**`Shell.quote`** writes a text as one word of a shell command: in single quotes, with each single
quote of the text written outside of them.
-/

namespace NetUnits.Shell

/-- The characters of a quoted word, without the quotes around it. -/
def quoteChars (cs : List Char) : List Char :=
  cs.flatMap fun c => if c = '\'' then ['\'', '\\', '\'', '\''] else [c]

/-- **A text as one word** of a shell command. -/
def quote (text : String) : String :=
  String.ofList ('\'' :: quoteChars text.toList ++ ['\''])

@[simp] theorem quoteChars_nil : quoteChars [] = [] := rfl

@[simp] theorem quoteChars_cons (c : Char) (cs : List Char) :
    quoteChars (c :: cs) =
      (if c = '\'' then ['\'', '\\', '\'', '\''] else [c]) ++ quoteChars cs := by
  simp [quoteChars]

end NetUnits.Shell
