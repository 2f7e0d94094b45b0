import NetUnits.Proofs.Shell.Reading

/-! # What quotes keep from a shell

A character means something to a shell by where it stands: inside of single quotes, behind a
backslash, or bare. Texts that are quoted as words and put between blanks leave nothing bare but
these blanks, and are read as those words and as nothing else.

* **`Shell.Place`** — where a character stands; **`Shell.Place.exposed`** — the bare characters of a
  text.
* **`Shell.joined`** — words, each of them quoted, between blanks;
  **`Shell.tokensFrom_joined_quote`** — how they are read, and **`Shell.exposed_joined`** what of
  them is bare.
* **`Shell.quote_injective`** — different texts are quoted differently.
* **`Shell.Quoting`** — what quoting is for; **`Shell.quoting`** — it holds of all words that a
  command can have. -/

namespace NetUnits.Shell

/-! ## Where characters stand -/

/-- **Where a character stands** in a command. -/
inductive Place where
  /-- Outside of quotes. -/
  | bare
  /-- Inside of single quotes. -/
  | quoted
  /-- Behind a backslash. -/
  | escaped
deriving DecidableEq

namespace Place

variable {p : Place} {c : Char} {cs ds : List Char}

/-- Where the character behind a character stands. A backslash inside of quotes is one like any
other. -/
def next : Place → Char → Place
  | bare, c => if c = '\'' then quoted else if c = '\\' then escaped else bare
  | quoted, c => if c = '\'' then bare else quoted
  | escaped, _ => bare

/-- Where the character behind a text stands. -/
def behind (p : Place) (cs : List Char) : Place :=
  cs.foldl next p

/-- **The bare characters of a text**, without the quotes and backslashes that change the place. -/
def exposed (p : Place) : List Char → List Char
  | [] => []
  | c :: cs => (if p = bare ∧ p.next c = bare then [c] else []) ++ (p.next c).exposed cs

@[simp] theorem behind_nil : p.behind [] = p := rfl

@[simp] theorem behind_cons : p.behind (c :: cs) = (p.next c).behind cs := rfl

theorem behind_append : p.behind (cs ++ ds) = (p.behind cs).behind ds :=
  List.foldl_append

theorem exposed_append : p.exposed (cs ++ ds) = p.exposed cs ++ (p.behind cs).exposed ds := by
  induction cs generalizing p with
  | nil => rfl
  | cons c cs ih => rw [List.cons_append, exposed, ih, exposed, List.append_assoc, behind_cons]

/-- **A text that keeps to itself**: nothing of it is bare, and what comes behind it is. -/
structure Keeps (cs : List Char) : Prop where
  /-- Nothing is bare. -/
  exposed_eq : bare.exposed cs = []
  /-- All quotes are closed. -/
  behind_eq : bare.behind cs = bare

/-- The inside of a quoted text stays inside of quotes, or behind a backslash. -/
theorem quoteChars_keeps (text : List Char) :
    quoted.exposed (quoteChars text) = [] ∧ quoted.behind (quoteChars text) = quoted := by
  induction text with
  | nil => exact ⟨rfl, rfl⟩
  | cons c cs ih =>
    have hone : quoted.exposed (if c = '\'' then ['\'', '\\', '\'', '\''] else [c]) = [] ∧
        quoted.behind (if c = '\'' then ['\'', '\\', '\'', '\''] else [c]) = quoted := by
      by_cases hc : c = '\''
      · rw [if_pos hc]
        decide
      · simp [hc, exposed, next]
    rw [quoteChars_cons, exposed_append, behind_append, hone.1, hone.2, List.nil_append]
    exact ih

end Place

open Place

/-- **A quoted text keeps to itself**, whatever it holds. -/
theorem quote_keeps (text : String) : Keeps (quote text).toList := by
  obtain ⟨hbare, hbehind⟩ := quoteChars_keeps text.toList
  have hchars : (quote text).toList = '\'' :: (quoteChars text.toList ++ ['\'']) := by
    simp [quote]
  constructor
  case exposed_eq =>
    rw [hchars, exposed, show bare.next '\'' = quoted from rfl, exposed_append, hbare, hbehind]
    rfl
  case behind_eq =>
    rw [hchars, behind_cons, show bare.next '\'' = quoted from rfl, behind_append, hbehind]
    rfl

/-! ## Words between blanks -/

/-- **Words, each of them quoted, between blanks.** -/
def joined (words : List String) : String :=
  " ".intercalate (words.map quote)

theorem toList_joined_cons_cons (word next : String) (rest : List String) :
    (joined (word :: next :: rest)).toList =
      (quote word).toList ++ ' ' :: (joined (next :: rest)).toList := by
  rw [joined, List.map_cons, List.map_cons, String.intercalate_cons_cons, String.toList_append,
    String.toList_append, List.append_assoc]
  rfl

/-- **Quoted words are read as they are**, the empty ones too. -/
theorem tokensFrom_joined_quote {words : List String} (h : ∀ word ∈ words, '\x00' ∉ word.toList) :
    tokensFrom none (joined words).toList = some (words.map .word) := by
  refine tokensFrom_joined ?_
  rw [List.forall₂_map_left_iff, List.forall₂_map_right_iff]
  exact List.forall₂_same.2 fun word hword => yields_quote (h word hword)

/-- A word with a quote in it, and an empty one. -/
example : tokensFrom none
    ['\'', 'i', 't', '\'', '\\', '\'', '\'', 's', '\'', ' ', '\'', '\''] =
      some [.word "it's", .word ""] :=
  rfl

/-- **Nothing is bare but the blanks between the words**, and all quotes are closed. -/
theorem exposed_joined (words : List String) :
    bare.exposed (joined words).toList = List.replicate (words.length - 1) ' ' ∧
      bare.behind (joined words).toList = bare := by
  match words with
  | [] => exact ⟨rfl, rfl⟩
  | [word] =>
    rw [joined, List.map_singleton, String.intercalate_singleton]
    exact ⟨(quote_keeps word).exposed_eq, (quote_keeps word).behind_eq⟩
  | word :: next :: rest =>
    obtain ⟨hbare, hbehind⟩ := exposed_joined (next :: rest)
    have hspace : bare.next ' ' = bare := rfl
    rw [toList_joined_cons_cons, exposed_append, behind_append, (quote_keeps word).exposed_eq,
      (quote_keeps word).behind_eq, exposed, behind_cons, hspace, hbare, hbehind]
    exact ⟨rfl, rfl⟩

/-! ## Different texts -/

/-- A text is told by the inside of its quotes. -/
theorem quoteChars_injective : Function.Injective quoteChars := by
  intro text text' heq
  induction text generalizing text' with
  | nil =>
    cases text' with
    | nil => rfl
    | cons c cs =>
      rw [quoteChars_nil, quoteChars_cons] at heq
      split at heq <;> exact nomatch heq
  | cons c cs ih =>
    cases text' with
    | nil =>
      rw [quoteChars_nil, quoteChars_cons] at heq
      split at heq <;> exact nomatch heq
    | cons d ds =>
      rw [quoteChars_cons, quoteChars_cons] at heq
      -- only a quote is written with a quote in front
      by_cases hc : c = '\'' <;> by_cases hd : d = '\''
      · rw [hc, hd] at heq ⊢
        rw [ih (List.append_cancel_left heq)]
      · rw [if_pos hc, if_neg hd] at heq
        exact absurd (List.cons.inj heq).1.symm hd
      · rw [if_neg hc, if_pos hd] at heq
        exact absurd (List.cons.inj heq).1 hc
      · rw [if_neg hc, if_neg hd] at heq
        obtain ⟨hcd, hrest⟩ := List.cons.inj heq
        rw [hcd, ih hrest]

/-- **Different texts are quoted differently.** -/
theorem quote_injective : Function.Injective quote := by
  intro text text' heq
  have hchars := congrArg String.toList heq
  rw [quote, quote, String.toList_ofList, String.toList_ofList] at hchars
  have hinside := List.append_cancel_right (List.cons.inj hchars).2
  exact String.toList_inj.1 (quoteChars_injective hinside)

/-! ## What quoting is for -/

/-- **What quoting is for**: words can be put into a command and are got out of it again. A command
holds no NUL, so none of its words does. -/
structure Quoting : Prop where
  /-- A shell reads exactly the words, each as a word. -/
  reads : ∀ words : List String, (∀ word ∈ words, '\x00' ∉ word.toList) →
    tokensFrom none (joined words).toList = some (words.map .word)
  /-- No character can be expanded or be an operator, for none is bare but the blanks. -/
  separates : ∀ words, bare.exposed (joined words).toList = List.replicate (words.length - 1) ' '
  /-- Nothing is left open. -/
  closes : ∀ words, bare.behind (joined words).toList = bare
  /-- Different texts are quoted differently. -/
  texts : Function.Injective quote
  /-- And so are different words in sequence. -/
  sequences : ∀ words words' : List String, (∀ word ∈ words, '\x00' ∉ word.toList) →
    (∀ word ∈ words', '\x00' ∉ word.toList) → joined words = joined words' → words = words'

/-- **Quoted words are read as they are**, whatever they hold. -/
theorem quoting : Quoting where
  reads := fun _ => tokensFrom_joined_quote
  separates := fun words => (exposed_joined words).1
  closes := fun words => (exposed_joined words).2
  texts := quote_injective
  sequences := by
    intro words words' hwords hwords' heq
    have hread := tokensFrom_joined_quote hwords
    rw [heq, tokensFrom_joined_quote hwords'] at hread
    exact (List.map_injective_iff.2 (fun _ _ h => Token.word.inj h) (Option.some.inj hread)).symm

end NetUnits.Shell
