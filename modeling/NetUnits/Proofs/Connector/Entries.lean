import NetUnits.Proofs.Action.Passing
import NetUnits.Proofs.Connector.Sending
import NetUnits.Proofs.Lists
import NetUnits.Proofs.Text.Lines

/-! # Directories that are listed

A remote host prints a line for each entry of a directory, and the lines are taken apart again. A
name may hold what ends a line, so whether a directory is listed as it is depends on its names.

* **`Found`** — an entry of a directory, and **`Found.printed`** what is printed for entries.
* **`RemoteConnector.entriesOf_printed_iff`** — entries are read back exactly if no name breaks its
  line.
* **`Deed.CarriesOut`** — a host has carried out a command;
  **`RemoteConnector.eq_of_run_entries`** — what connectors make of what it has printed.
* **`Faithful`** — connectors list a directory as it is; **`faithful_iff`** — so they do exactly if
  no name breaks its line. -/

namespace NetUnits

open NetUnits.Action NetUnits.Text

/-! ## Entries and their lines -/

/-- **An entry of a directory**, as `find` sees it: the letter of its type, and a name that a
directory may hold. -/
structure Found where
  /-- The letter of the type. -/
  letter : Char
  /-- The name. -/
  name : String
  /-- A type has a letter. -/
  isAlpha : letter.isAlpha = true
  /-- No name is empty. -/
  name_ne : name ≠ ""
  /-- A name is no path. -/
  slash_notMem : '/' ∉ name.toList
  /-- A name ends where a NUL would stand. -/
  nul_notMem : '\x00' ∉ name.toList
  /-- The directory and the one above it are no entries. -/
  ne_dots : name ≠ "." ∧ name ≠ ".."

namespace Found

/-- **What a connector should say of an entry.** -/
def entry (item : Found) : DirEntry :=
  ⟨item.name, item.letter == 'd'⟩

/-- The line that is printed for an entry. -/
def line (item : Found) : List Char :=
  item.letter :: '\t' :: item.name.toList

/-- **What is printed for entries**: each on a line, with a tab between type and name. -/
def printed (items : List Found) : String :=
  String.ofList (joinLines (items.map line))

/-- **A name breaks its line**: it holds a line feed, or ends in a carriage return. -/
def Breaks (item : Found) : Prop :=
  '\n' ∈ item.name.toList ∨ item.name.toList.getLast? = some '\r'

/-- What is read of the line of an entry. -/
def shown (item : Found) : List DirEntry :=
  (linesOf (item.line ++ ['\n'])).filterMap RemoteConnector.entryOf?

/-- The letter of a type is no separator. -/
theorem letter_ne (item : Found) {c : Char} (hc : c.isAlpha = false) : item.letter ≠ c := by
  intro h
  rw [← h, item.isAlpha] at hc
  exact Bool.noConfusion hc

theorem entryOf?_line (item : Found) (name : List Char) :
    RemoteConnector.entryOf? (item.letter :: '\t' :: name) =
      some ⟨String.ofList name, item.letter == 'd'⟩ := by
  have hletter : '\t' ≠ item.letter := (item.letter_ne (by decide)).symm
  have hsplit : splitOnce '\t' (item.letter :: '\t' :: name) = some ([item.letter], name) :=
    splitOnce_eq_some_iff.2 ⟨rfl, by simpa using hletter⟩
  rw [RemoteConnector.entryOf?, hsplit]
  simp

/-- **The first line of an entry** gives an entry, with the name up to the end of the line. -/
theorem filterMap_linesOf (item : Found) {first : List Char} (h : '\n' ∉ first)
    (rest : List Char) :
    (linesOf (item.letter :: '\t' :: (first ++ '\n' :: rest))).filterMap
        RemoteConnector.entryOf? =
      ⟨String.ofList (closeLine first.reverse), item.letter == 'd'⟩ ::
        (linesOf rest).filterMap RemoteConnector.entryOf? := by
  have hline : '\n' ∉ item.letter :: '\t' :: first := by
    have hletter : '\n' ≠ item.letter := (item.letter_ne (by decide)).symm
    simpa [hletter] using h
  have hclose : closeLine (item.letter :: '\t' :: first).reverse =
      item.letter :: '\t' :: closeLine first.reverse := by
    have hfront : ['\t', item.letter].head? ≠ some '\r' := by simp
    have hreverse : (item.letter :: '\t' :: first).reverse =
        first.reverse ++ ['\t', item.letter] := by simp
    rw [hreverse, closeLine_append hfront]
    rfl
  have hlines := linesOf_append_lineFeed hline rest
  rw [List.cons_append, List.cons_append, hclose] at hlines
  rw [hlines, List.filterMap_cons_some (item.entryOf?_line _)]

/-- **An entry is read as itself**, and as nothing else, exactly if its name does not break the
line. -/
theorem shown_eq_iff (item : Found) : item.shown = [item.entry] ↔ ¬ item.Breaks := by
  rw [Breaks, not_or]
  by_cases h : '\n' ∈ item.name.toList
  · -- the name that is read ends at the line feed, so it is shorter
    obtain ⟨first, rest, heq, hfirst⟩ := List.eq_append_cons_of_mem h
    refine iff_of_false (fun hshown => ?_) fun hnot => hnot.1 h
    have hline : item.line ++ ['\n'] =
        item.letter :: '\t' :: (first ++ '\n' :: (rest ++ ['\n'])) := by
      rw [line, heq]
      simp
    rw [shown, hline, item.filterMap_linesOf hfirst, entry] at hshown
    have hname : closeLine first.reverse = item.name.toList := by
      have hentry := (DirEntry.mk.inj (List.cons.inj hshown).1).1
      rw [← hentry, String.toList_ofList]
    have hlength := congrArg List.length hname
    have hle := length_closeLine_le first.reverse
    rw [heq, List.length_append, List.length_cons] at hlength
    rw [List.length_reverse] at hle
    omega
  · have hline : item.line ++ ['\n'] =
        item.letter :: '\t' :: (item.name.toList ++ '\n' :: []) := rfl
    rw [shown, hline, item.filterMap_linesOf h, entry, and_iff_right h,
      ← ne_eq, ← closeLine_reverse_eq_iff]
    simp only [linesOf_nil, List.filterMap_nil, List.cons.injEq, DirEntry.mk.injEq, and_true]
    refine ⟨fun heq => ?_, fun heq => by rw [heq, String.ofList_toList]⟩
    exact String.toList_ofList.symm.trans (congrArg String.toList heq)

theorem shown_ne_nil (item : Found) : item.shown ≠ [] := by
  have hmem : '\n' ∈ item.name.toList ++ ['\n'] := by simp
  obtain ⟨first, rest, heq, hfirst⟩ := List.eq_append_cons_of_mem hmem
  rw [shown, line, List.cons_append, List.cons_append, heq, item.filterMap_linesOf hfirst]
  exact List.cons_ne_nil _ _

end Found

namespace RemoteConnector

/-- What is read of printed entries is what is read of each. -/
theorem entriesOf_printed (items : List Found) :
    entriesOf (Found.printed items) = items.flatMap Found.shown := by
  rw [entriesOf, Found.printed, String.toList_ofList]
  induction items with
  | nil => rfl
  | cons item items ih =>
    have hwhole : IsWhole (item.line ++ ['\n']) := .inr (by simp)
    rw [List.map_cons, joinLines_cons, List.append_cons, hwhole.linesOf_append,
      List.filterMap_append, ih]
    rfl

/-- **Printed entries are read back** exactly if no name breaks its line. -/
theorem entriesOf_printed_iff {items : List Found} :
    entriesOf (Found.printed items) = items.map Found.entry ↔ ∀ item ∈ items, ¬ item.Breaks := by
  rw [entriesOf_printed, flatMap_eq_map_iff fun item _ => item.shown_ne_nil]
  simp only [Found.shown_eq_iff]

end RemoteConnector

/-! ## Commands that were carried out -/

/-- **A deed is a command that a host has carried out**, with its result: over a session of the
surroundings, or by a call of `ssh`. -/
def Deed.CarriesOut {σ : Type} (command : String) (result : CommandResult) : Deed σ → Prop
  | asked (.exec _ sent _) reply => sent = command ∧ reply = .ok result
  | asked (.run _ args _) reply => SshSession.command? args = some command ∧ reply = .ok result
  | _ => False

section CarriesOut

variable {σ α : Type} {command sent : String} {result : CommandResult} {d : Deed σ}
  {t : List (Deed σ)}

/-- What carries no command carries none out. -/
theorem Action.Avoids.not_carriesOut {x y : Action σ α} (hx : x.Avoids Request.heard?)
    (hafter : After x t y) (hd : d ∈ t) : ¬ d.CarriesOut command result := by
  intro hcarries
  have hobeys := (Obeys.of_after hx hafter).1 d hd
  cases d with
  | changed | forked => exact hcarries
  | asked r reply =>
    have hnone : r.heard? = none := hobeys
    cases r with
    | exec number sent bytes => exact absurd hnone (Option.some_ne_none _)
    | run program args bytes =>
      rw [Request.heard?, hcarries.1] at hnone
      exact absurd hnone (Option.some_ne_none _)
    | _ => exact hcarries

/-- What a program has come to is what a call of `ssh` comes to. -/
theorem SshSession.eq_of_run_call {s : SshSession} {args : List String}
    {reply : Except ConnectorError CommandResult}
    (hrun : Run (s.call args none : Action σ _) t reply) (hd : d ∈ t)
    (hcarries : d.CarriesOut command result) : reply = .ok result := by
  obtain ⟨_, t₂, ran, rfl, hprogram, hdone⟩ := run_bind_iff.1 hrun
  obtain ⟨_, _, _, rfl, htold, hasked⟩ := run_bind_iff.1 hprogram
  obtain rfl := run_request_iff.1 htold
  obtain ⟨_, _, answer, rfl, hanswered, hresult⟩ := run_bind_iff.1 hasked
  obtain rfl := run_request_iff.1 hanswered
  obtain ⟨rfl, rfl⟩ := run_done_iff.1 hresult
  have hnil : t₂ = [] := by
    cases answer <;> exact (run_done_iff.1 hdone).1
  rw [hnil] at hd
  simp only [List.append_nil, List.cons_append, List.nil_append, List.mem_cons,
    List.not_mem_nil, or_false] at hd
  have hlast : answer = .ok result := by
    obtain rfl | rfl := hd
    · exact hcarries.elim
    · exact hcarries.2
  rw [hlast] at hdone
  exact (run_done_iff.1 hdone).2

theorem SshSession.eq_of_run_exec {s : SshSession} {reply : Except ConnectorError CommandResult}
    (hrun : Run (s.exec sent none : Action σ _) t reply) (hd : d ∈ t)
    (hcarries : d.CarriesOut command result) (hsuccess : result.success = true) :
    reply = .ok result := by
  obtain ⟨_, _, _, rfl, htold, hrest⟩ := run_bind_iff.1 hrun
  obtain rfl := run_request_iff.1 htold
  obtain ⟨t₁, t₂, called, rfl, hcall, hdone⟩ := run_bind_iff.1 hrest
  have hafter : ∀ e ∈ t₂, False := by
    cases called with
    | error e => exact (run_done_iff.1 hdone).1 ▸ fun _ h => nomatch h
    | ok reply =>
      simp only at hdone
      split at hdone <;> exact (run_done_iff.1 hdone).1 ▸ fun _ h => nomatch h
  have hmem : d ∈ t₁ := by
    rcases List.mem_append.1 hd with hd | hd
    · obtain rfl := List.mem_singleton.1 hd
      exact hcarries.elim
    · exact (List.mem_append.1 hd).resolve_right fun h => hafter d h
  obtain rfl := eq_of_run_call hcall hmem hcarries
  -- a command that has succeeded does not end as `ssh` itself does when it fails
  have hcode : result.code ≠ some failureCode := by
    rw [eq_of_beq hsuccess]
    decide
  simp only [if_neg hcode] at hdone
  exact (run_done_iff.1 hdone).2

/-- **A command that has succeeded** is what a session comes to, of whatever kind it is. -/
theorem Session.eq_of_run_exec {s : Session} {reply : Except ConnectorError CommandResult}
    (hrun : Run (s.exec sent none : Action σ _) t reply) (hd : d ∈ t)
    (hcarries : d.CarriesOut command result) (hsuccess : result.success = true) :
    reply = .ok result := by
  cases s with
  | ssh s => exact s.eq_of_run_exec hrun hd hcarries hsuccess
  | external number =>
    obtain rfl := run_request_iff.1 hrun
    obtain rfl := List.mem_singleton.1 hd
    exact hcarries.2

end CarriesOut

namespace RemoteConnector

variable {c : RemoteConnector} {t : List (Deed Wire)} {d : Deed Wire} {result : CommandResult}
  {command : String}

theorem eq_of_run_exec {reply : Except ConnectorError CommandResult}
    (hrun : Run (c.exec command none) t reply) (hd : d ∈ t)
    (hcarries : d.CarriesOut command result) (hsuccess : result.success = true) :
    reply = .ok result := by
  obtain ⟨e, hconnect, rfl⟩ | ⟨t₁, t₂, session, rfl, hconnect, hrest⟩ := run_andThen_iff.1 hrun
  · exact absurd hcarries (c.ensureConnected_avoids.not_carriesOut hconnect hd)
  obtain ⟨t₃, t₄, sent, rfl, hsent, hdone⟩ := run_bind_iff.1 hrest
  -- opening a session and looking after it carry no command out
  have hmem : d ∈ t₃ := by
    rcases List.mem_append.1 hd with hd | hd
    · exact absurd hcarries (c.ensureConnected_avoids.not_carriesOut hconnect hd)
    rcases List.mem_append.1 hd with hd | hd
    · exact hd
    · cases sent with
      | ok => exact (List.not_mem_nil ((run_done_iff.1 hdone).1 ▸ hd)).elim
      | error e =>
        have havoids : (c.afterFailure session e >>= fun _ => done (.error e) :
            Action Wire (Except ConnectorError CommandResult)).Avoids Request.heard? :=
          (c.afterFailure_avoids session e).bind fun _ => trivial
        exact absurd hcarries (havoids.not_carriesOut hdone hd)
  obtain rfl := session.eq_of_run_exec hsent hmem hcarries hsuccess
  exact (run_done_iff.1 hdone).2

/-- **What is printed for a directory is read**, whenever the host has carried the command out. -/
theorem eq_of_run_entries {listed : Except ConnectorError (List DirEntry)}
    (hrun : Run c.entries t listed) (hd : d ∈ t)
    (hcarries : d.CarriesOut (listCommand c.configDir) result) (hsuccess : result.success = true) :
    listed = .ok (entriesOf result.stdout) := by
  obtain ⟨t₁, t₂, ran, rfl, hran, hdone⟩ := run_bind_iff.1 hrun
  obtain ⟨t₃, t₄, reply, rfl, hexec, hchecked⟩ := run_bind_iff.1 hran
  obtain ⟨rfl, rfl⟩ := run_done_iff.1 hchecked
  have hnone : t₂ = [] := by
    cases hreply : Program.checked (listCommand c.configDir) reply <;> rw [hreply] at hdone <;>
      exact (run_done_iff.1 hdone).1
  rw [hnone, List.append_nil, List.append_nil] at hd
  obtain rfl := eq_of_run_exec hexec hd hcarries hsuccess
  have hok : Program.checked (listCommand c.configDir) (.ok result) = .ok result := by
    rw [Program.checked, CommandResult.check, if_pos hsuccess]
  rw [hok] at hdone
  exact (run_done_iff.1 hdone).2

/-- **A connector lists a directory**: the host has carried the command out, and printed the entries
of the directory. -/
def Lists (c : RemoteConnector) (items : List Found) (t : List (Deed Wire))
    (listed : Except ConnectorError (List DirEntry)) : Prop :=
  Run c.entries t listed ∧ ∃ d ∈ t, ∃ result : CommandResult,
    d.CarriesOut (listCommand c.configDir) result ∧ result.success = true ∧
      result.output = bytesOf (Found.printed items)

/-- **A directory is listed** as what is printed for it is read. -/
theorem Lists.eq {items : List Found} {listed : Except ConnectorError (List DirEntry)}
    (h : c.Lists items t listed) : listed = .ok (entriesOf (Found.printed items)) := by
  obtain ⟨hrun, d, hd, result, hcarries, hsuccess, houtput⟩ := h
  rw [eq_of_run_entries hrun hd hcarries hsuccess, CommandResult.stdout, houtput, lenient_bytesOf]

/-- Each directory may be listed. -/
theorem exists_lists (items : List Found) : ∃ (c : RemoteConnector) (t : List (Deed Wire))
    (listed : Except ConnectorError (List DirEntry)), c.Lists items t listed := by
  let result : CommandResult := { output := bytesOf (Found.printed items) }
  let reply : (r : Request) → r.Reply := fun
    | .exec _ _ _ => .ok result
    | r => r.usual
  let c : RemoteConnector := default
  let w : Wire := { session := some (.external 0), opened := 1 }
  refine ⟨c, (c.entries.alone reply w).1, _, run_alone reply c.entries w, ?_⟩
  refine ⟨.asked (.exec 0 (listCommand c.configDir) none) (.ok result), ?_, result, ⟨rfl, rfl⟩,
    rfl, rfl⟩
  have ht : (c.entries.alone reply w).1 = [.asked (.acquire (.session c.number)) (),
    .changed w w, .asked (.release (.session c.number)) (),
    .asked (.exec 0 (listCommand c.configDir) none) (.ok result)] := rfl
  rw [ht]
  simp

end RemoteConnector

/-- **This machine lists a directory**: it has the entries of the directory, in any order. -/
def LocalConnector.Lists {σ : Type} (c : LocalConnector) (items : List Found) (t : List (Deed σ))
    (listed : Except ConnectorError (List DirEntry)) : Prop :=
  Run c.entries t listed ∧ ∃ entries, .asked (.entries c.configDir) (.ok entries) ∈ t ∧
    entries.Perm (items.map Found.entry)

theorem LocalConnector.Lists.exists_perm {σ : Type} {c : LocalConnector} {items : List Found}
    {t : List (Deed σ)} {listed : Except ConnectorError (List DirEntry)}
    (h : c.Lists items t listed) :
    ∃ entries, listed = .ok entries ∧ entries.Perm (items.map Found.entry) := by
  obtain ⟨hrun, entries, hasked, hperm⟩ := h
  obtain ⟨_, _, reply, rfl, hreply, hdone⟩ := run_bind_iff.1 hrun
  obtain rfl := run_request_iff.1 hreply
  obtain ⟨rfl, rfl⟩ := run_done_iff.1 hdone
  rw [List.append_nil] at hasked
  cases List.mem_singleton.1 hasked
  exact ⟨entries, rfl, hperm⟩

/-! ## Directories as they are -/

/-- **Connectors list a directory as it is.** -/
structure Faithful (items : List Found) : Prop where
  /-- The connector of a remote host lists one entry for each that there is, with its name and
  whether it is a directory, and no others. -/
  remote : ∀ {c : RemoteConnector} {t : List (Deed Wire)}
    {listed : Except ConnectorError (List DirEntry)},
    c.Lists items t listed → listed = .ok (items.map Found.entry)
  /-- That of this machine lists the same for the same directory, up to order. -/
  alike : ∀ {σ : Type} {c : RemoteConnector} {here : LocalConnector} {t : List (Deed Wire)}
    {u : List (Deed σ)} {listed listed' : Except ConnectorError (List DirEntry)},
    c.Lists items t listed → here.Lists items u listed' →
      ∃ entries entries', listed = .ok entries ∧ listed' = .ok entries' ∧ entries.Perm entries'

theorem faithful_of_eq {items : List Found}
    (h : RemoteConnector.entriesOf (Found.printed items) = items.map Found.entry) :
    Faithful items where
  remote := fun hlists => h ▸ hlists.eq
  alike := by
    intro σ c here t u listed listed' hlists hhere
    obtain ⟨entries', heq', hperm⟩ := hhere.exists_perm
    exact ⟨_, entries', h ▸ hlists.eq, heq', hperm.symm⟩

theorem Faithful.entriesOf_eq {items : List Found} (h : Faithful items) :
    RemoteConnector.entriesOf (Found.printed items) = items.map Found.entry := by
  obtain ⟨c, t, listed, hlists⟩ := RemoteConnector.exists_lists items
  exact Except.ok.inj (hlists.eq.symm.trans (h.remote hlists))

/-- **Connectors list a directory as it is** exactly if no name in it holds a line feed or ends in a
carriage return. -/
theorem faithful_iff {items : List Found} : Faithful items ↔ ∀ item ∈ items, ¬ item.Breaks :=
  ⟨fun h => RemoteConnector.entriesOf_printed_iff.1 h.entriesOf_eq,
    fun h => faithful_of_eq (RemoteConnector.entriesOf_printed_iff.2 h)⟩

/-- A file whose name ends in a carriage return, beside a directory. -/
theorem not_faithful_return : ¬ Faithful
    [⟨'f', "a.network\r", by decide, by decide, by decide, by decide, by decide⟩,
      ⟨'d', "b", by decide, by decide, by decide, by decide, by decide⟩] := by
  intro h
  have hbreaks := RemoteConnector.entriesOf_printed_iff.1 h.entriesOf_eq _ List.mem_cons_self
  exact hbreaks (.inr (by decide))

end NetUnits
