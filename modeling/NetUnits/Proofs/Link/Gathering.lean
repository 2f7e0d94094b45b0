import NetUnits.Link.Gather
import NetUnits.Proofs.Action.Passing
import NetUnits.Proofs.Link.Outputs

/-! # What is asked for when links are gathered

The links of a host come from up to three commands: a listing as JSON, a listing as a table, and a
listing of the addresses. Each may succeed with any output, fail, or lose the connection. Here the
way to run a command notes what it was asked for and what it replied, so that what has become of
the commands can be compared with what is returned.

* **`Link.Issued`**, **`Link.noted`** — a command with its reply, and a way to run commands that
  notes them.
* **`Link.Issued.FailsWith`**, **`Link.Issued.Lists`**, **`Link.Issued.Tells`** — what a command
  has come to.
* **`Link.Fatal`** — commands after which there is nothing left to ask for.
* **`Link.Notes`** — noting changes nothing else, and what is noted fits what is returned.
* **`Link.Gathers`** — how the commands decide the result; **`Link.gathers`** — they always do. -/

namespace NetUnits.Link

open NetUnits.Action

variable {σ ω α β : Type}

/-! ## Commands and their replies -/

/-- **A command that was asked for**, and the reply to it. -/
structure Issued where
  /-- The program with its arguments. -/
  argv : List String
  /-- What became of it. -/
  reply : Except ConnectorError CommandResult

namespace Issued

/-- A command succeeded, and printed a text. -/
def Prints (c : Issued) (text : String) : Prop :=
  ∃ r, c.reply = .ok r ∧ r.success ∧ r.stdout = text

/-- **Why a command failed**: it could not be run, it did not succeed, or it is the listing as
JSON and has printed something else. -/
inductive FailsWith (c : Issued) : ConnectorError → Prop where
  /-- The command could not be run. -/
  | refused {e : ConnectorError} (reply : c.reply = .error e) : FailsWith c e
  /-- The command did not succeed. -/
  | exit {r : CommandResult} (reply : c.reply = .ok r) (failed : ¬r.success) :
      FailsWith c (.commandFailed (commandLine c.argv) (r.code.getD (-1)) (Text.trim r.combined))
  /-- What was printed is no listing. -/
  | unreadable {text : String} (json : c.argv = jsonCommand) (printed : c.Prints text)
      (unread : ∀ links, ¬IsLinkListing text links) :
      FailsWith c (.invalidOutput (commandLine c.argv) (listingComplaint text))

/-- A command failed. -/
def Fails (c : Issued) : Prop :=
  ∃ e, c.FailsWith e

/-- A command failed since the connection is lost. -/
def Loses (c : Issued) : Prop :=
  ∃ e, c.FailsWith e ∧ e.isConnection

/-- **A listing worked**, and these are its links. -/
inductive Lists (c : Issued) : List Link → Prop where
  /-- The listing as JSON. -/
  | json {text : String} {links : List Link} (json : c.argv = jsonCommand)
      (printed : c.Prints text) (listing : IsLinkListing text links) : Lists c links
  /-- The listing as a table. -/
  | table {text : String} {links : List Link} (table : c.argv = textCommand)
      (printed : c.Prints text) (listing : IsLinkTable text links) : Lists c links

/-- **What a command tells about addresses**: what it has printed, or nothing if it failed or has
printed something else. -/
def Tells (c : Issued) (table : List (Nat × List String)) : Prop :=
  (∃ text, c.Prints text ∧ IsAddressListing text table) ∨
    table = [] ∧ ∀ text, c.Prints text → ∀ table, ¬IsAddressListing text table

/-- Only a command that could not be run loses the connection. -/
theorem loses_iff {c : Issued} : c.Loses ↔ ∃ e, c.reply = .error e ∧ e.isConnection := by
  constructor
  · rintro ⟨e, ⟨reply⟩ | _ | _, h⟩
    · exact ⟨e, reply, h⟩
    · cases h
    · cases h
  · rintro ⟨e, reply, h⟩
    exact ⟨e, .refused reply, h⟩

end Issued

/-- The result of a listing as JSON is what has become of the command. -/
theorem fromJson_of (c : Issued) (hc : c.argv = jsonCommand) :
    (∃ links, fromJson c.reply = .ok links ∧ c.Lists links) ∨
      ∃ e, fromJson c.reply = .error e ∧ c.FailsWith e := by
  obtain ⟨argv, reply⟩ := c
  obtain rfl : argv = jsonCommand := hc
  cases reply with
  | error e => exact .inr ⟨e, rfl, .refused rfl⟩
  | ok r =>
    by_cases hr : r.success
    · cases hread : ofJsonListing? r.stdout with
      | some links =>
        exact .inl ⟨links, by simp [fromJson, CommandResult.check, hr, hread, bind, Except.bind],
          .json rfl ⟨r, rfl, hr, rfl⟩ (ofJsonListing?_eq_some_iff.1 hread)⟩
      | none =>
        refine .inr ⟨_, by simp [fromJson, CommandResult.check, hr, hread, bind, Except.bind],
          .unreadable rfl ⟨r, rfl, hr, rfl⟩ fun links hlinks => ?_⟩
        cases hread.symm.trans (ofJsonListing?_eq_some_iff.2 hlinks)
    · exact .inr ⟨_, by simp [fromJson, CommandResult.check, hr, bind, Except.bind],
        .exit rfl hr⟩

/-- The result of a listing as a table is what has become of the command. -/
theorem fromText_of (c : Issued) (hc : c.argv = textCommand) :
    (∃ links, fromText c.reply = .ok links ∧ c.Lists links) ∨
      ∃ e, fromText c.reply = .error e ∧ c.FailsWith e := by
  obtain ⟨argv, reply⟩ := c
  obtain rfl : argv = textCommand := hc
  cases reply with
  | error e => exact .inr ⟨e, rfl, .refused rfl⟩
  | ok r =>
    by_cases hr : r.success
    · exact .inl ⟨ofTextListing r.stdout,
        by simp [fromText, CommandResult.check, hr, bind, Except.bind, pure, Except.pure],
        .table rfl ⟨r, rfl, hr, rfl⟩ (ofTextListing_eq_iff.1 rfl)⟩
    · exact .inr ⟨_, by simp [fromText, CommandResult.check, hr, bind, Except.bind],
        .exit rfl hr⟩

namespace Issued

/-- A command that could not be run has failed with that error. -/
theorem FailsWith.eq_of_reply {c : Issued} {e e' : ConnectorError} (h : c.FailsWith e)
    (reply : c.reply = .error e') : e = e' := by
  cases h with
  | refused reply' => exact Except.error.inj (reply'.symm.trans reply)
  | exit reply' => cases reply'.symm.trans reply
  | unreadable _ printed =>
    obtain ⟨r, reply', -⟩ := printed
    cases reply'.symm.trans reply

/-- Another failure is no lost connection. -/
theorem FailsWith.not_loses {c : Issued} {e : ConnectorError} (h : c.FailsWith e)
    (he : ¬e.isConnection) : ¬c.Loses := by
  intro hc
  obtain ⟨e', reply, he'⟩ := loses_iff.1 hc
  exact he (h.eq_of_reply reply ▸ he')

/-- All a command has printed is one text. -/
theorem Prints.unique {c : Issued} {text text' : String} (h : c.Prints text)
    (h' : c.Prints text') : text = text' := by
  obtain ⟨r, reply, -, rfl⟩ := h
  obtain ⟨r', reply', -, rfl⟩ := h'
  cases Except.ok.inj (reply.symm.trans reply')
  rfl

/-- A listing that worked has not failed. -/
theorem Lists.not_fails {c : Issued} {links : List Link} (h : c.Lists links) : ¬c.Fails := by
  obtain ⟨text, printed⟩ : ∃ text, c.Prints text := by
    cases h with
    | json _ printed => exact ⟨_, printed⟩
    | table _ printed => exact ⟨_, printed⟩
  rintro ⟨e, hf⟩
  obtain ⟨r, reply, hr, -⟩ := id printed
  cases hf with
  | refused reply' => cases reply'.symm.trans reply
  | exit reply' failed =>
    cases Except.ok.inj (reply'.symm.trans reply)
    exact failed hr
  | unreadable json printed' unread =>
    cases h with
    | json _ printed'' listing => exact unread _ (printed''.unique printed' ▸ listing)
    | table table => exact absurd (json.symm.trans table) (by decide)

end Issued

/-! ## What the commands decide -/

/-- **There is nothing left to ask for**: the connection is lost, or neither listing worked. -/
def Fatal (calls : List Issued) : Prop :=
  (∃ c ∈ calls, c.Loses) ∨
    (∃ c ∈ calls, c.argv = jsonCommand ∧ c.Fails) ∧ ∃ c ∈ calls, c.argv = textCommand ∧ c.Fails

/-- The addresses of a link number: those of its last entry, or none. -/
def addressesIn (table : List (Nat × List String)) (index : Nat) : List String :=
  ((table.filter fun entry => entry.1 = index).getLast?.map Prod.snd).getD []

/-- **How the commands decide the result.** -/
structure Gathers (calls : List Issued) (result : Except ConnectorError (List Link)) : Prop where
  /-- At most the three commands are asked for, in this order. -/
  order : (calls.map Issued.argv).Sublist [jsonCommand, textCommand, addressCommand]
  /-- The listing as JSON is always asked for. -/
  json : jsonCommand ∈ calls.map Issued.argv
  /-- The table is asked for exactly if the listing as JSON failed, but not the connection. -/
  table : textCommand ∈ calls.map Issued.argv ↔
    ∃ c ∈ calls, c.argv = jsonCommand ∧ ∃ e, c.FailsWith e ∧ ¬e.isConnection
  /-- There is an error exactly if the connection is lost or neither listing worked. -/
  fails : (∃ e, result = .error e) ↔ Fatal calls
  /-- The error is that of the last command. -/
  error : ∀ e, result = .error e → ∃ before c, calls = before ++ [c] ∧ c.FailsWith e
  /-- Nothing is asked for any more where there is nothing left to ask for. -/
  stops : ∀ before after, calls = before ++ after → Fatal before → after = []
  /-- The links are those of the first listing that worked, in its order, with the addresses that
  the address command tells for their numbers. -/
  links : ∀ links, result = .ok links → ∃ before c a listed table,
    calls = before ++ [c, a] ∧ (∀ b ∈ before, b.Fails) ∧ c.Lists listed ∧
      a.argv = addressCommand ∧ a.Tells table ∧
      links = listed.map fun link => { link with addresses := addressesIn table link.index }

/-! ## Noting -/

/-- The state of a way to run commands that are noted: its own, beside the notes. -/
def besideNotes : Part (σ × List Issued) σ where
  get := Prod.fst
  set s p := (s, p.2)

/-- **A way to run commands that notes them** with the replies. -/
def noted (probe : List String → Action σ (Except ConnectorError CommandResult))
    (argv : List String) : Action (σ × List Issued) (Except ConnectorError CommandResult) := do
  let reply ← (probe argv).inside besideNotes
  change fun p => (reply, (p.1, p.2 ++ [⟨argv, reply⟩]))

/-- What is noted is not looked at by others. -/
theorem interpret_inside_besideNotes (answer : (r : Request) → StateM ω r.Reply)
    (x : Action σ α) (s : σ) (calls : List Issued) :
    (x.inside besideNotes).interpret answer (s, calls) =
      (fun p => (p.1, p.2, calls)) <$> x.interpret answer s := by
  induction x generalizing s with
  | done a => rfl
  | ask r k ih => simp [inside, interpret, ih]
  | atomic u k ih => exact ih s (u s)
  | fork other next ih_other ih => simp [inside, interpret, ih_other, ih]

/-- **One action notes commands and otherwise does what another does**; the commands and the
result are related. -/
def Notes (answer : (r : Request) → StateM ω r.Reply) (x : Action (σ × List Issued) α)
    (y : Action σ α) (P : List Issued → α → Prop) : Prop :=
  ∀ s before w, ∃ calls a s' w',
    (x.interpret answer (s, before)).run w = ((a, s', before ++ calls), w') ∧
      (y.interpret answer s).run w = ((a, s'), w') ∧ P calls a

namespace Notes

variable {answer : (r : Request) → StateM ω r.Reply} {P : List Issued → α → Prop}
  {Q : List Issued → β → Prop}

/-- Nothing is asked for. -/
theorem done {a : α} (h : P [] a) : Notes answer (σ := σ) (done a) (done a) P :=
  fun s before w => ⟨[], a, s, w, by rw [List.append_nil]; rfl, rfl, h⟩

/-- What is said of commands and result may be weaker. -/
theorem mono {x : Action (σ × List Issued) α} {y : Action σ α} {P' : List Issued → α → Prop}
    (h : Notes answer x y P) (hP : ∀ calls a, P calls a → P' calls a) : Notes answer x y P' := by
  intro s before w
  obtain ⟨calls, a, s', w', hx, hy, hcalls⟩ := h s before w
  exact ⟨calls, a, s', w', hx, hy, hP calls a hcalls⟩

/-- **One after the other.** -/
theorem bind {x : Action (σ × List Issued) α} {y : Action σ α}
    {f : α → Action (σ × List Issued) β} {g : α → Action σ β} (h : Notes answer x y P)
    (rest : ∀ calls a, P calls a →
      Notes answer (f a) (g a) fun more b => Q (calls ++ more) b) :
    Notes answer (x >>= f) (y >>= g) Q := by
  intro s before w
  obtain ⟨calls, a, s₁, w₁, hx, hy, hcalls⟩ := h s before w
  obtain ⟨more, b, s₂, w₂, hf, hg, hmore⟩ := rest calls a hcalls s₁ (before ++ calls) w₁
  refine ⟨calls ++ more, b, s₂, w₂, ?_, ?_, hmore⟩
  · rw [interpret_bind, StateT.run_bind, hx, ← List.append_assoc]
    exact hf
  · rw [interpret_bind, StateT.run_bind, hy]
    exact hg

/-- The log is told. -/
theorem event {source : EventSource} {level : Level} {message : String} :
    Notes answer (σ := σ) (event source level message) (event source level message)
      fun calls _ => calls = [] := by
  intro s before w
  obtain ⟨reply, w'⟩ := (answer (.event ⟨source, level, message⟩)).run w
  exact ⟨[], _, s, _, by rw [List.append_nil]; rfl, rfl, rfl⟩

/-- A command is asked for. -/
theorem noted (probe : List String → Action σ (Except ConnectorError CommandResult))
    (argv : List String) :
    Notes answer (noted probe argv) (probe argv) fun calls reply => calls = [⟨argv, reply⟩] := by
  intro s before w
  rcases hrun : ((probe argv).interpret answer s).run w with ⟨⟨reply, s'⟩, w'⟩
  refine ⟨[⟨argv, reply⟩], reply, s', w', ?_, rfl, rfl⟩
  rw [Link.noted, interpret_bind, interpret_inside_besideNotes]
  simp only [StateT.run_bind, StateT.run_map, hrun]
  rfl

end Notes

/-! ## The listing -/

/-- **The commands asked for a listing**, and what it comes to. -/
inductive ListedBy : List Issued → Except ConnectorError (List Link) → Prop where
  /-- The listing as JSON worked. -/
  | json {c : Issued} {links : List Link} (json : c.argv = jsonCommand) (lists : c.Lists links) :
      ListedBy [c] (.ok links)
  /-- The connection is lost. -/
  | lost {c : Issued} {e : ConnectorError} (json : c.argv = jsonCommand) (fails : c.FailsWith e)
      (lost : e.isConnection) : ListedBy [c] (.error e)
  /-- The listing as JSON failed, and the table worked. -/
  | table {c d : Issued} {e : ConnectorError} {links : List Link} (json : c.argv = jsonCommand)
      (fails : c.FailsWith e) (held : ¬e.isConnection) (table : d.argv = textCommand)
      (lists : d.Lists links) : ListedBy [c, d] (.ok links)
  /-- Neither listing worked. -/
  | neither {c d : Issued} {e e' : ConnectorError} (json : c.argv = jsonCommand)
      (fails : c.FailsWith e) (held : ¬e.isConnection) (table : d.argv = textCommand)
      (fails' : d.FailsWith e') : ListedBy [c, d] (.error e')

/-- The links are listed by the commands that are noted. -/
theorem gatherListing_notes (answer : (r : Request) → StateM ω r.Reply)
    (probe : List String → Action σ (Except ConnectorError CommandResult)) :
    Notes answer (gatherListing (noted probe)) (gatherListing probe) ListedBy := by
  refine (Notes.noted probe jsonCommand).bind fun calls reply h => ?_
  subst h
  obtain ⟨links, hjson, lists⟩ | ⟨e, hjson, fails⟩ := fromJson_of ⟨jsonCommand, reply⟩ rfl
  all_goals simp only at hjson; simp only [hjson]
  · exact .done (.json rfl lists)
  · by_cases he : e.isConnection
    · simp only [he]
      exact .done (.lost rfl fails he)
    · simp only [he]
      refine Notes.event.bind fun none _ h => ?_
      subst h
      refine (Notes.noted probe textCommand).bind fun calls reply' h => ?_
      subst h
      obtain ⟨links, htext, lists⟩ | ⟨e', htext, fails'⟩ := fromText_of ⟨textCommand, reply'⟩ rfl
      all_goals simp only at htext; simp only [htext]
      · exact .done (.table rfl fails he rfl lists)
      · exact .done (.neither rfl fails he rfl fails')

namespace ListedBy

variable {calls : List Issued} {result : Except ConnectorError (List Link)} {listed : List Link}
  {e : ConnectorError}

theorem order (h : ListedBy calls result) :
    (calls.map Issued.argv).Sublist [jsonCommand, textCommand] := by
  cases h with
  | json json | lost json =>
    rw [List.map_singleton, json]
    decide
  | table json _ _ table | neither json _ _ table =>
    rw [List.map_cons, List.map_singleton, json, table]

theorem json_mem (h : ListedBy calls result) : jsonCommand ∈ calls.map Issued.argv := by
  cases h with
  | json json | lost json | table json | neither json => simp [json]

/-- The table is asked for exactly if the listing as JSON failed, but not the connection. -/
theorem table_iff (h : ListedBy calls result) : textCommand ∈ calls.map Issued.argv ↔
    ∃ c ∈ calls, c.argv = jsonCommand ∧ ∃ e, c.FailsWith e ∧ ¬e.isConnection := by
  have hne : textCommand ≠ jsonCommand := by decide
  cases h with
  | json json lists =>
    simp only [List.map_singleton, List.mem_singleton, json, hne, false_iff]
    rintro ⟨c', rfl, -, e, fails, -⟩
    exact lists.not_fails ⟨e, fails⟩
  | lost json fails lost =>
    simp only [List.map_singleton, List.mem_singleton, json, hne, false_iff]
    rintro ⟨c', rfl, -, e, fails', he⟩
    exact fails'.not_loses he ⟨_, fails, lost⟩
  | table json fails held table | neither json fails held table =>
    exact iff_of_true (List.mem_map.2 ⟨_, by simp, table⟩) ⟨_, by simp, json, _, fails, held⟩

/-- The links are those of the last command; all before it have failed. -/
theorem lists (h : ListedBy calls (.ok listed)) :
    ∃ before c, calls = before ++ [c] ∧ (∀ b ∈ before, b.Fails) ∧ c.Lists listed := by
  cases h with
  | json _ lists => exact ⟨[], _, rfl, by simp, lists⟩
  | table _ fails _ _ lists => exact ⟨[_], _, rfl, by simpa using ⟨_, fails⟩, lists⟩

/-- After a listing there is something left to ask for. -/
theorem not_fatal (h : ListedBy calls (.ok listed)) : ¬Fatal calls := by
  cases h with
  | json json lists =>
    rintro (⟨c', hc', e, fails, -⟩ | ⟨⟨c', hc', -, fails⟩, -⟩)
    · rw [List.mem_singleton] at hc'
      exact lists.not_fails ⟨e, hc' ▸ fails⟩
    · rw [List.mem_singleton] at hc'
      exact lists.not_fails (hc' ▸ fails)
  | table json fails held table lists =>
    rintro (⟨c', hc', hlost⟩ | ⟨-, c', hc', htable, hfails⟩)
    · obtain rfl | rfl : c' = _ ∨ c' = _ := by simpa using hc'
      · exact fails.not_loses held hlost
      · obtain ⟨e', fails', -⟩ := hlost
        exact lists.not_fails ⟨e', fails'⟩
    · obtain rfl | rfl : c' = _ ∨ c' = _ := by simpa using hc'
      · exact absurd (json.symm.trans htable) (by decide)
      · exact lists.not_fails hfails

end ListedBy

/-! ## The addresses -/

/-- A row has no addresses. -/
theorem IsRow.addresses {line : List Char} {link : Link} (h : IsRow line link) :
    link.addresses = [] := by
  obtain ⟨index, name, type, state, setup, more, -, -, -, -, hlink⟩ := h
  rw [hlink]

/-- The links of rows have no addresses. -/
theorem IsRows.addresses {lines : List (List Char)} {links : List Link} (h : IsRows lines links)
    {link : Link} (hlink : link ∈ links) : link.addresses = [] := by
  induction h with
  | nil => exact nomatch hlink
  | row hline _ ih =>
    obtain rfl | hlink := List.mem_cons.1 hlink
    · exact hline.addresses
    · exact ih hlink
  | other _ _ ih => exact ih hlink

/-- The links of a JSON value have no addresses. -/
theorem IsLinks.addresses {links : List Link} {j : Json} (h : IsLinks links j) {link : Link}
    (hlink : link ∈ links) : link.addresses = [] := by
  cases h with
  | bare hitems | wrapped _ _ hitems =>
    obtain ⟨item, -, hitem⟩ :=
      exists_of_forall₂ (R := fun link item => IsLink item link) hitems.flip hlink
    exact hitem.addresses

/-- Neither listing knows addresses. -/
theorem Issued.Lists.addresses {c : Issued} {listed : List Link} (h : c.Lists listed)
    {link : Link} (hlink : link ∈ listed) : link.addresses = [] := by
  cases h with
  | json _ _ listing =>
    obtain ⟨j, -, -, -, hlinks⟩ := listing
    exact hlinks.addresses hlink
  | table _ _ listing => exact IsRows.addresses listing hlink

theorem addressesAt?_eq (index : Nat) (table : List (Nat × List String)) :
    addressesAt? index table =
      (table.filter fun entry => entry.1 = index).getLast?.map Prod.snd := by
  induction table with
  | nil => rfl
  | cons entry rest ih =>
    obtain ⟨i, addresses⟩ := entry
    rw [addressesAt?, ih, List.filter_cons]
    by_cases hi : i = index
    · simp only [hi, decide_true, if_true, List.getLast?_cons]
      cases (rest.filter fun entry => entry.1 = index).getLast? <;> rfl
    · simp [hi]

/-- A link without addresses gets those of its number. -/
theorem withAddresses_eq {link : Link} (h : link.addresses = [])
    (table : List (Nat × List String)) :
    withAddresses table link = { link with addresses := addressesIn table link.index } := by
  rw [withAddresses, addressesAt?_eq, addressesIn]
  cases (table.filter fun entry => entry.1 = link.index).getLast? with
  | none => rw [← h]; rfl
  | some entry => rfl

/-- **What becomes of the links** when the addresses are asked for. -/
inductive AddressedBy (listed : List Link) (c : Issued) :
    Except ConnectorError (List Link) → Prop where
  /-- The connection is lost. -/
  | lost {e : ConnectorError} (fails : c.FailsWith e) (lost : e.isConnection) :
      AddressedBy listed c (.error e)
  /-- Whatever else becomes of the command, the links are returned. -/
  | told {table : List (Nat × List String)} (held : ¬c.Loses) (tells : c.Tells table) :
      AddressedBy listed c (.ok (listed.map (withAddresses table)))

/-- Links are as they were if nothing is told. -/
theorem AddressedBy.untold {listed : List Link} {c : Issued} (held : ¬c.Loses)
    (h : ∀ text, c.Prints text → ∀ table, ¬IsAddressListing text table) :
    AddressedBy listed c (.ok listed) := by
  have hnone : listed.map (withAddresses []) = listed := List.map_id'' (fun _ => rfl) listed
  have htold : AddressedBy listed c (.ok (listed.map (withAddresses []))) :=
    .told held (.inr ⟨rfl, h⟩)
  rwa [hnone] at htold

theorem addAddresses_notes (answer : (r : Request) → StateM ω r.Reply) (listed : List Link)
    (c : Issued) :
    Notes answer (σ := σ) (addAddresses listed c.reply) (addAddresses listed c.reply)
      fun calls result => calls = [] ∧ AddressedBy listed c result := by
  cases hreply : c.reply with
  | error e =>
    by_cases he : e.isConnection
    · simp only [addAddresses, he]
      exact .done ⟨rfl, .lost (.refused hreply) he⟩
    · simp only [addAddresses, he]
      refine Notes.event.bind fun calls _ h => .done ⟨by rw [h]; rfl, .untold ?_ ?_⟩
      · exact (Issued.FailsWith.refused hreply).not_loses he
      · rintro text ⟨r, hr, -⟩
        cases hreply.symm.trans hr
  | ok r =>
    have hheld : ¬c.Loses := by
      rw [Issued.loses_iff]
      rintro ⟨e, he, -⟩
      cases hreply.symm.trans he
    by_cases hr : r.success
    · have hprints : c.Prints r.stdout := ⟨r, hreply, hr, rfl⟩
      cases htable : addressesOf? r.stdout with
      | some table =>
        simp only [addAddresses, hr, htable]
        exact .done ⟨rfl, .told hheld (.inl ⟨_, hprints, addressesOf?_eq_some_iff.1 htable⟩)⟩
      | none =>
        simp only [addAddresses, hr, htable]
        refine Notes.event.bind fun calls _ h => .done ⟨by rw [h]; rfl, .untold hheld ?_⟩
        intro text htext table hlisting
        rw [htext.unique hprints] at hlisting
        cases htable.symm.trans (addressesOf?_eq_some_iff.2 hlisting)
    · simp only [addAddresses, hr]
      refine Notes.event.bind fun calls _ h => .done ⟨by rw [h]; rfl, .untold hheld ?_⟩
      rintro text ⟨r', hr', hsuccess, -⟩
      cases Except.ok.inj (hreply.symm.trans hr')
      exact absurd hsuccess hr

/-! ## All three commands -/

/-- Whatever is fatal among some commands is fatal among more. -/
theorem Fatal.mono {calls calls' : List Issued} (h : Fatal calls)
    (hsub : ∀ c ∈ calls, c ∈ calls') : Fatal calls' := by
  obtain ⟨c, hc, lost⟩ | ⟨⟨c, hc, json⟩, d, hd, table⟩ := h
  · exact .inl ⟨c, hsub c hc, lost⟩
  · exact .inr ⟨⟨c, hsub c hc, json⟩, d, hsub d hd, table⟩

/-- The address command is fatal only by losing the connection. -/
theorem fatal_append_singleton_iff {calls : List Issued} {a : Issued}
    (ha : a.argv = addressCommand) : Fatal (calls ++ [a]) ↔ Fatal calls ∨ a.Loses := by
  have hjson : a.argv ≠ jsonCommand := by rw [ha]; decide
  have htext : a.argv ≠ textCommand := by rw [ha]; decide
  simp only [Fatal, List.mem_append, List.mem_singleton, or_and_right, exists_or, exists_eq_left,
    hjson, htext, false_and, or_false]
  exact or_right_comm

/-- If nothing before the last command is fatal, nothing is asked for after what is. -/
theorem stops_of_not_fatal {calls before after : List Issued} (h : ¬Fatal calls.dropLast)
    (hcalls : calls = before ++ after) (hbefore : Fatal before) : after = [] := by
  by_contra hafter
  refine h (hbefore.mono fun c hc => ?_)
  rw [hcalls, List.dropLast_append_of_ne_nil hafter]
  exact List.mem_append_left _ hc

namespace ListedBy

variable {calls : List Issued} {result : Except ConnectorError (List Link)} {listed : List Link}
  {e : ConnectorError} {a : Issued}

/-- Nothing is fatal before the last command. -/
theorem not_fatal_dropLast (h : ListedBy calls result) : ¬Fatal calls.dropLast := by
  cases h with
  | json | lost => simp [Fatal]
  | table json fails held | neither json fails held =>
    rintro (⟨c', hc', hlost⟩ | ⟨-, c', hc', htable, -⟩)
    · obtain rfl := List.mem_singleton.1 hc'
      exact fails.not_loses held hlost
    · obtain rfl := List.mem_singleton.1 hc'
      exact absurd (json.symm.trans htable) (by decide)

/-- **Where there is no listing**, gathering fails with the same error. -/
theorem gathers_error (h : ListedBy calls (.error e)) : Gathers calls (.error e) where
  order := h.order.trans (by decide)
  json := h.json_mem
  table := h.table_iff
  fails := by
    refine iff_of_true ⟨e, rfl⟩ ?_
    cases h with
    | lost _ fails lost => exact .inl ⟨_, List.mem_singleton_self _, e, fails, lost⟩
    | neither json fails _ table fails' =>
      exact .inr ⟨⟨_, by simp, json, _, fails⟩, _, by simp, table, _, fails'⟩
  error := by
    rintro _ ⟨⟩
    cases h with
    | lost _ fails => exact ⟨[], _, rfl, fails⟩
    | neither _ _ _ _ fails' => exact ⟨[_], _, rfl, fails'⟩
  stops _ _ := stops_of_not_fatal h.not_fatal_dropLast
  links _ h := by cases h

/-- **Where there is a listing**, the address command decides the rest. -/
theorem gathers_addressed (h : ListedBy calls (.ok listed)) (ha : a.argv = addressCommand)
    (hresult : AddressedBy listed a result) : Gathers (calls ++ [a]) result where
  order := by
    rw [List.map_append, List.map_singleton, ha]
    exact h.order.append (.refl [addressCommand])
  json := by
    rw [List.map_append]
    exact List.mem_append_left _ h.json_mem
  table := by
    have hjson : a.argv ≠ jsonCommand := by rw [ha]; decide
    have htext : textCommand ≠ a.argv := by rw [ha]; decide
    simp only [List.map_append, List.map_singleton, List.mem_append, List.mem_singleton, htext,
      or_false, or_and_right, exists_or, exists_eq_left, hjson, false_and]
    exact h.table_iff
  fails := by
    rw [fatal_append_singleton_iff ha, or_iff_right h.not_fatal]
    cases hresult with
    | lost fails lost => exact iff_of_true ⟨_, rfl⟩ ⟨_, fails, lost⟩
    | told held => exact iff_of_false (by simp) held
  error := by
    rintro e rfl
    cases hresult with
    | lost fails => exact ⟨calls, a, rfl, fails⟩
  stops _ _ := stops_of_not_fatal (by simpa using h.not_fatal)
  links := by
    rintro links rfl
    cases hresult with
    | @told table _ tells =>
      obtain ⟨before, c, rfl, hbefore, hc⟩ := h.lists
      refine ⟨before, c, a, listed, table, by simp, hbefore, hc, ha, tells, ?_⟩
      exact List.map_congr_left fun link hlink => withAddresses_eq (hc.addresses hlink) table

end ListedBy

/-- **Links are gathered as the commands decide**: from every state of every way to run commands,
and whatever becomes of each command. That the commands are noted changes nothing. -/
theorem gathers (probe : List String → Action σ (Except ConnectorError CommandResult))
    (answer : (r : Request) → StateM ω r.Reply) (s : σ) (w : ω) :
    ∃ calls result s' w',
      ((gather (noted probe)).interpret answer (s, [])).run w = ((result, s', calls), w') ∧
        ((gather probe).interpret answer s).run w = ((result, s'), w') ∧ Gathers calls result := by
  suffices h : Notes answer (gather (noted probe)) (gather probe) Gathers by
    exact h s [] w
  refine (gatherListing_notes answer probe).bind fun calls result h => ?_
  cases result with
  | error e => exact .done (by rw [List.append_nil]; exact h.gathers_error)
  | ok listed =>
    refine (Notes.noted probe addressCommand).bind fun more reply hmore => ?_
    subst hmore
    refine (addAddresses_notes answer listed ⟨addressCommand, reply⟩).mono ?_
    rintro none result ⟨rfl, hresult⟩
    exact h.gathers_addressed rfl hresult

/-- Addresses of one link, told twice: at last one with a length, none at all, and one without a
length. -/
def toldTwice : String :=
  "[\x7b\"ifindex\":2,\"addr_info\":[\x7b\"local\":\"::1\"\x7d]\x7d,\x7b\"ifindex\":2,\"addr_info\":" ++
    "[\x7b\"local\":\"::2\",\"prefixlen\":64\x7d,\x7b\x7d,\x7b\"local\":\"::3\"\x7d]\x7d]"

/-- Replies of a host that has no listing as JSON, but a table of two links. -/
def sampleReply (argv : List String) : Except ConnectorError CommandResult :=
  if argv = textCommand then
    .ok { output := Text.bytesOf "1 lo loopback carrier -\n2 eth0 ether routable -\n" }
  else if argv = addressCommand then .ok { output := Text.bytesOf toldTwice }
  else .ok { code := some 1 }

/-- The links of that host: the second has the addresses of its last entry, the first has none. -/
def sampleLinks : List Link :=
  [{ index := 1, name := "lo", state := "carrier" },
    { index := 2, name := "eth0", state := "routable", addresses := ["::2/64", "::3"] }]

/-- **A run in which addresses are read**. -/
theorem gathers_sample : ∃ calls, Gathers calls (.ok sampleLinks) := by
  let probe (argv : List String) : Action Unit (Except ConnectorError CommandResult) :=
    pure (sampleReply argv)
  let answer (r : Request) : StateM Unit r.Reply := pure r.usual
  obtain ⟨calls, result, s, w, -, hrun, h⟩ := gathers probe answer () ()
  have heval : (((gather probe).interpret answer ()).run ()).1.1 = .ok sampleLinks := by
    decide +kernel
  rw [hrun] at heval
  exact ⟨calls, heval ▸ h⟩

end NetUnits.Link
