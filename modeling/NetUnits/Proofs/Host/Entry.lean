import NetUnits.Connector.Pool
import NetUnits.Host.Registry
import NetUnits.Proofs.Dict
import NetUnits.Proofs.Json.RoundTrip
import NetUnits.Proofs.Lists

/-! # Hosts read back

* **`HostEntry.ofJson?_toJson`** — an entry is read back from its JSON.
* **`Registry.entriesOf?_textOf`** — the entries of hosts are read back from their text.
* **`Registry.Sound`** — all hosts can be used, and each stands under its own name; so it is with
  all hosts of a text (**`Registry.sound_hostsOf`**), and with such hosts nothing is lost
  (**`Registry.hostsOf_values`**). -/

namespace NetUnits

open NetUnits.Text

namespace HostEntry

/-- **An entry is read back from its JSON.** -/
theorem ofJson?_toJson {e : HostEntry} (hport : e.port ≤ maxNat16) :
    ofJson? e.toJson = some e := by
  obtain ⟨name, address, user, port, keyFile⟩ := e
  have hport' : (port : Int) ≤ (maxNat16 : Int) := by exact_mod_cast hport
  cases keyFile <;>
    simp [ofJson?, toJson, Json.record?, fieldNames, Json.distinctNames, Record.field?,
      Record.fieldOr, Json.lastOf?, Json.string?, Json.natUpTo?, Record.nullable, hport']

/-- The JSON of an entry is exact. -/
theorem isExact_toJson {e : HostEntry} (hport : e.port ≤ maxNat16) : e.toJson.IsExact := by
  have hint : Json.Parser.IsInt64 e.port := by
    simp only [maxNat16] at hport
    simp only [Json.Parser.IsInt64, maxNat64]
    omega
  unfold toJson
  cases e.keyFile <;> simp [Json.IsExact, Json.HoldExact, hint]

/-- The port of an entry that is read has 16 bits. -/
theorem port_le_of_ofJson? {j : Json} {e : HostEntry} (h : ofJson? j = some e) :
    e.port ≤ maxNat16 := by
  simp only [ofJson?, Option.bind_eq_bind, Option.bind_eq_some_iff, Option.pure_def,
    Option.some.injEq] at h
  obtain ⟨r, -, name, -, address, -, user, -, port, hport, keyFile, -, rfl⟩ := h
  unfold Record.fieldOr at hport
  split at hport
  · rename_i j _
    cases j <;> simp [Json.natUpTo?] at hport
    show port ≤ maxNat16
    omega
  · show port ≤ maxNat16
    obtain rfl : 22 = port := Option.some.inj hport
    decide

/-- An entry that can be used does not have a name of this machine. -/
theorem isLocalHost_of_validate {e : HostEntry} (h : e.validate = .ok ()) :
    isLocalHost e.name = false := by
  unfold validate at h
  split_ifs at h with hempty hlocal
  have hne : e.name ≠ "" := by
    intro hname
    rw [hname] at hempty
    exact hempty rfl
  simp [isLocalHost, hne, hlocal]

end HostEntry

namespace Registry

/-! ## The text of hosts -/

/-- **The entries of hosts are read back from their text.** -/
theorem entriesOf?_textOf {hosts : Dict HostEntry}
    (hports : ∀ e ∈ hosts.values, e.port ≤ maxNat16) :
    entriesOf? (textOf hosts) = some hosts.values := by
  unfold textOf
  generalize hosts.values = es at hports
  have hexact : (Json.array (es.map HostEntry.toJson)).IsExact :=
    Json.areExact_iff.2 (List.forall_mem_map.2 fun e he => HostEntry.isExact_toJson (hports e he))
  have hdecode : (es.map HostEntry.toJson).mapM HostEntry.ofJson? = some es :=
    mapM_map_eq_some fun e he => HostEntry.ofJson?_toJson (hports e he)
  have hgap : ∀ c ∈ "\n".toList, Json.Parser.isGap c = true := by simp [Json.Parser.isGap]
  have hparse : Json.parse? ((Json.array (es.map HostEntry.toJson)).pretty ++ "\n") = _ :=
    Json.parse?_pretty hexact hgap
  simp [entriesOf?, hparse, Json.items?, hdecode]

/-- The ports of the entries of a text have 16 bits. -/
theorem port_le_of_entriesOf? {text : String} {entries : List HostEntry}
    (h : entriesOf? text = some entries) : ∀ e ∈ entries, e.port ≤ maxNat16 := by
  obtain ⟨items, -, hitems⟩ := Option.bind_eq_some_iff.1 h
  intro e he
  obtain ⟨item, -, hitem⟩ := exists_of_mem_mapM hitems he
  exact HostEntry.port_le_of_ofJson? hitem

/-- **Hosts that can be used**, each under its own name. -/
structure Sound (hosts : Dict HostEntry) : Prop where
  /-- A host stands under its name. -/
  named : ∀ name e, hosts.get? name = some e → e.name = name
  /-- A host can be used. -/
  valid : ∀ name e, hosts.get? name = some e → e.validate = .ok ()
  /-- The port of a host has 16 bits. -/
  port : ∀ name e, hosts.get? name = some e → e.port ≤ maxNat16

theorem isUsable_iff {e : HostEntry} : isUsable e = true ↔ e.validate = .ok () := by
  unfold isUsable
  cases e.validate <;> simp

/-- The hosts of a list of entries are those of it that can be used, by their names. -/
theorem mem_of_get?_hostsOf {entries : List HostEntry} {name : String} {e : HostEntry}
    (h : (hostsOf entries).get? name = some e) :
    e.name = name ∧ e ∈ entries ∧ isUsable e = true := by
  obtain ⟨e', he', heq⟩ := List.mem_map.1 (Dict.mem_of_get?_ofList h)
  obtain ⟨rfl, rfl⟩ := Prod.mk.inj heq
  exact ⟨rfl, List.mem_filter.1 he'⟩

/-- **Hosts that are read are not this machine**: an entry under such a name is left out. -/
theorem isLocalHost_of_get?_hostsOf {entries : List HostEntry} {name : String} {e : HostEntry}
    (h : (hostsOf entries).get? name = some e) : isLocalHost name = false := by
  obtain ⟨rfl, -, husable⟩ := mem_of_get?_hostsOf h
  exact HostEntry.isLocalHost_of_validate (isUsable_iff.1 husable)

/-- **Nothing of sound hosts is lost** when they are collected again. -/
theorem hostsOf_values {hosts : Dict HostEntry} (h : Sound hosts) :
    hostsOf hosts.values = hosts := by
  have husable : hosts.values.filter isUsable = hosts.values := by
    refine List.filter_eq_self.2 fun e he => ?_
    obtain ⟨name, hname⟩ := Dict.mem_values_iff.1 he
    exact isUsable_iff.2 (h.valid name e hname)
  have hentries : hosts.values.map (fun e => (e.name, e)) = hosts.entries := by
    rw [Dict.values, List.map_map]
    refine map_eq_self_iff.2 fun entry hentry => ?_
    obtain ⟨name, e⟩ := entry
    have hname := h.named name e (Dict.get?_eq_some_iff.2 hentry)
    simp [hname]
  rw [hostsOf, husable, hentries, Dict.ofList_entries]

/-- **The hosts of a list of entries are sound**, whatever the entries are. -/
theorem sound_hostsOf {entries : List HostEntry} (hports : ∀ e ∈ entries, e.port ≤ maxNat16) :
    Sound (hostsOf entries) where
  named := fun _ _ h => (mem_of_get?_hostsOf h).1
  valid := fun _ _ h => isUsable_iff.1 (mem_of_get?_hostsOf h).2.2
  port := fun _ e h => hports e (mem_of_get?_hostsOf h).2.1

theorem sound_empty : Sound ∅ := by
  constructor <;> rintro name e ⟨⟩

theorem Sound.insert {hosts : Dict HostEntry} (h : Sound hosts) {e : HostEntry}
    (hvalid : e.validate = .ok ()) (hport : e.port ≤ maxNat16) :
    Sound (hosts.insert e.name e) := by
  have hcases : ∀ name e', (hosts.insert e.name e).get? name = some e' →
      e.name = name ∧ e = e' ∨ hosts.get? name = some e' := by
    intro name e' hget
    rw [Dict.get?_insert] at hget
    split at hget
    · rename_i hname
      exact .inl ⟨hname, Option.some.inj hget⟩
    · exact .inr hget
  constructor <;> intro name e' hget <;> rcases hcases name e' hget with ⟨rfl, rfl⟩ | hold
  · rfl
  · exact h.named name e' hold
  · exact hvalid
  · exact h.valid name e' hold
  · exact hport
  · exact h.port name e' hold

theorem Sound.erase {hosts : Dict HostEntry} (h : Sound hosts) (name : String) :
    Sound (hosts.erase name) := by
  have hkept : ∀ name' e, (hosts.erase name).get? name' = some e → hosts.get? name' = some e := by
    intro name' e hget
    rw [Dict.get?_erase] at hget
    split at hget
    · exact nomatch hget
    · exact hget
  exact
    { named := fun name' e hget => h.named name' e (hkept name' e hget)
      valid := fun name' e hget => h.valid name' e (hkept name' e hget)
      port := fun name' e hget => h.port name' e (hkept name' e hget) }

/-- **The names of sound hosts ascend strictly.** -/
theorem Sound.pairwise_values {hosts : Dict HostEntry} (h : Sound hosts) :
    hosts.values.Pairwise (·.name < ·.name) := by
  refine List.pairwise_map.2 (List.Pairwise.imp_of_mem ?_ hosts.sorted)
  rintro ⟨name, e⟩ ⟨name', e'⟩ he he' hlt
  have hname := h.named name e (Dict.get?_eq_some_iff.2 he)
  have hname' := h.named name' e' (Dict.get?_eq_some_iff.2 he')
  simpa [hname, hname'] using hlt

end Registry

end NetUnits
