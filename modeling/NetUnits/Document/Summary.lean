import NetUnits.Document.Basic
import NetUnits.Json.Basic
import NetUnits.Kind
import NetUnits.Text.Class
import NetUnits.Text.Trim
import NetUnits.Text.Lines

/-!
# Summaries of unit files

A listing shows of each file what it is for: what a network or link file matches, what device a
netdev file makes, and its main settings. It can be limited to files that match an interface.

* **`FileSummary`** — a file of a listing; `FileSummary.bare` for one that cannot be read,
  `FileSummary.describe` for one with a document.
* **`MatchCriteria`** — what the `[Match]` sections of a file must name.
-/

namespace NetUnits

open NetUnits.Text

/-- **The main settings of a file.** -/
structure Headline where
  /-- `DHCP` of the network. -/
  dhcp : Option String := none
  /-- The addresses of the network. -/
  address : List String := []
  /-- The name servers of the network. -/
  dns : List String := []
  /-- The VLANs of the network. -/
  vlan : List String := []
  /-- The number of a VLAN device. -/
  vlanId : Option Int64 := none

/-- **A file of a listing.** -/
structure FileSummary where
  /-- The name of the file. -/
  filename : String
  /-- The kind of the file. -/
  kind : Kind
  /-- The kind of the device that a netdev file makes. -/
  netdevKind : Option String := none
  /-- The name of the device that a netdev file makes. -/
  netdevName : Option String := none
  /-- What a network or link file matches. -/
  matchName : Option String := none
  /-- The main settings, if the file has been read. -/
  headline : Option Headline := none

namespace Document

/-- The texts of a key in a block. -/
def textsAt (block : Block) (key : String) : List String :=
  ((block.get? key).map Value.texts).getD []

/-- The texts of a key in the first block of a section, separated by commas; none if there are no
texts. -/
def joined? (d : Document) (header key : String) : Option String :=
  match (d.firstBlock? header).map (textsAt · key) with
  | none | some [] => none
  | some texts => some (", ".intercalate texts)

/-- The number of a VLAN, as an integer or as a text of one. -/
def vlanId? : Value → Option Int64
  | .int i => some i
  | .text s => int64? (trimChars s.toList)
  | _ => none

end Document

namespace FileSummary

open NetUnits.Document

/-- A file of which nothing but the name is known. -/
def bare (filename : String) (kind : Kind) : FileSummary :=
  { filename := filename, kind := kind }

/-- The main settings of a network file. -/
def networkHeadline (d : Document) : Headline :=
  match d.firstBlock? "Network" with
  | none => {}
  | some block => {
      dhcp := (block.get? "DHCP").map Value.display
      address := textsAt block "Address"
      dns := textsAt block "DNS"
      vlan := textsAt block "VLAN" }

/-- **The file with what its document says**, which depends on its kind. -/
def describe (f : FileSummary) (d : Document) : FileSummary :=
  match f.kind with
  | .network =>
    { f with matchName := d.joined? "Match" "Name", headline := some (networkHeadline d) }
  | .netdev =>
    let device := d.firstBlock? "NetDev"
    { f with
      netdevKind := (device.bind (·.get? "Kind")).map Value.display
      netdevName := (device.bind (·.get? "Name")).map Value.display
      headline := some {
        vlanId := ((d.firstBlock? "VLAN").bind (·.get? "Id")).bind vlanId? } }
  | .link =>
    { f with
      matchName := (d.joined? "Match" "Name").or (d.joined? "Match" "MACAddress")
      headline := some {} }
  | .networkdConf => { f with headline := some {} }

end FileSummary

/-- **What the `[Match]` sections of a file must name.** A field that is not set asks nothing. -/
structure MatchCriteria where
  /-- The name of an interface. -/
  name : Option String := none
  /-- A hardware address, in any letter case. -/
  mac : Option String := none
  /-- A link type, in any letter case. -/
  linkType : Option String := none

namespace MatchCriteria

/-- Whether nothing is asked. -/
def isEmpty (c : MatchCriteria) : Bool :=
  c.name.isNone && c.mac.isNone && c.linkType.isNone

/-- The words of a key in all blocks of `[Match]`. -/
def words (d : Document) (key : String) : List (List Char) :=
  let blocks := ((d.get? "Match").map Document.Section.blocks).getD []
  (blocks.flatMap (Document.textsAt · key)).flatMap fun text => wordsOf text.toList

/-- Whether what is asked, if anything, is among the words. -/
def asks (wanted : Option String) (same : List Char → List Char → Bool)
    (words : List (List Char)) : Bool :=
  match wanted with
  | none => true
  | some text => words.any (same · text.toList)

/-- **Whether a document satisfies the criteria.** -/
def accepts (c : MatchCriteria) (d : Document) : Bool :=
  asks c.name (· == ·) (words d "Name") && asks c.mac equalFold (words d "MACAddress") &&
    asks c.linkType equalFold (words d "Type")

end MatchCriteria

/-! ## As JSON -/

/-- The member of an object for something that may be missing. -/
def Json.optional (key : String) (value : Option Json) : List (String × Json) :=
  match value with
  | some j => [(key, j)]
  | none => []

/-- The member of an object for a list that may be empty. -/
def Json.nonEmpty (key : String) (texts : List String) : List (String × Json) :=
  if texts.isEmpty then [] else [(key, .array (texts.map .string))]

/-- The JSON of the main settings: what is missing or empty is left out. -/
def Headline.toJson (h : Headline) : Json :=
  .object (Json.optional "dhcp" (h.dhcp.map .string) ++ Json.nonEmpty "address" h.address ++
    Json.nonEmpty "dns" h.dns ++ Json.nonEmpty "vlan" h.vlan ++
    Json.optional "vlan_id" (h.vlanId.map fun i => .int i.toInt))

/-- The JSON of a file of a listing: what is missing is left out. -/
def FileSummary.toJson (f : FileSummary) : Json :=
  .object ([("filename", .string f.filename), ("kind", .string f.kind.name)] ++
    Json.optional "netdev_kind" (f.netdevKind.map .string) ++
    Json.optional "netdev_name" (f.netdevName.map .string) ++
    Json.optional "match_name" (f.matchName.map .string) ++
    Json.optional "summary" (f.headline.map Headline.toJson))

end NetUnits
