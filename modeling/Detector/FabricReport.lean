import Detector.IbFabric
import Detector.Library.Record
import Detector.Report

/-!
# What is written for ports, nodes and fabrics

`operator<<` of `IbFabric` writes a headline, and for each node a line with its name, GUID and
number of ports and a line for each port. The numbers switch between `std::hex` and `std::dec`, and
the name may contain anything.

## Main definitions

* `IbPort.writeTo`, `IbNode.writeTo`, `IbFabric.writeTo` — the operators.
* `PortRecord`, `NodeRecord` — what a report says about a port and about a node.
* `readReports` — a reader of texts with such reports in them.

## Main results

* `IbFabric.inserts_writeTo` — the operator writes the records of the nodes, and leaves the stream
  in decimal.
* `IbFabric.readReports_writeTo` — the records are read back.
-/
namespace Detector

open Cpp

/-! ## The operators -/

namespace IbPort

/-- `operator<<`. -/
def writeTo (o : IbPort) (os : OutStream) : OutStream :=
  os |>.put (chars "Port Number: " rfl) |>.number o.portNum.toNat |>.put (chars ", " rfl)
    |>.put (chars "LID: " rfl) |>.hex |>.number o.lid.toNat |>.put (chars ", " rfl)
    |>.put (chars "Link width: " rfl) |>.dec |>.number o.linkWidth.toNat |>.put (chars "x, " rfl)
    |>.put (chars "XmitBytes: " rfl) |>.number o.getXmitDataBytes.toNat
    |>.put (chars " Bytes, " rfl)
    |>.put (chars "RcvBytes: " rfl) |>.number o.getRcvDataBytes.toNat |>.put (chars " Bytes" rfl)

end IbPort

namespace IbNode

/-- `operator<<`. The ports are written as `IbPort`s, whatever they are. -/
def writeTo (o : IbNode) (os : OutStream) : OutStream :=
  os |>.put (chars "Name: " rfl) |>.put o.desc.toList |>.put (chars ", " rfl)
    |>.put (chars "GUID: 0x" rfl) |>.hex |>.number o.guid.toNat |>.put (chars ", " rfl)
    |>.put (chars "Ports: " rfl) |>.dec |>.number o.numPorts.toNat |>.endl
    |> OutStream.separated (fun os p => p.toIbPort.writeTo (os.put (chars "    " rfl))) o.ports

end IbNode

namespace IbFabric

/-- `operator<<`. -/
def writeTo (o : IbFabric) (os : OutStream) : OutStream :=
  os |>.put (chars "Discovered " rfl) |>.number o.nodes.length
    |>.put (if o.nodes.length = 1 then chars " node" rfl else chars " nodes" rfl)
    |>.put (chars " in the fabric:" rfl) |>.endl
    |> OutStream.separated (fun os n => n.writeTo os) o.nodes

end IbFabric

/-! ## What a report says -/

/-- What is written about a port. -/
structure PortRecord where
  portNum : ℕ
  lid : ℕ
  linkWidth : ℕ
  xmitDataBytes : ℕ
  rcvDataBytes : ℕ
  deriving DecidableEq

/-- What is written about a node. -/
structure NodeRecord where
  desc : List Char
  guid : ℕ
  numPorts : ℕ
  ports : List PortRecord
  deriving DecidableEq

def IbPort.record (p : IbPort) : PortRecord where
  portNum := p.portNum.toNat
  lid := p.lid.toNat
  linkWidth := p.linkWidth.toNat
  xmitDataBytes := p.getXmitDataBytes.toNat
  rcvDataBytes := p.getRcvDataBytes.toNat

def IbNode.record (n : IbNode) : NodeRecord where
  desc := n.desc.toList
  guid := n.guid.toNat
  numPorts := n.numPorts.toNat
  ports := n.ports.map fun p => p.toIbPort.record

/-- The columns of the line of a port. -/
def PortRecord.columns : List Column :=
  [⟨chars "    Port Number: " rfl, .dec, []⟩, ⟨chars ", LID: " rfl, .hex, []⟩,
   ⟨chars ", Link width: " rfl, .dec, chars "x" rfl⟩,
   ⟨chars ", XmitBytes: " rfl, .dec, chars " Bytes" rfl⟩,
   ⟨chars ", RcvBytes: " rfl, .dec, chars " Bytes" rfl⟩]

def PortRecord.numbers (r : PortRecord) : List ℕ :=
  [r.portNum, r.lid, r.linkWidth, r.xmitDataBytes, r.rcvDataBytes]

/-- The columns of the line of a node, behind its name. -/
def NodeRecord.columns : List Column :=
  [⟨chars ", GUID: 0x" rfl, .hex, []⟩, ⟨chars ", Ports: " rfl, .dec, []⟩]

def PortRecord.line (r : PortRecord) : List Char := writeColumns (PortRecord.columns.zip r.numbers)

def NodeRecord.line (r : NodeRecord) : List Char :=
  chars "Name: " rfl ++ r.desc ++ writeColumns (NodeRecord.columns.zip [r.guid, r.numPorts])

/-- The text for a node. -/
def NodeRecord.text (r : NodeRecord) : List Char :=
  r.line ++ '\n' :: OutStream.joined PortRecord.line r.ports

/-- The first line of the text for a fabric. -/
def headline (n : ℕ) : List Char :=
  chars "Discovered " rfl ++ decimal n ++
    (if n = 1 then chars " node" rfl else chars " nodes" rfl) ++ chars " in the fabric:" rfl

/-- The text for a fabric. -/
def fabricText (nodes : List NodeRecord) : List Char :=
  headline nodes.length ++ '\n' :: OutStream.joined NodeRecord.text nodes

/-! ## The operators write the records -/

theorem IbPort.inserts_writeTo (o : IbPort) :
    OutStream.Inserts (fun os => o.writeTo (os.put (chars "    " rfl))) o.record.line := by
  intro t
  simp [writeTo, OutStream.put, OutStream.number, OutStream.hex, OutStream.dec, PortRecord.line,
    PortRecord.columns, PortRecord.numbers, record, writeColumns, Column.write, chars]

theorem IbNode.inserts_writeTo (o : IbNode) : OutStream.Inserts o.writeTo o.record.text := by
  intro t
  have ports := OutStream.inserted_separated (fun p : Port => p.toIbPort.inserts_writeTo) o.ports
  have first : (OutStream.mk t .dec |>.put (chars "Name: " rfl) |>.put o.desc.toList
      |>.put (chars ", " rfl) |>.put (chars "GUID: 0x" rfl) |>.hex |>.number o.guid.toNat
      |>.put (chars ", " rfl) |>.put (chars "Ports: " rfl) |>.dec |>.number o.numPorts.toNat
      |>.endl) = ⟨t ++ o.record.line ++ ['\n'], .dec⟩ := by
    simp [OutStream.put, OutStream.number, OutStream.hex, OutStream.dec, OutStream.endl,
      NodeRecord.line, NodeRecord.columns, record, writeColumns, Column.write, chars]
  rw [writeTo, first, ports]
  simp [NodeRecord.text, record, OutStream.joined_map]

theorem IbFabric.inserts_writeTo (o : IbFabric) :
    OutStream.Inserts o.writeTo (fabricText (o.nodes.map IbNode.record)) := by
  intro t
  have nodes := OutStream.inserted_separated IbNode.inserts_writeTo o.nodes
  have first : (OutStream.mk t .dec |>.put (chars "Discovered " rfl) |>.number o.nodes.length
      |>.put (if o.nodes.length = 1 then chars " node" rfl else chars " nodes" rfl)
      |>.put (chars " in the fabric:" rfl) |>.endl) =
        ⟨t ++ headline o.nodes.length ++ ['\n'], .dec⟩ := by
    simp [OutStream.put, OutStream.number, OutStream.endl, headline, decimal, NumBase.digits,
      NumBase.radix]
  rw [writeTo, first, nodes]
  simp [fabricText, OutStream.joined_map]

/-! ## Reading a report -/

/-- Read the line of a port. -/
def readPort (line : List Char) : Option PortRecord :=
  match readColumns PortRecord.columns line with
  | some ([], [portNum, lid, linkWidth, xmitDataBytes, rcvDataBytes]) =>
    some ⟨portNum, lid, linkWidth, xmitDataBytes, rcvDataBytes⟩
  | _ => none

/-- The line of a node starts so. -/
def isNodeLine (line : List Char) : Bool := (chars "Name: " rfl).isPrefixOf line

/-- The line of a port starts so. -/
def isPortLine (line : List Char) : Bool := (chars "    Port Number: " rfl).isPrefixOf line

/-- The first line of a report ends so. -/
def isHeadline (line : List Char) : Bool := (chars " in the fabric:" rfl).isSuffixOf line

/-- Read the line of a node, and the lines of its ports among those that follow. -/
def readNode (group : List Char × List (List Char)) : Option NodeRecord :=
  match readColumns NodeRecord.columns group.1 with
  | some (named, [guid, numPorts]) => do
    let desc ← stripPrefix (chars "Name: " rfl) named
    let ports ← (group.2.filter isPortLine).mapM readPort
    return ⟨desc, guid, numPorts, ports⟩
  | _ => none

/-- Read the nodes that some lines are about. -/
def readNodes (lines : List (List Char)) : Option (List NodeRecord) :=
  (groups isNodeLine lines).2.mapM readNode

/-- Read all the reports in a text. -/
def readReports (text : List Char) : Option (List (List NodeRecord)) :=
  (groups isHeadline (text.splitOn '\n')).2.mapM fun report => readNodes report.2

/-! ### Lines and what they are -/

section Lines

variable (p : PortRecord) (r : NodeRecord)

theorem PortRecord.closed_columns : ∀ c ∈ columns, c.Closed := by decide +kernel

theorem NodeRecord.closed_columns : ∀ c ∈ columns, c.Closed := by decide +kernel

theorem readPort_line : readPort p.line = some p := by
  have cells := readColumns_write (PortRecord.columns.zip p.numbers)
    (fun x hx => PortRecord.closed_columns x.1 (List.of_mem_zip hx).1) []
  have read : readColumns PortRecord.columns p.line = some ([], p.numbers) := cells
  rw [readPort, read]
  rfl

theorem PortRecord.newline_notMem_line : '\n' ∉ p.line :=
  notMem_writeColumns (show ∀ c ∈ columns, _ by decide +kernel)

theorem NodeRecord.newline_notMem_line (h : '\n' ∉ r.desc) : '\n' ∉ r.line := by
  have inColumns : '\n' ∉ writeColumns (columns.zip [r.guid, r.numPorts]) :=
    notMem_writeColumns (show ∀ c ∈ columns, _ by decide +kernel)
  simp [line, h, inColumns, chars]

theorem isNodeLine_port : isNodeLine p.line = false := rfl

theorem isPortLine_port : isPortLine p.line = true := rfl

theorem isNodeLine_node : isNodeLine r.line = true := rfl

theorem isHeadline_port : isHeadline p.line = false := by
  have last : p.line.getLast? ≠ some ':' :=
    getLast?_writeColumns_ne [] ((PortRecord.columns.zip p.numbers).take 4)
      ⟨chars ", RcvBytes: " rfl, .dec, chars " Bytes" rfl⟩ p.rcvDataBytes (by decide) (by decide)
  exact isSuffixOf_eq_false rfl last

theorem isHeadline_node : isHeadline r.line = false := by
  have last : r.line.getLast? ≠ some ':' :=
    getLast?_writeColumns_ne (chars "Name: " rfl ++ r.desc)
      [(⟨chars ", GUID: 0x" rfl, .hex, []⟩, r.guid)] ⟨chars ", Ports: " rfl, .dec, []⟩ r.numPorts
      (by decide) (by decide)
  exact isSuffixOf_eq_false rfl last

end Lines

/-! ### Nodes -/

/-- The lines behind the line of a node. -/
def NodeRecord.body (r : NodeRecord) : List (List Char) :=
  (OutStream.joined PortRecord.line r.ports).splitOn '\n'

namespace NodeRecord

/-- There is an empty line when there is no port. -/
theorem body_eq (r : NodeRecord) :
    r.body = if r.ports = [] then [[]] else r.ports.map PortRecord.line := by
  unfold body
  split_ifs with none
  · simp [none, OutStream.joined]
  · rw [OutStream.splitOn_joined _ none]
    rw [List.map_eq_flatMap]
    exact List.flatMap_congr fun p _ => List.splitOn_eq_singleton p.newline_notMem_line

theorem mem_body {r : NodeRecord} {l : List Char} (h : l ∈ r.body) :
    l = [] ∨ ∃ p ∈ r.ports, l = p.line := by
  rw [body_eq] at h
  split_ifs at h
  · exact .inl (List.mem_singleton.mp h)
  · obtain ⟨p, hp, rfl⟩ := List.mem_map.mp h
    exact .inr ⟨p, hp, rfl⟩

theorem isNodeLine_body {r : NodeRecord} : ∀ l ∈ r.body, isNodeLine l = false := by
  intro l hl
  obtain rfl | ⟨p, -, rfl⟩ := mem_body hl
  · rfl
  · exact isNodeLine_port p

theorem isHeadline_body {r : NodeRecord} : ∀ l ∈ r.body, isHeadline l = false := by
  intro l hl
  obtain rfl | ⟨p, -, rfl⟩ := mem_body hl
  · rfl
  · exact isHeadline_port p

theorem filter_body (r : NodeRecord) : r.body.filter isPortLine = r.ports.map PortRecord.line := by
  rw [body_eq]
  split_ifs with none
  · rw [none]
    rfl
  · exact List.filter_eq_self.mpr fun l hl => by
      obtain ⟨p, -, rfl⟩ := List.mem_map.mp hl
      exact isPortLine_port p

end NodeRecord

/-- The lines of the ports are read back, whatever other lines follow. -/
theorem readNode_lines (r : NodeRecord) {others : List (List Char)}
    (h : ∀ l ∈ others, isPortLine l = false) : readNode (r.line, r.body ++ others) = some r := by
  have columns := readColumns_write (NodeRecord.columns.zip [r.guid, r.numPorts])
    (fun x hx => NodeRecord.closed_columns x.1 (List.of_mem_zip hx).1)
    (chars "Name: " rfl ++ r.desc)
  have named : readColumns NodeRecord.columns r.line =
      some (chars "Name: " rfl ++ r.desc, [r.guid, r.numPorts]) := columns
  have ports : (r.ports.map PortRecord.line).mapM readPort = some r.ports :=
    mapM_map_write fun p _ => readPort_line p
  have lines : (r.body ++ others).filter isPortLine = r.ports.map PortRecord.line := by
    rw [List.filter_append, r.filter_body, List.filter_eq_nil_iff.mpr (by simpa using h),
      List.append_nil]
  simp only [readNode, named, stripPrefix_append, lines, ports]
  rfl

/-- The nodes are read back. -/
theorem groups_lines (rs : List NodeRecord) {others : List (List Char)}
    (h : ∀ l ∈ others, isNodeLine l = false ∧ isPortLine l = false) :
    let split := groups isNodeLine (rs.flatMap (fun r => r.line :: r.body) ++ others)
    split.2.mapM readNode = some rs ∧ ∀ l ∈ split.1, isPortLine l = false := by
  induction rs with
  | nil =>
    have split : groups isNodeLine (others ++ []) = (others ++ [], []) :=
      groups_append (fun l hl => (h l hl).1) []
    rw [List.append_nil] at split
    simp only [List.flatMap_nil, List.nil_append, split]
    exact ⟨rfl, fun l hl => (h l hl).2⟩
  | cons r rs ih =>
    obtain ⟨read, idle⟩ := ih
    intro split
    have first : split = groups isNodeLine
        (r.line :: (r.body ++ (rs.flatMap (fun r => r.line :: r.body) ++ others))) := by
      simp [split]
    rw [first, groups_head (isNodeLine_node r), groups_append NodeRecord.isNodeLine_body]
    simp [readNode_lines r idle, read]

/-! ### Reports -/

/-- The lines behind the first line of a report. -/
def reportLines (rs : List NodeRecord) : List (List Char) :=
  if rs = [] then [[]] else rs.flatMap fun r => r.line :: r.body

theorem newline_notMem_headline (n : ℕ) : '\n' ∉ headline n := by
  have inNumber : '\n' ∉ decimal n := fun h => ne_of_mem_decimal h (by decide) rfl
  unfold headline
  split_ifs <;> simp [inNumber, chars]

theorem isHeadline_headline (s : List Char) (n : ℕ) : isHeadline (s ++ headline n) = true := by
  rw [headline, ← List.append_assoc]
  exact List.isSuffixOf_iff_suffix.mpr (List.suffix_append _ _)

theorem isHeadline_reportLines {rs : List NodeRecord} :
    ∀ l ∈ reportLines rs, isHeadline l = false := by
  intro l hl
  unfold reportLines at hl
  split_ifs at hl
  · rw [List.mem_singleton.mp hl]
    rfl
  · obtain ⟨r, -, hl⟩ := List.mem_flatMap.mp hl
    obtain rfl | hl := List.mem_cons.mp hl
    · exact isHeadline_node r
    · exact NodeRecord.isHeadline_body l hl

/-- The nodes of a report are read back, whatever other lines follow. -/
theorem readNodes_reportLines (rs : List NodeRecord) {others : List (List Char)}
    (h : ∀ l ∈ others, isNodeLine l = false ∧ isPortLine l = false) :
    readNodes (reportLines rs ++ others) = some rs := by
  unfold reportLines
  split_ifs with none
  · subst none
    have idle : ∀ l ∈ [] :: others, isNodeLine l = false ∧ isPortLine l = false := by
      intro l hl
      obtain rfl | hl := List.mem_cons.mp hl
      · exact ⟨rfl, rfl⟩
      · exact h l hl
    exact (groups_lines [] idle).1
  · exact (groups_lines rs h).1

section Descriptions

variable {rs : List NodeRecord} (h : ∀ r ∈ rs, '\n' ∉ r.desc)
include h

theorem splitOn_joined_text : (OutStream.joined NodeRecord.text rs).splitOn '\n' = reportLines rs := by
  unfold reportLines
  split_ifs with none
  · simp [none, OutStream.joined]
  · rw [OutStream.splitOn_joined _ none]
    refine List.flatMap_congr fun r hr => ?_
    rw [NodeRecord.text, List.splitOn_append_cons_self,
      List.splitOn_eq_singleton (r.newline_notMem_line (h r hr))]
    rfl

/-- The lines of a report that stands behind the text `s`, and is followed by the text `t`. -/
theorem splitOn_fabricText {s : List Char} (free : '\n' ∉ s) :
    (s ++ fabricText rs).splitOn '\n' = (s ++ headline rs.length) :: reportLines rs := by
  have first : '\n' ∉ s ++ headline rs.length := by
    simp [free, newline_notMem_headline]
  rw [fabricText, ← List.append_assoc, List.splitOn_append_cons_self,
    List.splitOn_eq_singleton first, splitOn_joined_text h]
  rfl

theorem readReports_fabricText : readReports (fabricText rs) = some [rs] := by
  have lines := splitOn_fabricText h List.not_mem_nil
  have split : groups isHeadline (reportLines rs ++ []) = (reportLines rs ++ [], []) :=
    groups_append isHeadline_reportLines []
  have nodes : readNodes (reportLines rs ++ []) = some rs := readNodes_reportLines rs (by simp)
  have head : isHeadline (headline rs.length) = true := isHeadline_headline [] rs.length
  rw [List.nil_append, List.nil_append] at lines
  rw [List.append_nil] at split nodes
  rw [readReports, lines, groups_head head, split]
  simp [nodes]

end Descriptions

/-- Whatever a fabric is printed as can be read: its nodes in their order, each with its description,
GUID and number of ports, and the numbers of each of its ports. -/
theorem IbFabric.readReports_writeTo {o : IbFabric} (h : ∀ n ∈ o.nodes, '\n' ∉ n.desc.toList) :
    readReports (o.writeTo .fresh).text = some [o.nodes.map IbNode.record] := by
  have printed : o.writeTo .fresh = ⟨_, .dec⟩ := o.inserts_writeTo []
  rw [printed]
  refine readReports_fabricText fun r hr => ?_
  obtain ⟨n, hn, rfl⟩ := List.mem_map.mp hr
  exact h n hn

/-- A switch without ports, and an adapter whose name looks like the rest of its line. -/
theorem IbFabric.readReports_writeTo_misleading :
    let switch : IbNode := ⟨⟨IbPerfCounter.init⟩, "switch", 0xab, 0, []⟩
    let adapter : IbNode := ⟨⟨IbPerfCounter.init⟩, "Name: a, GUID: 0x1, Ports: 2", 0x10, 1,
      [.mad (IbPort.ofAttributes ⟨0x1f, 2⟩ 1)]⟩
    readReports ((⟨none, [switch, adapter]⟩ : IbFabric).writeTo .fresh).text =
      some [[⟨"switch".toList, 0xab, 0, []⟩,
        ⟨"Name: a, GUID: 0x1, Ports: 2".toList, 0x10, 1, [⟨1, 0x1f, 4, 0, 0⟩]⟩]] := by
  intro switch adapter
  have free : ∀ n ∈ [switch, adapter], '\n' ∉ n.desc.toList := by
    intro n hn
    obtain rfl | rfl := List.mem_pair.mp hn
    · decide +kernel
    · decide +kernel
  let fabric : IbFabric := ⟨none, [switch, adapter]⟩
  have read : readReports (fabric.writeTo .fresh).text = some [fabric.nodes.map IbNode.record] :=
    IbFabric.readReports_writeTo free
  exact read

end Detector
