import Iperf3Lib.General.CommandLine
import Iperf3Lib.Native.Options

/-!
# What the argument vector says

The vector is the command line of a table with one row for each flag. A parser that knows which
flags take a value reads exactly the entries of this table, whatever the texts among the settings look
like. As the flags are distinct, the vector determines the table, and the table determines the
settings that it holds.
-/

namespace Iperf3Lib.Native

open Py CommandLine

/-! ## The table -/

/-- A flag and the uses that are made of it. -/
abbrev Row := PyStr × List (Use PyChar)

/-- A flag without a value. -/
def bare (flag : String) (on : Bool) : Row := (PyStr.ofString flag, if on = true then [.alone] else [])

/-- A flag with a value, used once for each of them. -/
def valued (flag : String) (values : List PyStr) : Row := (PyStr.ofString flag, values.map .behind)

/-- A flag that shares a token with its value. -/
def joined (flag : String) (values : List PyStr) : Row := (PyStr.ofString flag, values.map .joint)

/-- The rows of the target. -/
def targetRows (c : ClientConfig) : List Row :=
  [bare "--json" true, valued "--client" [c.server.str]]

/-- The rows of the protocol. -/
def protocolRows (c : ClientConfig) : List Row :=
  [bare "--udp" (c.protocol = .udp), bare "--sctp" (c.protocol = .sctp)]

/-- The rows of the mode. -/
def modeRows (c : ClientConfig) : List Row :=
  [valued "--time" [intText (c.duration.getD 0)],
    valued "--length" (c.blksize.map intText).toList,
    bare "--reverse" c.reverse, bare "--bidir" c.bidirectional]

/-- The rows of the address family. -/
def familyRows (c : ClientConfig) : List Row :=
  [bare "--version4" (c.addressFamily = .ipv4), bare "--version6" (c.addressFamily = .ipv6)]

/-- The rows of the settings with a value. -/
def valueRows (c : ClientConfig) : List Row :=
  [valued "--interval" (c.intervalSeconds.map numText).toList,
    valued "--fq-rate" (c.fqRateBps.map intText).toList,
    valued "--flowlabel" (c.flowLabel.map intText).toList,
    valued "--nstreams" (c.sctpStreams.map intText).toList,
    valued "--file" c.payloadFile.toList,
    valued "--title" c.title.toList,
    valued "--rcv-timeout" (c.receiveTimeoutMs.map intText).toList,
    valued "--snd-timeout" (c.sendTimeoutMs.map intText).toList,
    bare "--mptcp" c.mptcp, bare "--skip-rx-copy" c.skipRxCopy, bare "--gsro" c.gsro,
    bare "--json-stream" c.jsonStream, bare "--use-pkcs1-padding" c.usePkcs1Padding]

/-- The row of the addresses, the one flag that may be used more than once. -/
def addressRow (c : ClientConfig) : Row := valued "--xbind" c.sctpBindAddresses

/-- The rows of the composed values. -/
def composedRows (c : ClientConfig) : List Row :=
  [valued "--affinity" (c.affinity.map fun affinity => affinityText affinity c.serverAffinity).toList,
    joined "--cntl-ka" (c.controlKeepalive.toList.map keepaliveText)]

/-- The rows of all flags. -/
def rows (c : ClientConfig) : List Row :=
  targetRows c ++ protocolRows c ++ modeRows c ++ familyRows c ++ valueRows c ++ [addressRow c] ++
    composedRows c

/-- The flags with a value. -/
def valueFlags : List String :=
  ["--client", "--time", "--length", "--interval", "--fq-rate", "--flowlabel", "--nstreams", "--file",
    "--title", "--rcv-timeout", "--snd-timeout", "--xbind", "--affinity"]

/-- The flags without one. -/
def bareFlags : List String :=
  ["--json", "--udp", "--sctp", "--reverse", "--bidir", "--version4", "--version6", "--mptcp",
    "--skip-rx-copy", "--gsro", "--json-stream", "--use-pkcs1-padding"]

/-! ## Writing -/

/-- The tokens of a row. -/
def Row.tokens (row : Row) : List PyStr := (entries [row]).flatMap (CommandLine.tokens (.scalar '='))

theorem tokens_bare (flag : String) (on : Bool) : (bare flag on).tokens = switch flag on := by
  cases on <;> rfl

theorem tokens_valued (flag : String) (values : List PyStr) :
    (valued flag values).tokens = values.flatMap fun value => [PyStr.ofString flag, value] := by
  simp [Row.tokens, valued, List.flatMap_map, CommandLine.tokens]

theorem tokens_joined (flag : String) (values : List PyStr) :
    (joined flag values).tokens =
      values.map fun value => PyStr.ofString flag ++ .scalar '=' :: value := by
  simp only [Row.tokens, joined, entries_cons, entries_nil, List.append_nil, List.flatMap_map,
    CommandLine.tokens]
  exact List.map_eq_flatMap.symm

theorem option_eq (flag : String) (value : Option PyStr) :
    option flag value = value.toList.flatMap fun value => [PyStr.ofString flag, value] := by
  cases value <;> rfl

theorem flatMap_entries (table : List Row) :
    (entries table).flatMap (CommandLine.tokens (.scalar '=')) = table.flatMap Row.tokens := by
  induction table with
  | nil => rfl
  | cons row table ih =>
    rw [entries_cons, List.flatMap_append, ih, List.flatMap_cons, Row.tokens, entries_cons,
      entries_nil, List.append_nil]

theorem tokens_protocolRows (c : ClientConfig) :
    (protocolRows c).flatMap Row.tokens = protocolArguments c.protocol := by
  simp only [protocolRows, List.flatMap_cons, List.flatMap_nil, tokens_bare]
  cases c.protocol <;> rfl

theorem tokens_familyRows (c : ClientConfig) :
    (familyRows c).flatMap Row.tokens = familyArguments c.addressFamily := by
  simp only [familyRows, List.flatMap_cons, List.flatMap_nil, tokens_bare]
  cases c.addressFamily <;> rfl

/-- The vector is the program's name and the command line of the table. -/
theorem arguments_eq (c : ClientConfig) :
    arguments c = PyStr.ofString "iperf3-lib" ::
      (entries (rows c)).flatMap (CommandLine.tokens (.scalar '=')) := by
  rw [flatMap_entries, rows]
  simp only [List.flatMap_append, tokens_protocolRows, tokens_familyRows]
  simp only [targetRows, modeRows, valueRows, addressRow, composedRows, List.flatMap_cons,
    List.flatMap_nil, tokens_bare, tokens_valued, tokens_joined, arguments, valueArguments,
    booleanArguments, option_eq]
  simp [switch]
  intro idle interval count _
  rfl

/-! ## Reading -/

/-- A parser of the vector: the tokens behind which it takes a value. -/
structure OptionParser where
  takesValue : PyStr → Bool
  value : ∀ flag ∈ valueFlags, takesValue (PyStr.ofString flag) = true
  bare : ∀ flag ∈ bareFlags, takesValue (PyStr.ofString flag) = false
  joint : ∀ token, PyChar.scalar '=' ∈ token → takesValue token = false

/-- The parser that takes a value behind the flags with a value and no other token. -/
def plainParser : OptionParser where
  takesValue token := token ∈ valueFlags.map PyStr.ofString
  value flag h := decide_eq_true (List.mem_map_of_mem h)
  bare := by decide
  joint token h := by
    have hflags : ∀ flag ∈ valueFlags, PyChar.scalar '=' ∉ PyStr.ofString flag := by decide
    simp only [decide_eq_false_iff_not, List.mem_map, not_exists, not_and]
    rintro flag hflag rfl
    exact hflags flag hflag h

/-- What the parser reads behind the program's name. -/
def OptionParser.read (parser : OptionParser) (vector : List PyStr) :
    Option (List (Argument PyChar)) :=
  CommandLine.read (.scalar '=') parser.takesValue vector.tail

/-- Every use in a row is one that the parser expects. -/
def Row.Expected (parser : OptionParser) (row : Row) : Prop :=
  ∀ use ∈ row.2, CommandLine.Expected (.scalar '=') parser.takesValue (row.1, use)

theorem expected_bare (parser : OptionParser) {flag : String} (on : Bool) (h : flag ∈ bareFlags) :
    (Native.bare flag on).Expected parser := by
  have hflags : ∀ flag ∈ bareFlags, PyChar.scalar '=' ∉ PyStr.ofString flag := by decide
  intro use huse
  cases on with
  | false => cases huse
  | true =>
    obtain rfl := List.mem_singleton.mp huse
    exact ⟨hflags flag h, parser.bare flag h⟩

theorem expected_valued (parser : OptionParser) {flag : String} (values : List PyStr)
    (h : flag ∈ valueFlags) : (valued flag values).Expected parser := by
  intro use huse
  obtain ⟨value, -, rfl⟩ := List.mem_map.mp huse
  exact parser.value flag h

theorem expected_joined (parser : OptionParser) {flag : String} (values : List PyStr)
    (h : PyChar.scalar '=' ∉ PyStr.ofString flag) : (joined flag values).Expected parser := by
  intro use huse
  obtain ⟨value, -, rfl⟩ := List.mem_map.mp huse
  exact ⟨h, parser.joint _ (List.mem_append_right _ List.mem_cons_self)⟩

theorem expected_rows (parser : OptionParser) (c : ClientConfig) :
    ∀ row ∈ rows c, row.Expected parser := by
  simp only [rows, targetRows, protocolRows, modeRows, familyRows, valueRows, addressRow,
    composedRows, List.cons_append, List.nil_append, List.forall_mem_cons]
  have hcntl : PyChar.scalar '=' ∉ PyStr.ofString "--cntl-ka" := by decide
  refine ⟨?_, ?_, ?_, ?_, ?_, ?_, ?_, ?_, ?_, ?_, ?_, ?_, ?_, ?_, ?_, ?_, ?_, ?_, ?_, ?_, ?_, ?_, ?_,
    ?_, ?_, expected_joined parser _ hcntl, by simp⟩
  all_goals
    first
    | exact expected_bare parser _ (by simp [bareFlags])
    | exact expected_valued parser _ (by simp [valueFlags])

/-- The parser reads the entries of the table. -/
theorem read_arguments (parser : OptionParser) (c : ClientConfig) :
    parser.read (arguments c) = some (entries (rows c)) := by
  rw [OptionParser.read, arguments_eq, List.tail_cons]
  apply read_tokens
  intro argument hargument
  obtain ⟨flag, use⟩ := argument
  obtain ⟨values, hrow, huse⟩ := mem_entries.mp hargument
  exact expected_rows parser c _ hrow use huse

/-! ## The table from the vector -/

/-- All flags, in the order of the table. -/
def flags : List String :=
  ["--json", "--client", "--udp", "--sctp", "--time", "--length", "--reverse", "--bidir", "--version4",
    "--version6", "--interval", "--fq-rate", "--flowlabel", "--nstreams", "--file", "--title",
    "--rcv-timeout", "--snd-timeout", "--mptcp", "--skip-rx-copy", "--gsro", "--json-stream",
    "--use-pkcs1-padding", "--xbind", "--affinity", "--cntl-ka"]

theorem labels_rows (c : ClientConfig) : (rows c).map Prod.fst = flags.map PyStr.ofString := rfl

theorem nodup_labels : (flags.map PyStr.ofString).Nodup :=
  List.Nodup.map PyStr.ofString_injective (by decide)

/-- Equal vectors come from equal tables. -/
theorem rows_eq_of_arguments_eq {c c' : ClientConfig} (h : arguments c = arguments c') :
    rows c = rows c' := by
  have hread := read_arguments plainParser c
  rw [h, read_arguments, Option.some.injEq] at hread
  refine (eq_of_entries_eq ?_ ?_ hread).symm
  · exact labels_rows c' ▸ nodup_labels
  · rw [labels_rows, labels_rows]

end Iperf3Lib.Native
