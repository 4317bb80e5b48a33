import FatImage.Layout
import FatImage.Severity
import FatImage.ShortName
import FatImage.Text.Number
import FatImage.Transfer

/-!
# Notices

What a run tells its reader on the way. A notice is kept as what happened, not as its words: the
words, the severity and the part of the program it belongs to are functions of it.
-/

namespace FatImage

/-- How far a file has come. A file whose bytes cannot be had is skipped; any other passes through
the four stages in order, or stops on the way together with the whole run. -/
inductive Stage where
  | pending
  | allocated
  | written
  | recorded
  | done
  | skipped
  deriving DecidableEq, Repr

def Stage.label : Stage → String
  | .pending => "Pending"
  | .allocated => "Allocated"
  | .written => "Written"
  | .recorded => "Recorded"
  | .done => "Done"
  | .skipped => "Skipped"

/-- What a run tells its reader. -/
inductive Notice where
  /-- The device did not carry out a call. -/
  | refused (medium : Medium) (call : Call) (why : Refusal)
  /-- An image of this many bytes has room for the layout. -/
  | opened (bytes : Nat) (layout : Layout)
  | directoryCleared (layout : Layout)
  | tableReset (layout : Layout)
  | moved (name : ShortName) (old new : Stage)
  | skipping (name : ShortName) (source reason : String)
  | placed (name : ShortName) (size : UInt32) (cluster : UInt16)
  /-- A file ends with bytes that fill no sector. -/
  | trailing (path : String) (bytes : Nat)
  | created (path : String) (size : UInt32)
  | listed (entries : Nat)
  | sourcesUnder (root : String)
  | skippedInAll (entries : Nat)
  | nextCluster (cluster : UInt16)
  /-- The run has failed. -/
  | failed (message : String)

namespace Notice

/-- How much a notice matters. -/
def severity : Notice → Severity
  | .refused .. | .failed _ => .error
  | .skipping .. | .trailing .. | .skippedInAll _ => .warn
  | .placed .. | .created .. => .info
  | .opened .. | .directoryCleared _ | .tableReset _ | .listed _ | .sourcesUnder _
  | .nextCluster _ => .debug
  | .moved .. => .trace

/-- The part of the program that a notice belongs to, as it is shown to the reader. -/
def topic : Notice → String
  | .opened .. | .moved .. => "fatinject_core::fs::fat12_ops::injector"
  | .directoryCleared _ => "fatinject_core::fs::fat12_ops::directory"
  | .tableReset _ => "fatinject_core::fs::fat12_ops::fat_table"
  | _ => "fatinject"

/-- What of a refused call stands before the reason. -/
def refusedCall : Call → String
  | .count => "cannot determine image size"
  | .read lba _ => s!"image read failed at LBA {lba}"
  | .write lba _ => s!"image write failed at LBA {lba}"
  | .flush => "image flush failed"

def text : Notice → String
  | .refused medium call why => s!"{refusedCall call}: {why.message medium}"
  | .opened n l =>
    s!"image of {n} bytes: {l.mirrors} FAT(s) at {Text.hex l.tableOffset}, " ++
      s!"root directory at {Text.hex l.rootOffset} ({l.rootSectors} sectors), " ++
      s!"data at {Text.hex l.dataOffset}"
  | .directoryCleared l =>
    s!"cleared root directory: {l.slotCount} slots at offset {Text.hex l.rootOffset}"
  | .tableReset l => s!"reset {l.mirrors} FAT mirror(s) of {l.mirrorBytes} bytes"
  | .moved name old new => s!"{name.display}: {old.label} -> {new.label}"
  | .skipping name source reason => s!"skipping {name.display}: {source}: {reason}"
  | .placed name size cluster =>
    s!"injected {name.display} ({size.toNat} bytes) at cluster {cluster.toNat}"
  | .trailing path n => s!"{path}: {n} trailing byte(s) past the last whole sector are ignored"
  | .created path size => s!"created {path} ({size.toNat} zero bytes)"
  | .listed n => s!"{n} manifest entries"
  | .sourcesUnder root => s!"sources under {root}"
  | .skippedInAll n => s!"{n} manifest entries skipped"
  | .nextCluster cluster => s!"next free cluster {cluster.toNat}"
  | .failed message => message

/-- A notice on a line of its own: the severity in a column of five, for the two least severe kinds
the topic in brackets, and the words. -/
def line (n : Notice) : String :=
  let topic := if n.severity.rank < Severity.debug.rank then "" else s!"[{n.topic}] "
  String.ofList (n.severity.label.toList.rightpad 5 ' ') ++ " " ++ topic ++ n.text ++ "\n"

end Notice

end FatImage
