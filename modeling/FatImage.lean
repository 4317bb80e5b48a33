import FatImage.Device.Memory
import FatImage.Device.Refusing
import FatImage.Main
import FatImage.Proofs.Backed
import FatImage.Proofs.Overwrite
import FatImage.Proofs.Scratch
import FatImage.Proofs.Ranges
import FatImage.Proofs.Geometry
import FatImage.Proofs.Picture
import FatImage.Proofs.OnDisk
import FatImage.Proofs.Mount
import FatImage.Proofs.Directory
import FatImage.Proofs.Walk
import FatImage.Proofs.Chain
import FatImage.Proofs.Place
import FatImage.Proofs.Run
import FatImage.Proofs.Fill
import FatImage.Proofs.Calls
import FatImage.Proofs.Crash
import FatImage.Proofs.Session
import FatImage.Proofs.WellLinked
import FatImage.Proofs.Outcome
import FatImage.Proofs.Alike
import FatImage.Proofs.Traffic
import FatImage.Proofs.Contained
import FatImage.Proofs.FailStop
import FatImage.Proofs.Skipping
import FatImage.Proofs.Flat
import FatImage.Proofs.FileDisk
import FatImage.Proofs.Grammar
import FatImage.Proofs.Stale
import FatImage.Proofs.Paths
import FatImage.Proofs.HalfReset
import FatImage.Proofs.Distinct
import FatImage.Proofs.Frame
import FatImage.Proofs.NoText
import FatImage.Proofs.OnFile
import FatImage.Proofs.Repeat
import FatImage.Proofs.Rerun
import FatImage.Proofs.UpFront
import FatImage.Proofs.Slots
import FatImage.Proofs.Search
import FatImage.Proofs.Reset
import FatImage.Proofs.AllOrNothing
import FatImage.Proofs.Trail
import FatImage.Proofs.Linking
import FatImage.Proofs.Cycle
import FatImage.Proofs.Astray
import FatImage.Proofs.Names
import FatImage.Proofs.Spelling
import FatImage.Proofs.Longest
import FatImage.Proofs.CommandLine
import FatImage.Proofs.Words
import FatImage.Proofs.Tiling
import FatImage.Proofs.Larger
import FatImage.Proofs.Uncut
import FatImage.Proofs.Events
import FatImage.Proofs.Passage
