import TreeOutline.CommandLine.Workbench
import TreeOutline.Files.Watch
import TreeOutline.Main
import TreeOutline.Screen.Draw
import TreeOutline.Workbench.Commands
import TreeOutline.Proofs.Outline.Flags
import TreeOutline.Proofs.Outline.View
import TreeOutline.Proofs.Outline.Pass
import TreeOutline.Proofs.Outline.Keys
import TreeOutline.Proofs.Outline.Toggle
import TreeOutline.Proofs.Outline.Complete
import TreeOutline.Proofs.Workbench.Run
import TreeOutline.Proofs.Workbench.Rows
import TreeOutline.Proofs.Workbench.LastGood
import TreeOutline.Proofs.Workbench.Timers
import TreeOutline.Proofs.Workbench.Variants
import TreeOutline.Proofs.Value.Reading
import TreeOutline.Proofs.Workbench.KindNames
import TreeOutline.Proofs.Workbench.Application
import TreeOutline.Proofs.Workbench.Cursor
import TreeOutline.Proofs.Text.Search
import TreeOutline.Proofs.Screen.Highlight
import TreeOutline.Proofs.Files.Interleaving
import TreeOutline.Proofs.Outline.Wider
import TreeOutline.Proofs.Outline.Nesting
import TreeOutline.Proofs.Outline.Permissive
import TreeOutline.Proofs.Outline.Faithful
import TreeOutline.Proofs.Outline.Marks
import TreeOutline.Proofs.CommandLine.Agreement
import TreeOutline.Proofs.Workbench.ActiveKind
import TreeOutline.Proofs.Text.Bytes
import TreeOutline.Proofs.Workbench.ActiveMarks
import TreeOutline.Proofs.Workbench.Offsets
import TreeOutline.Proofs.Workbench.Fallback
import TreeOutline.Proofs.Outline.Text
import TreeOutline.Proofs.Files.Polling
import TreeOutline.Proofs.Workbench.Frame
import TreeOutline.Proofs.Outline.Mount
import TreeOutline.Proofs.Outline.Below
import TreeOutline.Proofs.Screen.InView
import TreeOutline.Proofs.Outline.Snapshot
import TreeOutline.Proofs.Settings.Precedence
import TreeOutline.Proofs.Shell.Encoding
