import PanelConfig.Database.DataSource
import PanelConfig.Json.Reader
import PanelConfig.Main
import PanelConfig.Session
import PanelConfig.Value.Leaf
import PanelConfig.Proofs.Disk.Copying
import PanelConfig.Proofs.Disk.Reach
import PanelConfig.Proofs.Migration
import PanelConfig.Proofs.Session
import PanelConfig.Proofs.Startup
import PanelConfig.Proofs.Preservation
import PanelConfig.Proofs.Destination
import PanelConfig.Proofs.Environment
import PanelConfig.Proofs.Secrecy
import PanelConfig.Proofs.Disk.Faults
import PanelConfig.Proofs.Interruption
import PanelConfig.Proofs.Json.Escape
import PanelConfig.Proofs.Json.Reading
import PanelConfig.Proofs.Json.Plain
import PanelConfig.Proofs.CommandLine
import PanelConfig.Proofs.Reports
import PanelConfig.Proofs.RunOptions
import PanelConfig.Proofs.Endings
import PanelConfig.Proofs.InEffect
import PanelConfig.Proofs.Threshold
import PanelConfig.Proofs.Surroundings
import PanelConfig.Proofs.Outcome
import PanelConfig.Proofs.Containment
import PanelConfig.Proofs.Isolation
import PanelConfig.Proofs.Confinement
import PanelConfig.Proofs.Exactness
import PanelConfig.Proofs.Validation
import PanelConfig.Proofs.DataSource
import PanelConfig.Proofs.Text.LowerCase
import PanelConfig.Proofs.Recognition
import PanelConfig.Proofs.Text.Search
import PanelConfig.Proofs.ThrowawayFolder
import PanelConfig.Proofs.BaseFolder
import PanelConfig.Proofs.Text.Lowered
import PanelConfig.Proofs.ReadAlike
import PanelConfig.Proofs.WrittenBack
import PanelConfig.Proofs.EmptyVariables
import PanelConfig.Proofs.LevelWarning
import PanelConfig.Proofs.Lines
