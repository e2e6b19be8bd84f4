import NestedGroups.Console.FileTree
import NestedGroups.Directory
import NestedGroups.Main
import NestedGroups.Proofs.AmpleDepth
import NestedGroups.Proofs.ConnectionGate
import NestedGroups.Proofs.Containment
import NestedGroups.Proofs.DepthComparison
import NestedGroups.Proofs.EntryOrder
import NestedGroups.Proofs.ExtraAttributes
import NestedGroups.Proofs.FilterShape
import NestedGroups.Proofs.FirstValue
import NestedGroups.Proofs.GroupAssignments
import NestedGroups.Proofs.Indifference
import NestedGroups.Proofs.Inquiries
import NestedGroups.Proofs.Interleaving
import NestedGroups.Proofs.Partition
import NestedGroups.Proofs.Placeholders
import NestedGroups.Proofs.QuietLines
import NestedGroups.Proofs.Repeats
import NestedGroups.Proofs.Reporting
import NestedGroups.Proofs.Secrecy
import NestedGroups.Proofs.SettingUp
import NestedGroups.Proofs.TemplateGrammar
import NestedGroups.Proofs.Workload
